import BrowserLab.Number.Text

/-!
# Reading numbers

A decimal literal is an optional sign, digits with at most one point among or beside them, and an
optional exponent.  It stands for the `Float` nearest to its exact value.
-/

namespace BrowserLab.Number

/-- The value of a decimal digit. -/
def digitValue (c : Char) : Nat := c.toNat - '0'.toNat

/-- The number that digits write. -/
def ofDigits (ds : List Char) : Nat := ds.foldl (fun n c => 10 * n + digitValue c) 0

/-- The `Float` nearest to `digits * 10 ^ exponent`.  What is beyond all floats is cut off first,
so that the powers of ten stay small. -/
def nearest (digits : Nat) (exponent : Int) : Float :=
  if digits = 0 then 0.0
  else
    let size : Int := (digitChars digits).length + exponent
    if 310 < size then infinity
    else if size < -330 then 0.0
    else Float.ofScientific digits (exponent < 0) exponent.natAbs

/-- Splits off the digits at the beginning. -/
def spanDigits (cs : List Char) : List Char × List Char := cs.span Char.isDigit

/-- An exponent behind its letter: an optional sign and at least one digit, then the end. -/
def exponent? (cs : List Char) : Option Int :=
  let (negative, ds) :=
    match cs with
    | '-' :: rest => (true, rest)
    | '+' :: rest => (false, rest)
    | _ => (false, cs)
  if ds.isEmpty || !ds.all Char.isDigit then none
  else some (if negative then -(ofDigits ds : Int) else ofDigits ds)

/-- A decimal literal without its sign. -/
def unsigned? (cs : List Char) : Option Float :=
  let (before, rest) := spanDigits cs
  let (after, rest) :=
    match rest with
    | '.' :: rest => spanDigits rest
    | _ => ([], rest)
  if before.isEmpty && after.isEmpty then none
  else
    let digits := ofDigits (before ++ after)
    match rest with
    | [] => some (nearest digits (-after.length))
    | c :: rest =>
      if c = 'e' || c = 'E' then
        (exponent? rest).map fun e => nearest digits (e - after.length)
      else none

/-- Names of numbers without digits, in letters of any case. -/
def named? (cs : List Char) : Option Float :=
  match String.ofList (cs.map Char.toLower) with
  | "inf" | "infinity" => some infinity
  | "nan" => some nan
  | _ => none

/-- The number that a text stands for, if it is a number from its first to its last character. -/
def read? (s : String) : Option Float :=
  let (negative, cs) :=
    match s.toList with
    | '-' :: rest => (true, rest)
    | '+' :: rest => (false, rest)
    | cs => (false, cs)
  let size :=
    match named? cs with
    | some x => some x
    | none => unsigned? cs
  size.map fun x => if negative then -x else x

/-- The natural number below `bound` that a text stands for; a `+` may stand before it. -/
def readNat? (bound : Nat) (s : String) : Option Nat :=
  let ds :=
    match s.toList with
    | '+' :: rest => rest
    | cs => cs
  if ds.isEmpty || !ds.all Char.isDigit then none
  else
    let n := ofDigits ds
    if n < bound then some n else none

/-- The position that a text stands for, if it stands for one. -/
def readIndex? (s : String) : Option Nat := readNat? (Nat.pow 2 64) s

/-- The value of a digit in a base up to 36, letters in any case. -/
def digitIn? (base : Nat) (c : Char) : Option Nat :=
  let n :=
    if c.isDigit then c.toNat - '0'.toNat
    else if c.isAlpha then c.toLower.toNat - 'a'.toNat + 10
    else base
  if n < base then some n else none

/-- The natural number that digits of a base write; there is at least one. -/
def ofDigitsIn? (base : Nat) (ds : List Char) : Option Nat :=
  if ds.isEmpty then none
  else (ds.mapM (digitIn? base)).map fun values => values.foldl (fun n d => base * n + d) 0

end BrowserLab.Number

namespace BrowserLab

/-- Natural numbers of 64 bits are below this bound. -/
def wordBound : Nat := Nat.pow 2 64

end BrowserLab
