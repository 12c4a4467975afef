import BrowserLab.Number.Shortest

/-!
# Numbers as text

The texts of a `Float` that use the fewest digits that read back: positional text of any length,
what a script shows, and the text of a number in a document, which turns to an exponent when the
number is very large or very small.
-/

namespace BrowserLab.Number

/-- Decimal digits of a natural number. -/
def digitChars (n : Nat) : List Char := Nat.toDigits 10 n

/-- Decimal digits of an integer, with a sign if it is negative. -/
def intText (i : Int) : String :=
  if i < 0 then "-" ++ String.ofList (digitChars i.natAbs) else String.ofList (digitChars i.natAbs)

/-- At least so many digits in base 16, in capital letters. -/
def hexChars (width n : Nat) : List Char :=
  let ds := (Nat.toDigits 16 n).map Char.toUpper
  List.replicate (width - ds.length) '0' ++ ds

/-- Digits with a point `places` from the right; zeros fill up what is missing before it. -/
def placePoint (ds : List Char) (places : Nat) : List Char :=
  if places = 0 then ds
  else
    let ds := List.replicate (places + 1 - ds.length) '0' ++ ds
    ds.take (ds.length - places) ++ '.' :: ds.drop (ds.length - places)

/-- A decimal number without an exponent. -/
def Decimal.positional (d : Decimal) : List Char :=
  if d.exponent < 0 then placePoint (digitChars d.digits) (-d.exponent).toNat
  else if d.digits = 0 then ['0']
  else digitChars d.digits ++ List.replicate d.exponent.toNat '0'

/-- The sign and digits of a finite number. -/
def withSign (negative : Bool) (text : List Char) : String :=
  String.ofList (if negative then '-' :: text else text)

/-- Positional text: never an exponent, no point behind a whole number. -/
def plain (x : Float) : String :=
  match shape x with
  | .nan => "NaN"
  | .infinite negative => if negative then "-inf" else "inf"
  | .finite p => withSign p.negative p.shortest.positional

/-- Is the number whole and its size below `bound`? -/
def wholeBelow (bound : Nat) (x : Float) : Bool :=
  match shape x with
  | .finite p => p.integral && p.whole < bound
  | _ => false

/-- What a script shows for a number: whole numbers below `10 ^ 21` pass through 64-bit integers,
which clamp. -/
def display (x : Float) : String :=
  match shape x with
  | .nan => "NaN"
  | .infinite negative => if negative then "-Infinity" else "Infinity"
  | .finite _ => if wholeBelow (Nat.pow 10 21) x then intText (toInt64 x) else plain x

/-- The property that a number literal names as a key. -/
def keyText (x : Float) : String :=
  if wholeBelow (Nat.pow 10 15) x then intText (toInt64 x) else plain x

/-- How a document writes numbers that are not integers. -/
structure RealFormat where
  /-- Is a `+` written before an exponent that is not negative? -/
  plusSign : Bool

/-- A decimal number whose first digit stands for `10 ^ e`: positional for `-5 ≤ e < 16` and then
with at least one digit behind the point, otherwise with an exponent. -/
def RealFormat.decimal (format : RealFormat) (d : Decimal) : List Char :=
  let ds := digitChars d.digits
  if d.digits = 0 then ['0', '.', '0']
  else
    let e : Int := d.exponent + ds.length - 1
    if -5 ≤ e && e < 16 then
      if 0 ≤ d.exponent then d.positional ++ ['.', '0'] else d.positional
    else
      let mantissa :=
        match ds with
        | [] => []
        | [c] => [c]
        | c :: rest => c :: '.' :: rest
      let sign := if e < 0 then ['-'] else if format.plusSign then ['+'] else []
      mantissa ++ 'e' :: sign ++ digitChars e.natAbs

/-- The text of a finite number. -/
def RealFormat.text (format : RealFormat) (x : Float) : String :=
  match shape x with
  | .finite p => withSign p.negative (format.decimal p.shortest)
  | _ => "null"

end BrowserLab.Number
