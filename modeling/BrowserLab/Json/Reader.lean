import BrowserLab.Json.Basic

/-!
# Reading JSON

The reader takes a text apart from the left and knows at every moment the line it is in and how
many bytes of that line it has passed.  What it cannot accept it names, with a place: either where
the reader stands, or one byte further, behind the byte that gave offence.
-/

namespace BrowserLab.Json

/-- Why a text is not JSON. -/
inductive Cause where
  | openList
  | openObject
  | openString
  | openValue
  | expectedColon
  | expectedListEnd
  | expectedObjectEnd
  | expectedWord
  | expectedValue
  | badEscape
  | badNumber
  | numberTooLarge
  | controlCharacter
  | keyNotText
  | loneSurrogate
  | trailingComma
  | trailingText
  | cutEscape
  | tooDeep
  deriving DecidableEq, Repr

def Cause.message : Cause → String
  | .openList => "EOF while parsing a list"
  | .openObject => "EOF while parsing an object"
  | .openString => "EOF while parsing a string"
  | .openValue => "EOF while parsing a value"
  | .expectedColon => "expected `:`"
  | .expectedListEnd => "expected `,` or `]`"
  | .expectedObjectEnd => "expected `,` or `\x7d`"
  | .expectedWord => "expected ident"
  | .expectedValue => "expected value"
  | .badEscape => "invalid escape"
  | .badNumber => "invalid number"
  | .numberTooLarge => "number out of range"
  | .controlCharacter => "control character (\\u0000-\\u001F) found while parsing a string"
  | .keyNotText => "key must be a string"
  | .loneSurrogate => "lone leading surrogate in hex escape"
  | .trailingComma => "trailing comma"
  | .trailingText => "trailing characters"
  | .cutEscape => "unexpected end of hex escape"
  | .tooDeep => "recursion limit exceeded"

/-- A cause and where it was found. -/
structure Fault where
  cause : Cause
  line : Nat
  column : Nat
  deriving DecidableEq, Repr

def Fault.message (f : Fault) : String :=
  f.cause.message ++ " at line " ++ toString f.line ++ " column " ++ toString f.column

/-- What is left of the text, and where it begins. -/
structure Cursor where
  rest : List Char
  line : Nat
  column : Nat

/-- What a reading step gives: a result and where to go on. -/
abbrev Reading (α : Type) := Except Fault (α × Cursor)

namespace Cursor

/-- The beginning of a text. -/
def start (cs : List Char) : Cursor := ⟨cs, 1, 0⟩

/-- A fault where the reader stands. -/
def fail {α : Type} (c : Cursor) (cause : Cause) : Except Fault α :=
  .error ⟨cause, c.line, c.column⟩

/-- A fault behind the next byte. -/
def failNext {α : Type} (c : Cursor) (cause : Cause) : Except Fault α :=
  match c.rest with
  | [] => c.fail cause
  | '\n' :: _ => .error ⟨cause, c.line + 1, 0⟩
  | _ => .error ⟨cause, c.line, c.column + 1⟩

/-- Behind the next character, when `rest` follows it. -/
def past (c : Cursor) (next : Char) (rest : List Char) : Cursor :=
  if next = '\n' then ⟨rest, c.line + 1, 0⟩ else ⟨rest, c.line, c.column + next.utf8Size⟩

/-- Behind the blanks. -/
def skipBlanks (c : Cursor) : Cursor :=
  go c.line c.column c.rest
where
  go (line column : Nat) : List Char → Cursor
    | ' ' :: rest => go line (column + 1) rest
    | '\t' :: rest => go line (column + 1) rest
    | '\r' :: rest => go line (column + 1) rest
    | '\n' :: rest => go (line + 1) 0 rest
    | rest => ⟨rest, line, column⟩

/-- Behind the digits, and the digits. -/
def digits (c : Cursor) : List Char × Cursor :=
  let (ds, rest) := c.rest.span Char.isDigit
  (ds, ⟨rest, c.line, c.column + ds.length⟩)

end Cursor

namespace Reader

/-- The significand of a number never exceeds 64 bits: digits that would make it larger, and all
after them, are passed over.  The result is the significand and how many digits it took. -/
def significand (start : Nat) (ds : List Char) : Nat × Nat :=
  match ds with
  | [] => (start, 0)
  | d :: rest =>
    let next := 10 * start + Number.digitValue d
    if next < Nat.pow 2 64 then
      let (n, count) := significand next rest
      (n, count + 1)
    else (start, 0)

/-- The power of ten that a number is scaled by at most in one step. -/
def scaleLimit : Nat := 308

/-- `10 ^ n` as a `Float`. -/
def powerOfTen (n : Nat) : Float := Float.ofScientific 1 false n

/-- Divides by powers of ten one after the other; `steps` bounds their number. -/
def scaleDown (x : Float) (n : Nat) : Nat → Float
  | 0 => x
  | steps + 1 =>
    if n ≤ scaleLimit then x / powerOfTen n
    else if x == 0.0 then x
    else scaleDown (x / powerOfTen scaleLimit) (n - scaleLimit) steps

/-- `significand * 10 ^ exponent`, scaled in floating point; nothing when it is too large. -/
def scaled? (significand : Nat) (exponent : Int) : Option Float :=
  let x := Float.ofNat significand
  if exponent < 0 then some (scaleDown x exponent.natAbs 4)
  else if x == 0.0 && scaleLimit < exponent then some x
  else if scaleLimit < exponent then none
  else
    let y := x * powerOfTen exponent.toNat
    if y.isInf then none else some y

/-- A number that is not an integer, once its parts are known. -/
def real (negative : Bool) (significand : Nat) (exponent : Int) (c : Cursor) : Reading Json :=
  match scaled? significand exponent with
  | some x => .ok (.real (if negative then -x else x), c)
  | none => c.fail .numberTooLarge

/-- The exponent behind its letter. -/
def exponent (negative : Bool) (significand : Nat) (before : Int) (c : Cursor) : Reading Json :=
  let (down, c) :=
    match c.rest with
    | '+' :: rest => (false, c.past '+' rest)
    | '-' :: rest => (true, c.past '-' rest)
    | _ => (false, c)
  match c.rest with
  | [] => c.fail .openValue
  | d :: _ =>
    if !d.isDigit then c.failNext .badNumber
    else
      let (ds, after) := c.digits
      let size := Number.ofDigits ds
      if size < Nat.pow 2 31 then
        let total := if down then before - size else before + size
        real negative significand total after
      else if significand ≠ 0 && !down then
        let passed := exceeding 0 0 ds
        (⟨[], c.line, c.column + passed⟩ : Cursor).fail .numberTooLarge
      else .ok (.real (if negative then -0.0 else 0.0), after)
where
  /-- How many digits are passed when the exponent first exceeds 32 bits. -/
  exceeding (size count : Nat) : List Char → Nat
    | [] => count
    | d :: rest =>
      let size := 10 * size + Number.digitValue d
      if size < Nat.pow 2 31 then exceeding size (count + 1) rest else count + 1

/-- What follows the digits before the point, of which `dropped` are not in the significand. -/
def fraction (negative : Bool) (whole : Nat) (dropped : Nat) (c : Cursor) : Reading Json :=
  match c.rest with
  | '.' :: rest =>
    let (ds, after) := (c.past '.' rest).digits
    if ds.isEmpty then
      match after.rest with
      | [] => after.fail .openValue
      | _ => after.failNext .badNumber
    else
      let (n, count) := significand whole ds
      finish n (dropped - count) after
  | _ => finish whole dropped c
where
  finish (n : Nat) (e : Int) (c : Cursor) : Reading Json :=
    match c.rest with
    | 'e' :: rest => exponent negative n e (c.past 'e' rest)
    | 'E' :: rest => exponent negative n e (c.past 'E' rest)
    | _ => real negative n e c

/-- An integer, if nothing follows its digits that makes it another number. -/
def wholeNumber (negative : Bool) (n : Nat) (c : Cursor) : Reading Json :=
  match c.rest with
  | '.' :: _ => fraction negative n 0 c
  | 'e' :: _ => fraction negative n 0 c
  | 'E' :: _ => fraction negative n 0 c
  | _ =>
    if !negative then .ok (.int n, c)
    else if n = 0 || Nat.pow 2 63 < n then .ok (.real (-Float.ofNat n), c)
    else .ok (.int (-n), c)

/-- A number without its sign. -/
def number (negative : Bool) (c : Cursor) : Reading Json :=
  match c.rest with
  | [] => c.fail .openValue
  | '0' :: rest =>
    let c := c.past '0' rest
    match c.rest with
    | d :: _ => if d.isDigit then c.failNext .badNumber else wholeNumber negative 0 c
    | [] => wholeNumber negative 0 c
  | d :: _ =>
    if !d.isDigit then c.failNext .badNumber
    else
      let (ds, after) := c.digits
      let (n, count) := significand 0 ds
      if count = ds.length then wholeNumber negative n after
      else fraction negative n (ds.length - count) after

/-- The value of a digit in base 16. -/
def hexValue? (c : Char) : Option Nat :=
  if c.isDigit then some (c.toNat - 48)
  else if 'a' ≤ c && c ≤ 'f' then some (c.toNat - 87)
  else if 'A' ≤ c && c ≤ 'F' then some (c.toNat - 55)
  else none

/-- Behind the next `n` bytes, of a character perhaps only a part. -/
def passBytes (line column n : Nat) : List Char → Cursor
  | [] => ⟨[], line, column⟩
  | d :: rest =>
    if n = 0 then ⟨d :: rest, line, column⟩
    else if n < d.utf8Size then ⟨rest, line, column + n⟩
    else if d = '\n' then passBytes (line + 1) 0 (n - 1) rest
    else passBytes line (column + d.utf8Size) (n - d.utf8Size) rest

/-- The number of four digits in base 16. -/
def hexEscape (c : Cursor) : Reading Nat :=
  let after := passBytes c.line c.column 4 c.rest
  if (c.rest.take 4).foldl (fun n d => n + d.utf8Size) 0 < 4 then after.fail .openString
  else
    match c.rest with
    | a :: b :: d :: e :: rest =>
      match hexValue? a, hexValue? b, hexValue? d, hexValue? e with
      | some a, some b, some d, some e =>
        .ok (((a * 16 + b) * 16 + d) * 16 + e, ⟨rest, c.line, c.column + 4⟩)
      | _, _, _, _ => after.fail .badEscape
    | _ => after.fail .badEscape

/-- The second half of a pair of surrogates, which must follow the first half. -/
def lowSurrogate (high : Nat) (c : Cursor) : Reading Char :=
  match c.rest with
  | [] => c.fail .openString
  | '\\' :: rest =>
    let c := c.past '\\' rest
    match c.rest with
    | [] => c.fail .openString
    | 'u' :: rest =>
      match hexEscape (c.past 'u' rest) with
      | .error f => .error f
      | .ok (low, c) =>
        if low < 0xdc00 || 0xdfff < low then c.fail .loneSurrogate
        else .ok (Char.ofNat (0x10000 + (high - 0xd800) * 0x400 + (low - 0xdc00)), c)
    | _ => c.failNext .cutEscape
  | _ => c.failNext .cutEscape

/-- The character that an escape stands for; the cursor is behind the backslash. -/
def escape (c : Cursor) : Reading Char :=
  match c.rest with
  | [] => c.fail .openString
  | d :: rest =>
    let after := c.past d rest
    if d = '"' || d = '\\' || d = '/' then .ok (d, after)
    else if d = 'b' then .ok (Char.ofNat 8, after)
    else if d = 'f' then .ok (Char.ofNat 12, after)
    else if d = 'n' then .ok ('\n', after)
    else if d = 'r' then .ok ('\r', after)
    else if d = 't' then .ok ('\t', after)
    else if d = 'u' then
      match hexEscape after with
      | .error f => .error f
      | .ok (n, c) =>
        if 0xdc00 ≤ n && n ≤ 0xdfff then c.fail .loneSurrogate
        else if n < 0xd800 || 0xdbff < n then .ok (Char.ofNat n, c)
        else lowSurrogate n c
    else c.failNext .badEscape

/-- The characters up to the closing quote; `done` holds those read, last first.  Every character
takes a step, so more than the length of the text is fuel enough. -/
def string (fuel : Nat) (done : List Char) (c : Cursor) : Reading String :=
  match fuel with
  | 0 => c.fail .openString
  | fuel + 1 =>
    match c.rest with
    | [] => c.fail .openString
    | d :: rest =>
      let after := c.past d rest
      if d = '"' then .ok (String.ofList done.reverse, after)
      else if d = '\\' then
        match escape after with
        | .error f => .error f
        | .ok (e, c) => string fuel (e :: done) c
      else if d.toNat < 32 then c.failNext .controlCharacter
      else string fuel (d :: done) after

/-- The rest of a word of which the first letter has been seen. -/
def word (result : Json) (letters : List Char) (c : Cursor) : Reading Json :=
  match letters with
  | [] => .ok (result, c)
  | l :: letters =>
    match c.rest with
    | [] => c.fail .openValue
    | d :: rest => if d = l then word result letters (c.past d rest) else c.failNext .expectedWord

/-- The items of an array behind its bracket, read by `item`; `done` holds those read, last
first. -/
def items (item : Cursor → Reading Json) (fuel : Nat) (done : List Json) (c : Cursor) :
    Reading Json :=
  match fuel with
  | 0 => c.fail .openList
  | fuel + 1 =>
    let c := c.skipBlanks
    match c.rest with
    | [] => c.fail .openList
    | ']' :: rest => .ok (.arr done.reverse, c.past ']' rest)
    | d :: rest =>
      if done.isEmpty then
        match item c with
        | .error f => .error f
        | .ok (j, c) => items item fuel [j] c
      else if d = ',' then
        let c := (c.past ',' rest).skipBlanks
        match c.rest with
        | [] => c.fail .openValue
        | ']' :: _ => c.failNext .trailingComma
        | _ =>
          match item c with
          | .error f => .error f
          | .ok (j, c) => items item fuel (j :: done) c
      else c.failNext .expectedListEnd

/-- A key, a colon and a value, the cursor being behind the key's opening quote. -/
def member (item : Cursor → Reading Json) (fuel : Nat) (c : Cursor) : Reading (String × Json) :=
  match string fuel [] c with
  | .error f => .error f
  | .ok (key, c) =>
    let c := c.skipBlanks
    match c.rest with
    | [] => c.fail .openObject
    | ':' :: rest =>
      match item (c.past ':' rest) with
      | .error f => .error f
      | .ok (j, c) => .ok ((key, j), c)
    | _ => c.failNext .expectedColon

/-- The members of an object behind its brace, in the order of the text. -/
def members (item : Cursor → Reading Json) (fuel : Nat) (done : List (String × Json))
    (c : Cursor) : Reading Json :=
  match fuel with
  | 0 => c.fail .openObject
  | fuel + 1 =>
    let c := c.skipBlanks
    match c.rest with
    | [] => c.fail .openObject
    | '\x7d' :: rest => .ok (.obj done.reverse, c.past '\x7d' rest)
    | d :: rest =>
      if done.isEmpty then
        if d = '"' then
          match member item fuel (c.past d rest) with
          | .error f => .error f
          | .ok (m, c) => members item fuel [m] c
        else c.failNext .keyNotText
      else if d = ',' then
        let c := (c.past ',' rest).skipBlanks
        match c.rest with
        | [] => c.fail .openValue
        | '"' :: rest =>
          match member item fuel (c.past '"' rest) with
          | .error f => .error f
          | .ok (m, c) => members item fuel (m :: done) c
        | '\x7d' :: _ => c.failNext .trailingComma
        | _ => c.failNext .keyNotText
      else c.failNext .expectedObjectEnd

/-- A value after blanks.  `depth` is one more than how deep arrays and objects may still nest. -/
def value (fuel depth : Nat) (c : Cursor) : Reading Json :=
  let c := c.skipBlanks
  match c.rest with
  | [] => c.fail .openValue
  | d :: rest =>
    let after := c.past d rest
    if d = 'n' then word .null ['u', 'l', 'l'] after
    else if d = 't' then word (.bool true) ['r', 'u', 'e'] after
    else if d = 'f' then word (.bool false) ['a', 'l', 's', 'e'] after
    else if d = '-' then number true after
    else if d.isDigit then number false c
    else if d = '"' then
      match string fuel [] after with
      | .error f => .error f
      | .ok (s, c) => .ok (.str s, c)
    else if d = '[' || d = '\x7b' then
      match depth with
      | 0 => c.failNext .tooDeep
      | 1 => c.failNext .tooDeep
      | depth + 1 =>
        if d = '[' then items (value fuel depth) fuel [] after
        else members (value fuel depth) fuel [] after
    else c.failNext .expectedValue

end Reader

/-- The value of a text, its objects with all members in the order of the text. -/
def readRaw (s : String) : Except Fault Json :=
  let cs := s.toList
  match Reader.value (cs.length + 1) 128 (.start cs) with
  | .error f => .error f
  | .ok (j, c) =>
    let c := c.skipBlanks
    match c.rest with
    | [] => .ok j
    | _ => c.failNext .trailingText

/-- The value of a text. -/
def read (s : String) : Except Fault Json := (readRaw s).map sorted

end BrowserLab.Json
