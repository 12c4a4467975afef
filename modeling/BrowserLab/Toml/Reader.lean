import BrowserLab.Text.Search
import BrowserLab.Toml.Value

/-!
# Reading TOML

A document is a sequence of lines: entries, headers that say to which table the entries that follow
belong, and comments.  A value ends where its characters end; only text, lists and tables have marks
at both ends.
-/

namespace BrowserLab.Toml

/-- Reads something from the beginning of a text. -/
abbrev Reading (α : Type) := StateT (List Char) Option α

namespace Reading

def fail {α : Type} : Reading α := fun _ => none

/-- Do the characters come next? -/
def next? (mark : String) : Reading Bool := do
  return mark.toList.isPrefixOf (← get)

/-- Passes over the characters if they come next. -/
def skip? (mark : String) : Reading Bool := do
  let found ← next? mark
  if found then modify (·.drop mark.length)
  return found

/-- Passes over the characters, which must come next. -/
def expect (mark : String) : Reading Unit := do
  unless ← skip? mark do fail

/-- The characters up to the first that is not of the kind. -/
def takeWhile (kind : Char → Bool) : Reading (List Char) :=
  modifyGet fun cs => (cs.takeWhile kind, cs.dropWhile kind)

/-- The next characters, of which there must be enough. -/
def take (count : Nat) : Reading (List Char) := do
  let cs ← get
  if cs.length < count then fail
  modifyGet fun cs => (cs.take count, cs.drop count)

/-- Passes over blanks. -/
def skipBlanks : Reading Unit := do
  let _ ← takeWhile fun c => c = ' ' || c = '\t'

/-- May the character stand in text and comments as it is? -/
def isPlain (c : Char) : Bool := c = '\t' || (' ' ≤ c && c ≠ '\x7f')

/-- Passes over a line break, if one comes next. -/
def newline? : Reading Bool := do
  if ← skip? "\n" then return true
  skip? "\r\n"

/-- Passes over a comment, if one comes next. -/
def skipComment : Reading Unit := do
  if ← next? "#" then
    let _ ← takeWhile isPlain

/-- Passes over the rest of a line, which may hold a comment. -/
def endLine : Reading Unit := do
  skipBlanks
  skipComment
  unless (← get).isEmpty do
    unless ← newline? do fail

/-- Passes over blanks and line breaks. -/
def skipBreaks : Nat → Reading Unit
  | 0 => return ()
  | fuel + 1 => do
    skipBlanks
    if ← newline? then skipBreaks fuel

/-- Passes over blanks, comments and line breaks. -/
def skipGaps : Nat → Reading Unit
  | 0 => return ()
  | fuel + 1 => do
    skipBlanks
    skipComment
    if ← newline? then skipGaps fuel

/-- A number of so many digits in base 16, as a character. -/
def codePoint (digits : Nat) : Reading Char := do
  match Number.ofDigitsIn? 16 (← take digits) with
  | some n => if n.isValidChar then return Char.ofNat n else fail
  | none => fail

/-- What an escape stands for, behind its backslash. -/
def escape : Reading Char := do
  match ← take 1 with
  | ['b'] => return '\x08'
  | ['t'] => return '\t'
  | ['n'] => return '\n'
  | ['f'] => return '\x0c'
  | ['r'] => return '\r'
  | ['"'] => return '"'
  | ['\\'] => return '\\'
  | ['u'] => codePoint 4
  | ['U'] => codePoint 8
  | _ => fail

/-- The rest of a text in double quotes on one line; `done` holds its beginning, last character
first. -/
def basicText : Nat → List Char → Reading String
  | 0, _ => fail
  | fuel + 1, done => do
    match ← take 1 with
    | ['"'] => return String.ofList done.reverse
    | ['\\'] => do
      let c ← escape
      basicText fuel (c :: done)
    | [c] => if isPlain c then basicText fuel (c :: done) else fail
    | _ => fail

/-- The rest of a text in single quotes on one line. -/
def literalText : Reading String := do
  let cs ← takeWhile fun c => isPlain c && c ≠ '\''
  expect "'"
  return String.ofList cs

/-- The quotes that come next in a text of several lines, and whether they end it: three of them
do, and up to two before those belong to the text. -/
def quotes (mark : Char) : Reading (Nat × Bool) := do
  let run ← takeWhile (· = mark)
  if run.length < 3 then return (run.length, false)
  else if run.length ≤ 5 then return (run.length - 3, true)
  else fail

/-- The rest of a text of several lines.  With escapes, a backslash at the end of a line takes away
the line break and all blanks and line breaks behind it. -/
def linesText (mark : Char) (escapes : Bool) : Nat → List Char → Reading String
  | 0, _ => fail
  | fuel + 1, done => do
    if ← next? mark.toString then
      let (count, ends) ← quotes mark
      let done := List.replicate count mark ++ done
      if ends then return String.ofList done.reverse else linesText mark escapes fuel done
    else if ← newline? then linesText mark escapes fuel ('\n' :: done)
    else
      match ← take 1 with
      | [c] =>
        if escapes && c = '\\' then
          let rest := (← get).dropWhile fun c => c = ' ' || c = '\t'
          if "\n".toList.isPrefixOf rest || "\r\n".toList.isPrefixOf rest then
            skipBreaks fuel
            linesText mark escapes fuel done
          else
            let e ← escape
            linesText mark escapes fuel (e :: done)
        else if isPlain c then linesText mark escapes fuel (c :: done)
        else fail
      | _ => fail

/-- A text in quotes that stand on one line. -/
def lineText : Reading String := do
  let size := (← get).length
  if ← skip? "\"" then basicText size [] else do
    expect "'"
    literalText

/-- A text in quotes of any kind. -/
def anyText : Reading String := do
  let size := (← get).length
  if ← skip? "\"\"\"" then
    let _ ← newline?
    linesText '"' true size []
  else if ← skip? "'''" then
    let _ ← newline?
    linesText '\'' false size []
  else lineText

/-- Can the character stand in a key without quotes? -/
def isKeyChar (c : Char) : Bool := c.isAlphanum || c = '-' || c = '_'

/-- A key without dots. -/
def simpleKey : Reading String := do
  if (← next? "\"") || (← next? "'") then lineText
  else
    let cs ← takeWhile isKeyChar
    if cs.isEmpty then fail else return String.ofList cs

/-- A key, whose parts are separated by dots. -/
def key : Nat → Reading (List String)
  | 0 => fail
  | fuel + 1 => do
    skipBlanks
    let part ← simpleKey
    skipBlanks
    if ← skip? "." then return part :: (← key fuel) else return [part]

end Reading

/-- The digits of a number, between two of which an underscore may stand. -/
def digits? (digit : Char → Bool) : List Char → Option (List Char)
  | [c] => if digit c then some [c] else none
  | c :: '_' :: rest => if digit c then (digits? digit rest).map (c :: ·) else none
  | c :: rest => if digit c then (digits? digit rest).map (c :: ·) else none
  | [] => none

/-- Decimal digits that do not begin with a zero, unless it is the only one. -/
def decimal? (cs : List Char) : Option (List Char) :=
  match digits? Char.isDigit cs with
  | some ('0' :: _ :: _) => none
  | other => other

/-- The sign and what follows it. -/
def splitSign : List Char → Bool × List Char
  | '-' :: rest => (true, rest)
  | '+' :: rest => (false, rest)
  | cs => (false, cs)

/-- A whole number in base 16, 8 or 2. -/
def basedInteger? (cs : List Char) : Option Nat :=
  let read (base : Nat) (ds : List Char) : Option Nat :=
    (digits? (fun c => (Number.digitIn? base c).isSome) ds).bind (Number.ofDigitsIn? base)
  match cs with
  | '0' :: 'x' :: ds => read 16 ds
  | '0' :: 'o' :: ds => read 8 ds
  | '0' :: 'b' :: ds => read 2 ds
  | _ => none

/-- A whole number of 64 bits. -/
def integer? (cs : List Char) : Option Int :=
  let value? : Option Int :=
    match basedInteger? cs with
    | some n => some n
    | none =>
      let (negative, ds) := splitSign cs
      (decimal? ds).map fun ds =>
        if negative then -(Number.ofDigits ds : Int) else Number.ofDigits ds
  value?.filter fun i => -(Nat.pow 2 63 : Int) ≤ i && i < (Nat.pow 2 63 : Int)

/-- Is it the exponent of a number, without its letter? -/
def isExponent (cs : List Char) : Bool := (digits? Char.isDigit (splitSign cs).2).isSome

/-- Is it a number with a point or an exponent, without its sign? -/
def isDecimalFraction (cs : List Char) : Bool :=
  let isE (c : Char) : Bool := c = 'e' || c = 'E'
  let mantissa := cs.takeWhile fun c => !isE c
  let exponent := (cs.dropWhile fun c => !isE c).drop 1
  let before := mantissa.takeWhile (· ≠ '.')
  let after := (mantissa.dropWhile (· ≠ '.')).drop 1
  (decimal? before).isSome && (mantissa.length < cs.length || mantissa.contains '.') &&
    (!mantissa.contains '.' || (digits? Char.isDigit after).isSome) &&
    (mantissa.length = cs.length || isExponent exponent)

/-- A number that is not whole, or is written as if it were not. -/
def real? (cs : List Char) : Option Float :=
  let (negative, rest) := splitSign cs
  match String.ofList rest with
  | "inf" => some (if negative then -Number.infinity else Number.infinity)
  | "nan" => some Number.nan
  | _ =>
    if isDecimalFraction rest then
      (Number.read? (String.ofList (cs.filter (· ≠ '_')))).filter (· != Number.infinity)
    else none

/-- How many days a month has. -/
def daysIn (year month : Nat) : Nat :=
  if month = 2 then
    if year % 4 = 0 && (year % 100 ≠ 0 || year % 400 = 0) then 29 else 28
  else if [4, 6, 9, 11].contains month then 30
  else 31

/-- A number of exactly so many decimal digits. -/
def counted? (count : Nat) (cs : List Char) : Option Nat :=
  if cs.length = count && cs.all Char.isDigit then some (Number.ofDigits cs) else none

/-- Is it a day of the calendar? -/
def isDate (cs : List Char) : Bool :=
  match Text.split ['-'] cs with
  | [y, m, d] =>
    match counted? 4 y, counted? 2 m, counted? 2 d with
    | some year, some month, some day =>
      1 ≤ month && month ≤ 12 && 1 ≤ day && day ≤ daysIn year month
    | _, _, _ => false
  | _ => false

/-- Is it a number of minutes, with its hours? -/
def isHourMinute (cs : List Char) : Bool :=
  match Text.split [':'] cs with
  | [h, m] => (counted? 2 h).any (· < 24) && (counted? 2 m).any (· < 60)
  | _ => false

/-- Is it a time of day? -/
def isTime (cs : List Char) : Bool :=
  let whole := cs.takeWhile (· ≠ '.')
  let fraction := cs.drop (whole.length + 1)
  isHourMinute (whole.take 5) && whole[5]? = some ':' &&
    (counted? 2 (whole.drop 6)).any (· ≤ 60) &&
    (whole.length = cs.length || (!fraction.isEmpty && fraction.all Char.isDigit))

/-- Is it a time of day, perhaps with its distance from universal time? -/
def isOffsetTime (cs : List Char) : Bool :=
  match cs.reverse with
  | 'Z' :: before => isTime before.reverse
  | 'z' :: before => isTime before.reverse
  | _ =>
    let time := cs.takeWhile fun c => c ≠ '+' && c ≠ '-'
    isTime time && (time.length = cs.length || isHourMinute (cs.drop (time.length + 1)))

/-- Is it a date, a time of day, or both? -/
def isMoment (cs : List Char) : Bool :=
  isDate cs || isTime cs ||
    (isDate (cs.take 10) && ['T', 't', ' '].contains (cs.getD 10 'x') &&
      isOffsetTime (cs.drop 11))

/-- The value that characters without marks write. -/
def bareValue? (cs : List Char) : Option Value :=
  match String.ofList cs with
  | "true" => some (.boolean true)
  | "false" => some (.boolean false)
  | word =>
    if isMoment cs then some (.moment word)
    else
      match integer? cs with
      | some i => some (.integer i)
      | none => (real? cs).map .real

namespace Reading

/-- Can the character belong to a value without marks? -/
def isBareChar (c : Char) : Bool := c.isAlphanum || "+-_.:".toList.contains c

/-- A value without marks.  A blank may stand between a date and a time. -/
def bare : Reading Value := do
  let word ← takeWhile isBareChar
  let rest ← get
  let word ←
    if isDate word && rest.head? = some ' ' && (rest.drop 1).head?.any Char.isDigit then do
      modify (·.drop 1)
      let time ← takeWhile isBareChar
      pure (word ++ ' ' :: time)
    else pure word
  match bareValue? word with
  | some v => return v
  | none => fail

/-- The rest of a list. -/
def items (item : Reading Value) : Nat → Reading (List Value)
  | 0 => fail
  | fuel + 1 => do
    skipGaps fuel
    if ← skip? "]" then return []
    let v ← item
    skipGaps fuel
    if ← skip? "," then return v :: (← items item fuel)
    expect "]"
    return [v]

/-- An entry: a key and its value. -/
def entry (item : Reading Value) : Reading (List String × Value) := do
  let keys ← key (← get).length
  expect "="
  skipBlanks
  return (keys, ← item)

/-- The rest of a table that is written as a value; something has to follow each comma. -/
def entries (item : Reading Value) : Nat → Value → Reading Value
  | 0, _ => fail
  | fuel + 1, t => do
    let (keys, v) ← entry item
    match t.putKey keys v with
    | none => fail
    | some t =>
      skipBlanks
      if ← skip? "," then entries item fuel t
      else
        expect "\x7d"
        return t.closed

/-- A value that nests less deep than given. -/
def value : Nat → Reading Value
  | 0 => fail
  | depth + 1 => do
    let size := (← get).length
    if (← next? "\"") || (← next? "'") then return .text (← anyText)
    else if ← skip? "[" then return .list (← items (value depth) size)
    else if ← skip? "\x7b" then
      skipBlanks
      if ← skip? "\x7d" then return .record [] else entries (value depth) size .newTable
    else bare

/-- How deep values may nest. -/
def depthLimit : Nat := 80

/-- The keys of a header, up to the mark at its end. -/
def header (ending : String) : Reading (List String) := do
  let keys ← key (← get).length
  expect ending
  endLine
  return keys

/-- Opens what a header names. -/
def opened (add : String → Value → Option Value) (keys : List String) (root : Value) :
    Option Value :=
  root.changeAt (add (keys.getLast?.getD "")) keys.dropLast

/-- The rest of a document.  Entries are added to the table that `path` names. -/
def lines : Nat → List String → Value → Reading Value
  | 0, _, _ => fail
  | fuel + 1, path, root => do
    skipBlanks
    if (← get).isEmpty then return root
    else if (← next? "#") || (← next? "\n") || (← next? "\r") then
      endLine
      lines fuel path root
    else if ← skip? "[[" then
      let keys ← header "]]"
      match opened Value.openRow keys root with
      | some root => lines fuel keys root
      | none => fail
    else if ← skip? "[" then
      let keys ← header "]"
      match opened Value.openTable keys root with
      | some root => lines fuel keys root
      | none => fail
    else
      let (keys, v) ← entry (value depthLimit)
      endLine
      match root.changeAt (·.putKey keys v) path with
      | some root => lines fuel path root
      | none => fail

end Reading

/-- Reads a document. -/
def read? (text : String) : Option Value :=
  let cs :=
    match text.toList with
    | '\ufeff' :: rest => rest
    | cs => cs
  ((Reading.lines (cs.length + 1) [] .newTable).run cs).map Prod.fst

end BrowserLab.Toml
