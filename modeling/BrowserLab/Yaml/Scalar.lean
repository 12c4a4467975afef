import BrowserLab.Json.Printer
import BrowserLab.Number.Reader
import BrowserLab.Text.Search

/-!
# YAML scalars

A text is written plainly if a reader takes it for the same text.  Otherwise it stands in single
quotes, or in double quotes if a character has to be escaped, or as a block of lines if it has
several lines.
-/

namespace BrowserLab.Yaml

/-- The spellings of null. -/
def nullWords : List String := ["null", "Null", "NULL", "~"]

/-- Words that some reader takes for a boolean. -/
def booleanWords : List String :=
  ["y", "Y", "yes", "Yes", "YES", "n", "N", "no", "No", "NO", "true", "True", "TRUE", "false",
    "False", "FALSE", "on", "On", "ON", "off", "Off", "OFF"]

/-- Is it a zero and more digits behind an optional sign? -/
def isZeroPadded (cs : List Char) : Bool :=
  let ds :=
    match cs with
    | '-' :: rest => rest
    | '+' :: rest => rest
    | _ => cs
  match ds with
  | '0' :: rest => !rest.isEmpty && rest.all Char.isDigit
  | _ => false

/-- A whole number in base 16, 8 or 2, of at most 128 bits. -/
def isBasedInteger (cs : List Char) : Bool :=
  let (bound, ds) :=
    match cs with
    | '-' :: rest => (Nat.pow 2 127 + 1, rest)
    | '+' :: rest => (Nat.pow 2 128, rest)
    | _ => (Nat.pow 2 128, cs)
  let value? :=
    match ds with
    | '0' :: 'x' :: ds => Number.ofDigitsIn? 16 ds
    | '0' :: 'o' :: ds => Number.ofDigitsIn? 8 ds
    | '0' :: 'b' :: ds => Number.ofDigitsIn? 2 ds
    | _ => none
  value?.any (· < bound)

/-- The names of the numbers that are not finite. -/
def limitWords : List String :=
  [".inf", ".Inf", ".INF", "+.inf", "+.Inf", "+.INF", "-.inf", "-.Inf", "-.INF", ".nan", ".NaN",
    ".NAN"]

/-- Does a reader take the plain text for a number? -/
def isNumber (s : String) : Bool :=
  isBasedInteger s.toList || limitWords.contains s || (Number.read? s).any Float.isFinite

/-- Does a reader take the plain text for something else, or may it? -/
def isAmbiguous (s : String) : Bool :=
  s.isEmpty || nullWords.contains s || booleanWords.contains s || isZeroPadded s.toList ||
    isNumber s

def isBreak (c : Char) : Bool :=
  c = '\n' || c = '\r' || c = '\x85' || c = '\u2028' || c = '\u2029'

/-- Is it a blank or a line break? -/
def isGap (c : Char) : Bool := c = ' ' || c = '\t' || c = '\x00' || isBreak c

/-- Can the character stand in a document as it is? -/
def isPrintable (c : Char) : Bool :=
  let n := c.toNat
  c = '\n' || (0x20 ≤ n && n ≤ 0x7e) || (0xa0 ≤ n && n ≤ 0xfffd && n ≠ 0xfeff)

/-- Do two neighbours occur of which the first is one thing and the second another? -/
def hasNeighbours (first second : Char → Bool) : List Char → Bool
  | a :: b :: rest => (first a && second b) || hasNeighbours first second (b :: rest)
  | _ => false

/-- What the first character of a plain text must not be. -/
def openers : List Char := "#,[]\x7b\x7d&*!|>'\"%@\x60".toList

/-- Is there something in the text that has a meaning of its own when it stands plainly? -/
def hasIndicator (cs : List Char) : Bool :=
  let opens :=
    match cs with
    | c :: rest =>
      openers.contains c || ((c = '?' || c = ':' || c = '-') && rest.head?.all isGap)
    | [] => false
  opens || "---".toList.isPrefixOf cs || "...".toList.isPrefixOf cs ||
    hasNeighbours (· = ':') isGap cs || cs.getLast? = some ':' || hasNeighbours isGap (· = '#') cs

/-- Must characters of the text be escaped, or would its blanks be lost in quotes? -/
def needsEscapes (cs : List Char) : Bool :=
  !cs.all isPrintable || hasNeighbours isBreak (· = ' ') cs || hasNeighbours (· = ' ') isBreak cs

/-- Can the text stand plainly? -/
def plainAllowed (cs : List Char) : Bool :=
  let edge (c? : Option Char) : Bool := c?.any fun c => c = ' ' || isBreak c
  !(needsEscapes cs || edge cs.head? || edge cs.getLast? || cs.any isBreak || hasIndicator cs)

/-- Can the text stand as a block of lines? -/
def blockAllowed (cs : List Char) : Bool :=
  cs.all isPrintable && !hasNeighbours (· = ' ') isBreak cs && cs.getLast? ≠ some ' '

/-- The letters of escapes. -/
def escapeLetter? (c : Char) : Option Char :=
  if c = '"' || c = '\\' then some c
  else
    match c.toNat with
    | 0 => some '0'
    | 7 => some 'a'
    | 8 => some 'b'
    | 9 => some 't'
    | 10 => some 'n'
    | 11 => some 'v'
    | 12 => some 'f'
    | 13 => some 'r'
    | 27 => some 'e'
    | 0x85 => some 'N'
    | 0x2028 => some 'L'
    | 0x2029 => some 'P'
    | _ => none

/-- A character in double quotes. -/
def escapeChar (c : Char) : List Char :=
  match escapeLetter? c with
  | some letter => ['\\', letter]
  | none =>
    let n := c.toNat
    if isPrintable c then [c]
    else if n ≤ 0xff then ['\\', 'x'] ++ Number.hexChars 2 n
    else if n ≤ 0xffff then ['\\', 'u'] ++ Number.hexChars 4 n
    else ['\\', 'U'] ++ Number.hexChars 8 n

/-- The text in double quotes. -/
def doubleQuoted (cs : List Char) : List Char := '"' :: cs.flatMap escapeChar ++ ['"']

/-- Text whose lines begin `indent` blanks from the left; empty lines have none.  `fresh` says that
a line is about to begin. -/
def indentedLines (indent : Nat) (fresh : Bool) : List Char → List Char
  | [] => []
  | c :: rest =>
    if isBreak c then c :: indentedLines indent true rest
    else
      let margin := if fresh then List.replicate indent ' ' else []
      margin ++ c :: indentedLines indent false rest

/-- The text in single quotes. -/
def singleQuoted (indent : Nat) (cs : List Char) : List Char :=
  let doubled := cs.flatMap fun c => if c = '\'' then ['\'', '\''] else [c]
  '\'' :: indentedLines indent false doubled ++ ['\'']

/-- What stands behind the bar of a block: how deep it is indented, if its first line does not show
it, and whether line breaks at its end are dropped or kept. -/
def blockHints (cs : List Char) : List Char :=
  let depth := if cs.head?.any fun c => c = ' ' || isBreak c then ['2'] else []
  let ending :=
    match cs.reverse with
    | [] => ['-']
    | c :: before =>
      if !isBreak c then ['-'] else if before.head?.all isBreak then ['+'] else []
  depth ++ ending

/-- The text as a block of lines. -/
def block (indent : Nat) (cs : List Char) : List Char :=
  '|' :: blockHints cs ++ '\n' :: indentedLines indent true cs

/-- A text as a scalar whose further lines are indented. -/
def textScalar (indent : Nat) (s : String) : String :=
  let cs := s.toList
  String.ofList
    (if cs.contains '\n' then if blockAllowed cs then block indent cs else doubleQuoted cs
    else if plainAllowed cs && !isAmbiguous s then cs
    else if needsEscapes cs then doubleQuoted cs
    else singleQuoted indent cs)

/-- Numbers have no `+` in their exponents. -/
def realFormat : Number.RealFormat := ⟨false⟩

/-- The text of a value that holds no other. -/
def scalar (indent : Nat) (j : Json) : String :=
  match j with
  | .real x => realFormat.text x
  | .str s => textScalar indent s
  | j => Json.scalar j

end BrowserLab.Yaml
