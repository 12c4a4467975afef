import BrowserLab.Json.Basic

/-!
# JSON text

Compact text has no blanks.  Indented text has one item or member a line, two blanks deeper than
what holds it; an empty array or object stays on its line.
-/

namespace BrowserLab.Json

/-- A digit of a number in base 16. -/
def hexDigit (n : Nat) : Char :=
  if n < 10 then Char.ofNat (48 + n) else Char.ofNat (87 + n)

/-- A character inside quotes. -/
def escapeChar (c : Char) : List Char :=
  if c = '"' then ['\\', '"']
  else if c = '\\' then ['\\', '\\']
  else if c = '\n' then ['\\', 'n']
  else if c = '\r' then ['\\', 'r']
  else if c = '\t' then ['\\', 't']
  else if c.toNat = 8 then ['\\', 'b']
  else if c.toNat = 12 then ['\\', 'f']
  else if c.toNat < 32 then
    ['\\', 'u', '0', '0', hexDigit (c.toNat / 16), hexDigit (c.toNat % 16)]
  else [c]

/-- A string in quotes. -/
def quoteChars (cs : List Char) : List Char := '"' :: cs.flatMap escapeChar ++ ['"']

/-- A string in quotes. -/
def quote (s : String) : String := String.ofList (quoteChars s.toList)

/-- Numbers have their exponent's sign written. -/
def realFormat : Number.RealFormat := ⟨true⟩

/-- The text of a value that holds no other; of an array or an object, nothing. -/
def scalar (j : Json) : String :=
  match j with
  | .null => "null"
  | .bool true => "true"
  | .bool false => "false"
  | .int i => Number.intText i
  | .real x => realFormat.text x
  | .str s => quote s
  | _ => ""

mutual

/-- Text without blanks. -/
def compact (j : Json) : String :=
  match j with
  | .arr items => "[" ++ compactItems items ++ "]"
  | .obj members => "\x7b" ++ compactMembers members ++ "\x7d"
  | .null => scalar .null
  | .bool b => scalar (.bool b)
  | .int i => scalar (.int i)
  | .real x => scalar (.real x)
  | .str s => scalar (.str s)

def compactItems (items : List Json) : String :=
  match items with
  | [] => ""
  | [j] => compact j
  | j :: rest => compact j ++ "," ++ compactItems rest

def compactMembers (members : List (String × Json)) : String :=
  match members with
  | [] => ""
  | [(k, j)] => quote k ++ ":" ++ compact j
  | (k, j) :: rest => quote k ++ ":" ++ compact j ++ "," ++ compactMembers rest

end

/-- A new line with the given number of levels before it. -/
def newline (level : Nat) : String := "\n" ++ "".pushn ' ' (2 * level)

mutual

/-- Indented text of a value that stands `level` levels deep. -/
def indented (level : Nat) (j : Json) : String :=
  match j with
  | .arr [] => "[]"
  | .arr items => "[" ++ indentedItems (level + 1) items ++ newline level ++ "]"
  | .obj [] => "\x7b\x7d"
  | .obj members => "\x7b" ++ indentedMembers (level + 1) members ++ newline level ++ "\x7d"
  | .null => scalar .null
  | .bool b => scalar (.bool b)
  | .int i => scalar (.int i)
  | .real x => scalar (.real x)
  | .str s => scalar (.str s)

def indentedItems (level : Nat) (items : List Json) : String :=
  match items with
  | [] => ""
  | [j] => newline level ++ indented level j
  | j :: rest => newline level ++ indented level j ++ "," ++ indentedItems level rest

def indentedMembers (level : Nat) (members : List (String × Json)) : String :=
  match members with
  | [] => ""
  | [(k, j)] => newline level ++ quote k ++ ": " ++ indented level j
  | (k, j) :: rest =>
    newline level ++ quote k ++ ": " ++ indented level j ++ "," ++ indentedMembers level rest

end

/-- Indented text. -/
def pretty (j : Json) : String := indented 0 j

end BrowserLab.Json
