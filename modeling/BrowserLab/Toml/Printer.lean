import BrowserLab.Json.Printer

/-!
# TOML text

Entries come first and tables after them, each under its header and with a line between.  A text is
written in the plainest quotes that it can stand in; what is null is left out.
-/

namespace BrowserLab.Toml

/-- How long the longest run of the character is. -/
def longestRun (c : Char) (cs : List Char) : Nat :=
  (cs.foldl (fun (run, best) d =>
    if d = c then (run + 1, max best (run + 1)) else (0, best)) ((0, 0) : Nat × Nat)).2

/-- Does the character have to be escaped wherever it stands? -/
def isControl (c : Char) : Bool := (c < ' ' && c ≠ '\t' && c ≠ '\n') || c = '\x7f'

/-- A character that is written as an escape. -/
def escapeChar (c : Char) : List Char :=
  match c with
  | '\x08' => ['\\', 'b']
  | '\t' => ['\\', 't']
  | '\n' => ['\\', 'n']
  | '\x0c' => ['\\', 'f']
  | '\r' => ['\\', 'r']
  | '"' => ['\\', '"']
  | '\\' => ['\\', '\\']
  | c => if isControl c then ['\\', 'u'] ++ Number.hexChars 4 c.toNat else [c]

/-- A text between double quotes on one line. -/
def basicText (cs : List Char) : List Char := cs.flatMap escapeChar

/-- A text between three double quotes: line breaks and up to two quotes in a row stand as they
are; `run` counts the quotes before. -/
def linesText (run : Nat) : List Char → List Char
  | [] => []
  | '\n' :: rest => '\n' :: linesText 0 rest
  | '"' :: rest =>
    if run < 2 then '"' :: linesText (run + 1) rest else '\\' :: '"' :: linesText 0 rest
  | c :: rest => escapeChar c ++ linesText 0 rest

/-- A text in quotes. -/
def quote (cs : List Char) : List Char :=
  let control := cs.any isControl
  let backslash := cs.contains '\\'
  let newline := cs.contains '\n'
  let opening := if newline then ['\n'] else []
  let basic := '"' :: basicText cs ++ ['"']
  let lines := "\"\"\"".toList ++ opening ++ linesText 0 cs ++ "\"\"\"".toList
  if !control && !backslash && !newline && !cs.contains '"' then basic
  else if !control && !newline && !cs.contains '\'' then '\'' :: cs ++ ['\'']
  else if !control && !backslash && longestRun '"' cs ≤ 2 then lines
  else if !control && longestRun '\'' cs ≤ 2 then
    "'''".toList ++ opening ++ cs ++ "'''".toList
  else if newline then lines
  else basic

/-- The text of a value that is no table. -/
def scalar (j : Json) : String :=
  match j with
  | .str s => String.ofList (quote s.toList)
  | j => Json.scalar j

/-- The lines of the entries that are no tables. -/
def entryLines (members : List (String × Json)) : String :=
  String.join (members.map fun (key, j) =>
    match j with
    | .null => ""
    | .obj _ => ""
    | j => key ++ " = " ++ scalar j ++ "\n")

/-- The lines of the tables. -/
def tableLines (members : List (String × Json)) : List String :=
  members.filterMap fun (key, j) =>
    match j with
    | .obj entries => some ("[" ++ key ++ "]\n" ++ entryLines entries)
    | _ => none

/-- A document of entries and of tables of entries. -/
def document (members : List (String × Json)) : String :=
  let entries := entryLines members
  let blocks := if entries.isEmpty then [] else [entries]
  "\n".intercalate (blocks ++ tableLines members)

end BrowserLab.Toml
