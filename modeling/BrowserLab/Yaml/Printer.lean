import BrowserLab.Yaml.Scalar

/-!
# YAML text

Every member of a mapping and every item of a list begins a line.  The items of a list stand as deep
as the key that has the list; everything else stands two blanks deeper than what holds it.  An empty
list or mapping stays on its line.
-/

namespace BrowserLab.Yaml

/-- The text with a line break at its end, unless there is one. -/
def line (s : String) : String :=
  if (s.toList.getLast?).any isBreak then s else s ++ "\n"

/-- Blanks at the beginning of a line, unless the line has been begun. -/
def margin (indent : Nat) (begun : Bool) : String := if begun then "" else "".pushn ' ' indent

/-- Can the text be the key of a line? -/
def isSimpleKey (key : String) : Bool := !key.toList.any isBreak && key.utf8ByteSize ≤ 128

mutual

/-- What stands behind a colon or a dash that is `indent` blanks from the left.  A list or a mapping
begins on the same line if `inline` says so. -/
def value (indent : Nat) (inline : Bool) (j : Json) : String :=
  match j with
  | .arr [] => " []\n"
  | .obj [] => " \x7b\x7d\n"
  | .arr items =>
    if inline then " " ++ itemLines (indent + 2) true items
    else "\n" ++ itemLines indent false items
  | .obj members =>
    if inline then " " ++ memberLines (indent + 2) true members
    else "\n" ++ memberLines (indent + 2) false members
  | .null => " " ++ line (scalar (indent + 2) .null)
  | .bool b => " " ++ line (scalar (indent + 2) (.bool b))
  | .int i => " " ++ line (scalar (indent + 2) (.int i))
  | .real x => " " ++ line (scalar (indent + 2) (.real x))
  | .str s => " " ++ line (scalar (indent + 2) (.str s))

def itemLines (indent : Nat) (begun : Bool) (items : List Json) : String :=
  match items with
  | [] => ""
  | j :: rest => margin indent begun ++ "-" ++ value indent true j ++ itemLines indent false rest

def memberLines (indent : Nat) (begun : Bool) (members : List (String × Json)) : String :=
  match members with
  | [] => ""
  | (key, j) :: rest =>
    let member :=
      if isSimpleKey key then textScalar indent key ++ ":" ++ value indent false j
      else
        "? " ++ line (textScalar (indent + 2) key) ++ margin indent false ++ ":" ++
          value indent true j
    margin indent begun ++ member ++ memberLines indent false rest

end

/-- The document of a value. -/
def text (j : Json) : String :=
  match j with
  | .arr [] => "[]\n"
  | .obj [] => "\x7b\x7d\n"
  | .arr items => itemLines 0 false items
  | .obj members => memberLines 0 false members
  | j => line (scalar 2 j)

end BrowserLab.Yaml
