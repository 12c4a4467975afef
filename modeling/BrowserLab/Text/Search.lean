/-!
# Looking for a piece of text

Searching, splitting and replacing work on lists of characters and take occurrences from the left,
none overlapping the one before it.
-/

namespace BrowserLab.Text

/-- The text before the first occurrence of `piece` and the text after it. -/
def cut? (piece : List Char) : List Char → Option (List Char × List Char)
  | [] => if piece.isEmpty then some ([], []) else none
  | c :: rest =>
    if piece.isPrefixOf (c :: rest) then some ([], (c :: rest).drop piece.length)
    else (cut? piece rest).map fun (before, after) => (c :: before, after)

/-- Does `piece` occur in the text? -/
def occurs (piece text : List Char) : Bool := (cut? piece text).isSome

/-- The pieces between the occurrences of a separator that is not empty.  `skip` characters of an
occurrence are still to be passed over; `part` holds the piece under way, last character first. -/
def splitFrom (separator : List Char) (skip : Nat) (part : List Char) :
    List Char → List (List Char)
  | [] => [part.reverse]
  | c :: rest =>
    match skip with
    | skip + 1 => splitFrom separator skip part rest
    | 0 =>
      if separator.isPrefixOf (c :: rest) then
        part.reverse :: splitFrom separator (separator.length - 1) [] rest
      else splitFrom separator 0 (c :: part) rest

/-- The pieces between the occurrences of the separator; with the empty separator, the
characters. -/
def split (separator text : List Char) : List (List Char) :=
  if separator.isEmpty then text.map fun c => [c] else splitFrom separator 0 [] text

/-- The text with its first occurrence of `piece` replaced. -/
def replaceFirst (piece replacement text : List Char) : List Char :=
  match cut? piece text with
  | some (before, after) => before ++ replacement ++ after
  | none => text

/-- Does `piece` occur in the text? -/
def contains (text piece : String) : Bool := occurs piece.toList text.toList

/-- What follows `start`, if the text begins with it. -/
def dropStart? (text start : String) : Option String :=
  if start.toList.isPrefixOf text.toList then
    some (String.ofList (text.toList.drop start.toList.length))
  else none

/-- What precedes `finish`, if the text ends with it. -/
def dropEnd? (text finish : String) : Option String :=
  if finish.toList.isSuffixOf text.toList then
    some (String.ofList (text.toList.take (text.toList.length - finish.toList.length)))
  else none

/-- Does the text begin with `start`? -/
def startsWith (text start : String) : Bool := start.toList.isPrefixOf text.toList

/-- Does the text end with `finish`? -/
def endsWith (text finish : String) : Bool := finish.toList.isSuffixOf text.toList

/-- The text before and the text after the last occurrence of a character. -/
def cutLast? (c : Char) (text : String) : Option (String × String) :=
  let back := text.toList.reverse
  match back.dropWhile (· ≠ c) with
  | [] => none
  | _ :: before =>
    some (String.ofList before.reverse, String.ofList (back.takeWhile (· ≠ c)).reverse)

end BrowserLab.Text
