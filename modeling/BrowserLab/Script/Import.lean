import BrowserLab.Text.Blank
import BrowserLab.Text.Search

/-!
# Taking imports out

An import stands at the beginning of a line: the word `import`, perhaps names and the word `from`,
and a path in quotes.  Only its line breaks are left, so all that follows keeps its place.
-/

namespace BrowserLab.Script

def isQuote (c : Char) : Bool := c = '\'' || c = '"'

def isSpaceOrTab (c : Char) : Bool := c = ' ' || c = '\t'

/-- Can this stand between `import` and the path?  It is blank, or it begins with a blank and ends
in `from` between two other blanks. -/
def isImportClause (cs : List Char) : Bool :=
  if cs.all Text.isBlank then !cs.isEmpty
  else
    let back := cs.reverse
    let word := back.dropWhile Text.isBlank
    let before := word.drop 4
    !cs.contains ';' && cs.head?.any Text.isBlank && back.head?.any Text.isBlank &&
      "morf".toList.isPrefixOf word && 2 ≤ before.length && before.head?.any Text.isBlank

/-- What follows the import at the beginning of the text, and the line breaks in it. -/
def import? (cs : List Char) : Option (List Char × Nat) :=
  let line := cs.dropWhile isSpaceOrTab
  if !"import".toList.isPrefixOf line then none
  else
    let (clause, rest) := (line.drop 6).span fun c => !isQuote c
    let close := (rest.drop 1).dropWhile fun c => !isQuote c && c ≠ '\n'
    match close with
    | q :: after =>
      if isQuote q && isImportClause clause then
        let after := after.dropWhile isSpaceOrTab
        let after :=
          match after with
          | ';' :: after => after
          | after => after
        some (after, clause.count '\n')
      else none
    | [] => none

/-- The text without imports; `lineStart` says whether it begins at the beginning of a line, and
`done` holds what stands before it, last character first. -/
def stripFrom (fuel : Nat) (lineStart : Bool) (done : List Char) (cs : List Char) : List Char :=
  match fuel with
  | 0 => done.reverse
  | fuel + 1 =>
    match cs with
    | [] => done.reverse
    | c :: rest =>
      match if lineStart then import? cs else none with
      | some (after, breaks) => stripFrom fuel false (List.replicate breaks '\n' ++ done) after
      | none => stripFrom fuel (c = '\n') (c :: done) rest

/-- The text with only the line breaks of its imports left. -/
def stripImports (source : String) : String :=
  let cs := source.toList
  String.ofList (stripFrom (cs.length + 1) true [] cs)

end BrowserLab.Script
