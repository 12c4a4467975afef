/-!
# Globs

A glob is matched against an address.  `**` is any text, `*` any text without a slash, `?` one
character, and all else stands for itself; `**` and `?` do not go past the end of a line.  Of the
address only the path counts, and a glob fits if it fits some end of the path.
-/

namespace BrowserLab

/-- What a glob consists of. -/
inductive Glob.Piece where
  | literal (c : Char)
  | anyOne
  | star
  | doubleStar
  deriving DecidableEq, Repr

namespace Glob

/-- The pieces of a glob. -/
def pieces : List Char → List Piece
  | '*' :: '*' :: rest => .doubleStar :: pieces rest
  | '*' :: rest => .star :: pieces rest
  | '?' :: rest => .anyOne :: pieces rest
  | c :: rest => .literal c :: pieces rest
  | [] => []

/-- Can the piece stand for this character? -/
def Piece.takes : Piece → Char → Bool
  | .literal a, c => a = c
  | .anyOne, c => c ≠ '\n'
  | .star, c => c ≠ '/'
  | .doubleStar, c => c ≠ '\n'

/-- Can the piece stand for any number of characters? -/
def Piece.repeats : Piece → Bool
  | .star => true
  | .doubleStar => true
  | _ => false

/-- `fits` says of every end of the text, the whole text first, whether what follows the piece fits
it.  The result says the same of the piece and what follows it together. -/
def Piece.extend (p : Piece) (text : List Char) (fits : List Bool) : List Bool :=
  match text, fits with
  | c :: text, fit :: fits =>
    let rest := extend p text fits
    let here :=
      if p.repeats then fit || (p.takes c && rest.headD false)
      else p.takes c && fits.headD false
    here :: rest
  | _, fit :: _ => [p.repeats && fit]
  | _, [] => []

/-- Which ends of the text, the whole text first, the pieces fit exactly. -/
def ends (ps : List Piece) (text : List Char) : List Bool :=
  match ps with
  | [] => text.map (fun _ => false) ++ [true]
  | p :: ps => p.extend text (ends ps text)

/-- Without slashes at the end, unless there is nothing else. -/
def trimSlashes (cs : List Char) : List Char :=
  let trimmed := (cs.reverse.dropWhile (· = '/')).reverse
  if trimmed.isEmpty then cs else trimmed

/-- The path of an address: what stands before the query and the fragment. -/
def path (url : List Char) : List Char :=
  trimSlashes (url.takeWhile fun c => c ≠ '?' && c ≠ '#')

/-- Does the glob fit the address? -/
def fits (glob url : String) : Bool :=
  (ends (pieces glob.toList) (path url.toList)).any id

end Glob

end BrowserLab
