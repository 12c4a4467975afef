/-!
# Classes of characters as lists of boundaries

A class of characters is held as the ascending code points at which membership changes, starting
outside the class at code point 0.
-/

namespace BrowserLab.Text

/-- Is the code point in the class?  Each boundary at or below it turns membership over. -/
def withinBoundaries (boundaries : List Nat) (n : Nat) : Bool :=
  match boundaries with
  | [] => false
  | b :: rest => if n < b then false else !withinBoundaries rest n

end BrowserLab.Text
