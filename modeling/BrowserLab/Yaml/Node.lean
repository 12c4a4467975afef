import BrowserLab.Document
import BrowserLab.Yaml.Scalar

/-!
# YAML documents

A document is made of scalars, lists and mappings.  Scalars are texts; one that stands plainly may
also mean something else, and one without any text is an empty list or mapping where one is wanted.
-/

namespace BrowserLab.Yaml

/-- A part of a document. -/
inductive Node where
  | scalar (text : String) (plain : Bool)
  | list (items : List Node)
  | mapping (entries : List (String × Node))
  deriving Inhabited

/-- What stands where nothing is written. -/
def Node.nothing : Node := .scalar "" true

/-- The plain text of a scalar. -/
def Node.plain? : Node → Option String
  | .scalar text true => some text
  | _ => none

instance : Document Node where
  fields? := fun
    | .mapping entries => some entries
    | _ => none
  items? := fun
    | .list items => some items
    | .scalar "" true => some []
    | _ => none
  isNull := fun n => n.plain?.any fun text => text.isEmpty || nullWords.contains text
  text? := fun
    | .scalar text _ => some text
    | _ => none
  natural? := fun bound n => n.plain?.bind (Number.readNat? bound)
  boolean? := fun n =>
    match n.plain? with
    | some "true" => some true
    | some "false" => some false
    | _ => none

end BrowserLab.Yaml
