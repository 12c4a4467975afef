import BrowserLab.Catalog.Document
import BrowserLab.Yaml.Reader

/-!
# The catalog file
-/

namespace BrowserLab.Catalog

/-- The catalog that a text describes. -/
def ofText (text : String) : Except LabError Catalog :=
  match (Yaml.read? text).bind scenariosOfDocument? with
  | some scenarios => ofList scenarios
  | none => .error .yaml

end BrowserLab.Catalog
