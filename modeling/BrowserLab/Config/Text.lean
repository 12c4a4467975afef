import BrowserLab.Config
import BrowserLab.Disk
import BrowserLab.Toml.Printer
import BrowserLab.Toml.Reader

/-!
# The configuration file
-/

namespace BrowserLab.Config

/-- The text of a configuration. -/
def text (c : Config) : String :=
  match c.toJson with
  | .obj members => Toml.document members
  | _ => ""

/-- The configuration that a text describes; `storePath` is where progress is kept by default. -/
def ofText (storePath text : String) : Except LabError Config :=
  match (Toml.read? text).bind (ofDocument? storePath) with
  | some c => c.validate
  | none => .error .toml

/-- The configuration in a file.  If there is no file, it is the default. -/
def load (storePath : String) (d : Disk) (p : Path) : Except LabError Config :=
  match d p with
  | some (.file text) => ofText storePath text
  | some .directory => .error .io
  | none => .ok (standard storePath)

end BrowserLab.Config
