import BrowserLab.Catalog.Basic
import BrowserLab.Config.Text
import BrowserLab.Json.Printer
import BrowserLab.Mentor
import BrowserLab.Progress.Saving
import BrowserLab.Yaml.Printer

/-!
# Commands

A command has a configuration, a catalog and a mentor to work with, and a disk that it may change.
It prints results and, apart from them, complaints.  What it prints is for a reader or for another
program.
-/

namespace BrowserLab

/-- What is printed. -/
structure Printed where
  results : String := ""
  complaints : String := ""
  deriving DecidableEq, Repr, Inhabited

namespace Printed

def nothing : Printed := {}

instance : Append Printed where
  append a b := ⟨a.results ++ b.results, a.complaints ++ b.complaints⟩

def line (text : String) : Printed := { results := text ++ "\n" }

def lines (texts : List String) : Printed := { results := String.join (texts.map (· ++ "\n")) }

def success (text : String) : Printed := line ("✓ " ++ text)

def warning (text : String) : Printed := line ("! " ++ text)

def failure (text : String) : Printed := { complaints := "✗ " ++ text ++ "\n" }

/-- A title, apart from what stands before. -/
def heading (title : String) : Printed := lines ["", title]

end Printed

/-- How results are printed. -/
inductive OutputFormat where
  /-- For a reader. -/
  | table
  | json
  | yaml
  deriving DecidableEq, Repr, Inhabited

namespace OutputFormat

/-- The text of a value, unless it is for a reader. -/
def text? (f : OutputFormat) (j : Json) : Option String :=
  match f with
  | .table => none
  | .json => some j.pretty
  | .yaml => some (Yaml.text j)

/-- Prints a value; `readable` is what a reader is given instead. -/
def print (f : OutputFormat) (j : Json) (readable : Printed) : Printed :=
  match f.text? j with
  | some text => .line text
  | none => readable

end OutputFormat

namespace Command

/-- Why a command fails. -/
inductive Failure where
  | lab (e : LabError)
  | unsupported (id : String) (style : Style)
  | unreadable (file : Path)
  | badConfig (file : Path)
  deriving Inhabited

def Failure.message : Failure → String
  | .lab e => e.message
  | .unsupported id style => id ++ " does not support " ++ style.title
  | .unreadable file => "failed to read " ++ file.text
  | .badConfig file => "failed to load config from " ++ file.text

/-- What a command works with. -/
structure Context where
  config : Config
  catalog : Catalog
  format : OutputFormat
  mentor : Mentor

/-- What a command prints, unless it fails, and the disk that it leaves. -/
abbrev Result := Except Failure Printed × Disk

namespace Context

/-- The configuration in a file, for a command that works with it. -/
def loadConfig (storePath : String) (d : Disk) (p : Path) : Except Failure Config :=
  (Config.load storePath d p).mapError fun _ => .badConfig p

/-- The file that progress is kept in. -/
def progressPath (c : Context) : Path := .ofText c.config.progressPath

/-- The progress so far. -/
def progress (c : Context) (d : Disk) : Progress := .load d c.progressPath

def scenario (c : Context) (id : String) : Except Failure Scenario :=
  (c.catalog.get id).mapError .lab

/-- The style that is asked for, or else the style used last if the scenario supports it. -/
def styleFor (scenario : Scenario) (asked : Option Style) (p : Progress) : Except Failure Style :=
  match asked with
  | some style =>
    if scenario.supports style then .ok style else .error (.unsupported scenario.id style)
  | none => .ok (scenario.resolveStyle (p.lastStyle?.getD .playwright))

end Context

/-- Where code comes from. -/
inductive Source where
  | file (p : Path)
  | reference
  /-- The code that was saved, or else the code to begin with. -/
  | saved
  deriving DecidableEq, Repr, Inhabited

namespace Source

/-- A file, if one is given. -/
def choose (file : Option Path) (reference : Bool) : Source :=
  match file with
  | some p => .file p
  | none => if reference then .reference else .saved

/-- The code for a scenario in a style. -/
def load (s : Source) (scenario : Scenario) (style : Style) (p : Progress) (d : Disk) :
    Except Failure String :=
  match s with
  | .file path =>
    match d.read? path with
    | some code => .ok code
    | none => .error (.unreadable path)
  | .reference => .ok (scenario.referenceCode style)
  | .saved => .ok ((p.code? scenario.id style).getD (scenario.starterCode style))

end Source

/-- What a command is to do with a scenario. -/
structure Exercise where
  scenario : Scenario
  style : Style
  code : String

/-- Finds the scenario, the style and the code that a command is asked for. -/
def Context.exercise (c : Context) (d : Disk) (id : String) (asked : Option Style) (s : Source) :
    Except Failure Exercise := do
  let p := c.progress d
  let scenario ← c.scenario id
  let style ← styleFor scenario asked p
  let code ← s.load scenario style p d
  return { scenario, style, code }

end Command

end BrowserLab
