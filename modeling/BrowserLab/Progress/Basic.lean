import BrowserLab.Json.Printer
import BrowserLab.Json.Reader
import BrowserLab.Style
import BrowserLab.Text.Search

/-!
# Progress

What a learner has done is kept as texts under keys.  Keys with a common beginning belong to the
lab: the exercise that was opened last, the style used last, the code written for each exercise in
each style, and which of them are completed.
-/

namespace BrowserLab

/-- Texts under keys. -/
structure Progress where
  entries : Dict String
  deriving Repr, Inhabited

namespace Progress

/-- What the keys of the lab begin with. -/
def keyStart : String := "autolab-"

def scenarioKey : String := keyStart ++ "active-scenario"

def styleKey : String := keyStart ++ "active-style"

def completedKey : String := keyStart ++ "completed"

def sidebarKey : String := keyStart ++ "sidebar-collapsed"

/-- What the keys of code begin with. -/
def codeStart : String := keyStart ++ "code-"

/-- An exercise in a style, as one name. -/
def pairName (id : String) (style : Style) : String := id ++ "-" ++ style.name

/-- The key of the code for an exercise in a style. -/
def codeKey (id : String) (style : Style) : String := codeStart ++ pairName id style

def empty : Progress := ⟨[]⟩

def get? (p : Progress) (key : String) : Option String := p.entries.get? key

def set (p : Progress) (key value : String) : Progress := ⟨p.entries.insert key value⟩

def remove (p : Progress) (key : String) : Progress := ⟨p.entries.erase key⟩

/-- The exercise that was opened last. -/
def lastScenario? (p : Progress) : Option String := p.get? scenarioKey

def setLastScenario (p : Progress) (id : String) : Progress := p.set scenarioKey id

/-- The style that was used last. -/
def lastStyle? (p : Progress) : Option Style :=
  (p.get? styleKey).bind fun name => (Style.parse name).toOption

def setLastStyle (p : Progress) (style : Style) : Progress := p.set styleKey style.name

/-- The code for an exercise in a style. -/
def code? (p : Progress) (id : String) (style : Style) : Option String := p.get? (codeKey id style)

def setCode (p : Progress) (id : String) (style : Style) (code : String) : Progress :=
  p.set (codeKey id style) code

/-- The texts of a JSON list of texts. -/
def textsOfJson? (text : String) : Option (List String) :=
  match Json.readRaw text with
  | .ok (.arr items) => items.mapM Json.text?
  | _ => none

/-- What has been completed, the first pair first. -/
def completed (p : Progress) : List String :=
  ((p.get? completedKey).bind textsOfJson?).getD []

def isCompleted (p : Progress) (id : String) (style : Style) : Bool :=
  p.completed.contains (pairName id style)

/-- Takes a completion down.  Also, is it new? -/
def markCompleted (p : Progress) (id : String) (style : Style) : Bool × Progress :=
  if p.isCompleted id style then (false, p)
  else
    let names := p.completed ++ [pairName id style]
    (true, p.set completedKey (Json.arr (names.map .str)).compact)

/-- The exercise and the style of a name made of both. -/
def pairOfName? (name : String) : Option (String × Style) :=
  match Text.cutLast? '-' name with
  | some (id, style) => (Style.parse style).toOption.map fun style => (id, style)
  | none => none

/-- The exercises and styles for which there is code, in the order of the keys. -/
def savedCode (p : Progress) : List (String × Style) :=
  p.entries.filterMap fun (key, _) => (Text.dropStart? key codeStart).bind pairOfName?

def sidebarCollapsed (p : Progress) : Bool := p.get? sidebarKey = some "true"

def setSidebarCollapsed (p : Progress) (collapsed : Bool) : Progress :=
  p.set sidebarKey (if collapsed then "true" else "false")

/-- The text of the file that progress is kept in. -/
def text (p : Progress) : String := (Json.obj (p.entries.map fun (k, v) => (k, .str v))).pretty

/-- The entries under the keys of the lab. -/
def ownEntries (p : Progress) : Progress :=
  ⟨p.entries.filter fun (key, _) => Text.startsWith key keyStart⟩

/-- A member whose value is text. -/
def entryOfMember? (member : String × Json) : Option (String × String) :=
  member.2.text?.map fun value => (member.1, value)

/-- The progress that a text stands for. -/
def ofText? (text : String) : Option Progress :=
  match Json.readRaw text with
  | .ok (.obj members) =>
    (members.mapM entryOfMember?).map fun entries => ownEntries ⟨Dict.ofPairs entries⟩
  | _ => none

end Progress

end BrowserLab
