import BrowserLab.Command.Browse

/-!
# Where a learner stands
-/

namespace BrowserLab

/-- A scenario that is completed in a style. -/
structure Completion where
  scenario : String
  title : String
  style : Style
  deriving DecidableEq, Repr, Inhabited

namespace Completion

def header : List String := ["Scenario", "Title", "Style"]

def row (c : Completion) : List String := [c.scenario, c.title, c.style.title]

def toJson (c : Completion) : Json :=
  .obj [("scenario", .str c.scenario), ("title", .str c.title), ("style", .str c.style.name)]

end Completion

/-- What has been completed of all there is, and what was used last. -/
structure Standing where
  lastScenario : Option String
  lastStyle : Option Style
  completed : List Completion
  total : Nat
  savedScripts : Nat
  deriving DecidableEq, Repr, Inhabited

namespace Standing

/-- Everything that can be completed. -/
def exercises (c : Catalog) : List (Scenario × Style) :=
  c.scenarios.flatMap fun s => s.styles.map fun style => (s, style)

def ofProgress (c : Catalog) (p : Progress) : Standing where
  lastScenario := p.lastScenario?
  lastStyle := p.lastStyle?
  completed := ((exercises c).filter fun (s, style) => p.isCompleted s.id style).map
    fun (s, style) => ⟨s.id, s.title, style⟩
  total := (exercises c).length
  savedScripts := p.savedCode.length

/-- The table of what has been completed. -/
def table (s : Standing) : Table := ⟨Completion.header, s.completed.map Completion.row⟩

def toJson (s : Standing) : Json :=
  .obj [("last_scenario", .ofOption .str s.lastScenario),
    ("last_style", .ofOption (fun style => .str style.name) s.lastStyle),
    ("completed", .arr (s.completed.map Completion.toJson)), ("total", .ofNat s.total),
    ("saved_scripts", .ofNat s.savedScripts)]

/-- The standing for a reader. -/
def printed (s : Standing) : Printed :=
  .line ("Completed " ++ toString s.completed.length ++ " of " ++ toString s.total ++
      " exercises") ++
    (s.lastScenario.elim .nothing fun id =>
      .line ("Last opened: " ++ id ++ " " ++ s.lastStyle.elim "" Style.title)) ++
    .line ("Saved scripts: " ++ toString s.savedScripts) ++
    (if s.completed.isEmpty then .nothing else .heading "Completed" ++ .line s.table.text)

end Standing

namespace Command

/-- Shows where the learner stands. -/
def Context.standing (c : Context) (d : Disk) : Printed :=
  let s := Standing.ofProgress c.catalog (c.progress d)
  c.format.print s.toJson s.printed

/-- Forgets all progress. -/
def Context.forget (c : Context) (d : Disk) : Result :=
  let (saved, d) := Progress.empty.save c.progressPath d
  ((saved.mapError .lab).map fun _ => .success ("Cleared progress in " ++ c.progressPath.text), d)

end Command

end BrowserLab
