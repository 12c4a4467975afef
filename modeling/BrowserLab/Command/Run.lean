import BrowserLab.Command.Basic
import BrowserLab.Session
import BrowserLab.Table

/-!
# Running a script

The script runs on the scenario in a session of its own.  Then the scenario, the style and, if it
came from a file, the code are saved, if that is possible.
-/

namespace BrowserLab

namespace Step

/-- The head of a table of steps. -/
def header : List String :=
  ["#", "Action", "Target", "Frame", "Elapsed", "Duration", "Status"]

/-- The row of a step. -/
def row (s : Step) : List String :=
  [toString (s.index + 1), s.action.label, s.target,
    if s.frame.isRoot then "main" else s.frame.text,
    "+" ++ toString s.elapsed ++ "ms", toString s.duration ++ "ms", s.status.name]

end Step

namespace Command

/-- What tells a run apart from others: a name, the moment it began, as a date and as a time of day,
and a number to draw random numbers from. -/
structure Occasion where
  name : String
  moment : String
  timeOfDay : String
  entropy : Nat
  deriving Inhabited

/-- How a script is run. -/
structure RunOptions where
  style : Option Style := none
  file : Option Path := none
  reference : Bool := false
  seed : Option Nat := none
  instant : Bool := false
  keepsProgress : Bool := true
  deriving Inhabited

/-- The configuration with the options of a run. -/
def RunOptions.config (o : RunOptions) (c : Config) : Config :=
  { c with
    seed := o.seed <|> c.seed
    latency := if o.instant then .instant else c.latency }

/-- Runs code in a session of its own.  Also, what does the page show at the end? -/
def Exercise.run (e : Exercise) (catalog : Catalog) (config : Config) (entropy : Nat) :
    Except LabError (Report × String) := do
  let seed := config.seed.getD entropy
  let session := Session.new catalog config (.seeded (seed + 1)) (.seeded seed)
  let (selected, session) := session.select e.scenario.id
  let _ ← selected
  let (styled, session) := session.setStyle e.style
  styled
  let (report, session) := session.run e.code
  return (report, session.view)

/-- The progress after an exercise; the code is saved if it is new. -/
def Exercise.recorded (e : Exercise) (newCode : Bool) (p : Progress) : Progress :=
  let p := (p.setLastScenario e.scenario.id).setLastStyle e.style
  if newCode then p.setCode e.scenario.id e.style e.code else p

/-- A report as a value. -/
def reportJson (o : Occasion) (r : Report) (view : String) : Json :=
  .obj [("run_id", .str o.name), ("generation", .ofNat r.generation),
    ("scenario_id", .str r.scenario), ("style", .str r.style.name), ("started_at", .str o.moment),
    ("duration_ms", .ofNat r.duration), ("outcome", r.outcome.toJson),
    ("steps", .arr (r.steps.map Step.toJson)), ("console", .arr (r.console.map .str)),
    ("environment", .str view)]

/-- A request and its answer. -/
def exchangeLines (index : Nat) (x : Exchange) : List String :=
  ["  #" ++ toString (index + 1) ++ " " ++ x.method ++ " " ++ x.url ++ " -> " ++
      toString x.status] ++
    (x.payload.toList.map fun payload => "     request  " ++ payload.compact) ++
    ["     response " ++ x.response.compact]

/-- The trace for a reader: the table of its steps, and then the requests. -/
def traceText (steps : List Step) : Printed :=
  .heading "Trace" ++
    .line (if steps.isEmpty then "No steps recorded."
      else Table.text ⟨Step.header, steps.map Step.row⟩) ++
    .lines (steps.flatMap fun s => s.network.elim [] (exchangeLines s.index))

/-- A report for a reader. -/
def reportText (o : Occasion) (r : Report) (view : String) : Printed :=
  .line (r.scenario ++ " [" ++ r.style.title ++ "] " ++ o.timeOfDay ++ " (" ++
      toString r.duration ++ "ms)") ++
    (if r.outcome.isSuccess then .success r.outcome.banner else .failure r.outcome.banner) ++
    traceText r.steps ++
    (if r.console.isEmpty then .nothing
      else .heading "Console" ++ .lines (r.console.map ("  " ++ ·))) ++
    .heading "Environment" ++ { results := view }

/-- Runs a script on a scenario. -/
def Context.run (c : Context) (occasion : Occasion) (id : String) (o : RunOptions) (d : Disk) :
    Result :=
  let attempt : Except Failure (Exercise × Report × String) := do
    let e ← c.exercise d id o.style (.choose o.file o.reference)
    let ran ← (e.run c.catalog (o.config c.config) occasion.entropy).mapError .lab
    return (e, ran)
  match attempt with
  | .error failure => (.error failure, d)
  | .ok (e, report, view) =>
    let recorded := e.recorded o.file.isSome (c.progress d)
    (.ok (c.format.print (reportJson occasion report view) (reportText occasion report view)),
      if o.keepsProgress then recorded.saveIfPossible c.progressPath d else d)

end Command

end BrowserLab
