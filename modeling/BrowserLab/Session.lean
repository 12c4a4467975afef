import BrowserLab.Bus
import BrowserLab.Catalog.Basic
import BrowserLab.Config
import BrowserLab.Playground.View
import BrowserLab.Script.Run

/-!
# Sessions

A session has an active scenario and a style, and on its bus listen the playground of the scenario
and the recorder, in this order.  A run takes place on a playground that has just been opened.  What
it does is first computed and then announced on the bus, event by event and each at its time; this
makes no difference to the run, since listeners do not answer.
-/

namespace BrowserLab

/-- Those who listen on the bus of a session: a playground, by its number, and the recorder. -/
inductive Listener where
  | playground (number : Nat)
  | recorder
  deriving DecidableEq, Repr, Inhabited

/-- The stage at which a run failed. -/
inductive FailureKind where
  | compile
  | execution
  deriving DecidableEq, Repr, Inhabited

def FailureKind.name : FailureKind → String
  | .compile => "compile"
  | .execution => "execution"

/-- How a run ended. -/
inductive Outcome where
  | success
  | failed (kind : FailureKind) (message : String)
  /-- The script took more steps than allowed. -/
  | unfinished
  deriving DecidableEq, Repr, Inhabited

namespace Outcome

def isSuccess : Outcome → Bool
  | .success => true
  | _ => false

/-- What went wrong, in a few words. -/
def reason : Outcome → String
  | .success => ""
  | .failed _ message => message
  | .unfinished => "the script took too many steps"

/-- The text above the results. -/
def banner (o : Outcome) : String :=
  if o.isSuccess then "Simulation Successful! Results updated in the Environment view."
  else
    "Execution Error: " ++ o.reason ++
      ". Ensure your syntax matches the lab's supported actions."

def toJson (o : Outcome) : Json :=
  match o with
  | .success => .obj [("status", .str "success")]
  | .failed kind message =>
    .obj [("status", .str "failed"), ("kind", .str kind.name), ("message", .str message)]
  | .unfinished => .obj [("status", .str "unfinished")]

/-- The outcome of a text that is not a script. -/
def ofSyntaxError (e : Script.SyntaxError) : Outcome :=
  .failed .compile
    (e.message ++ " (line " ++ toString e.place.line ++ ", column " ++ toString e.place.column ++
      ")")

/-- The outcome of a program. -/
def ofEnding : Script.Ending → Outcome
  | .completed => .success
  | .failed message => .failed .execution message
  | .exhausted => .unfinished

end Outcome

/-- What a run has to show.  The duration, in milliseconds, does not count the time before it. -/
structure Report where
  generation : Nat
  scenario : String
  style : Style
  duration : Nat
  outcome : Outcome
  steps : List Step
  console : List String
  deriving Inhabited

/-- What a session works on.  `scenario` is a position in the catalog, `playgrounds` are all that
have been opened, `active` is the number of the one in use, and `clock` the time in milliseconds. -/
structure Session where
  catalog : Catalog
  config : Config
  bus : Bus Listener
  recorder : Recorder
  playgrounds : Array Playground
  active : Nat
  scenario : Nat
  style : Style
  clock : Nat
  draws : Draws

namespace Session

/-- A session on the first scenario of a catalog; steps and runs draw from sources of their own. -/
def new (catalog : Catalog) (config : Config) (stepDraws draws : Draws) : Session :=
  let first := catalog.first
  let bus := (Bus.empty : Bus Listener).subscribe .environment (.playground 0)
  { catalog, config
    bus := bus.subscribe .recorder .recorder
    recorder := .new config.recorder stepDraws 0
    playgrounds := #[.new first.environment 0]
    active := 0
    scenario := 0
    style := first.defaultStyle
    clock := 0
    draws }

/-- The active scenario. -/
def activeScenario (s : Session) : Scenario := s.catalog.getD s.scenario

/-- The active playground. -/
def playground (s : Session) : Playground :=
  s.playgrounds.getD s.active (.new s.activeScenario.environment s.clock)

/-- The steps of the latest run. -/
def trace (s : Session) : List Step := s.recorder.steps

/-- The text of the active playground. -/
def view (s : Session) : String := s.playground.view s.clock

/-- Begins an empty trace. -/
def resetTrace (s : Session) : Session := { s with recorder := s.recorder.reset s.clock }

/-- Opens the active playground anew. -/
def resetPlayground (s : Session) : Session :=
  { s with playgrounds := s.playgrounds.modify s.active (·.reset s.clock) }

/-- Makes a playground of a kind the active one.  If the active one is of this kind, it is only
opened anew; otherwise another one takes its place on the bus. -/
def activate (s : Session) (kind : Environment) : Session :=
  if s.playground.kind = kind then s.resetPlayground
  else
    let number := s.playgrounds.size
    { s with
      playgrounds := s.playgrounds.push (.new kind s.clock)
      active := number
      bus := s.bus.subscribe .environment (.playground number) }

/-- Makes the scenario with the name the active one.  The style is kept if it is supported. -/
def select (s : Session) (id : String) : Except LabError Scenario × Session :=
  match s.catalog.position? id with
  | none => (.error (.scenarioNotFound id), s)
  | some i =>
    let s := { s with scenario := i }
    let scenario := s.activeScenario
    let s := { s with style := scenario.resolveStyle s.style }
    (.ok scenario, (s.activate scenario.environment).resetTrace)

/-- Makes a style the active one. -/
def setStyle (s : Session) (style : Style) : Except LabError Unit × Session :=
  let scenario := s.activeScenario
  if !scenario.supports style then (.error (.unsupportedStyle scenario.id style), s)
  else if style = s.style then (.ok (), s)
  else (.ok (), { s with style := style }.resetPlayground.resetTrace)

/-- Time passes. -/
def sleep (s : Session) (milliseconds : Nat) : Session :=
  { s with clock := s.clock + milliseconds }

/-- A listener hears an event. -/
def deliver (now : Nat) (e : Event) (s : Session) : Listener → Session
  | .playground number => { s with playgrounds := s.playgrounds.modify number (·.hear e) }
  | .recorder => { s with recorder := (s.recorder.record now e).2 }

/-- A run announces an event.  Also, was it heard? -/
def publish (s : Session) (token : Token) (now : Nat) (e : Event) : Bool × Session :=
  (s.bus.isCurrent token, (s.bus.recipients token).foldl (deliver now e) s)

/-- Announces events, each at its time. -/
def announce (s : Session) (token : Token) (timeline : List (Nat × Event)) : Session :=
  timeline.foldl (fun s (now, e) => (s.publish token now e).2) s

/-- The browser that a run drives. -/
def browser (s : Session) : Script.Browser :=
  { style := s.style, latency := s.config.latency, clock := s.clock, draws := s.draws }

/-- Begins a run: nobody else is heard, the trace and the playground are new, and time passes until
the page is there. -/
def begin (s : Session) : Token × Session :=
  let (token, bus) := s.bus.begin
  let s := { s with bus := bus }.resetTrace.resetPlayground
  let s := s.sleep s.config.latency.warmup
  (token, { s with recorder := s.recorder.markStart s.clock })

/-- Runs a program, and all that it did is announced. -/
def perform (fuel : Nat) (s : Session) (token : Token) (program : Script.Program) :
    Outcome × List String × Session :=
  let (ending, machine) := program.run fuel s.browser
  let s := s.announce token machine.browser.timeline.toList
  (.ofEnding ending, machine.console.reverse,
    { s with clock := machine.browser.clock, draws := machine.browser.draws })

/-- Runs a script on the active scenario; `fuel` bounds the steps it may take. -/
def runWith (fuel : Nat) (s : Session) (code : String) : Report × Session :=
  let (token, s) := s.begin
  let started := s.clock
  let (outcome, console, s) :=
    match Script.compile code with
    | .ok program => s.perform fuel token program
    | .error e => (.ofSyntaxError e, [], s)
  ({ generation := token.generation, scenario := s.activeScenario.id, style := s.style,
     duration := s.clock - started, outcome, steps := s.trace, console }, s)

/-- Runs a script on the active scenario. -/
def run (s : Session) (code : String) : Report × Session := s.runWith Script.stepLimit code

end Session

end BrowserLab
