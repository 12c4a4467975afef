import BrowserLab.Bus
import BrowserLab.Script.Run
import BrowserLab.Trace.Recorder

/-!
# Runs side by side

Several runs share one bus and one recorder.  What they do is put in the order of time, and of what
happens at the same time the run that was named first comes first.
-/

namespace BrowserLab.Concurrent

/-- A run that is to begin at a time in milliseconds; it may clear the recorder then. -/
structure Plan where
  style : Style
  start : Nat := 0
  clears : Bool := true
  code : String

/-- What a run does on the bus. -/
inductive Act where
  | begin (clears : Bool)
  | announce (e : Event)
  | finish

/-- How the script of a run went, once it is a script. -/
abbrev Performed := Except Script.SyntaxError (Script.Ending × Script.Machine)

/-- The script of a run, run on its own. -/
def Plan.perform (p : Plan) (draws : Draws) : Performed :=
  match Script.compile p.code with
  | .error e => .error e
  | .ok program =>
    .ok (program.run Script.stepLimit
      { style := p.style, latency := {}, clock := p.start, draws := draws })

/-- What a run does, with the times. -/
def Plan.acts (p : Plan) (done : Performed) : List (Nat × Act) :=
  match done with
  | .error _ => [(p.start, .begin p.clears)]
  | .ok (_, m) =>
    [(p.start, .begin p.clears)] ++
      m.browser.timeline.toList.map (fun (now, e) => (now, .announce e)) ++
      [(m.browser.clock, .finish)]

/-- The bus and the recorder that listens on it, the token of each run that has begun, and whether
each run that has finished was still heard. -/
structure Stage where
  bus : Bus Recorder
  tokens : List (Nat × Token) := []
  current : List (Nat × Bool) := []

def Stage.token (s : Stage) (run : Nat) : Token :=
  ((s.tokens.find? fun (i, _) => i = run).map Prod.snd).getD ⟨0⟩

def Stage.wasCurrent (s : Stage) (run : Nat) : Bool :=
  ((s.current.find? fun (i, _) => i = run).map Prod.snd).getD false

/-- The steps that the recorder has. -/
def Stage.steps (s : Stage) : List Step :=
  match s.bus.listener? .recorder with
  | some r => r.steps
  | none => []

/-- A run announces an event.  Also, was it heard? -/
def Stage.publish (s : Stage) (now run : Nat) (e : Event) : Bool × Stage :=
  let (heard, bus) := s.bus.publish (s.token run) fun r => (r.record now e).2
  (heard, { s with bus := bus })

/-- A run does something. -/
def Stage.act (s : Stage) (now run : Nat) (a : Act) : Stage :=
  match a with
  | .begin clears =>
    let (token, bus) := s.bus.begin
    let bus := if clears then bus.mapListeners (·.reset now) else bus
    { s with bus := bus, tokens := (run, token) :: s.tokens }
  | .announce e => (s.publish now run e).2
  | .finish => { s with current := (run, s.bus.isCurrent (s.token run)) :: s.current }

/-- All that the runs do, in order. -/
def schedule (acts : List (List (Nat × Act))) : List (Nat × Nat × Act) :=
  let all := (acts.zipIdx.map fun (acts, run) => acts.map fun (now, a) => (now, run, a)).flatten
  all.mergeSort fun (t, i, _) (u, j, _) => t < u || (t = u && i ≤ j)

/-- A recorder listens, and no run has begun. -/
def Stage.start (recorder : Recorder) : Stage :=
  { bus := (Bus.empty : Bus Recorder).subscribe .recorder recorder }

/-- The runs do one thing after the other, each at its time. -/
def Stage.play (s : Stage) (acts : List (Nat × Nat × Act)) : Stage :=
  acts.foldl (fun s (now, run, a) => s.act now run a) s

/-- Everything has been done. -/
def play (recorder : Recorder) (acts : List (List (Nat × Act))) : Stage :=
  (Stage.start recorder).play (schedule acts)

end BrowserLab.Concurrent
