import BrowserLab.Draws
import BrowserLab.Trace.Basic

/-!
# The recorder

The recorder writes down the trace of a run.  The duration of a step is drawn at random and is for
show only.
-/

namespace BrowserLab

/-- How long steps are shown to take: at least `minimum` and less than `spread` more. -/
structure Recorder.Config where
  minimum : Nat := 20
  spread : Nat := 50
  deriving DecidableEq, Repr, Inhabited

/-- The steps since the run began.  Times are in milliseconds. -/
structure Recorder where
  started : Nat
  steps : List Step
  draws : Draws
  config : Recorder.Config

namespace Recorder

def new (config : Config) (draws : Draws) (now : Nat) : Recorder := ⟨now, [], draws, config⟩

/-- A run begins. -/
def reset (r : Recorder) (now : Nat) : Recorder := { r with started := now, steps := [] }

/-- Time is counted from now on. -/
def markStart (r : Recorder) (now : Nat) : Recorder := { r with started := now }

/-- The step that an event leaves. -/
def stepOf (r : Recorder) (now duration : Nat) (event : Event) : Step where
  index := r.steps.length
  action := event.kind
  selector := event.selector
  label := event.label
  value := event.value
  frame := event.frame
  elapsed := now - r.started
  duration := duration
  status := .passed
  network := event.network.map fun x => { x with method := x.effectiveMethod }
  interception := event.interception

/-- Writes an event down. -/
def record (r : Recorder) (now : Nat) (event : Event) : Step × Recorder :=
  let (extra, draws) := r.draws.below (max r.config.spread 1)
  let step := r.stepOf now (r.config.minimum + extra) event
  (step, { r with steps := r.steps ++ [step], draws := draws })

end Recorder

end BrowserLab
