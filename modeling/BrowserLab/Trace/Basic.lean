import BrowserLab.Event.Document

/-!
# The trace of a run

Each event of a run leaves a step, which says when it happened and how long it is shown to have
taken.
-/

namespace BrowserLab

/-- How a step ended. -/
inductive Step.Status where
  | passed
  | failed
  deriving DecidableEq, Repr, Inhabited

def Step.Status.name : Step.Status → String
  | .passed => "passed"
  | .failed => "failed"

def Step.Status.byName : List (String × Step.Status) :=
  [("passed", .passed), ("failed", .failed)]

/-- An event with its place and time in the run.  Times are in milliseconds. -/
structure Step where
  index : Nat
  action : Event.Kind
  selector : Option String
  label : Option String
  value : Option String
  frame : FramePath
  elapsed : Nat
  duration : Nat
  status : Step.Status
  network : Option Exchange
  interception : Option Interception
  deriving Inhabited

namespace Step

open Document

/-- What the step was done to, in a few words. -/
def target (s : Step) : String :=
  match s.network, s.interception with
  | some x, _ => x.method ++ " " ++ x.url
  | none, some i => i.glob
  | none, none => (s.selector <|> s.label <|> s.value).getD "/playground"

def toJson (s : Step) : Json :=
  .obj ([("index", .ofNat s.index), ("action", .str s.action.name)] ++
    Json.member? "selector" Json.str s.selector ++ Json.member? "label" Json.str s.label ++
    Json.member? "value" Json.str s.value ++ s.frame.member? ++
    [("elapsed_ms", .ofNat s.elapsed), ("duration_ms", .ofNat s.duration),
      ("status", .str s.status.name)] ++
    Json.member? "network" Exchange.toJson s.network ++
    Json.member? "interception" Interception.toJson s.interception)

def ofDocument? {δ : Type} [Document δ] (d : δ) : Option Step := do
  let fields ← record?
    ["index", "action", "selector", "label", "value", "frame_path", "elapsed_ms", "duration_ms",
      "status", "network", "interception"] d
  let index ← required fields "index" (natural? wordBound)
  let action ← required fields "action" (oneOf Event.Kind.byName)
  let selector ← optional fields "selector" text?
  let label ← optional fields "label" text?
  let value ← optional fields "value" text?
  let frame ← withDefault fields "frame_path" FramePath.root FramePath.ofDocument?
  let elapsed ← required fields "elapsed_ms" (natural? wordBound)
  let duration ← required fields "duration_ms" (natural? wordBound)
  let status ← required fields "status" (oneOf Status.byName)
  let network ← optional fields "network" Exchange.ofDocument?
  let interception ← optional fields "interception" Interception.ofDocument?
  return { index, action, selector, label, value, frame, elapsed, duration, status, network,
           interception }

end Step

end BrowserLab
