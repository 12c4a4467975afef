/-!
# The bus

Runs announce events on a bus.  A run holds the generation in which it began; when another run
begins, what the earlier one announces is no longer heard.  There is at most one listener in each
role, and listeners hear an event in the order in which their roles were first taken.
-/

namespace BrowserLab

/-- What a listener is there for. -/
inductive Role where
  | environment
  | recorder
  deriving DecidableEq, Repr, Inhabited

def Role.name : Role → String
  | .environment => "environment"
  | .recorder => "recorder"

/-- The generation in which a run began. -/
structure Token where
  generation : Nat
  deriving DecidableEq, Repr, Inhabited

/-- The generation that is heard, and the listeners in order. -/
structure Bus (σ : Type) where
  generation : Nat
  listeners : List (Role × σ)

namespace Bus

variable {σ : Type}

def empty : Bus σ := ⟨0, []⟩

/-- The listener in a role. -/
def listener? (bus : Bus σ) (role : Role) : Option σ :=
  (bus.listeners.find? fun (r, _) => r = role).map Prod.snd

def has (bus : Bus σ) (role : Role) : Bool := (bus.listener? role).isSome

/-- The listeners with the one in the role replaced, or with a new one at the end. -/
def place (role : Role) (s : σ) : List (Role × σ) → List (Role × σ)
  | [] => [(role, s)]
  | (r, t) :: rest => if r = role then (r, s) :: rest else (r, t) :: place role s rest

/-- Puts a listener into a role. -/
def subscribe (bus : Bus σ) (role : Role) (s : σ) : Bus σ :=
  { bus with listeners := place role s bus.listeners }

/-- Leaves a role without listener. -/
def unsubscribe (bus : Bus σ) (role : Role) : Bus σ :=
  { bus with listeners := bus.listeners.filter fun (r, _) => r ≠ role }

/-- The token of the run that is heard. -/
def current (bus : Bus σ) : Token := ⟨bus.generation⟩

/-- Is the run with this token heard? -/
def isCurrent (bus : Bus σ) (token : Token) : Bool := bus.generation = token.generation

/-- A new run begins, and from now on only it is heard. -/
def begin (bus : Bus σ) : Token × Bus σ :=
  (⟨bus.generation + 1⟩, { bus with generation := bus.generation + 1 })

/-- Who hears what the run with this token announces. -/
def recipients (bus : Bus σ) (token : Token) : List σ :=
  if bus.isCurrent token then bus.listeners.map Prod.snd else []

/-- Changes all listeners. -/
def mapListeners (bus : Bus σ) (f : σ → σ) : Bus σ :=
  { bus with listeners := bus.listeners.map fun (r, s) => (r, f s) }

/-- A run announces something: `hear` is what it does to a listener.  Also, was it heard? -/
def publish (bus : Bus σ) (token : Token) (hear : σ → σ) : Bool × Bus σ :=
  if bus.isCurrent token then (true, bus.mapListeners hear) else (false, bus)

/-- What can be asked of a bus on which runs announce an `ε`. -/
inductive Call (σ ε : Type) where
  | subscribe (role : Role) (s : σ)
  | unsubscribe (role : Role)
  | begin
  | publish (token : Token) (e : ε)

/-- What a bus answers. -/
inductive Answer (σ : Type) where
  /-- Somebody listens in the role now, in place of the old listener if there was one. -/
  | subscribed (old : Option σ)
  /-- Nobody listens in the role now.  Did anybody before? -/
  | unsubscribed (found : Bool)
  | began (token : Token)
  /-- Was the announcement heard? -/
  | published (heard : Bool)
  deriving DecidableEq, Repr, Inhabited

/-- What a call comes to: the answer, who hears what because of it, in order, and the bus behind
it. -/
structure Effect (σ ε : Type) where
  answer : Answer σ
  heard : List (σ × ε) := []
  bus : Bus σ

/-- A call of a bus. -/
def call {ε : Type} (bus : Bus σ) : Call σ ε → Effect σ ε
  | .subscribe role s =>
    { answer := .subscribed (bus.listener? role), bus := bus.subscribe role s }
  | .unsubscribe role =>
    let left := bus.unsubscribe role
    { answer := .unsubscribed (left.listeners.length ≠ bus.listeners.length), bus := left }
  | .begin =>
    let (token, begun) := bus.begin
    { answer := .began token, bus := begun }
  | .publish token e =>
    { answer := .published (bus.isCurrent token), heard := (bus.recipients token).map (·, e), bus }

end Bus

end BrowserLab
