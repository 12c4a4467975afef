import BrowserLab.Draws
import BrowserLab.Script.Heap
import BrowserLab.Style

/-!
# The machine

What a run of a script works on: its heap and scopes, the tests it has registered, and the browser
it drives.  A run does not announce its events itself: it writes them down with the time at which
they happen.  Evaluation ends with a value, with a thrown value, or because it took more steps than
allowed, and in each case the machine it leaves is known.
-/

namespace BrowserLab

/-- How long the page takes to respond to the test, in milliseconds. -/
structure Latency where
  navigate : Nat := 500
  interaction : Nat := 300
  drag : Nat := 600
  upload : Nat := 500
  warmup : Nat := 800
  deriving DecidableEq, Repr, Inhabited

/-- A page that responds at once. -/
def Latency.instant : Latency := ⟨0, 0, 0, 0, 0⟩

namespace Script

/-- What the objects that drive the browser keep during a run.  Times are in milliseconds. -/
structure Browser where
  style : Style
  latency : Latency
  clock : Nat
  draws : Draws
  url : Option String := none
  /-- The first one registered comes first. -/
  interceptions : List Interception := []
  commands : Dict Value := []
  /-- What has happened, the first event first. -/
  timeline : Array (Nat × Event) := #[]
  /-- The methods of handles that have been called, the last one first. -/
  calls : List (Handle × String) := []

/-- The state of a run. -/
structure Machine where
  heap : Heap
  scopes : Scopes Value
  /-- The registered tests, the last one first. -/
  tests : List Value := []
  /-- What is called before each test, the first one first. -/
  hooks : List Value := []
  /-- The lines of the console, the last one first. -/
  console : List String := []
  browser : Browser
  /-- How many more steps are taken before it stops, if they are counted. -/
  stepsLeft : Option Nat := none

/-- Takes a step, if there is one left to take. -/
def Machine.takeStep (m : Machine) : Bool × Machine :=
  match m.stepsLeft with
  | none => (true, m)
  | some 0 => (false, m)
  | some (n + 1) => (true, { m with stepsLeft := some n })

/-- Why evaluation stopped. -/
inductive Stop where
  | thrown (v : Value)
  | exhausted

/-- Evaluation: it changes the machine, and it may stop. -/
abbrev Eval (α : Type) := ExceptT Stop (StateM Machine) α

namespace Eval

/-- Looks at the heap. -/
def heap {α : Type} (f : Heap → α) : Eval α := do
  let m ← get
  return f m.heap

/-- The text of a value. -/
def display (v : Value) : Eval String := heap (·.display v)

/-- The number of a value. -/
def number (v : Value) : Eval Float := heap (·.number v)

/-- The JSON form of a value. -/
def json (v : Value) : Eval Json := heap (·.json v)

/-- A member of an object that holds options. -/
def option? (v : Value) (key : String) : Eval (Option Value) := heap (·.option? v key)

/-- Changes the heap. -/
def modifyHeap (f : Heap → Heap) : Eval Unit :=
  modify fun m => { m with heap := f m.heap }

/-- Makes something in the heap. -/
def allocate (f : Heap → Value × Heap) : Eval Value :=
  modifyGet fun m =>
    let (v, heap) := f m.heap
    (v, { m with heap := heap })

def newArray (items : Array Value) : Eval Value := allocate (·.newArray items)

def newObject (members : List (String × Value)) : Eval Value :=
  allocate (·.newObject (Dict.ofPairs members))

/-- The value of a JSON form. -/
def ofJson (j : Json) : Eval Value := allocate (·.ofJson j)

/-- Throws a value. -/
def throwValue {α : Type} (v : Value) : Eval α := throw (.thrown v)

/-- Throws an error with a name and a message. -/
def raise {α : Type} (name message : String) : Eval α := do
  let e ← newObject [("name", .string name), ("message", .string message)]
  throwValue e

def typeError {α : Type} (message : String) : Eval α := raise "TypeError" message

def rangeError {α : Type} (message : String) : Eval α := raise "RangeError" message

def referenceError {α : Type} (message : String) : Eval α := raise "ReferenceError" message

def syntaxError {α : Type} (message : String) : Eval α := raise "SyntaxError" message

/-- Looks at the browser. -/
def browser {α : Type} (f : Browser → α) : Eval α := do
  let m ← get
  return f m.browser

/-- Changes the browser. -/
def modifyBrowser (f : Browser → Browser) : Eval Unit :=
  modify fun m => { m with browser := f m.browser }

/-- An event happens now. -/
def emit (e : Event) : Eval Unit :=
  modifyBrowser fun b => { b with timeline := b.timeline.push (b.clock, e) }

/-- Time passes. -/
def pause (milliseconds : Nat) : Eval Unit :=
  modifyBrowser fun b => { b with clock := b.clock + milliseconds }

/-- Opens a scope within another. -/
def openScope (parent : Nat) : Eval Nat :=
  modifyGet fun m =>
    let (scope, scopes) := m.scopes.child parent
    (scope, { m with scopes := scopes })

/-- Declares a name. -/
def declare (scope : Nat) (name : String) (v : Value) (mutable : Bool) : Eval Unit :=
  modify fun m => { m with scopes := m.scopes.declare scope name v mutable }

/-- What a name means, if it means anything. -/
def lookup? (scope : Nat) (name : String) : Eval (Option Value) := do
  let m ← get
  return m.scopes.lookup scope name

/-- Assigns to a name. -/
def assignName (scope : Nat) (name : String) (v : Value) : Eval Unit := do
  let failure ← modifyGet fun m =>
    let (failure, scopes) := m.scopes.assign scope name v
    (failure, { m with scopes := scopes })
  match failure with
  | none => return ()
  | some e => raise e.name e.message

/-- The message of a thrown value: its own if it is an error, else its text. -/
def messageOf (h : Heap) (v : Value) : String :=
  match h.field? v "message" with
  | some message => h.display message
  | none => h.display v

end Eval

end Script

end BrowserLab
