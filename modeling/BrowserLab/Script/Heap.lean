import BrowserLab.Json.Printer
import BrowserLab.Script.Value
import BrowserLab.Text.Blank

/-!
# The heap

Arrays, objects and functions live in the heap and are never moved or taken away.  What depends on
the contents of a value is defined here: its text, its number, its JSON form.  How deep values nest
is bounded by the number of places in the heap, unless a value contains itself.
-/

namespace BrowserLab.Script

/-- All arrays, objects and functions that have been made. -/
structure Heap where
  arrays : Array (Array Value)
  objects : Array (Dict Value)
  closures : Array Closure

namespace Heap

def empty : Heap := ⟨#[], #[], #[]⟩

def array (h : Heap) (ref : Nat) : Array Value := h.arrays.getD ref #[]

def object (h : Heap) (ref : Nat) : Dict Value := h.objects.getD ref []

def closure? (h : Heap) (ref : Nat) : Option Closure := h.closures[ref]?

/-- Makes an array. -/
def newArray (h : Heap) (items : Array Value) : Value × Heap :=
  (.array h.arrays.size, { h with arrays := h.arrays.push items })

/-- Makes an object. -/
def newObject (h : Heap) (members : Dict Value) : Value × Heap :=
  (.object h.objects.size, { h with objects := h.objects.push members })

/-- Makes a function. -/
def newClosure (h : Heap) (c : Closure) : Value × Heap :=
  (.closure h.closures.size, { h with closures := h.closures.push c })

def setArray (h : Heap) (ref : Nat) (items : Array Value) : Heap :=
  { h with arrays := h.arrays.setIfInBounds ref items }

def modifyArray (h : Heap) (ref : Nat) (f : Array Value → Array Value) : Heap :=
  { h with arrays := h.arrays.modify ref f }

def modifyObject (h : Heap) (ref : Nat) (f : Dict Value → Dict Value) : Heap :=
  { h with objects := h.objects.modify ref f }

/-- A bound on how deep values nest. -/
def depth (h : Heap) : Nat := h.arrays.size + h.objects.size + 1

/-- A member of an object. -/
def field? (h : Heap) (v : Value) (key : String) : Option Value :=
  match v with
  | .object ref => (h.object ref).get? key
  | _ => none

/-- A member of an object that holds options, unless it is missing or null. -/
def option? (h : Heap) (v : Value) (key : String) : Option Value :=
  match h.field? v key with
  | some w => if w.isNullish then none else some w
  | none => none

/-- The text of a value that nests at most as deep as given. -/
def displayTo (h : Heap) : Nat → Value → String
  | 0, _ => ""
  | depth + 1, v =>
    match v with
    | .undefined => "undefined"
    | .null => "null"
    | .bool b => if b then "true" else "false"
    | .number x => Number.display x
    | .string s => s
    | .array ref =>
      ",".intercalate ((h.array ref).toList.map fun w =>
        if w.isNullish then "" else displayTo h depth w)
    | .object ref =>
      match (h.object ref).get? "name", (h.object ref).get? "message" with
      | some (.string name), some message => name ++ ": " ++ displayTo h depth message
      | _, _ => "[object Object]"
    | .closure ref =>
      match (h.closure? ref).bind fun c => c.function.name? with
      | some name => "function " ++ name ++ "() \x7b ... \x7d"
      | none => "() => \x7b ... \x7d"
    | .builtin _ => "function () \x7b [native code] \x7d"
    | .method _ _ => "function () \x7b [native code] \x7d"
    | .handle hd => "[" ++ hd.typeName ++ "]"

/-- The text of a value, which is also the key it stands for. -/
def display (h : Heap) (v : Value) : String := h.displayTo h.depth v

/-- The number that a text stands for; blank text stands for zero. -/
def numberOfText (s : String) : Float :=
  let s := Text.trim s
  if s.isEmpty then 0.0 else (Number.read? s).getD Number.nan

/-- The number of a value that nests at most as deep as given. -/
def numberTo (h : Heap) : Nat → Value → Float
  | 0, _ => Number.nan
  | depth + 1, v =>
    match v with
    | .null => 0.0
    | .bool b => if b then 1.0 else 0.0
    | .number x => x
    | .string s => numberOfText s
    | .array ref =>
      match (h.array ref).toList with
      | [] => 0.0
      | [w] => numberTo h depth w
      | _ => Number.nan
    | _ => Number.nan

/-- The number that a value stands for. -/
def number (h : Heap) (v : Value) : Float := h.numberTo h.depth v

/-- The JSON form of a value that nests at most as deep as given. -/
def jsonTo (h : Heap) : Nat → Value → Json
  | 0, _ => .null
  | depth + 1, v =>
    match v with
    | .bool b => .bool b
    | .number x => .ofNumber x
    | .string s => .str s
    | .array ref => .arr ((h.array ref).toList.map (jsonTo h depth))
    | .object ref =>
      .obj ((h.object ref).filterMap fun (k, w) =>
        match w with
        | .undefined => none
        | w => if w.isCallable then none else some (k, jsonTo h depth w))
    | _ => .null

/-- The JSON form of a value.  What JSON has no form for is null, and missing from objects. -/
def json (h : Heap) (v : Value) : Json := h.jsonTo h.depth v

/-- Are the JSON forms of the values equal? -/
def deepEquals (h : Heap) (a b : Value) : Bool := h.json a == h.json b

/-- Are the values equal, after numbers have been made of them where they are compared with a
boolean or across numbers and text? -/
def looseEquals (h : Heap) (a b : Value) : Bool :=
  if a.isNullish || b.isNullish then a.isNullish && b.isNullish
  else
    match a, b with
    | .number x, .string _ => x == h.number b
    | .string _, .number y => h.number a == y
    | .bool _, _ => h.number a == h.number b
    | _, .bool _ => h.number a == h.number b
    | _, _ => a.strictEquals b

mutual

/-- The value of a JSON form. -/
def ofJson (h : Heap) (j : Json) : Value × Heap :=
  match j with
  | .null => (.null, h)
  | .bool b => (.bool b, h)
  | .int i => (.number (Number.signed (i < 0) i.natAbs), h)
  | .real x => (.number x, h)
  | .str s => (.string s, h)
  | .arr items =>
    let (vs, h) := ofItems h items
    h.newArray vs.toArray
  | .obj members =>
    let (vs, h) := ofMembers h members
    h.newObject (Dict.ofPairs vs)

def ofItems (h : Heap) (items : List Json) : List Value × Heap :=
  match items with
  | [] => ([], h)
  | j :: rest =>
    let (v, h) := ofJson h j
    let (vs, h) := ofItems h rest
    (v :: vs, h)

def ofMembers (h : Heap) (members : List (String × Json)) : List (String × Value) × Heap :=
  match members with
  | [] => ([], h)
  | (k, j) :: rest =>
    let (v, h) := ofJson h j
    let (vs, h) := ofMembers h rest
    ((k, v) :: vs, h)

end

/-- The text of a value for the console: text as it is inside quotes, arrays and objects as JSON. -/
def inspect (h : Heap) (quote : String → String) (v : Value) : String :=
  match v with
  | .string s => quote s
  | .array _ => (h.json v).compact
  | .object _ => (h.json v).compact
  | v => h.display v

end Heap

end BrowserLab.Script
