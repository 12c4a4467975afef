import BrowserLab.Script.StringMethod

/-!
# Methods of arrays

The methods that call no function.  Those that call one for each item are part of evaluation; what
they make of the answers is told here.
-/

namespace BrowserLab.Script

/-- The methods of arrays. -/
def arrayMethods : List String :=
  ["push", "pop", "shift", "find", "findIndex", "filter", "map", "some", "every", "includes",
    "indexOf", "forEach", "join", "slice", "concat", "reduce", "reverse", "at", "toString"]

/-- The methods that call a function for each item. -/
inductive Visit where
  | find
  | findIndex
  | filter
  | map
  | some
  | every
  | forEach
  deriving DecidableEq, Repr

def Visit.ofName? : String → Option Visit
  | "find" => Option.some .find
  | "findIndex" => Option.some .findIndex
  | "filter" => Option.some .filter
  | "map" => Option.some .map
  | "some" => Option.some .some
  | "every" => Option.some .every
  | "forEach" => Option.some .forEach
  | _ => none

/-- The result that an answer for one item decides, if it decides it. -/
def Visit.decided? (visit : Visit) (i : Nat) (item answer : Value) : Option Value :=
  match visit with
  | .find => if answer.truthy then Option.some item else none
  | .findIndex => if answer.truthy then Option.some (.number (Float.ofNat i)) else none
  | .some => if answer.truthy then Option.some (.bool true) else none
  | .every => if answer.truthy then none else Option.some (.bool false)
  | _ => none

/-- What an answer for one item adds to the new array. -/
def Visit.kept (visit : Visit) (item answer : Value) : List Value :=
  match visit with
  | .filter => if answer.truthy then [item] else []
  | .map => [answer]
  | _ => []

/-- The result when no answer has decided it. -/
def Visit.finish (visit : Visit) (kept : List Value) : Eval Value :=
  match visit with
  | .find => return .undefined
  | .findIndex => return .number (-1.0)
  | .some => return .bool false
  | .every => return .bool true
  | .forEach => return .undefined
  | _ => Eval.newArray kept.toArray

/-- The items of a value that has some. -/
def iterate (v : Value) : Eval (List Value) := do
  match v with
  | .array ref => Eval.heap fun h => (h.array ref).toList
  | .string s => return s.toList.map charValue
  | v => Eval.typeError ((← Eval.display v) ++ " is not iterable")

/-- The texts of items with a separator between them; nothing stands for a missing item. -/
def joinItems (h : Heap) (separator : String) (items : List Value) : String :=
  separator.intercalate (items.map fun v => if v.isNullish then "" else h.display v)

/-- The items of an array with those of the arguments behind them. -/
def concatItems (h : Heap) (items : Array Value) (args : List Value) : Array Value :=
  args.foldl (fun items v =>
    match v with
    | .array ref => items ++ h.array ref
    | v => items.push v) items

/-- A method of the array at a place of the heap. -/
def arrayMethod (ref : Nat) (name : String) (args : List Value) : Eval Value := do
  match name with
  | "push" =>
    Eval.modifyHeap (·.modifyArray ref fun items => args.foldl Array.push items)
    Eval.heap fun h => .number (Float.ofNat (h.array ref).size)
  | "pop" =>
    let last ← Eval.heap fun h => (h.array ref).back?
    Eval.modifyHeap (·.modifyArray ref Array.pop)
    return last.getD .undefined
  | "shift" =>
    let first ← Eval.heap fun h => (h.array ref)[0]?
    Eval.modifyHeap (·.modifyArray ref fun items => items.extract 1 items.size)
    return first.getD .undefined
  | "includes" =>
    Eval.heap fun h => .bool ((h.array ref).any fun v => v.sameValue (argument args 0))
  | "indexOf" =>
    Eval.heap fun h =>
      match (h.array ref).toList.findIdx? fun v => v.strictEquals (argument args 0) with
      | some i => .number (Float.ofNat i)
      | none => .number (-1.0)
  | "join" =>
    let separator ←
      match argument args 0 with
      | .undefined => pure ","
      | v => Eval.display v
    Eval.heap fun h => .string (joinItems h separator (h.array ref).toList)
  | "slice" =>
    let items ← Eval.heap (·.array ref)
    let (start, finish) :=
      pieceBounds items.size (← optionalNumber args 0) (← optionalNumber args 1)
    Eval.newArray (items.extract start finish)
  | "concat" =>
    let items ← Eval.heap fun h => concatItems h (h.array ref) args
    Eval.newArray items
  | "reverse" =>
    Eval.modifyHeap (·.modifyArray ref Array.reverse)
    return .array ref
  | "at" =>
    let items ← Eval.heap (·.array ref)
    match itemPosition? items.size (← Eval.number (argument args 0)) with
    | some i => return items.getD i .undefined
    | none => return .undefined
  | "toString" => return .string (← Eval.display (.array ref))
  | _ => Eval.typeError ("array." ++ name ++ " is not a function")

end BrowserLab.Script
