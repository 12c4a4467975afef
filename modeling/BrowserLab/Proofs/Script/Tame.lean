import BrowserLab.Proofs.Script.Does
import BrowserLab.Script.Eval

/-!
# What works on the heap only

Methods of text, numbers and arrays, operators, and reading and writing properties are tame: they
work on the heap, and if they fail then by throwing a value.
-/

namespace BrowserLab.Script

namespace Tame

theorem rangeError (message : String) : Tame (Eval.rangeError message : Eval Value) := .raise _ _

theorem syntaxError {α : Type} (message : String) : Tame (Eval.syntaxError message : Eval α) :=
  .raise _ _

/-! ### Text and numbers -/

theorem optionalNumber (args : List Value) (i : Nat) : Tame (optionalNumber args i) := by
  unfold Script.optionalNumber
  split
  · exact .pure _
  · exact (Does.number _).bind fun _ => .pure _

theorem padStartMethod (s : String) (args : List Value) : Tame (padStartMethod s args) := by
  unfold Script.padStartMethod
  refine (Does.number _).bind fun width => ?_
  split
  · exact rangeError _
  · dsimp only
    generalize (if (width.isNaN || decide (width ≤ 0.0)) = true then 0 else _) = places
    split
    · exact .pure _
    · exact (Does.display _).bind fun _ => .pure _

theorem repeatMethod (s : String) (args : List Value) : Tame (repeatMethod s args) := by
  unfold Script.repeatMethod
  refine (Does.number _).bind fun count => ?_
  dsimp only
  generalize (if count.isNaN = true then 0.0 else count) = count
  split
  · exact rangeError _
  · split
    · exact rangeError _
    · exact .pure _

theorem splitMethod (s : String) (args : List Value) : Tame (splitMethod s args) := by
  unfold Script.splitMethod
  split
  · exact .newArray _
  · exact (Does.display _).bind fun separator => .newArray _

theorem stringMethod (s name : String) (args : List Value) : Tame (stringMethod s name args) := by
  unfold Script.stringMethod
  dsimp only
  split
  case h_7 => exact splitMethod s args
  case h_8 => exact (Does.display _).bind fun _ => (Does.display _).bind fun _ => .pure _
  case h_9 => exact (optionalNumber _ _).bind fun _ => (optionalNumber _ _).bind fun _ => .pure _
  case h_10 => exact (optionalNumber _ _).bind fun _ => (optionalNumber _ _).bind fun _ => .pure _
  case h_12 =>
    refine (Does.number _).bind fun _ => ?_
    split <;> exact .pure _
  case h_13 =>
    refine (Does.number _).bind fun _ => ?_
    split <;> exact .pure _
  case h_14 => exact padStartMethod s args
  case h_15 => exact repeatMethod s args
  case h_17 => exact .typeError _
  all_goals first
    | exact .pure _
    | exact (Does.display _).bind fun _ => .pure _

theorem numberMethod (x : Float) (name : String) (args : List Value) :
    Tame (numberMethod x name args) := by
  unfold Script.numberMethod
  split
  · split
    · exact .pure _
    · exact (Does.number _).bind fun _ => .pure _
  · exact .pure _
  · exact .typeError _

/-! ### Arrays -/

theorem iterate (v : Value) : Tame (iterate v) := by
  unfold Script.iterate
  split
  · exact .heap _
  · exact .pure _
  · exact (Does.display _).bind fun _ => .typeError _

theorem arrayMethod (ref : Nat) (name : String) (args : List Value) :
    Tame (arrayMethod ref name args) := by
  unfold Script.arrayMethod
  split
  · exact (Does.modifyHeap _).bind fun _ => .heap _
  · exact (Does.heap _).bind fun _ => (Does.modifyHeap _).bind fun _ => .pure _
  · exact (Does.heap _).bind fun _ => (Does.modifyHeap _).bind fun _ => .pure _
  · exact .heap _
  · exact .heap _
  · split
    · exact (Does.pure _).bind fun _ => .heap _
    · exact (Does.display _).bind fun _ => .heap _
  · refine (Does.heap _).bind fun _ => (optionalNumber _ _).bind fun _ => ?_
    exact (optionalNumber _ _).bind fun _ => .newArray _
  · exact (Does.heap _).bind fun _ => .newArray _
  · exact (Does.modifyHeap _).bind fun _ => .pure _
  · refine (Does.heap _).bind fun _ => (Does.number _).bind fun _ => ?_
    split <;> exact .pure _
  · exact (Does.display _).bind fun _ => .pure _
  · exact .typeError _

theorem finish (visit : Visit) (kept : List Value) : Tame (visit.finish kept) := by
  cases visit with
  | filter => exact .newArray _
  | map => exact .newArray _
  | _ => exact .pure _

/-! ### Operators and properties -/

theorem isMember (key v : Value) : Tame (isMember key v) := by
  unfold Script.isMember
  refine (Does.heap _).bind fun h => ?_
  dsimp only
  split
  · exact .pure _
  · split <;> exact .pure _
  · exact .typeError _

theorem binary (op : BinaryOp) (a b : Value) : Tame (binary op a b) := by
  unfold Script.binary
  refine (Does.heap _).bind fun h => ?_
  cases op with
  | isIn => exact (isMember _ _).bind fun _ => .pure _
  | _ => exact .pure _

theorem getProperty (v : Value) (key : String) : Tame (getProperty v key) := by
  unfold Script.getProperty
  refine (Does.heap _).bind fun h => ?_
  split
  case h_1 => exact .typeError _
  case h_2 => exact .typeError _
  case h_8 => split <;> exact .pure _
  all_goals exact .pure _

theorem setProperty (v : Value) (key : String) (new : Value) : Tame (setProperty v key new) := by
  unfold Script.setProperty
  split
  · exact .typeError _
  · exact .typeError _
  · exact .modifyHeap _
  · split
    · exact .modifyHeap _
    · exact .pure _
  · exact .pure _

theorem constructed (v : Value) : Tame (Eval.constructed v) := by
  unfold Eval.constructed
  split
  · exact .pure _
  · exact .pure _
  · exact .newObject _

theorem itemAt (vs : List Value) (i : Nat) (rest : Bool) : Tame (Eval.itemAt vs i rest) := by
  unfold Eval.itemAt
  split
  · exact .newArray _
  · exact .pure _

/-! ### Functions that are there from the beginning -/

theorem stringify (args : List Value) : Tame (stringify args) := by
  unfold Script.stringify
  dsimp only
  split
  · exact .pure _
  · split
    · exact .pure _
    · exact (Does.json _).bind fun _ => (Does.number _).bind fun _ => .pure _

theorem parseJson (args : List Value) : Tame (parseJson args) := by
  unfold Script.parseJson
  refine (Does.display _).bind fun text => ?_
  split
  · exact .ofJson _
  · exact syntaxError _

theorem entryPairs (es : List (String × Value)) : Tame (entryPairs es) := by
  induction es with
  | nil => exact .pure _
  | cons entry rest ih => exact (Does.newArray _).bind fun pair => ih.bind fun pairs => .pure _

theorem mathFunction {f : MathFunction} (hf : f ≠ .random) (args : List Value) :
    Tame (mathFunction f args) := by
  refine (Does.number _).bind fun x => ?_
  cases f with
  | max => exact (Does.heap _).bind fun xs => .pure _
  | min => exact (Does.heap _).bind fun xs => .pure _
  | random => exact absurd rfl hf
  | _ => exact .pure _

end Tame

/-- Does the function work on more than the heap: does it register a test or a hook, write to the
console or draw a number? -/
def Builtin.Reaches : Builtin → Prop
  | .test | .beforeEach | .console _ | .math .random => True
  | _ => False

theorem Tame.callBuiltin {b : Builtin} (hb : ¬ b.Reaches) (args : List Value) :
    Tame (callBuiltin b args) := by
  unfold Script.callBuiltin
  cases b <;> dsimp only
  case test => exact absurd trivial hb
  case describe =>
    unfold openGroup
    split
    · exact .pure _
    · exact (Does.display _).bind fun _ => .typeError _
  case beforeEach => exact absurd trivial hb
  case console level => exact absurd trivial hb
  case jsonStringify => exact (stringify args).bind fun _ => .pure _
  case jsonParse => exact (parseJson args).bind fun _ => .pure _
  case bufferFrom => exact (Does.display _).bind fun _ => .pure _
  case math f =>
    have hf : f ≠ .random := fun h => hb (h ▸ trivial)
    exact (mathFunction hf args).bind fun _ => .pure _
  case errorMaker name =>
    split
    · exact (Does.pure _).bind fun _ => (Does.newObject _).bind fun _ => .pure _
    · exact (Does.display _).bind fun _ => (Does.newObject _).bind fun _ => .pure _
  case objectKeys => exact (Does.heap _).bind fun _ => (Does.newArray _).bind fun _ => .pure _
  case objectValues => exact (Does.heap _).bind fun _ => (Does.newArray _).bind fun _ => .pure _
  case objectEntries =>
    refine (Does.heap _).bind fun es => (entryPairs es).bind fun _ => ?_
    exact (Does.newArray _).bind fun _ => .pure _
  case isArray => split <;> exact .pure _
  case stringOf =>
    split
    · exact .pure _
    · exact (Does.display _).bind fun _ => .pure _
  case numberOf =>
    split
    · exact .pure _
    · exact (Does.number _).bind fun _ => .pure _
  case promiseAll =>
    split
    · exact (Does.heap _).bind fun _ => (Does.newArray _).bind fun _ => .pure _
    · exact .typeError _
  all_goals exact .pure _

end BrowserLab.Script
