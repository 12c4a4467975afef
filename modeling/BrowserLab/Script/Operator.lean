import BrowserLab.Script.Machine

/-!
# Infix operators

Arithmetic and comparison.  Text is compared with text by code points, everything else by its
number.
-/

namespace BrowserLab.Script

/-- Does adding the value to another make text? -/
def isTextual : Value → Bool
  | .string _ => true
  | .array _ => true
  | .object _ => true
  | _ => false

/-- Compares two values; numbers of which one is not a number have no order. -/
def order? (h : Heap) (a b : Value) : Option Ordering :=
  match a, b with
  | .string s, .string t => some (if s < t then .lt else if s = t then .eq else .gt)
  | _, _ =>
    let x := h.number a
    let y := h.number b
    if x < y then some .lt
    else if x == y then some .eq
    else if y < x then some .gt
    else none

/-- An operation on the numbers of two values. -/
def arithmetic (h : Heap) (f : Float → Float → Float) (a b : Value) : Value :=
  .number (f (h.number a) (h.number b))

/-- A sum of numbers, or text put together. -/
def plus (h : Heap) (a b : Value) : Value :=
  match a, b with
  | .number x, .number y => .number (x + y)
  | _, _ =>
    if isTextual a || isTextual b then .string (h.display a ++ h.display b)
    else arithmetic h (· + ·) a b

/-- Is the value an error of this name? -/
def isInstance (h : Heap) (v kind : Value) : Bool :=
  match h.field? v "name", kind with
  | some name, .builtin (.errorMaker kind) =>
    kind == "Error" || (match name with
      | .string s => s == kind
      | _ => false)
  | _, .builtin .isArray =>
    match v with
    | .array _ => true
    | _ => false
  | _, _ => false

/-- Does the key name a member or an item? -/
def isMember (key v : Value) : Eval Bool := do
  let h ← Eval.heap id
  let name := h.display key
  match v with
  | .object ref => return (h.object ref).has name
  | .array ref =>
    match Number.readIndex? name with
    | some i => return i < (h.array ref).size
    | none => return name == "length"
  | _ =>
    Eval.typeError
      ("Cannot use 'in' operator to search for '" ++ name ++ "' in " ++ h.display v)

/-- What an infix operator makes of two values. -/
def binary (op : BinaryOp) (a b : Value) : Eval Value := do
  let h ← Eval.heap id
  match op with
  | .add => return plus h a b
  | .sub => return arithmetic h (· - ·) a b
  | .mul => return arithmetic h (· * ·) a b
  | .div => return arithmetic h (· / ·) a b
  | .rem => return arithmetic h Number.remainder a b
  | .pow => return arithmetic h Float.pow a b
  | .eq => return .bool (h.looseEquals a b)
  | .notEq => return .bool !(h.looseEquals a b)
  | .strictEq => return .bool (a.strictEquals b)
  | .strictNotEq => return .bool !(a.strictEquals b)
  | .lt => return .bool (order? h a b == some .lt)
  | .gt => return .bool (order? h a b == some .gt)
  | .ltEq => return .bool (order? h a b == some .lt || order? h a b == some .eq)
  | .gtEq => return .bool (order? h a b == some .gt || order? h a b == some .eq)
  | .isIn => return .bool (← isMember a b)
  | .instanceOf => return .bool (isInstance h a b)

end BrowserLab.Script
