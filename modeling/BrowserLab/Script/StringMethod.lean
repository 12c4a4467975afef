import BrowserLab.Number.Fixed
import BrowserLab.Script.Machine
import BrowserLab.Script.Position
import BrowserLab.Text.Case
import BrowserLab.Text.Search

/-!
# Methods of text and numbers

All positions count characters.
-/

namespace BrowserLab.Script

/-- The argument at a position; a missing one is undefined. -/
def argument (args : List Value) (i : Nat) : Value := args.getD i .undefined

/-- A character as a text of its own. -/
def charValue (c : Char) : Value := .string c.toString

/-- The methods of text. -/
def stringMethods : List String :=
  ["includes", "startsWith", "endsWith", "toLowerCase", "toUpperCase", "trim", "split", "replace",
    "slice", "substring", "indexOf", "charAt", "padStart", "repeat", "at", "toString"]

/-- The number of an argument that may be left out. -/
def optionalNumber (args : List Value) (i : Nat) : Eval (Option Float) := do
  match argument args i with
  | .undefined => return none
  | v => return some (← Eval.number v)

/-- The characters from one position to another. -/
def piece (cs : List Char) (start finish : Nat) : Value :=
  .string (String.ofList ((cs.take finish).drop start))

/-- `n` characters, taken from the text over and over again. -/
def cycle (cs : List Char) (n : Nat) : List Char :=
  match cs with
  | [] => []
  | _ => ((List.replicate (n / cs.length + 1) cs).flatten).take n

/-- The text filled up at its beginning. -/
def padStart (s : String) (width : Nat) (pad : String) : String :=
  if width ≤ s.length then s
  else String.ofList (cycle pad.toList (width - s.length)) ++ s

/-- The text as often as asked for. -/
def repeatText (s : String) (count : Nat) : String :=
  if s.isEmpty then "" else String.join (List.replicate count s)

/-- Where the piece occurs first. -/
def indexOf (piece text : List Char) : Float :=
  match Text.cut? piece text with
  | some (before, _) => Float.ofNat before.length
  | none => -1.0

/-- The text filled up to a width. -/
def padStartMethod (s : String) (args : List Value) : Eval Value := do
  let width ← Eval.number (argument args 0)
  if width > Float.ofNat maxTextLength then
    Eval.rangeError "Invalid string length in padStart"
  else
    let pad ←
      match argument args 1 with
      | .undefined => pure " "
      | v => Eval.display v
    let width := if width.isNaN || width <= 0.0 then 0 else Number.toNat64 width
    return .string (padStart s width pad)

/-- The text as often as asked for, unless that is too long. -/
def repeatMethod (s : String) (args : List Value) : Eval Value := do
  let count ← Eval.number (argument args 0)
  let count := if count.isNaN then 0.0 else count
  if count < 0.0 || count.isInf then
    Eval.rangeError ("Invalid count value: " ++ Number.display count)
  else
    let count := Number.toNat64 count
    if s.length * count > maxTextLength then Eval.rangeError "Invalid string length"
    else return .string (repeatText s count)

/-- The pieces between the occurrences of a separator. -/
def splitMethod (s : String) (args : List Value) : Eval Value := do
  match argument args 0 with
  | .undefined => Eval.newArray #[.string s]
  | v =>
    let separator ← Eval.display v
    let pieces := Text.split separator.toList s.toList
    Eval.newArray (pieces.map fun p => Value.string (String.ofList p)).toArray

/-- A method of text. -/
def stringMethod (s name : String) (args : List Value) : Eval Value := do
  let cs := s.toList
  match name with
  | "includes" => return .bool (Text.contains s (← Eval.display (argument args 0)))
  | "startsWith" => return .bool (Text.startsWith s (← Eval.display (argument args 0)))
  | "endsWith" => return .bool (Text.endsWith s (← Eval.display (argument args 0)))
  | "toLowerCase" => return .string (Text.lower s)
  | "toUpperCase" => return .string (Text.upper s)
  | "trim" => return .string (Text.trim s)
  | "split" => splitMethod s args
  | "replace" =>
    let old ← Eval.display (argument args 0)
    let new ← Eval.display (argument args 1)
    return .string (String.ofList (Text.replaceFirst old.toList new.toList cs))
  | "slice" =>
    let (start, finish) :=
      pieceBounds cs.length (← optionalNumber args 0) (← optionalNumber args 1)
    return piece cs start finish
  | "substring" =>
    let a := ((← optionalNumber args 0).map (clampPosition cs.length)).getD 0
    let b := ((← optionalNumber args 1).map (clampPosition cs.length)).getD cs.length
    return piece cs (min a b) (max a b)
  | "indexOf" => return .number (indexOf (← Eval.display (argument args 0)).toList cs)
  | "charAt" =>
    let i := Number.toNat64 (Number.greater (← Eval.number (argument args 0)) 0.0)
    match cs[i]? with
    | some c => return charValue c
    | none => return .string ""
  | "at" =>
    match itemPosition? cs.length (← Eval.number (argument args 0)) with
    | some i => return ((cs[i]?).map charValue).getD .undefined
    | none => return .undefined
  | "padStart" => padStartMethod s args
  | "repeat" => repeatMethod s args
  | "toString" => return .string s
  | _ => Eval.typeError ("string." ++ name ++ " is not a function")

/-- A method of numbers. -/
def numberMethod (x : Float) (name : String) (args : List Value) : Eval Value := do
  match name with
  | "toFixed" =>
    let places ← if args.isEmpty then pure 0.0 else Eval.number (argument args 0)
    return .string (Number.fixed (clampPosition 20 places) x)
  | "toString" => return .string (Number.display x)
  | _ => Eval.typeError ("number." ++ name ++ " is not a function")

end BrowserLab.Script
