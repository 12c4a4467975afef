import BrowserLab.Script.ArrayMethod
import BrowserLab.Surface.Invoke

/-!
# Properties

What is read from a value under a key, and what is written to it.
-/

namespace BrowserLab.Script

/-- The groups and tests that are reached through the function that declares them. -/
def declarationProperty? (b : Builtin) (key : String) : Option Builtin :=
  match b, key with
  | .test, "describe" => some .describe
  | .test, "beforeEach" => some .beforeEach
  | .test, "only" => some .test
  | .test, "slow" => some .test
  | .test, "skip" => some .skip
  | .test, "fixme" => some .skip
  | .describe, "only" => some .describe
  | .describe, "serial" => some .describe
  | .describe, "parallel" => some .describe
  | .describe, "skip" => some .skip
  | .expect, "soft" => some .expect
  | .expect, "poll" => some .expect
  | _, _ => none

/-- A property of an array. -/
def arrayProperty (h : Heap) (ref : Nat) (key : String) : Value :=
  if key == "length" then .number (Float.ofNat (h.array ref).size)
  else
    match Number.readIndex? key with
    | some i => (h.array ref).getD i .undefined
    | none => if arrayMethods.contains key then .method (.array ref) key else .undefined

/-- A property of a text. -/
def stringProperty (s key : String) : Value :=
  if key == "length" then .number (Float.ofNat s.length)
  else
    match Number.readIndex? key with
    | some i => ((s.toList[i]?).map charValue).getD .undefined
    | none => if stringMethods.contains key then .method (.string s) key else .undefined

/-- A property of an object. -/
def objectProperty (h : Heap) (ref : Nat) (key : String) : Value :=
  match (h.object ref).get? key with
  | some v => v
  | none =>
    if key == "hasOwnProperty" || key == "toString" then .method (.object ref) key
    else .undefined

/-- A property of a value; what is missing has none. -/
def getProperty (v : Value) (key : String) : Eval Value := do
  let h ← Eval.heap id
  match v with
  | .undefined =>
    Eval.typeError ("Cannot read properties of undefined (reading '" ++ key ++ "')")
  | .null => Eval.typeError ("Cannot read properties of null (reading '" ++ key ++ "')")
  | .array ref => return arrayProperty h ref key
  | .string s => return stringProperty s key
  | .object ref => return objectProperty h ref key
  | .handle hd => return (Surface.property? hd key).getD (.method v key)
  | .builtin b => return ((declarationProperty? b key).map Value.builtin).getD .undefined
  | .number _ =>
    if key == "toFixed" || key == "toString" then return .method v key else return .undefined
  | _ => return .undefined

/-- An array with an item set; what lies between it and the former end is undefined. -/
def setItem (items : Array Value) (i : Nat) (v : Value) : Array Value :=
  if i < items.size then items.setIfInBounds i v
  else (items ++ Array.replicate (i - items.size) Value.undefined).push v

/-- Sets a property of a value.  What has no properties of its own is left as it is. -/
def setProperty (v : Value) (key : String) (new : Value) : Eval Unit := do
  match v with
  | .undefined =>
    Eval.typeError ("Cannot set properties of undefined (setting '" ++ key ++ "')")
  | .null => Eval.typeError ("Cannot set properties of null (setting '" ++ key ++ "')")
  | .object ref => Eval.modifyHeap (·.modifyObject ref fun members => members.insert key new)
  | .array ref =>
    match Number.readIndex? key with
    | some i => Eval.modifyHeap (·.modifyArray ref fun items => setItem items i new)
    | none => return ()
  | _ => return ()

end BrowserLab.Script
