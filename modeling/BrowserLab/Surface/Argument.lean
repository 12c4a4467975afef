import BrowserLab.Script.Reply

/-!
# Arguments of browser methods

How the methods of handles understand their arguments, and the error for a method that is not there.
-/

namespace BrowserLab.Surface

open Script

/-- The text of an argument; a missing or undefined one is empty. -/
def textArgument (args : List Value) (i : Nat) : Eval String := do
  match argument args i with
  | .undefined => return ""
  | v => Eval.display v

/-- The text of an option, if there is one. -/
def textOption? (v : Value) (key : String) : Eval (Option String) := do
  match ← Eval.option? v key with
  | some w => return some (← Eval.display w)
  | none => return none

/-- A selector within another one. -/
def within (outer : Option String) (inner separator : String) : String :=
  match outer with
  | some s => s ++ separator ++ inner
  | none => inner

/-- What is left for all handles: `then` calls a function with the handle. -/
def fallback (h : Handle) (method : String) (args : List Value) : Eval Reply := do
  let unknown := h.typeName ++ "." ++ method ++ " is not a function"
  match args with
  | callee :: _ =>
    if method == "then" && callee.isCallable then return .callback callee [.handle h] .result
    else Eval.typeError unknown
  | [] => Eval.typeError unknown

/-- The file of an upload: a member of a description, or the end of a path; of a list, the first. -/
def uploadNameTo (h : Heap) (key fallback : String) : Nat → Value → String
  | 0, _ => fallback
  | depth + 1, v =>
    match v with
    | .array ref =>
      match (h.array ref)[0]? with
      | some first => uploadNameTo h key fallback depth first
      | none => fallback
    | .object _ =>
      match h.option? v key with
      | some name => h.display name
      | none => fallback
    | .string path =>
      let name := (path.toList.reverse.takeWhile fun c => c ≠ '/' && c ≠ '\\').reverse
      if name.isEmpty then fallback else String.ofList name
    | _ => fallback

/-- The file of an upload. -/
def uploadName (h : Heap) (v : Value) (key fallback : String) : String :=
  uploadNameTo h key fallback h.depth v

/-- A status code. -/
def statusOption (v : Value) (key : String) : Eval Nat := do
  match ← Eval.option? v key with
  | some w => return Number.toNat16 (← Eval.number w)
  | none => return 200

end BrowserLab.Surface
