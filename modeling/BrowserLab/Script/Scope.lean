import BrowserLab.Dict

/-!
# Scopes

A scope holds variables and may lie in another scope.  A name means the variable of the nearest
scope that declares it.  Scopes are numbered in the order in which they were opened, so a scope has
a greater number than the one it lies in.
-/

namespace BrowserLab.Script

/-- A variable and whether it may be assigned to. -/
structure Variable (α : Type) where
  value : α
  mutable : Bool

/-- The variables of one scope and the scope it lies in. -/
structure Frame (α : Type) where
  bindings : Dict (Variable α)
  parent : Option Nat

/-- All scopes that have been opened. -/
structure Scopes (α : Type) where
  frames : Array (Frame α)

/-- Why a name cannot be assigned to. -/
inductive AssignError where
  | constant
  | undeclared (name : String)
  deriving DecidableEq, Repr

/-- What kind of error it is to a script. -/
def AssignError.name : AssignError → String
  | .constant => "TypeError"
  | .undeclared _ => "ReferenceError"

def AssignError.message : AssignError → String
  | .constant => "Assignment to constant variable."
  | .undeclared name => name ++ " is not defined"

namespace Scopes

variable {α : Type}

def empty : Scopes α := ⟨#[]⟩

/-- Opens a scope, and its number. -/
def push (s : Scopes α) (parent : Option Nat) : Nat × Scopes α :=
  (s.frames.size, ⟨s.frames.push ⟨[], parent⟩⟩)

/-- Opens a scope that lies in no other. -/
def root (s : Scopes α) : Nat × Scopes α := s.push none

/-- Opens a scope within another. -/
def child (s : Scopes α) (parent : Nat) : Nat × Scopes α := s.push (some parent)

/-- Declares a name in a scope. -/
def declare (s : Scopes α) (scope : Nat) (name : String) (value : α) (mutable : Bool) : Scopes α :=
  ⟨s.frames.modify scope fun f => { f with bindings := f.bindings.insert name ⟨value, mutable⟩ }⟩

/-- The nearest scope that declares the name, and its variable; `fuel` bounds how many scopes are
looked at. -/
def findFrom (s : Scopes α) (name : String) : Nat → Nat → Option (Nat × Variable α)
  | 0, _ => none
  | fuel + 1, scope =>
    match s.frames[scope]? with
    | none => none
    | some f =>
      match f.bindings.get? name with
      | some v => some (scope, v)
      | none =>
        match f.parent with
        | none => none
        | some parent => findFrom s name fuel parent

/-- The nearest scope that declares the name, and its variable. -/
def find? (s : Scopes α) (scope : Nat) (name : String) : Option (Nat × Variable α) :=
  s.findFrom name (scope + 1) scope

/-- What a name means in a scope. -/
def lookup (s : Scopes α) (scope : Nat) (name : String) : Option α :=
  (s.find? scope name).map fun (_, v) => v.value

/-- Assigns to what a name means in a scope, or says why it cannot. -/
def assign (s : Scopes α) (scope : Nat) (name : String) (value : α) :
    Option AssignError × Scopes α :=
  match s.find? scope name with
  | none => (some (.undeclared name), s)
  | some (holder, v) =>
    if v.mutable then (none, s.declare holder name value true) else (some .constant, s)

end Scopes

end BrowserLab.Script
