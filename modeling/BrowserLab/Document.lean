import BrowserLab.Json.Basic

/-!
# Documents

What a structure of fields, a list or an enumeration is read from, whatever the format of the text
it came from.  A structure is written as named fields in any order, of which unknown ones are
passed over and known ones occur once, or as the list of its fields in their order.
-/

namespace BrowserLab

/-- A format of nested values. -/
class Document (δ : Type) where
  /-- The named fields, as often as they occur. -/
  fields? : δ → Option (List (String × δ))
  items? : δ → Option (List δ)
  /-- May a list be longer than the structure that is read from it? -/
  surplus : Bool := false
  isNull : δ → Bool := fun _ => false
  text? : δ → Option String
  /-- A whole number that is not negative and below the bound. -/
  natural? : Nat → δ → Option Nat := fun _ _ => none
  boolean? : δ → Option Bool := fun _ => none
  /-- The name of a choice that carries nothing. -/
  choice? : δ → Option String := text?
  json? : δ → Option Json := fun _ => none

namespace Document

variable {δ : Type} [Document δ] {α : Type}

/-- Does no name occur twice? -/
def distinct : List String → Bool
  | [] => true
  | a :: rest => !rest.contains a && distinct rest

/-- The fields of a structure that are present. -/
def record? (names : List String) (d : δ) : Option (List (String × δ)) :=
  match items? d with
  | some items =>
    if items.length ≤ names.length || surplus δ then some (names.zip items) else none
  | none =>
    match fields? d with
    | some fields =>
      let known := fields.filter fun (k, _) => names.contains k
      if distinct (known.map Prod.fst) then some known else none
    | none => none

/-- A field that must be present. -/
def required (fields : List (String × δ)) (name : String) (read : δ → Option α) : Option α :=
  match Dict.get? fields name with
  | some d => read d
  | none => none

/-- A field that may be missing. -/
def withDefault (fields : List (String × δ)) (name : String) (default : α)
    (read : δ → Option α) : Option α :=
  match Dict.get? fields name with
  | some d => read d
  | none => some default

/-- A value or null. -/
def nullable (read : δ → Option α) (d : δ) : Option (Option α) :=
  if isNull d then some none else (read d).map some

/-- A field that may be missing or null. -/
def optional (fields : List (String × δ)) (name : String) (read : δ → Option α) :
    Option (Option α) :=
  withDefault fields name none (nullable read)

/-- All items of a list. -/
def listOf (read : δ → Option α) (d : δ) : Option (List α) :=
  match items? d with
  | some items => items.mapM read
  | none => none

/-- One of the values of an enumeration, by its name. -/
def oneOf (names : List (String × α)) (d : δ) : Option α :=
  match choice? d with
  | some name => Dict.get? names name
  | none => none

end Document

instance : Document Json where
  fields? := fun
    | .obj members => some members
    | _ => none
  items? := fun
    | .arr items => some items
    | _ => none
  isNull := fun
    | .null => true
    | _ => false
  text? := Json.text?
  natural? := fun bound j =>
    match j with
    | .int i => if 0 ≤ i && i < bound then some i.toNat else none
    | _ => none
  boolean? := fun
    | .bool b => some b
    | _ => none
  choice? := fun
    | .str s => some s
    | .obj [(name, .null)] => some name
    | _ => none
  json? := some

end BrowserLab
