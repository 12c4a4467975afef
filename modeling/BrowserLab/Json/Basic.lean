import BrowserLab.Dict
import BrowserLab.Number.Reader

/-!
# JSON values

A number is an integer or a `Float`, and the two are never equal.  The members of an object are
kept in the order in which they are to be written.  Objects that come from a document or from a
script are dictionaries, so their members are in ascending order of the keys.
-/

namespace BrowserLab

/-- A JSON value. -/
inductive Json where
  | null
  | bool (b : Bool)
  | int (i : Int)
  | real (x : Float)
  | str (s : String)
  | arr (items : List Json)
  | obj (members : List (String × Json))
  deriving Inhabited

namespace Json

mutual

/-- Equality of values; two numbers that are not integers are compared as numbers. -/
def same (a b : Json) : Bool :=
  match a, b with
  | .null, .null => true
  | .bool x, .bool y => x == y
  | .int x, .int y => x == y
  | .real x, .real y => x == y
  | .str x, .str y => x == y
  | .arr xs, .arr ys => sameItems xs ys
  | .obj xs, .obj ys => sameMembers xs ys
  | _, _ => false

def sameItems (xs ys : List Json) : Bool :=
  match xs, ys with
  | [], [] => true
  | x :: xs, y :: ys => same x y && sameItems xs ys
  | _, _ => false

def sameMembers (xs ys : List (String × Json)) : Bool :=
  match xs, ys with
  | [], [] => true
  | (k, x) :: xs, (l, y) :: ys => k == l && same x y && sameMembers xs ys
  | _, _ => false

end

instance : BEq Json := ⟨same⟩

mutual

/-- The value with every object as a dictionary: of two members with one key the later stays. -/
def sorted (j : Json) : Json :=
  match j with
  | .arr items => .arr (sortedItems items)
  | .obj members => .obj (sortedMembers [] members)
  | j => j

def sortedItems (items : List Json) : List Json :=
  match items with
  | [] => []
  | j :: rest => sorted j :: sortedItems rest

def sortedMembers (done : Dict Json) (members : List (String × Json)) : Dict Json :=
  match members with
  | [] => done
  | (k, j) :: rest => sortedMembers (done.insert k (sorted j)) rest

end

/-- The value of a member. -/
def get? (j : Json) (key : String) : Option Json :=
  match j with
  | .obj members => Dict.get? members key
  | _ => none

/-- Is it an object that has the member? -/
def has (j : Json) (key : String) : Bool := (get? j key).isSome

/-- The text of a string value. -/
def text? (j : Json) : Option String :=
  match j with
  | .str s => some s
  | _ => none

/-- The number of a number value. -/
def number? (j : Json) : Option Float :=
  match j with
  | .int i => some (Number.signed (i < 0) i.natAbs)
  | .real x => some x
  | _ => none

/-- A value or `null`. -/
def ofOption {α : Type} (f : α → Json) : Option α → Json
  | some a => f a
  | none => .null

/-- The integer of a natural number. -/
def ofNat (n : Nat) : Json := .int n

/-- The JSON form of a script's number: whole numbers below `9 * 10 ^ 15` are integers, what is
not finite is `null`. -/
def ofNumber (x : Float) : Json :=
  if Number.wholeBelow (9 * Nat.pow 10 15) x then .int (Number.toInt64 x)
  else
    match Number.shape x with
    | .finite _ => .real x
    | _ => .null

end Json

end BrowserLab
