/-!
# Dictionaries

A dictionary is a list of keys with values, in ascending order of the keys and without a key
twice.  Text is ordered by code point.
-/

namespace BrowserLab

/-- Keys with values, ascending by key. -/
abbrev Dict (α : Type) := List (String × α)

namespace Dict

variable {α : Type}

/-- The value of a key. -/
def get? (d : Dict α) (key : String) : Option α :=
  match d with
  | [] => none
  | (k, v) :: rest => if k = key then some v else get? rest key

/-- Is there a value for the key? -/
def has (d : Dict α) (key : String) : Bool := (get? d key).isSome

/-- Gives a key its value, whether it had one or not. -/
def insert (d : Dict α) (key : String) (value : α) : Dict α :=
  match d with
  | [] => [(key, value)]
  | (k, v) :: rest =>
    if key < k then (key, value) :: (k, v) :: rest
    else if key = k then (key, value) :: rest
    else (k, v) :: insert rest key value

/-- Without the key. -/
def erase (d : Dict α) (key : String) : Dict α :=
  d.filter fun (k, _) => k ≠ key

/-- The pairs put in one after the other: of two values for one key the later stays. -/
def insertAll (d : Dict α) (pairs : List (String × α)) : Dict α :=
  pairs.foldl (fun d (k, v) => insert d k v) d

/-- The dictionary of a list of pairs: of two values for one key the later stays. -/
def ofPairs (pairs : List (String × α)) : Dict α := insertAll [] pairs

end Dict

end BrowserLab
