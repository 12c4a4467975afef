import Mathlib.Algebra.Group.Nat.Defs
import BrowserLab.Json.Basic
import BrowserLab.Proofs.Dict

/-!
# Values whose objects are dictionaries

* `Json.sorted_sorted`: a value is sorted once and for all.
* `Json.Whole`: all numbers in a value are integers that a script keeps as they are.
-/

namespace BrowserLab.Json

/-- What holds of a value if it holds of all items and members holds of every value. -/
@[elab_as_elim]
theorem induction {motive : Json → Prop} (null : motive .null) (bool : ∀ b, motive (.bool b))
    (int : ∀ i, motive (.int i)) (real : ∀ x, motive (.real x)) (str : ∀ s, motive (.str s))
    (arr : ∀ items, (∀ j ∈ items, motive j) → motive (.arr items))
    (obj : ∀ members, (∀ entry ∈ members, motive entry.2) → motive (.obj members)) (j : Json) :
    motive j :=
  @Json.rec motive (fun items => ∀ j ∈ items, motive j) (fun members => ∀ e ∈ members, motive e.2)
    (fun entry => motive entry.2) null bool int real str arr obj
    (fun _ h => absurd h List.not_mem_nil)
    (fun _ _ hj hitems => List.forall_mem_cons.mpr ⟨hj, hitems⟩)
    (fun _ h => absurd h List.not_mem_nil)
    (fun _ _ he hrest => List.forall_mem_cons.mpr ⟨he, hrest⟩)
    (fun _ _ h => h) j

theorem sortedItems_eq (items : List Json) : sortedItems items = items.map sorted := by
  induction items with
  | nil => rfl
  | cons j rest ih => rw [sortedItems, ih, List.map_cons]

theorem sortedMembers_eq (done : Dict Json) (members : List (String × Json)) :
    sortedMembers done members = done.insertAll (members.map fun (k, j) => (k, sorted j)) := by
  induction members generalizing done with
  | nil => rfl
  | cons entry rest ih =>
    rw [sortedMembers, ih]
    rfl

theorem sorted_arr (items : List Json) : sorted (.arr items) = .arr (items.map sorted) := by
  rw [sorted, sortedItems_eq]

theorem sorted_obj (members : List (String × Json)) :
    sorted (.obj members) = .obj (Dict.ofPairs (members.map fun (k, j) => (k, sorted j))) := by
  rw [sorted, sortedMembers_eq]
  rfl

theorem sorted_sorted (j : Json) : sorted (sorted j) = sorted j := by
  induction j using induction with
  | null => rfl
  | bool b => rfl
  | int i => rfl
  | real x => rfl
  | str s => rfl
  | arr items ih =>
    rw [sorted_arr, sorted_arr, List.map_map]
    congr 1
    exact List.map_congr_left ih
  | obj members ih =>
    have hpairs : Dict.Holds (fun j => sorted j = j) (members.map fun (k, j) => (k, sorted j)) := by
      intro entry hentry
      obtain ⟨e, he, rfl⟩ := List.mem_map.mp hentry
      exact ih e he
    have hsame : ((Dict.ofPairs (members.map fun (k, j) => (k, sorted j))).map
        fun (k, j) => (k, sorted j)) = Dict.ofPairs (members.map fun (k, j) => (k, sorted j)) := by
      refine (List.map_congr_left fun entry hentry => ?_).trans (List.map_id _)
      exact congrArg (Prod.mk entry.1) (hpairs.ofPairs entry hentry)
    rw [sorted_obj, sorted_obj, hsame, Dict.ofPairs_of_ascending (Dict.ascending_ofPairs _)]

/-- All numbers in the value are integers below `9 * 10 ^ 15`: a script writes those as integers. -/
inductive Whole : Json → Prop
  | null : Whole .null
  | bool (b : Bool) : Whole (.bool b)
  | int {i : Int} (h : i.natAbs < 9 * 10 ^ 15) : Whole (.int i)
  | str (s : String) : Whole (.str s)
  | arr {items : List Json} (h : ∀ j ∈ items, Whole j) : Whole (.arr items)
  | obj {members : List (String × Json)} (h : ∀ entry ∈ members, Whole entry.2) :
      Whole (.obj members)

theorem Whole.sorted {j : Json} (h : Whole j) : Whole (Json.sorted j) := by
  induction h with
  | null => exact .null
  | bool b => exact .bool b
  | int h => exact .int h
  | str s => exact .str s
  | arr _ ih =>
    rw [sorted_arr]
    refine .arr fun j hj => ?_
    obtain ⟨item, hitem, rfl⟩ := List.mem_map.mp hj
    exact ih item hitem
  | @obj members _ ih =>
    rw [sorted_obj]
    have hpairs : Dict.Holds Whole (members.map fun (k, j) => (k, Json.sorted j)) := by
      intro entry hentry
      obtain ⟨e, he, rfl⟩ := List.mem_map.mp hentry
      exact ih e he
    exact .obj hpairs.ofPairs

end BrowserLab.Json
