import BrowserLab.Proofs.Json.Sorted
import BrowserLab.Proofs.Number.Whole
import BrowserLab.Script.Eval

/-!
# Values that show a JSON value

A value that is built from a JSON value has that value, sorted, for its JSON form (`Shows`).  The
form of an array or an object is looked up in the heap, so it is compared in every heap that the
heap may still become; and it is looked up to a depth, which exceeds the number of places that have
been added to the heap for the value.
-/

namespace BrowserLab.Script

/-! ### Growth -/

namespace Heap

/-- How many arrays and objects there are. -/
def size (h : Heap) : Nat := h.arrays.size + h.objects.size

/-- Arrays and objects may have been made since, but none has been changed. -/
structure Extends (h h' : Heap) : Prop where
  arrays : ∃ more, h'.arrays = h.arrays ++ more
  objects : ∃ more, h'.objects = h.objects ++ more

variable {h h' h'' : Heap}

namespace Extends

theorem refl (h : Heap) : h.Extends h := ⟨⟨#[], by simp⟩, ⟨#[], by simp⟩⟩

theorem trans (a : h.Extends h') (b : h'.Extends h'') : h.Extends h'' := by
  obtain ⟨⟨xs, hxs⟩, ys, hys⟩ := a
  obtain ⟨⟨xs', hxs'⟩, ys', hys'⟩ := b
  refine ⟨⟨xs ++ xs', ?_⟩, ys ++ ys', ?_⟩
  · rw [hxs', hxs, Array.append_assoc]
  · rw [hys', hys, Array.append_assoc]

theorem newArray (h : Heap) (items : Array Value) : h.Extends (h.newArray items).2 :=
  ⟨⟨#[items], Array.push_eq_append⟩, ⟨#[], by simp [Heap.newArray]⟩⟩

theorem newObject (h : Heap) (members : Dict Value) : h.Extends (h.newObject members).2 :=
  ⟨⟨#[], by simp [Heap.newObject]⟩, ⟨#[members], Array.push_eq_append⟩⟩

theorem size_le (a : h.Extends h') : h.size ≤ h'.size := by
  obtain ⟨⟨xs, hxs⟩, ys, hys⟩ := a
  simp only [Heap.size, hxs, hys, Array.size_append]
  omega

theorem array_eq (a : h.Extends h') {ref : Nat} (href : ref < h.arrays.size) :
    h'.array ref = h.array ref := by
  obtain ⟨⟨xs, hxs⟩, -⟩ := a
  rw [Heap.array, Heap.array, hxs, Array.getD_eq_getD_getElem?, Array.getD_eq_getD_getElem?,
    Array.getElem?_append_left href]

theorem object_eq (a : h.Extends h') {ref : Nat} (href : ref < h.objects.size) :
    h'.object ref = h.object ref := by
  obtain ⟨-, ys, hys⟩ := a
  rw [Heap.object, Heap.object, hys, Array.getD_eq_getD_getElem?, Array.getD_eq_getD_getElem?,
    Array.getElem?_append_left href]

end Extends

theorem size_newArray (h : Heap) (items : Array Value) :
    (h.newArray items).2.size = h.size + 1 := by
  simp only [size, newArray, Array.size_push]
  omega

theorem size_newObject (h : Heap) (members : Dict Value) :
    (h.newObject members).2.size = h.size + 1 := by
  simp only [size, newObject, Array.size_push]
  omega

end Heap

/-! ### Showing -/

/-- The value has a place in JSON objects. -/
def IsData (v : Value) : Prop := Eval.isUndefined v = false ∧ v.isCallable = false

/-- Made while the heap grew from `h` to `h'`, the value has the JSON form of `j` from then on. -/
structure Shows (h h' : Heap) (v : Value) (j : Json) : Prop where
  grown : h.Extends h'
  data : IsData v
  form : ∀ h'' depth, h'.Extends h'' → h'.size < h.size + depth →
    h''.jsonTo depth v = Json.sorted j

/-- Values of items, made one after the other. -/
structure ShowsItems (h h' : Heap) (vs : List Value) (items : List Json) : Prop where
  grown : h.Extends h'
  form : ∀ h'' depth, h'.Extends h'' → h'.size < h.size + depth →
    vs.map (h''.jsonTo depth) = items.map Json.sorted

/-- Values of members, made one after the other. -/
structure ShowsMembers (h h' : Heap) (vs : List (String × Value)) (members : List (String × Json)) :
    Prop where
  grown : h.Extends h'
  data : Dict.Holds IsData vs
  form : ∀ h'' depth, h'.Extends h'' → h'.size < h.size + depth →
    (vs.map fun (k, v) => (k, h''.jsonTo depth v)) = members.map fun (k, j) => (k, Json.sorted j)

variable {h h' h'' : Heap} {v : Value} {j : Json}

/-- The JSON form of the value right after it was made. -/
theorem Shows.json (hv : Shows h h' v j) : h'.json v = Json.sorted j := by
  refine hv.form h' h'.depth (.refl h') ?_
  have hdepth : h'.depth = h'.size + 1 := rfl
  omega

/-- A value for which nothing is looked up in the heap. -/
theorem Shows.scalar (h : Heap) (hdata : IsData v)
    (hform : ∀ h'' : Heap, ∀ depth, h''.jsonTo (depth + 1) v = Json.sorted j) : Shows h h v j where
  grown := .refl h
  data := hdata
  form h'' depth _ hdepth := by
    obtain ⟨depth, rfl⟩ : ∃ n, depth = n + 1 := ⟨depth - 1, by omega⟩
    exact hform h'' depth

theorem ShowsItems.nil (h : Heap) : ShowsItems h h [] [] := ⟨.refl h, fun _ _ _ _ => rfl⟩

theorem ShowsItems.cons {vs : List Value} {items : List Json} (hvs : ShowsItems h' h'' vs items)
    (hv : Shows h h' v j) : ShowsItems h h'' (v :: vs) (j :: items) where
  grown := hv.grown.trans hvs.grown
  form heap depth hheap hdepth := by
    have hsize := hv.grown.size_le
    have hsize' := hvs.grown.size_le
    rw [List.map_cons, List.map_cons, hv.form heap depth (hvs.grown.trans hheap) (by omega),
      hvs.form heap depth hheap (by omega)]

theorem ShowsMembers.nil (h : Heap) : ShowsMembers h h [] [] :=
  ⟨.refl h, Dict.holds_nil, fun _ _ _ _ => rfl⟩

theorem ShowsMembers.cons {k : String} {vs : List (String × Value)}
    {members : List (String × Json)} (hvs : ShowsMembers h' h'' vs members)
    (hv : Shows h h' v j) : ShowsMembers h h'' ((k, v) :: vs) ((k, j) :: members) where
  grown := hv.grown.trans hvs.grown
  data := Dict.holds_cons hv.data hvs.data
  form heap depth hheap hdepth := by
    have hsize := hv.grown.size_le
    have hsize' := hvs.grown.size_le
    have hform := hv.form heap depth (hvs.grown.trans hheap) (by omega)
    have hforms := hvs.form heap depth hheap (by omega)
    simp only [List.map_cons, hform, hforms]

theorem ShowsItems.array {vs : List Value} {items : List Json} (hvs : ShowsItems h h' vs items) :
    Shows h (h'.newArray vs.toArray).2 (h'.newArray vs.toArray).1 (.arr items) where
  grown := hvs.grown.trans (.newArray h' _)
  data := ⟨rfl, rfl⟩
  form heap depth hheap hdepth := by
    have hsize := hvs.grown.size_le
    rw [Heap.size_newArray] at hdepth
    obtain ⟨depth, rfl⟩ : ∃ n, depth = n + 1 := ⟨depth - 1, by omega⟩
    have hform := hvs.form heap depth ((Heap.Extends.newArray h' _).trans hheap) (by omega)
    have hitems : heap.array h'.arrays.size = vs.toArray := by
      rw [hheap.array_eq (by simp [Heap.newArray])]
      simp [Heap.newArray, Heap.array]
    rw [Json.sorted_arr, ← hform]
    simp [Heap.newArray, Heap.jsonTo, hitems]

/-- Nothing is left out of an object whose members all have a place. -/
theorem jsonTo_object {ref : Nat} (hdata : Dict.Holds IsData (h.object ref)) (depth : Nat) :
    h.jsonTo (depth + 1) (.object ref) =
      .obj ((h.object ref).map fun (k, w) => (k, h.jsonTo depth w)) := by
  rw [Heap.jsonTo]
  congr 1
  generalize h.object ref = members at hdata ⊢
  induction members with
  | nil => rfl
  | cons entry members ih =>
    obtain ⟨k, v⟩ := entry
    obtain ⟨⟨hdefined, hcallable⟩, hmembers⟩ := Dict.holds_cons_iff.mp hdata
    rw [List.map_cons, ← ih hmembers]
    cases v with
    | undefined => cases hdefined
    | closure ref => cases hcallable
    | builtin b => cases hcallable
    | method this name => cases hcallable
    | _ => rfl

theorem ShowsMembers.object {vs : List (String × Value)} {members : List (String × Json)}
    (hvs : ShowsMembers h h' vs members) :
    Shows h (h'.newObject (Dict.ofPairs vs)).2 (h'.newObject (Dict.ofPairs vs)).1
      (.obj members) where
  grown := hvs.grown.trans (.newObject h' _)
  data := ⟨rfl, rfl⟩
  form heap depth hheap hdepth := by
    have hsize := hvs.grown.size_le
    rw [Heap.size_newObject] at hdepth
    obtain ⟨depth, rfl⟩ : ∃ n, depth = n + 1 := ⟨depth - 1, by omega⟩
    have hform := hvs.form heap depth ((Heap.Extends.newObject h' _).trans hheap) (by omega)
    have hmembers : heap.object h'.objects.size = Dict.ofPairs vs := by
      rw [hheap.object_eq (by simp [Heap.newObject])]
      simp [Heap.newObject, Heap.object]
    have hdata : Dict.Holds IsData (heap.object h'.objects.size) := by
      rw [hmembers]
      exact hvs.data.ofPairs
    have hobject := jsonTo_object hdata depth
    rw [hmembers] at hobject
    rw [Json.sorted_obj, ← hform, Dict.ofPairs_map]
    exact hobject

end BrowserLab.Script
