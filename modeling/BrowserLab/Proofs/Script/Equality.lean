import BrowserLab.Proofs.Number.Units
import BrowserLab.Proofs.Script.ValueMethod

/-!
# Equality

Two values are compared with or without conversions, and arrays are searched for one.

* `strictEquals_self`: what is strictly equal to itself; methods and handles are not.
* `strictEquals_comm`, `strictEquals_trans`, `looseEquals_comm`: the laws that hold of all values.
* `values_equal_and_found`: the laws together, for the operators and for the searches of arrays.
-/

namespace BrowserLab.Script

open Eval Number

variable {m m₁ m₂ m' : Machine} {scope ref : Nat} {u v w : Value}

namespace Value

/-- Can the value be the same as another one?  Methods and handles are not kept apart by what they
are, nor by where they are. -/
def hasIdentity : Value → Bool
  | .method _ _ => false
  | .handle _ => false
  | _ => true

/-- Is the value not-a-number? -/
def isNotANumber : Value → Bool
  | .number x => x.isNaN
  | _ => false

/-! ### Strict equality -/

theorem strictEquals_self (v : Value) :
    v.strictEquals v = (v.hasIdentity && !v.isNotANumber) := by
  cases v with
  | number x =>
    rw [strictEquals, Bool.eq_iff_iff, beq_self_iff]
    simp [hasIdentity, isNotANumber]
  | _ => simp [strictEquals, hasIdentity, isNotANumber]

/-- Values that are strictly equal are one value, or two numbers. -/
theorem strictEquals_cases (h : v.strictEquals w = true) :
    v = w ∨ ∃ x y, v = .number x ∧ w = .number y ∧ (x == y) = true := by
  cases v <;> cases w <;> simp_all [strictEquals]

theorem strictEquals_comm (v w : Value) : v.strictEquals w = w.strictEquals v := by
  have hsymm {v w : Value} (h : v.strictEquals w = true) : w.strictEquals v = true := by
    rcases strictEquals_cases h with rfl | ⟨x, y, rfl, rfl, hxy⟩
    · exact h
    · exact (Number.beq_comm y x).trans hxy
  exact Bool.eq_iff_iff.mpr ⟨hsymm, hsymm⟩

theorem strictEquals_trans (huv : u.strictEquals v = true) (hvw : v.strictEquals w = true) :
    u.strictEquals w = true := by
  rcases strictEquals_cases huv with rfl | ⟨x, y, rfl, rfl, hxy⟩
  · exact hvw
  · rcases strictEquals_cases hvw with rfl | ⟨y', z, hy, rfl, hyz⟩
    · exact huv
    · cases hy
      exact Number.beq_trans hxy hyz

theorem sameValue_self (v : Value) : v.sameValue v = v.hasIdentity := by
  cases v with
  | number x =>
    change (x.isNaN && x.isNaN || x == x) = true
    cases hnan : x.isNaN with
    | true => rfl
    | false => exact beq_self_iff.mpr hnan
  | _ => simp [sameValue, strictEquals, hasIdentity]

/-- Nothing is the same as a method or a handle. -/
theorem sameValue_of_not_hasIdentity (h : w.hasIdentity = false) (v : Value) :
    v.sameValue w = false := by
  cases w <;> cases h <;> cases v <;> rfl

end Value

/-! ### Loose equality -/

namespace Heap

variable (h : Heap)

theorem looseEquals_comm (v w : Value) : h.looseEquals v w = h.looseEquals w v := by
  unfold looseEquals
  rw [Bool.or_comm, Bool.and_comm]
  split
  · rfl
  · cases v <;> cases w <;>
      first | exact Number.beq_comm _ _ | exact Value.strictEquals_comm _ _

theorem number_bool (b : Bool) : h.number (.bool b) = if b then 1.0 else 0.0 := by
  rw [number, depth, numberTo]

theorem looseEquals_self_bool (b : Bool) : h.looseEquals (.bool b) (.bool b) = true := by
  refine beq_self_iff.mpr ?_
  rw [number_bool]
  cases b <;> rfl

/-- What is strictly equal is equal. -/
theorem looseEquals_of_strictEquals {v w : Value} (heq : v.strictEquals w = true) :
    h.looseEquals v w = true := by
  rcases Value.strictEquals_cases heq with rfl | ⟨x, y, rfl, rfl, hxy⟩
  · cases v with
    | bool b => exact h.looseEquals_self_bool b
    | _ => exact heq
  · exact hxy

end Heap

/-! ### Searching arrays -/

/-- The first item that is strictly equal to the value stands at that position. -/
def FirstAt (items : List Value) (w : Value) (i : Nat) : Prop :=
  (∃ v, items[i]? = some v ∧ v.strictEquals w = true) ∧
    ∀ j < i, ∀ v, items[j]? = some v → v.strictEquals w = false

section Search

variable {items : List Value}

theorem firstAt_of_findIdx? {i : Nat} (h : items.findIdx? (·.strictEquals w) = some i) :
    FirstAt items w i := by
  obtain ⟨hi, hfound, hbefore⟩ := List.findIdx?_eq_some_iff_getElem.mp h
  refine ⟨⟨items[i], List.getElem?_eq_getElem hi, hfound⟩, fun j hj v hv => ?_⟩
  obtain ⟨hj', rfl⟩ := List.getElem?_eq_some_iff.mp hv
  exact Bool.eq_false_iff.mpr (hbefore j hj)

/-- What is strictly equal to itself is found where it is, or before. -/
theorem exists_firstAt (hw : w ∈ items) (hself : w.strictEquals w = true) :
    ∃ i, items.findIdx? (·.strictEquals w) = some i ∧ FirstAt items w i := by
  cases hfound : items.findIdx? (·.strictEquals w) with
  | some i => exact ⟨i, rfl, firstAt_of_findIdx? hfound⟩
  | none =>
    have hnone := List.findIdx?_eq_none_iff.mp hfound w hw
    rw [hself] at hnone
    cases hnone

/-- What is not strictly equal to itself is found nowhere. -/
theorem findIdx?_eq_none (hself : w.strictEquals w = false) :
    items.findIdx? (·.strictEquals w) = none := by
  refine List.findIdx?_eq_none_iff.mpr fun v _ => Bool.eq_false_iff.mpr fun hvw => ?_
  have hwv := (Value.strictEquals_comm w v).trans hvw
  rw [Value.strictEquals_trans hwv hvw] at hself
  cases hself

theorem any_sameValue (hw : w ∈ items) : items.any (·.sameValue w) = w.hasIdentity := by
  cases hidentity : w.hasIdentity with
  | true => exact List.any_eq_true.mpr ⟨w, hw, (Value.sameValue_self w).trans hidentity⟩
  | false =>
    refine List.any_eq_false.mpr fun v _ => ?_
    rw [Value.sameValue_of_not_hasIdentity hidentity]
    exact Bool.false_ne_true

end Search

theorem runOn_includes (ref : Nat) (args : List Value) (m : Machine) :
    (arrayMethod ref "includes" args).runOn m =
      (.ok (.bool ((m.heap.array ref).toList.any (·.sameValue (argument args 0)))), m) := by
  rw [Array.any_toList]
  rfl

theorem runOn_indexOf (ref : Nat) (args : List Value) (m : Machine) :
    (arrayMethod ref "indexOf" args).runOn m =
      (.ok (.number (((m.heap.array ref).toList.findIdx? (·.strictEquals (argument args 0))).elim
        (-1.0) Float.ofNat)), m) := by
  have hheap (f : Heap → Value) : (Eval.heap f).runOn m = (.ok (f m.heap), m) := rfl
  simp only [arrayMethod, hheap]
  cases (m.heap.array ref).toList.findIdx? (·.strictEquals (argument args 0)) <;> rfl

section Calls

variable {receiver : Expr} {items : List Element} {args : List Value} (hm : m.stepsLeft = none)
  (hm₂ : m₂.stepsLeft = none)
  (hreceiver : ComesTo (eval · receiver scope) m (.ok (.array ref)) m₁)
  (hitems : ComesTo (evalElements · items scope) m₁ (.ok args) m₂)
  (hmem : argument args 0 ∈ (m₂.heap.array ref).toList)

include hm hm₂ hreceiver hitems hmem

theorem comesTo_includes :
    ComesTo (eval · (receiver.methodCall "includes" items) scope) m
      (.ok (.bool (argument args 0).hasIdentity)) m₂ := by
  rw [← any_sameValue hmem]
  exact comesTo_arrayCall hm hm₂ (by decide) rfl (by decide) hreceiver hitems
    (runOn_includes ref args m₂)

/-- The position of an item is found if the item is strictly equal to itself. -/
theorem comesTo_indexOf :
    ∃ x, ComesTo (eval · (receiver.methodCall "indexOf" items) scope) m (.ok (.number x)) m₂ ∧
      ((argument args 0).strictEquals (argument args 0) = true →
        ∃ i, x = Float.ofNat i ∧ FirstAt (m₂.heap.array ref).toList (argument args 0) i) ∧
      ((argument args 0).strictEquals (argument args 0) = false → x = -1.0) := by
  refine ⟨_, comesTo_arrayCall hm hm₂ (by decide) rfl (by decide) hreceiver hitems
    (runOn_indexOf ref args m₂), fun hself => ?_, fun hself => ?_⟩
  · obtain ⟨i, hi, hfirst⟩ := exists_firstAt hmem hself
    rw [hi]
    exact ⟨i, rfl, hfirst⟩
  · rw [findIdx?_eq_none hself]
    rfl

end Calls

/-- On all values strict equality is symmetric and transitive and implies loose equality, which is
symmetric; and a value is strictly equal to itself unless it is not-a-number, a method or a handle.
So an array includes all of its items but methods and handles, and tells the positions of those that
are not not-a-number either. -/
theorem values_equal_and_found (hm : m.stepsLeft = none) (hm₂ : m₂.stepsLeft = none) :
    (∀ v : Value, v.strictEquals v = (v.hasIdentity && !v.isNotANumber)) ∧
    (∀ v w : Value, v.strictEquals w = w.strictEquals v) ∧
    (∀ u v w : Value, u.strictEquals v = true → v.strictEquals w = true →
      u.strictEquals w = true) ∧
    (∀ (h : Heap) (v w : Value), v.strictEquals w = true → h.looseEquals v w = true) ∧
    (∀ (h : Heap) (v w : Value), h.looseEquals v w = h.looseEquals w v) ∧
    (∀ (left right : Expr) (v w : Value),
      ComesTo (eval · left scope) m (.ok v) m₁ → ComesTo (eval · right scope) m₁ (.ok w) m₂ →
      ComesTo (eval · (.binary .strictEq left right) scope) m (.ok (.bool (v.strictEquals w))) m₂ ∧
      ComesTo (eval · (.binary .eq left right) scope) m
        (.ok (.bool (m₂.heap.looseEquals v w))) m₂) ∧
    (∀ (receiver : Expr) (items : List Element) (ref : Nat) (args : List Value),
      ComesTo (eval · receiver scope) m (.ok (.array ref)) m₁ →
      ComesTo (evalElements · items scope) m₁ (.ok args) m₂ →
      let v := argument args 0
      v ∈ (m₂.heap.array ref).toList →
      ComesTo (eval · (receiver.methodCall "includes" items) scope) m
        (.ok (.bool v.hasIdentity)) m₂ ∧
      ∃ x, ComesTo (eval · (receiver.methodCall "indexOf" items) scope) m (.ok (.number x)) m₂ ∧
        (v.hasIdentity = true → v.isNotANumber = false →
          ∃ i, x = Float.ofNat i ∧ FirstAt (m₂.heap.array ref).toList v i) ∧
        (v.hasIdentity = false ∨ v.isNotANumber = true → x = -1.0)) := by
  refine ⟨Value.strictEquals_self, Value.strictEquals_comm, fun _ _ _ => Value.strictEquals_trans,
    fun h _ _ => h.looseEquals_of_strictEquals, Heap.looseEquals_comm,
    fun left right v w hleft hright => ⟨comesTo_eval_binary hm hleft hright rfl,
      comesTo_eval_binary hm hleft hright rfl⟩, ?_⟩
  intro receiver items ref args hreceiver hitems v hmem
  obtain ⟨x, hx, hfound, hmissed⟩ := comesTo_indexOf hm hm₂ hreceiver hitems hmem
  rw [Value.strictEquals_self] at hfound hmissed
  refine ⟨comesTo_includes hm hm₂ hreceiver hitems hmem, x, hx, fun hidentity hnumber => ?_,
    fun hnone => ?_⟩
  · exact hfound (by rw [hidentity, hnumber]; rfl)
  · refine hmissed ?_
    rcases hnone with hidentity | hnumber
    · rw [hidentity]
      rfl
    · rw [hnumber]
      exact Bool.and_false _

/-- An array includes a number that is not one, and does not tell where. -/
theorem values_equal_and_found_nan :
    let start := Machine.start (.unused .playwright)
    let m := (start.withArray #[.null, .number nan]).declared globalScope "items"
      (.array start.heap.arrays.size) true
    let search (name : String) := (Expr.ident "items").methodCall name [.item (.number nan)]
    m.stepsLeft = none ∧
      ComesTo (eval · (search "includes") globalScope) m (.ok (.bool true)) m ∧
      ComesTo (eval · (search "indexOf") globalScope) m (.ok (.number (-1.0))) m := by
  intro start m search
  have hm : m.stepsLeft = none := rfl
  have hreceiver : ComesTo (eval · (.ident "items") globalScope) m
      (.ok (.array start.heap.arrays.size)) m := comesTo_eval_name hm rfl
  have hitems : ComesTo (evalElements · [.item (.number nan)] globalScope) m
      (.ok [.number nan]) m := comesTo_evalElements_item (comesTo_eval_constant hm rfl)
  have hmem : Value.number nan ∈ (m.heap.array start.heap.arrays.size).toList :=
    List.mem_cons_of_mem _ List.mem_cons_self
  obtain ⟨-, -, -, -, -, -, hsearch⟩ := @values_equal_and_found m m m globalScope hm hm
  obtain ⟨hincludes, x, hx, -, hmissed⟩ := hsearch _ _ _ _ hreceiver hitems hmem
  refine ⟨hm, hincludes, ?_⟩
  rw [← hmissed (.inr (by decide +kernel))]
  exact hx

/-- A handle is not strictly equal to itself. -/
theorem page_not_equal_to_itself :
    runText? 100 "console.log(page === page)" (.unused .playwright) =
      some (.completed, ["false"]) := by
  decide +kernel

end BrowserLab.Script
