import BrowserLab.Proofs.Dict
import BrowserLab.Script.Global

/-!
# The handles that a machine holds

A handle may hold values, and a value may be a handle or a method of one.  `Value.All p` says that
every handle within a value is as `p` tells, and `Heap.All p`, `Scopes.All p` and `Machine.All p`
say so of all values that are kept somewhere.  Whatever the memory is made to do with such values,
it holds no others afterwards.
-/

namespace BrowserLab.Script

mutual

/-- All handles within the value are as `p` tells. -/
def Value.All (p : Handle → Prop) : Value → Prop
  | .method this _ => this.All p
  | .handle h => h.All p
  | _ => True

/-- The handle and all handles within it are as `p` tells. -/
def Handle.All (p : Handle → Prop) : Handle → Prop
  | .expectation subject => p (.expectation subject) ∧ subject.All p
  | .chain target subject => p (.chain target subject) ∧ subject.All p
  | h => p h

end

variable {p : Handle → Prop}

theorem Handle.All.self {h : Handle} (hh : h.All p) : p h := by
  cases h with
  | expectation _ => exact hh.1
  | chain _ _ => exact hh.1
  | _ => exact hh

@[simp] theorem Value.all_undefined : Value.undefined.All p := trivial
@[simp] theorem Value.all_null : Value.null.All p := trivial
@[simp] theorem Value.all_bool (b : Bool) : (Value.bool b).All p := trivial
@[simp] theorem Value.all_number (x : Float) : (Value.number x).All p := trivial
@[simp] theorem Value.all_string (s : String) : (Value.string s).All p := trivial
@[simp] theorem Value.all_array (ref : Nat) : (Value.array ref).All p := trivial
@[simp] theorem Value.all_object (ref : Nat) : (Value.object ref).All p := trivial
@[simp] theorem Value.all_closure (ref : Nat) : (Value.closure ref).All p := trivial
@[simp] theorem Value.all_builtin (b : Builtin) : (Value.builtin b).All p := trivial

theorem Value.all_getD {o : Option Value} (h : ∀ v, o = some v → v.All p) :
    (o.getD .undefined).All p := by
  cases o with
  | none => exact trivial
  | some v => exact h v rfl

/-- All values in a list are as `Value.All` tells. -/
def AllValues (p : Handle → Prop) (vs : List Value) : Prop := ∀ v ∈ vs, v.All p

theorem allValues_nil : AllValues p [] := fun _ h => by simp at h

theorem AllValues.cons {v : Value} {vs : List Value} (hv : v.All p) (hvs : AllValues p vs) :
    AllValues p (v :: vs) := by
  intro w hw
  rcases List.mem_cons.mp hw with rfl | hw
  · exact hv
  · exact hvs w hw

theorem AllValues.head {v : Value} {vs : List Value} (h : AllValues p (v :: vs)) : v.All p :=
  h v List.mem_cons_self

theorem AllValues.tail {v : Value} {vs : List Value} (h : AllValues p (v :: vs)) :
    AllValues p vs :=
  fun w hw => h w (List.mem_cons_of_mem _ hw)

theorem AllValues.append {vs ws : List Value} (hv : AllValues p vs) (hw : AllValues p ws) :
    AllValues p (vs ++ ws) := by
  intro v h
  rcases List.mem_append.mp h with h | h
  · exact hv v h
  · exact hw v h

theorem AllValues.reverse {vs : List Value} (h : AllValues p vs) : AllValues p vs.reverse :=
  fun v hv => h v (List.mem_reverse.mp hv)

theorem AllValues.drop {vs : List Value} (h : AllValues p vs) (n : Nat) :
    AllValues p (vs.drop n) :=
  fun v hv => h v (List.mem_of_mem_drop hv)

theorem AllValues.getD {vs : List Value} (h : AllValues p vs) (i : Nat) :
    (vs.getD i .undefined).All p := by
  rw [List.getD_eq_getElem?_getD]
  exact Value.all_getD fun v hv => h v (List.mem_of_getElem? hv)

theorem AllValues.argument {args : List Value} (h : AllValues p args) (i : Nat) :
    (argument args i).All p :=
  h.getD i

/-! ### The heap -/

/-- All values in the heap are as `Value.All` tells. -/
structure Heap.All (p : Handle → Prop) (h : Heap) : Prop where
  array : ∀ ref, AllValues p (h.array ref).toList
  object : ∀ ref, Dict.Holds (Value.All p) (h.object ref)

namespace Heap

variable {h : Heap}

theorem all_empty : Heap.empty.All p :=
  ⟨fun _ => by simpa [Heap.array, Heap.empty] using allValues_nil,
    fun _ => by simp [Heap.object, Heap.empty]⟩

theorem All.newArray (hh : h.All p) {items : Array Value} (hi : AllValues p items.toList) :
    (h.newArray items).2.All p := by
  refine ⟨fun ref => ?_, hh.object⟩
  simp only [Heap.newArray, Heap.array, Array.getD_eq_getD_getElem?, Array.getElem?_push]
  split
  · exact hi
  · simpa only [Heap.array, Array.getD_eq_getD_getElem?] using hh.array ref

theorem All.newObject (hh : h.All p) {members : Dict Value}
    (hm : Dict.Holds (Value.All p) members) : (h.newObject members).2.All p := by
  refine ⟨hh.array, fun ref => ?_⟩
  simp only [Heap.newObject, Heap.object, Array.getD_eq_getD_getElem?, Array.getElem?_push]
  split
  · exact hm
  · simpa only [Heap.object, Array.getD_eq_getD_getElem?] using hh.object ref

theorem All.newClosure (hh : h.All p) (c : Closure) : (h.newClosure c).2.All p :=
  ⟨hh.array, hh.object⟩

theorem All.modifyArray (hh : h.All p) {ref : Nat} {f : Array Value → Array Value}
    (hf : AllValues p (f (h.array ref)).toList) : (h.modifyArray ref f).All p := by
  refine ⟨fun r => ?_, hh.object⟩
  have hr := hh.array r
  simp only [Heap.modifyArray, Heap.array, Array.getD_eq_getD_getElem?, Array.getElem?_modify]
    at hf hr ⊢
  split
  · subst_vars
    cases ha : h.arrays[r]? with
    | none => simpa using allValues_nil
    | some items => simpa [ha] using hf
  · exact hr

theorem All.modifyObject (hh : h.All p) {ref : Nat} {f : Dict Value → Dict Value}
    (hf : Dict.Holds (Value.All p) (f (h.object ref))) : (h.modifyObject ref f).All p := by
  refine ⟨hh.array, fun r => ?_⟩
  have hr := hh.object r
  simp only [Heap.modifyObject, Heap.object, Array.getD_eq_getD_getElem?, Array.getElem?_modify]
    at hf hr ⊢
  split
  · subst_vars
    cases ho : h.objects[r]? with
    | none => simp
    | some members => simpa [ho] using hf
  · exact hr

theorem All.item (hh : h.All p) {ref i : Nat} {v : Value} (hv : (h.array ref)[i]? = some v) :
    v.All p :=
  hh.array ref v (Array.mem_toList_iff.mpr (Array.mem_of_getElem? hv))

theorem All.field? (hh : h.All p) {v w : Value} {key : String} (hw : h.field? v key = some w) :
    w.All p := by
  cases v with
  | object ref => exact (hh.object ref).get? hw
  | _ => cases hw

theorem All.option? (hh : h.All p) {v w : Value} {key : String} (hw : h.option? v key = some w) :
    w.All p := by
  rw [Heap.option?] at hw
  split at hw
  · next u hu =>
    split at hw
    · cases hw
    · cases hw
      exact hh.field? hu
  · cases hw

mutual

theorem All.ofJson {h : Heap} (hh : h.All p) (j : Json) :
    (h.ofJson j).1.All p ∧ (h.ofJson j).2.All p := by
  match j with
  | .null => exact ⟨trivial, by rw [Heap.ofJson]; exact hh⟩
  | .bool _ => exact ⟨trivial, by rw [Heap.ofJson]; exact hh⟩
  | .int _ => exact ⟨trivial, by rw [Heap.ofJson]; exact hh⟩
  | .real _ => exact ⟨trivial, by rw [Heap.ofJson]; exact hh⟩
  | .str _ => exact ⟨trivial, by rw [Heap.ofJson]; exact hh⟩
  | .arr items =>
    rw [Heap.ofJson]
    have hitems := All.ofItems hh items
    exact ⟨trivial, hitems.2.newArray (by simpa using hitems.1)⟩
  | .obj members =>
    rw [Heap.ofJson]
    have hmembers := All.ofMembers hh members
    exact ⟨trivial, hmembers.2.newObject hmembers.1.ofPairs⟩

theorem All.ofItems {h : Heap} (hh : h.All p) (items : List Json) :
    AllValues p (h.ofItems items).1 ∧ (h.ofItems items).2.All p := by
  match items with
  | [] => rw [Heap.ofItems]; exact ⟨allValues_nil, hh⟩
  | j :: rest =>
    rw [Heap.ofItems]
    have hj := All.ofJson hh j
    have hrest := All.ofItems hj.2 rest
    exact ⟨hrest.1.cons hj.1, hrest.2⟩

theorem All.ofMembers {h : Heap} (hh : h.All p) (members : List (String × Json)) :
    Dict.Holds (Value.All p) (h.ofMembers members).1 ∧ (h.ofMembers members).2.All p := by
  match members with
  | [] => rw [Heap.ofMembers]; exact ⟨Dict.holds_nil, hh⟩
  | (k, j) :: rest =>
    rw [Heap.ofMembers]
    have hj := All.ofJson hh j
    have hrest := All.ofMembers hj.2 rest
    exact ⟨Dict.holds_cons hj.1 hrest.1, hrest.2⟩

end

end Heap

/-! ### Scopes -/

/-- All variables are as `Value.All` tells. -/
def Scopes.All (p : Handle → Prop) (s : Scopes Value) : Prop :=
  ∀ f ∈ s.frames, Dict.Holds (fun x => x.value.All p) f.bindings

namespace Scopes

variable {s : Scopes Value}

theorem all_empty : (Scopes.empty : Scopes Value).All p := fun _ h => by simp [Scopes.empty] at h

theorem All.push (hs : s.All p) (parent : Option Nat) : (s.push parent).2.All p := by
  intro f hf
  rcases Array.mem_push.mp hf with hf | rfl
  · exact hs f hf
  · exact Dict.holds_nil

theorem All.declare (hs : s.All p) {v : Value} (hv : v.All p) (scope : Nat) (name : String)
    (mutable : Bool) : (s.declare scope name v mutable).All p := by
  intro f hf
  obtain ⟨i, hi, rfl⟩ := Array.getElem_of_mem hf
  simp only [Scopes.declare, Array.size_modify] at hi
  have hold := hs s.frames[i] (Array.getElem_mem _)
  simp only [Scopes.declare, Array.getElem_modify]
  split
  · exact hold.insert hv name
  · exact hold

theorem All.findFrom (hs : s.All p) {name : String} {holder : Nat} {x : Variable Value} :
    ∀ {fuel scope : Nat}, s.findFrom name fuel scope = some (holder, x) → x.value.All p := by
  intro fuel
  induction fuel with
  | zero => intro scope h; cases h
  | succ fuel ih =>
    intro scope h
    rw [Scopes.findFrom] at h
    split at h
    · cases h
    · next f hf =>
      split at h
      · next v hv =>
        cases h
        exact (hs f (Array.mem_of_getElem? hf)).get? hv
      · split at h
        · cases h
        · exact ih h

theorem All.lookup (hs : s.All p) {scope : Nat} {name : String} {v : Value}
    (h : s.lookup scope name = some v) : v.All p := by
  obtain ⟨⟨holder, x⟩, hx, rfl⟩ := Option.map_eq_some_iff.mp h
  exact hs.findFrom hx

theorem All.assign (hs : s.All p) {v : Value} (hv : v.All p) (scope : Nat) (name : String) :
    (s.assign scope name v).2.All p := by
  rw [Scopes.assign]
  split
  · exact hs
  · split
    · exact hs.declare hv _ _ _
    · exact hs

end Scopes

/-! ### The machine -/

/-- All values that a machine holds are as `Value.All` tells. -/
structure Machine.All (p : Handle → Prop) (m : Machine) : Prop where
  heap : m.heap.All p
  scopes : m.scopes.All p
  tests : AllValues p m.tests
  hooks : AllValues p m.hooks
  commands : Dict.Holds (Value.All p) m.browser.commands

/-! ### Replies -/

/-- A value, or a call and what becomes of its result, hold no handles but such as `p` tells. -/
def Reply.All (p : Handle → Prop) : Reply → Prop
  | .value v => v.All p
  | .callback callee args settle =>
    callee.All p ∧ AllValues p args ∧ ∀ result, result.All p → (settle.apply result).All p

/-! ### Any handles -/

/-- Nothing is asked of handles. -/
abbrev anyHandle : Handle → Prop := fun _ => True

mutual

theorem Value.all_any (v : Value) : v.All anyHandle :=
  match v with
  | .method this _ => Value.all_any this
  | .handle h => Handle.all_any h
  | .undefined | .null | .bool _ | .number _ | .string _ | .array _ | .object _ | .closure _
  | .builtin _ => trivial

theorem Handle.all_any (h : Handle) : h.All anyHandle :=
  match h with
  | .expectation subject => ⟨trivial, Value.all_any subject⟩
  | .chain _ subject => ⟨trivial, Value.all_any subject⟩
  | .page _ | .locator _ | .route _ | .request | .response _ | .accessibility | .cy | .element _
  | .alias | .cypress | .commands => trivial

end

theorem Machine.all_any (m : Machine) : m.All anyHandle where
  heap := ⟨fun _ v _ => v.all_any, fun _ entry _ => entry.2.all_any⟩
  scopes := fun _ _ entry _ => entry.2.value.all_any
  tests := fun v _ => v.all_any
  hooks := fun v _ => v.all_any
  commands := fun entry _ => entry.2.all_any

theorem Reply.all_any : ∀ r : Reply, r.All anyHandle
  | .value v => v.all_any
  | .callback callee _ _ => ⟨callee.all_any, fun v _ => v.all_any, fun _ _ => Value.all_any _⟩

end BrowserLab.Script
