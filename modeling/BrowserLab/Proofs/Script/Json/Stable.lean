import Mathlib.Data.List.Perm.Subperm
import Mathlib.Logic.Relation
import BrowserLab.Proofs.Number.Units
import BrowserLab.Proofs.Script.Json.Echo
import BrowserLab.Proofs.Script.ValueMethod

/-!
# JSON forms are stable

The JSON form of a value drops and changes what JSON has no form for.  It does so once: the value
that is made of the form has the same form again.

* `Json.Kept`: the JSON values that a script keeps as they are; all forms are of this kind
  (`kept_jsonTo`), and what is made of one shows it (`shows_ofJson`).
* `Heap.Acyclic`: the value does not contain itself, nor does anything in it.  Such a value nests no
  deeper than there are places in the heap (`nests_of_acyclic`), so no form of it is cut off.
* `json_stable`: both together, for values and for the calls that a script makes.
-/

namespace BrowserLab

open Number (nan)
open Relation Script

/-! ### JSON values that are kept -/

namespace Json

/-- A script keeps the value as it is: numbers are integers or reals as a script writes them, and
the members of objects ascend. -/
inductive Kept : Json → Prop
  | null : Kept .null
  | bool (b : Bool) : Kept (.bool b)
  | int {i : Int} (h : i.natAbs < 9 * 10 ^ 15) : Kept (.int i)
  | real {x : Float} (h : ofNumber x = .real x) : Kept (.real x)
  | str (s : String) : Kept (.str s)
  | arr {items : List Json} (h : ∀ j ∈ items, Kept j) : Kept (.arr items)
  | obj {members : List (String × Json)} (ascending : Dict.Ascending members)
      (h : ∀ entry ∈ members, Kept entry.2) : Kept (.obj members)

theorem natAbs_truncate (p : Number.Parts) : p.truncate.natAbs = p.whole := by
  rw [Number.Parts.truncate]
  split <;> simp

theorem kept_ofNumber (x : Float) : Kept (ofNumber x) := by
  by_cases hbelow : Number.wholeBelow (9 * Nat.pow 10 15) x = true
  · rw [ofNumber, if_pos hbelow]
    cases hshape : Number.shape x with
    | finite p =>
      simp only [Number.wholeBelow, hshape, Bool.and_eq_true, decide_eq_true_eq] at hbelow
      have hwhole := natAbs_truncate p
      refine .int ?_
      rw [Number.toInt64, Number.clampInt, hshape]
      simp only [Nat.pow_eq] at hbelow ⊢
      omega
    | _ =>
      rw [Number.wholeBelow, hshape] at hbelow
      cases hbelow
  · cases hshape : Number.shape x with
    | finite p =>
      have hreal : ofNumber x = .real x := by
        rw [ofNumber, if_neg hbelow, hshape]
      rw [hreal]
      exact .real hreal
    | _ =>
      rw [ofNumber, if_neg hbelow, hshape]
      exact .null

/-- Not-a-number is not written as a real. -/
theorem isNaN_of_real {x : Float} (h : ofNumber x = .real x) : x.isNaN = false := by
  refine Bool.eq_false_iff.mpr fun hnan => ?_
  rw [ofNumber, Number.wholeBelow, Number.isNaN_iff.mp hnan] at h
  cases h

theorem ofNumber_signed {i : Int} (h : i.natAbs < 9 * 10 ^ 15) :
    ofNumber (Number.signed (i < 0) i.natAbs) = .int i := by
  have hnearest : Float.ofNat i.natAbs = Number.nearest i.natAbs 0 := by
    obtain hzero | hpos := Nat.eq_zero_or_pos i.natAbs
    · rw [hzero]
      rfl
    · exact Number.ofNat_eq_nearest hpos (by omega)
  rw [Number.signed, hnearest]
  by_cases hneg : i < 0
  · rw [if_pos (decide_eq_true hneg), Number.ofNumber_neg_nearest (by omega) h]
    congr 1
    omega
  · rw [if_neg (by simpa using hneg), Number.ofNumber_nearest h]
    congr 1
    omega

variable {j : Json}

theorem Kept.sorted (h : Kept j) : Json.sorted j = j := by
  induction h with
  | arr _ ih =>
    rw [sorted_arr]
    exact congrArg Json.arr ((List.map_congr_left ih).trans (List.map_id _))
  | @obj members hascending _ ih =>
    have hsame : members.map (fun entry => (entry.1, Json.sorted entry.2)) = members :=
      (List.map_congr_left fun entry hentry => congrArg (Prod.mk entry.1) (ih entry hentry)).trans
        (List.map_id _)
    rw [sorted_obj]
    refine congrArg Json.obj (Eq.trans ?_ (Dict.ofPairs_of_ascending hascending))
    exact congrArg Dict.ofPairs hsame
  | _ => rfl

theorem sameItems_self {items : List Json} (h : ∀ j ∈ items, same j j = true) :
    sameItems items items = true := by
  induction items with
  | nil => rfl
  | cons j items ih =>
    obtain ⟨hj, hitems⟩ := List.forall_mem_cons.mp h
    rw [sameItems, hj, ih hitems]
    rfl

theorem sameMembers_self {members : List (String × Json)}
    (h : ∀ entry ∈ members, same entry.2 entry.2 = true) : sameMembers members members = true := by
  induction members with
  | nil => rfl
  | cons entry members ih =>
    obtain ⟨hentry, hmembers⟩ := List.forall_mem_cons.mp h
    rw [sameMembers, hentry, ih hmembers, beq_self_eq_true]
    rfl

/-- A value that is kept is equal to itself. -/
theorem Kept.same_self (h : Kept j) : same j j = true := by
  induction h with
  | real h => exact Number.beq_self_iff.mpr (isNaN_of_real h)
  | arr _ ih => exact sameItems_self ih
  | obj _ _ ih => exact sameMembers_self ih
  | _ => simp [same]

end Json

namespace Script

/-! ### Values of JSON values -/

section Made

variable {h : Heap} {j : Json}

open Json

theorem showsItems_ofItems {items : List Json}
    (hitems : ∀ j ∈ items, ∀ h : Heap, Shows h (h.ofJson j).2 (h.ofJson j).1 j) (h : Heap) :
    ShowsItems h (h.ofItems items).2 (h.ofItems items).1 items := by
  induction items generalizing h with
  | nil => exact .nil h
  | cons j items ih =>
    obtain ⟨hj, hrest⟩ := List.forall_mem_cons.mp hitems
    exact (ih hrest (h.ofJson j).2).cons (hj h)

theorem showsMembers_ofMembers {members : List (String × Json)}
    (hmembers : ∀ entry ∈ members, ∀ h : Heap,
      Shows h (h.ofJson entry.2).2 (h.ofJson entry.2).1 entry.2) (h : Heap) :
    ShowsMembers h (h.ofMembers members).2 (h.ofMembers members).1 members := by
  induction members generalizing h with
  | nil => exact .nil h
  | cons entry members ih =>
    obtain ⟨hentry, hrest⟩ := List.forall_mem_cons.mp hmembers
    exact (ih hrest (h.ofJson entry.2).2).cons (hentry h)

/-- What is made of a value that is kept shows it. -/
theorem shows_ofJson (hj : Kept j) (h : Heap) : Shows h (h.ofJson j).2 (h.ofJson j).1 j := by
  induction hj generalizing h with
  | int hi => exact .scalar h ⟨rfl, rfl⟩ fun _ _ => ofNumber_signed hi
  | real hx => exact .scalar h ⟨rfl, rfl⟩ fun _ _ => hx
  | arr _ ih => exact (showsItems_ofItems ih h).array
  | obj _ _ ih => exact (showsMembers_ofMembers ih h).object
  | _ => exact .scalar h ⟨rfl, rfl⟩ fun _ _ => rfl

end Made

namespace Heap

variable {h h' : Heap} {u v w : Value} {n k : Nat}

/-! ### Values in values -/

/-- The first value is an item or the value of a member of the second one. -/
inductive Child (h : Heap) : Value → Value → Prop
  | item {ref : Nat} {w : Value} (hw : w ∈ (h.array ref).toList) : Child h w (.array ref)
  | member {ref : Nat} {entry : String × Value} (hentry : entry ∈ h.object ref) :
      Child h entry.2 (.object ref)

/-- The array or object that the value refers to is in the heap, if it refers to one. -/
def Has (h : Heap) : Value → Prop
  | .array ref => ref < h.arrays.size
  | .object ref => ref < h.objects.size
  | _ => True

/-- Neither the value nor anything in it contains itself. -/
def Acyclic (h : Heap) (v : Value) : Prop :=
  ∀ u, ReflTransGen h.Child u v → ¬ TransGen h.Child u u

/-- A heap as scripts make it: the members of objects ascend, and what is in arrays and objects
refers to the heap. -/
structure Sound (h : Heap) : Prop where
  ascending : ∀ ref, Dict.Ascending (h.object ref)
  has : ∀ {w v}, h.Child w v → h.Has w

/-- Nothing in the value is as many levels deep. -/
def Nests (h : Heap) : Nat → Value → Prop
  | 0, _ => False
  | n + 1, v => ∀ w, h.Child w v → Nests h n w

instance (h : Heap) (v : Value) : Decidable (h.Has v) :=
  match v with
  | .array ref => inferInstanceAs (Decidable (ref < h.arrays.size))
  | .object ref => inferInstanceAs (Decidable (ref < h.objects.size))
  | .undefined => isTrue trivial
  | .null => isTrue trivial
  | .bool _ => isTrue trivial
  | .number _ => isTrue trivial
  | .string _ => isTrue trivial
  | .closure _ => isTrue trivial
  | .builtin _ => isTrue trivial
  | .method _ _ => isTrue trivial
  | .handle _ => isTrue trivial

theorem Acyclic.child (hv : h.Acyclic v) (hw : h.Child w v) : h.Acyclic w :=
  fun u hu => hv u (hu.tail hw)

/-- All arrays and objects. -/
def places (h : Heap) : List Value :=
  (List.range h.arrays.size).map .array ++ (List.range h.objects.size).map .object

theorem length_places (h : Heap) : h.places.length = h.size := by
  simp [places, size]

theorem lt_of_mem_array {ref : Nat} (hw : w ∈ (h.array ref).toList) : ref < h.arrays.size := by
  by_contra hge
  rw [array, Array.getD_eq_getD_getElem?, Array.getElem?_eq_none (not_lt.mp hge)] at hw
  cases hw

theorem lt_of_mem_object {ref : Nat} {entry : String × Value} (hentry : entry ∈ h.object ref) :
    ref < h.objects.size := by
  by_contra hge
  rw [object, Array.getD_eq_getD_getElem?, Array.getElem?_eq_none (not_lt.mp hge)] at hentry
  cases hentry

/-- What holds of all items and members of the heap holds of all that is contained. -/
theorem child_induction {motive : Value → Value → Prop}
    (item : ∀ ref < h.arrays.size, ∀ w ∈ (h.array ref).toList, motive w (.array ref))
    (member : ∀ ref < h.objects.size, ∀ entry ∈ h.object ref, motive entry.2 (.object ref))
    (hw : h.Child w v) : motive w v := by
  cases hw with
  | item hw => exact item _ (lt_of_mem_array hw) _ hw
  | member hentry => exact member _ (lt_of_mem_object hentry) _ hentry

/-- Values are acyclic if what is contained is of a lower rank. -/
theorem acyclic_of_rank (rank : Value → Nat)
    (hrank : ∀ {w v}, h.Child w v → rank w < rank v) (v : Value) : h.Acyclic v := by
  intro u _ hcycle
  have hlt {w v : Value} (hwv : TransGen h.Child w v) : rank w < rank v := by
    induction hwv with
    | single hw => exact hrank hw
    | tail _ hw ih => exact ih.trans (hrank hw)
  exact (hlt hcycle).false

/-- What contains something is one of the places. -/
theorem mem_places (hw : h.Child w v) : v ∈ h.places := by
  cases hw with
  | item hw => simpa [places] using lt_of_mem_array hw
  | member hentry => simpa [places] using lt_of_mem_object hentry

/-- A path of values that contain each other does not come to one place twice, so it ends before
there are more of them than places. -/
theorem nests_of_path {path : List Value} (hv : h.Acyclic v) (hnodup : path.Nodup)
    (hplaces : path ⊆ h.places) (hbelow : ∀ u ∈ path, TransGen h.Child v u)
    (hn : h.size < n + path.length) : h.Nests n v := by
  induction n generalizing v path with
  | zero =>
    have hlength := (List.subperm_of_subset hnodup hplaces).length_le
    rw [length_places] at hlength
    omega
  | succ n ih =>
    intro w hw
    have hfresh : v ∉ path := fun hmem => hv v .refl (hbelow v hmem)
    refine ih (hv.child hw) (List.nodup_cons.mpr ⟨hfresh, hnodup⟩)
      (List.cons_subset.mpr ⟨mem_places hw, hplaces⟩) (fun u hu => ?_)
      (by rw [List.length_cons]; omega)
    obtain rfl | hu := List.mem_cons.mp hu
    · exact .single hw
    · exact .head hw (hbelow u hu)

theorem nests_of_acyclic (hv : h.Acyclic v) : h.Nests h.depth v := by
  have hbelow : ∀ u ∈ ([] : List Value), TransGen h.Child v u := nofun
  exact nests_of_path hv List.nodup_nil (List.nil_subset _) hbelow (Nat.lt_succ_self h.size)

/-! ### Forms that are not cut off -/

/-- The form of a value does not depend on how deep it is looked up, if that is deep enough, nor on
what has been made since. -/
theorem jsonTo_of_nests (hsound : h.Sound) (hgrown : h.Extends h') (hv : h.Has v)
    (hnests : h.Nests n v) (hk : n ≤ k) : h'.jsonTo k v = h.jsonTo n v := by
  induction n generalizing v k with
  | zero => exact hnests.elim
  | succ n ih =>
    obtain ⟨k, rfl⟩ : ∃ i, k = i + 1 := ⟨k - 1, by omega⟩
    have hchild {w : Value} (hw : h.Child w v) : h'.jsonTo k w = h.jsonTo n w :=
      ih (hsound.has hw) (hnests w hw) (by omega)
    cases v with
    | array ref =>
      rw [jsonTo, jsonTo, hgrown.array_eq hv]
      exact congrArg Json.arr (List.map_congr_left fun w hw => hchild (.item hw))
    | object ref =>
      rw [jsonTo, jsonTo, hgrown.object_eq hv]
      refine congrArg Json.obj (List.filterMap_congr fun entry hentry => ?_)
      obtain ⟨key, w⟩ := entry
      have hw : h'.jsonTo k w = h.jsonTo n w := hchild (.member hentry)
      cases w <;> simp only [hw]
    | _ => rfl

theorem json_of_acyclic (hsound : h.Sound) (hgrown : h.Extends h') (hv : h.Has v)
    (hacyclic : h.Acyclic v) (hk : h.depth ≤ k) : h'.jsonTo k v = h.json v :=
  jsonTo_of_nests hsound hgrown hv (nests_of_acyclic hacyclic) hk

/-- A member that has a place in the form has it under its key. -/
theorem eq_of_form_eq_some {key : String} {entry : String × Json}
    (hform : (match w with
      | .undefined => none
      | w => if w.isCallable then none else some (key, h.jsonTo n w)) = some entry) :
    entry = (key, h.jsonTo n w) := by
  cases w <;> simp_all [Value.isCallable]

theorem kept_jsonTo (hascending : ∀ ref, Dict.Ascending (h.object ref)) (n : Nat) (v : Value) :
    Json.Kept (h.jsonTo n v) := by
  induction n generalizing v with
  | zero => exact .null
  | succ n ih =>
    cases v with
    | bool b => exact .bool b
    | number x => exact Json.kept_ofNumber x
    | string s => exact .str s
    | array ref =>
      rw [jsonTo]
      refine .arr fun j hj => ?_
      obtain ⟨w, -, rfl⟩ := List.mem_map.mp hj
      exact ih w
    | object ref =>
      rw [jsonTo]
      refine .obj ((hascending ref).filterMap _ ?_) fun entry hentry => ?_
      · rintro ⟨key, w⟩ ⟨key', w'⟩ hlt entry hentry entry' hentry'
        rw [eq_of_form_eq_some hentry, eq_of_form_eq_some hentry']
        exact hlt
      · obtain ⟨⟨key, w⟩, -, hw⟩ := List.mem_filterMap.mp hentry
        rw [eq_of_form_eq_some hw]
        exact ih w
    | _ => exact .null

end Heap

/-! ### Calls -/

open Eval

/-- The call `JSON.stringify(e)`. -/
def Expr.stringify (e : Expr) : Expr := (Expr.ident "JSON").methodCall "stringify" [.item e]

/-- The call `JSON.parse(e)`. -/
def Expr.parse (e : Expr) : Expr := (Expr.ident "JSON").methodCall "parse" [.item e]

/-- The name `JSON` means what it means from the beginning. -/
structure HasJson (m : Machine) (scope ref : Nat) : Prop where
  name : m.scopes.lookup scope "JSON" = some (.object ref)
  stringify : (m.heap.object ref).get? "stringify" = some (.builtin .jsonStringify)
  parse : (m.heap.object ref).get? "parse" = some (.builtin .jsonParse)

section Calls

variable {m m₁ m₂ : Machine} {scope ref : Nat} {e : Expr} {v w : Value} {j : Json} {text : String}

/-- A function that an object holds from the beginning is called with one argument. -/
theorem comesTo_builtinCall {object name : String} {b : Builtin} (hm : m.stepsLeft = none)
    (hm₁ : m₁.stepsLeft = none) (hobject : m.scopes.lookup scope object = some (.object ref))
    (hb : (m.heap.object ref).get? name = some (.builtin b))
    (he : ComesTo (eval · e scope) m (.ok v) m₁)
    (hreply : (callBuiltin b [v]).runOn m₁ = (.ok (.value w), m₂)) :
    ComesTo (eval · ((Expr.ident object).methodCall name [.item e]) scope) m (.ok w) m₂ := by
  have hproperty : (getProperty (.object ref) name).runOn m = (.ok (.builtin b), m) := by
    show (Except.ok (objectProperty m.heap ref name), m) = _
    rw [objectProperty, hb]
  rw [comesTo_propertyCall (Machine.steps_uncounted hm 2) (comesTo_eval_name hm hobject) hproperty
    rfl (comesTo_evalElements_item he)]
  exact comesTo_call_builtin (Machine.takeStep_uncounted hm₁) hreply

theorem runOn_stringify_of_not_data (hv : ¬ IsData v) (m : Machine) :
    (callBuiltin .jsonStringify [v]).runOn m = (.ok (.value .undefined), m) := by
  cases v with
  | undefined => rfl
  | closure ref => rfl
  | builtin b => rfl
  | method this name => rfl
  | _ => exact absurd ⟨rfl, rfl⟩ hv

theorem runOn_parse (hread : Json.read text = .ok j) (m : Machine) :
    (callBuiltin .jsonParse [.string text]).runOn m =
      (.ok (.value (m.heap.ofJson j).1), { m with heap := (m.heap.ofJson j).2 }) := by
  have hparse : (parseJson [.string text]).runOn m =
      (.ok (m.heap.ofJson j).1, { m with heap := (m.heap.ofJson j).2 }) := by
    refine (runOn_bind_ok (runOn_display (.string text) m)).trans ?_
    have htext : m.heap.display (.string text) = text := rfl
    rw [htext, hread]
    rfl
  show (parseJson [.string text] >>= _).runOn m = _
  rw [runOn_bind_ok hparse]
  rfl

end Calls

/-- Let a value be acyclic.  Its JSON form is not cut off; the value that is made of the form, in
whatever heap, has the same form again; and so, if a script writes the value as a text, and the text
is read as the form that was written, the value that is read is equal to it. -/
theorem json_stable {h : Heap} {v : Value} (hsound : h.Sound) (hv : h.Has v)
    (hacyclic : h.Acyclic v) :
    (∀ n, h.depth ≤ n → h.jsonTo n v = h.json v) ∧
    (∀ h₀ : Heap, (h₀.ofJson (h.json v)).2.json (h₀.ofJson (h.json v)).1 = h.json v) ∧
    ∀ (m m₁ : Machine) (scope ref : Nat) (e : Expr), m.stepsLeft = none → m₁.stepsLeft = none →
      HasJson m scope ref → ComesTo (eval · e scope) m (.ok v) m₁ → m₁.heap = h →
      (IsData v →
        ComesTo (eval · (.stringify e) scope) m (.ok (.string (h.json v).compact)) m₁) ∧
      ∀ text m', ComesTo (eval · (.stringify e) scope) m (.ok (.string text)) m' →
        Json.read text = .ok (h.json v) →
        ∃ w m'', ComesTo (eval · (.parse (.stringify e)) scope) m (.ok w) m'' ∧
          m''.heap.deepEquals v w = true := by
  have hkept : Json.Kept (h.json v) := Heap.kept_jsonTo hsound.ascending h.depth v
  have hmade (h₀ : Heap) : (h₀.ofJson (h.json v)).2.json (h₀.ofJson (h.json v)).1 = h.json v :=
    (shows_ofJson hkept h₀).json.trans hkept.sorted
  refine ⟨fun n hn => Heap.json_of_acyclic hsound (.refl h) hv hacyclic hn, hmade, ?_⟩
  rintro m m₁ scope ref e hm hm₁ hjson he rfl
  have hwrites (hdata : IsData v) :
      ComesTo (eval · (.stringify e) scope) m (.ok (.string (m₁.heap.json v).compact)) m₁ :=
    comesTo_builtinCall hm hm₁ hjson.name hjson.stringify he (runOn_stringify hdata m₁)
  refine ⟨hwrites, fun text m' htext hread => ?_⟩
  obtain rfl : m₁ = m' := by
    by_cases hdata : IsData v
    · exact ((hwrites hdata).unique (steady_eval _ _) htext).2
    · have hnone : ComesTo (eval · (.stringify e) scope) m (.ok .undefined) m₁ :=
        comesTo_builtinCall hm hm₁ hjson.name hjson.stringify he
          (runOn_stringify_of_not_data hdata m₁)
      cases (hnone.unique (steady_eval _ _) htext).1
  refine ⟨_, _, comesTo_builtinCall hm hm₁ hjson.name hjson.parse htext (runOn_parse hread m₁), ?_⟩
  have hgrown := (shows_ofJson hkept m₁.heap).grown
  have hsize := hgrown.size_le
  have hsame : (m₁.heap.ofJson (m₁.heap.json v)).2.json v = m₁.heap.json v :=
    Heap.json_of_acyclic hsound hgrown hv hacyclic (Nat.succ_le_succ hsize)
  rw [Heap.deepEquals, hsame, hmade]
  exact hkept.same_self

/-- Objects above arrays, and arrays above all else. -/
def Value.layer : Value → Nat
  | .object _ => 2
  | .array _ => 1
  | _ => 0

/-- An object with a function, with nothing, and with an array of what JSON has no form for. -/
theorem json_stable_lossy :
    let start := (Machine.start (.unused .playwright)).withArray #[.number nan, .handle .request]
    let made := start.heap.newObject (Dict.ofPairs
      [("f", .builtin .test), ("list", .array 0), ("u", .undefined)])
    let m := ({ start with heap := made.2 }).declared globalScope "v" made.1 true
    m.heap.Sound ∧ m.heap.Has made.1 ∧ m.heap.Acyclic made.1 ∧
      m.stepsLeft = none ∧ HasJson m globalScope 1 ∧
      ComesTo (eval · (.ident "v") globalScope) m (.ok made.1) m ∧
      Json.read "\x7b\"list\":[null,null]\x7d" = .ok (m.heap.json made.1) ∧
      ComesTo (eval · (.stringify (.ident "v")) globalScope) m
        (.ok (.string "\x7b\"list\":[null,null]\x7d")) m ∧
      ∃ w m', ComesTo (eval · (.parse (.stringify (.ident "v"))) globalScope) m (.ok w) m' ∧
        m'.heap.deepEquals made.1 w = true := by
  intro start made m
  have hm : m.stepsLeft = none := rfl
  have hitems : ∀ ref < m.heap.arrays.size, ∀ w ∈ (m.heap.array ref).toList,
      m.heap.Has w ∧ w.layer < (Value.array ref).layer := by
    decide +kernel
  have hmembers : ∀ ref < m.heap.objects.size, ∀ entry ∈ m.heap.object ref,
      m.heap.Has entry.2 ∧ entry.2.layer < (Value.object ref).layer := by
    decide +kernel
  have hchild {w v : Value} (hw : m.heap.Child w v) : m.heap.Has w ∧ w.layer < v.layer :=
    Heap.child_induction (motive := fun w v => m.heap.Has w ∧ w.layer < v.layer) hitems hmembers hw
  have hascending : ∀ ref < m.heap.objects.size,
      (m.heap.object ref).Pairwise fun a b => a.1 < b.1 := by
    decide +kernel
  have hsound : m.heap.Sound := by
    refine ⟨fun ref => ?_, fun hw => (hchild hw).1⟩
    by_cases href : ref < m.heap.objects.size
    · exact hascending ref href
    · rw [Heap.object, Array.getD_eq_getD_getElem?, Array.getElem?_eq_none (not_lt.mp href)]
      exact List.Pairwise.nil
  have hacyclic : m.heap.Acyclic made.1 :=
    Heap.acyclic_of_rank Value.layer (fun hw => (hchild hw).2) made.1
  have hhas : m.heap.Has made.1 := by decide +kernel
  have hjson : HasJson m globalScope 1 := ⟨rfl, rfl, rfl⟩
  have hv : ComesTo (eval · (.ident "v") globalScope) m (.ok made.1) m := comesTo_eval_name hm rfl
  have hform : m.heap.json made.1 = .obj [("list", .arr [.null, .null])] := rfl
  have hread : Json.read "\x7b\"list\":[null,null]\x7d" = .ok (m.heap.json made.1) := by
    rw [hform]
    cbv
  have htext : (m.heap.json made.1).compact = "\x7b\"list\":[null,null]\x7d" := by decide +kernel
  obtain ⟨-, -, hcalls⟩ := json_stable hsound hhas hacyclic
  obtain ⟨hwrites, hreads⟩ := hcalls m m globalScope 1 (.ident "v") hm hm hjson hv rfl
  have hwritten := hwrites ⟨rfl, rfl⟩
  rw [htext] at hwritten
  exact ⟨hsound, hhas, hacyclic, hm, hjson, hv, hread, hwritten, hreads _ m hwritten hread⟩

end Script

end BrowserLab
