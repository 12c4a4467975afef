import BrowserLab.Proofs.Script.MethodCall
import BrowserLab.Proofs.Text.Search

/-!
# Properties and methods of texts and arrays

What a script reads from a text or an array, and what it calls on it, when its steps are not
counted.

* `comesTo_textCall`, `comesTo_arrayCall`: a call comes to what the method does.
* `join_undoes_split`: a text that is split at a separator and joined with it again.
-/

namespace BrowserLab.Script

open Eval

variable {m m₁ m₂ m' : Machine} {scope : Nat} {v w : Value} {name key : String}
  {args : List Value} {items : List Element}

/-! ### Names and properties -/

theorem Machine.takeStep_uncounted (hm : m.stepsLeft = none) : m.takeStep = (true, m) := by
  rw [takeStep, hm]

theorem Machine.steps_uncounted (hm : m.stepsLeft = none) (n : Nat) : m.Steps n m := by
  induction n with
  | zero => exact .zero m
  | succ n ih => exact .succ ih (takeStep_uncounted hm)

theorem comesTo_eval_name (hm : m.stepsLeft = none)
    (hname : m.scopes.lookup scope name = some v) :
    ComesTo (eval · (.ident name) scope) m (.ok v) m :=
  comesTo_eval_ident.mpr ⟨Machine.takeStep_uncounted hm, hname⟩

theorem comesTo_eval_constant {e : Expr} (hm : m.stepsLeft = none) (he : e.literal? = some v) :
    ComesTo (eval · e scope) m (.ok v) m :=
  (comesTo_eval_literal he).mpr ⟨Machine.takeStep_uncounted hm, rfl⟩

/-- A property comes to what is found under its name. -/
theorem comesTo_eval_member {object : Expr} (hm : m.stepsLeft = none)
    (hobject : ComesTo (eval · object scope) m (.ok v) m₁)
    (hget : (getProperty v key).runOn m₁ = (.ok w, m')) :
    ComesTo (eval · (.member object key false) scope) m (.ok w) m' := by
  have hfollow (n : Nat) (u : Value) :
      followAll n scope [.member key false] object u = getProperty u key := by
    simp only [followAll, bind_pure]
    rfl
  change ComesTo (eval · (object.chain [.member key false]) scope) m (.ok w) m'
  refine (comesTo_chain (Machine.steps_uncounted hm _)).mpr ?_
  simp only [hfollow]
  rw [comesTo_bind_of_ok (steady_eval object scope) (fun u => .const (getProperty u key)) hobject]
  exact comesTo_const_ok.mpr hget

/-- An item comes to what is found under the text of its key. -/
theorem comesTo_eval_index {object index : Expr} {k : Value} (hm : m.stepsLeft = none)
    (hobject : ComesTo (eval · object scope) m (.ok v) m₁)
    (hindex : ComesTo (eval · index scope) m₁ (.ok k) m₂)
    (hget : (getProperty v (m₂.heap.display k)).runOn m₂ = (.ok w, m')) :
    ComesTo (eval · (.index object index false) scope) m (.ok w) m' := by
  have hfollow (n : Nat) (u : Value) : followAll n scope [.index index false] object u =
      eval n index scope >>= fun k => display k >>= fun key => getProperty u key := by
    simp only [followAll, bind_pure]
    rfl
  change ComesTo (eval · (object.chain [.index index false]) scope) m (.ok w) m'
  refine (comesTo_chain (Machine.steps_uncounted hm _)).mpr ?_
  simp only [hfollow]
  have hsteady (u : Value) : Steady fun n =>
      eval n index scope >>= fun k => display k >>= fun key => getProperty u key :=
    (steady_eval index scope).bind fun k => .const (display k >>= fun key => getProperty u key)
  rw [comesTo_bind_of_ok (steady_eval object scope) hsteady hobject,
    comesTo_bind_of_ok (steady_eval index scope)
      (fun k => .const (display k >>= fun key => getProperty v key)) hindex,
    comesTo_after (runOn_display k m₂)]
  exact comesTo_const_ok.mpr hget

/-- What an infix operator makes of the values of its two sides. -/
theorem comesTo_eval_binary {op : BinaryOp} {left right : Expr} (hm : m.stepsLeft = none)
    (hleft : ComesTo (eval · left scope) m (.ok v) m₁)
    (hright : ComesTo (eval · right scope) m₁ (.ok w) m₂) {u : Value}
    (hop : (binary op v w).runOn m₂ = (.ok u, m')) :
    ComesTo (eval · (.binary op left right) scope) m (.ok u) m' := by
  rw [comesTo_succ (by rw [eval])]
  simp only [eval]
  have hsteady (v : Value) : Steady fun n => eval n right scope >>= fun w => binary op v w :=
    (steady_eval right scope).bind fun w => .const (binary op v w)
  rw [comesTo_step]
  refine ⟨m, Machine.takeStep_uncounted hm, ?_⟩
  rw [comesTo_bind_of_ok (steady_eval left scope) hsteady hleft,
    comesTo_bind_of_ok (steady_eval right scope) (fun w => .const (binary op v w)) hright]
  exact comesTo_const_ok.mpr hop

/-! ### Methods -/

theorem methods_plain : (stringMethods ++ arrayMethods).all (fun name =>
    name != "length" && (Number.readIndex? name).isNone) = true := by
  decide

/-- The name of a method is neither that of the length nor that of an item. -/
theorem method_plain (hname : name ∈ stringMethods ++ arrayMethods) :
    (name == "length") = false ∧ Number.readIndex? name = none := by
  have hplain := List.all_eq_true.mp methods_plain name hname
  simpa using hplain

theorem stringProperty_method (hname : name ∈ stringMethods) (s : String) :
    stringProperty s name = .method (.string s) name := by
  obtain ⟨hlength, hindex⟩ := method_plain (List.mem_append_left _ hname)
  rw [stringProperty, hlength, hindex]
  exact if_pos (List.contains_iff_mem.mpr hname)

theorem arrayProperty_method (hname : name ∈ arrayMethods) (h : Heap) (ref : Nat) :
    arrayProperty h ref name = .method (.array ref) name := by
  obtain ⟨hlength, hindex⟩ := method_plain (List.mem_append_right _ hname)
  rw [arrayProperty, hlength, hindex]
  exact if_pos (List.contains_iff_mem.mpr hname)

section Calls

variable {receiver : Expr} (hm : m.stepsLeft = none) (hm₂ : m₂.stepsLeft = none)
include hm hm₂

/-- A method of a text is called: whatever comes of it is what the method does. -/
theorem comesTo_textCall_iff {s : String} (hname : name ∈ stringMethods)
    (hreceiver : ComesTo (eval · receiver scope) m (.ok (.string s)) m₁)
    (hitems : ComesTo (evalElements · items scope) m₁ (.ok args) m₂) {r : Except Value Value} :
    ComesTo (eval · (receiver.methodCall name items) scope) m r m' ↔
      ComesTo (fun _ => stringMethod s name args) m₂ r m' := by
  have hget : (getProperty (.string s) name).runOn m₁ = (.ok (.method (.string s) name), m₁) :=
    congrArg (Except.ok ·, m₁) (stringProperty_method hname s)
  rw [comesTo_methodCall (Machine.steps_uncounted hm 2) hreceiver hget hitems
    (Machine.takeStep_uncounted hm₂), comesTo_succ (by rw [callMethod])]
  simp only [callMethod]

/-- A method of a text is called, and comes to a value. -/
theorem comesTo_textCall {s : String} (hname : name ∈ stringMethods)
    (hreceiver : ComesTo (eval · receiver scope) m (.ok (.string s)) m₁)
    (hitems : ComesTo (evalElements · items scope) m₁ (.ok args) m₂)
    (hmethod : (stringMethod s name args).runOn m₂ = (.ok v, m')) :
    ComesTo (eval · (receiver.methodCall name items) scope) m (.ok v) m' :=
  (comesTo_textCall_iff hm hm₂ hname hreceiver hitems).mpr (comesTo_const_ok.mpr hmethod)

/-- A method of an array is called that calls no function. -/
theorem comesTo_arrayCall {ref : Nat} (hname : name ∈ arrayMethods)
    (hvisit : Visit.ofName? name = none) (hreduce : name ≠ "reduce")
    (hreceiver : ComesTo (eval · receiver scope) m (.ok (.array ref)) m₁)
    (hitems : ComesTo (evalElements · items scope) m₁ (.ok args) m₂)
    (hmethod : (arrayMethod ref name args).runOn m₂ = (.ok v, m')) :
    ComesTo (eval · (receiver.methodCall name items) scope) m (.ok v) m' := by
  have hget : (getProperty (.array ref) name).runOn m₁ = (.ok (.method (.array ref) name), m₁) :=
    congrArg (Except.ok ·, m₁) (arrayProperty_method hname m₁.heap ref)
  rw [comesTo_methodCall (Machine.steps_uncounted hm 2) hreceiver hget hitems
    (Machine.takeStep_uncounted hm₂), comesTo_succ (by rw [callMethod])]
  simp only [callMethod, hvisit, beq_eq_false_iff_ne.mpr hreduce]
  exact comesTo_const_ok.mpr hmethod

end Calls

/-! ### Splitting and joining -/

/-- The machine once an array has been made, as its newest one. -/
def Machine.withArray (m : Machine) (items : Array Value) : Machine :=
  { m with heap := (m.heap.newArray items).2 }

theorem Machine.array_withArray (m : Machine) (items : Array Value) :
    (m.withArray items).heap.array m.heap.arrays.size = items := by
  simp [withArray, Heap.newArray, Heap.array]

/-- The arrays that there were before are left as they are. -/
theorem Machine.array_withArray_of_lt {ref : Nat} (h : ref < m.heap.arrays.size)
    (items : Array Value) : (m.withArray items).heap.array ref = m.heap.array ref := by
  simp only [withArray, Heap.newArray, Heap.array, Array.getD_eq_getD_getElem?,
    Array.getElem?_push_lt h, Array.getElem?_eq_getElem h]

theorem Machine.arrays_size_lt (m : Machine) (items : Array Value) :
    m.heap.arrays.size < (m.withArray items).heap.arrays.size := by
  simp [withArray, Heap.newArray]

/-- The texts that a text is split into. -/
def splitTexts (s separator : String) : List String :=
  (Text.split separator.toList s.toList).map String.ofList

theorem intercalate_splitTexts (s separator : String) :
    separator.intercalate (splitTexts s separator) = s := by
  rw [← String.toList_inj, String.toList_intercalate, splitTexts, List.map_map]
  have hid : String.toList ∘ String.ofList = id := funext fun cs => String.toList_ofList
  rw [hid, List.map_id, Text.intercalate_split]

theorem runOn_split (s separator : String) (m : Machine) :
    (stringMethod s "split" [.string separator]).runOn m =
      (.ok (.array m.heap.arrays.size),
        m.withArray ((splitTexts s separator).map Value.string).toArray) := by
  rw [splitTexts, List.map_map]
  rfl

theorem runOn_join {ref : Nat} {texts : List String} (separator : String)
    (htexts : (m.heap.array ref).toList = texts.map Value.string) :
    (arrayMethod ref "join" [.string separator]).runOn m =
      (.ok (.string (separator.intercalate texts)), m) := by
  have hitems : (texts.map Value.string).map
      (fun v => if v.isNullish then "" else m.heap.display v) = texts := by
    rw [List.map_map]
    exact List.map_id texts
  show (Except.ok (Value.string (joinItems m.heap separator (m.heap.array ref).toList)), m) = _
  rw [joinItems, htexts, hitems]

/-- A text that is split at a separator and joined with it again is what it was, and the separator
does not occur in any of the pieces, unless it is empty. -/
theorem join_undoes_split {x y s separator : String} (hm : m.stepsLeft = none)
    (hx : m.scopes.lookup scope x = some (.string s))
    (hy : m.scopes.lookup scope y = some (.string separator)) :
    let split := (Expr.ident x).methodCall "split" [.item (.ident y)]
    let join := split.methodCall "join" [.item (.ident y)]
    ∃ pieces : List String, ∃ ref m',
      ComesTo (eval · split scope) m (.ok (.array ref)) m' ∧
        (m'.heap.array ref).toList = pieces.map Value.string ∧
        ComesTo (eval · join scope) m (.ok (.string s)) m' ∧
        (separator ≠ "" → ∀ piece ∈ pieces, ¬ separator.toList <:+: piece.toList) := by
  intro split join
  let pieces := splitTexts s separator
  let m' := m.withArray (pieces.map Value.string).toArray
  have hsplit : ComesTo (eval · split scope) m (.ok (.array m.heap.arrays.size)) m' :=
    comesTo_textCall hm hm (by decide) (comesTo_eval_name hm hx)
      (comesTo_evalElements_item (comesTo_eval_name hm hy)) (runOn_split s separator m)
  have hitems : (m'.heap.array m.heap.arrays.size).toList = pieces.map Value.string := by
    rw [Machine.array_withArray]
  refine ⟨pieces, m.heap.arrays.size, m', hsplit, hitems, ?_, fun hseparator piece hpiece => ?_⟩
  · have hm' : m'.stepsLeft = none := hm
    have hy' : m'.scopes.lookup scope y = some (.string separator) := hy
    have hjoin := runOn_join separator hitems
    rw [intercalate_splitTexts] at hjoin
    exact comesTo_arrayCall hm hm' (by decide) rfl (by decide) hsplit
      (comesTo_evalElements_item (comesTo_eval_name hm' hy')) hjoin
  · obtain ⟨cs, hcs, rfl⟩ := List.mem_map.mp hpiece
    rw [String.toList_ofList]
    exact Text.not_infix_of_mem_split (mt String.toList_eq_nil_iff.mp hseparator) hcs

/-- The separator overlaps itself in the text. -/
theorem join_undoes_split_overlapping :
    let m := ((Machine.start (.unused .playwright)).declared globalScope "s"
      (.string "ababa") true).declared globalScope "separator" (.string "aba") true
    let split := (Expr.ident "s").methodCall "split" [.item (.ident "separator")]
    m.stepsLeft = none ∧ m.scopes.lookup globalScope "s" = some (.string "ababa") ∧
      m.scopes.lookup globalScope "separator" = some (.string "aba") ∧
      ∃ m', ComesTo (eval · (split.methodCall "join" [.item (.ident "separator")]) globalScope) m
        (.ok (.string "ababa")) m' := by
  intro m split
  have hm : m.stepsLeft = none := rfl
  have hs : m.scopes.lookup globalScope "s" = some (.string "ababa") := rfl
  have hseparator : m.scopes.lookup globalScope "separator" = some (.string "aba") := rfl
  obtain ⟨-, -, m', -, -, hjoin, -⟩ := join_undoes_split hm hs hseparator
  exact ⟨hm, hs, hseparator, m', hjoin⟩

end BrowserLab.Script
