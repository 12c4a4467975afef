import BrowserLab.Proofs.Script.Follows

/-!
# Methods and operators

The methods of text, numbers and arrays and the infix operators work on the memory only, so they do
the same on alike machines, and what they make holds no handles but those of their arguments.
-/

namespace BrowserLab.Script

variable {p : Handle → Prop} {R : Link}

namespace Keeps

/-! ### Text and numbers -/

theorem optionalNumber (args : List Value) (i : Nat) :
    Keeps p R Anything (optionalNumber args i) := by
  unfold Script.optionalNumber
  split
  · exact pure trivial
  · exact (number _).bind fun _ _ => pure trivial

theorem padStartMethod (s : String) (args : List Value) :
    Keeps p R (Value.All p) (padStartMethod s args) := by
  unfold Script.padStartMethod
  refine (number _).bind fun width _ => ?_
  split
  · exact rangeError _
  · dsimp only
    generalize (if (width.isNaN || decide (width ≤ 0.0)) = true then 0 else _) = places
    split
    · exact pureBind (pure trivial)
    · exact (display _).bind fun _ _ => pure trivial

theorem repeatMethod (s : String) (args : List Value) :
    Keeps p R (Value.All p) (repeatMethod s args) := by
  unfold Script.repeatMethod
  refine (number _).bind fun count _ => ?_
  dsimp only
  generalize (if count.isNaN = true then 0.0 else count) = count
  split
  · exact rangeError _
  · split
    · exact rangeError _
    · exact pure trivial

theorem newTexts (texts : List String) :
    Keeps p R (Value.All p) (Eval.newArray (texts.map Value.string).toArray) := by
  refine newArray fun v hv => ?_
  obtain ⟨s, -, rfl⟩ := List.mem_map.mp hv
  exact trivial

theorem splitMethod (s : String) (args : List Value) :
    Keeps p R (Value.All p) (splitMethod s args) := by
  unfold Script.splitMethod
  split
  · exact newTexts [s]
  · refine (display _).bind fun separator _ => ?_
    have := newTexts (p := p) (R := R) ((Text.split separator.toList s.toList).map String.ofList)
    rw [List.map_map] at this
    exact this

theorem all_charAt (o : Option Char) : ((o.map charValue).getD .undefined).All p := by
  cases o <;> exact trivial

theorem stringMethod (s name : String) (args : List Value) :
    Keeps p R (Value.All p) (stringMethod s name args) := by
  unfold Script.stringMethod
  dsimp only
  split
  case h_7 => exact splitMethod s args
  case h_14 => exact padStartMethod s args
  case h_15 => exact repeatMethod s args
  case h_17 => exact typeError _
  case h_9 =>
    exact (optionalNumber _ _).bind fun _ _ => (optionalNumber _ _).bind fun _ _ => pure trivial
  case h_10 =>
    exact (optionalNumber _ _).bind fun _ _ => (optionalNumber _ _).bind fun _ _ => pure trivial
  case h_8 => exact (display _).bind fun _ _ => (display _).bind fun _ _ => pure trivial
  case h_12 =>
    refine (number _).bind fun _ _ => ?_
    split <;> exact pure trivial
  case h_13 =>
    refine (number _).bind fun _ _ => ?_
    split
    · exact pure (all_charAt _)
    · exact pure trivial
  all_goals first
    | exact pure trivial
    | exact (display _).bind fun _ _ => pure trivial

theorem numberMethod (x : Float) (name : String) (args : List Value) :
    Keeps p R (Value.All p) (numberMethod x name args) := by
  unfold Script.numberMethod
  split
  · split
    · exact pure trivial
    · exact (number _).bind fun _ _ => pure trivial
  · exact pure trivial
  · exact typeError _

/-! ### Arrays -/

theorem iterate {v : Value} : Keeps p R (AllValues p) (iterate v) := by
  unfold Script.iterate
  split
  · exact heap fun h hh => hh.array _
  · refine pure fun v hv => ?_
    obtain ⟨c, -, rfl⟩ := List.mem_map.mp hv
    exact trivial
  · exact (display _).bind fun _ _ => typeError _

theorem all_concatItems {h : Heap} (hh : h.All p) {args : List Value} :
    AllValues p args → ∀ {items : Array Value}, AllValues p items.toList →
      AllValues p (concatItems h items args).toList := by
  induction args with
  | nil => exact fun _ _ hi => hi
  | cons v rest ih =>
    intro hargs items hi
    refine ih hargs.tail ?_
    dsimp only
    split
    · rw [Array.toList_append]
      exact hi.append (hh.array _)
    · rw [Array.toList_push]
      exact hi.append (allValues_nil.cons hargs.head)

theorem all_foldl_push {args : List Value} :
    AllValues p args → ∀ {items : Array Value}, AllValues p items.toList →
      AllValues p (args.foldl Array.push items).toList := by
  induction args with
  | nil => exact fun _ _ hi => hi
  | cons v rest ih =>
    intro hargs items hi
    refine ih hargs.tail ?_
    rw [Array.toList_push]
    exact hi.append (allValues_nil.cons hargs.head)

theorem modifyArray {ref : Nat} {f : Array Value → Array Value}
    (hf : ∀ items : Array Value, AllValues p items.toList → AllValues p (f items).toList) :
    Keeps p R Anything (Eval.modifyHeap (·.modifyArray ref f)) :=
  modifyHeap fun _ hh => hh.modifyArray (hf _ (hh.array ref))

theorem arrayMethod (ref : Nat) (name : String) {args : List Value} (hargs : AllValues p args) :
    Keeps p R (Value.All p) (arrayMethod ref name args) := by
  unfold Script.arrayMethod
  split
  · exact (modifyArray fun _ hi => all_foldl_push hargs hi).bind fun _ _ => heap fun _ _ => trivial
  · refine (heap (Q := AllOption p) fun h hh v hv => ?_).bind fun last hlast => ?_
    · exact hh.array ref v (Array.mem_toList_iff.mpr (Array.mem_of_back? hv))
    · refine (modifyArray fun items hi v hv => hi v ?_).bind fun _ _ => pure (Value.all_getD hlast)
      rw [Array.toList_pop] at hv
      exact List.dropLast_subset _ hv
  · refine (heap (Q := AllOption p) fun h hh v hv => hh.item hv).bind fun first hfirst => ?_
    refine (modifyArray fun items hi v hv => hi v ?_).bind fun _ _ => pure (Value.all_getD hfirst)
    rw [Array.toList_extract] at hv
    exact List.mem_of_mem_drop (List.mem_of_mem_take hv)
  · exact heap fun _ _ => trivial
  · refine heap fun _ _ => ?_
    split <;> exact trivial
  · split
    · exact pureBind (heap fun _ _ => trivial)
    · exact (display _).bind fun _ _ => heap fun _ _ => trivial
  · refine (heap (Q := fun items => AllValues p items.toList) fun _ hh => hh.array ref).bind
      fun items hitems => ?_
    refine (optionalNumber _ _).bind fun _ _ => (optionalNumber _ _).bind fun _ _ => ?_
    refine newArray fun v hv => hitems v ?_
    rw [Array.toList_extract] at hv
    exact List.mem_of_mem_drop (List.mem_of_mem_take hv)
  · exact (heap fun _ hh => all_concatItems hh hargs (hh.array ref)).bind fun _ hi => newArray hi
  · refine (modifyArray fun items hi v hv => hi v ?_).bind fun _ _ => pure trivial
    rw [Array.toList_reverse] at hv
    exact List.mem_reverse.mp hv
  · refine (heap (Q := fun items => AllValues p items.toList) fun _ hh => hh.array ref).bind
      fun items hitems => ?_
    refine (number _).bind fun _ _ => ?_
    split
    · refine pure ?_
      rw [Array.getD_eq_getD_getElem?]
      exact Value.all_getD fun v hv => hitems v (Array.mem_toList_iff.mpr (Array.mem_of_getElem? hv))
    · exact pure trivial
  · exact (display _).bind fun _ _ => pure trivial
  · exact typeError _

theorem finish {visit : Visit} {kept : List Value} (hkept : AllValues p kept) :
    Keeps p R (Value.All p) (visit.finish kept) := by
  cases visit with
  | filter => exact newArray (by simpa using hkept)
  | map => exact newArray (by simpa using hkept)
  | _ => exact pure trivial

end Keeps

theorem Visit.all_decided {visit : Visit} {i : Nat} {item answer result : Value} (hi : item.All p)
    (h : visit.decided? i item answer = Option.some result) : result.All p := by
  cases visit with
  | find =>
    rw [Visit.decided?] at h
    split at h
    · cases h
      exact hi
    · cases h
  | findIndex =>
    rw [Visit.decided?] at h
    split at h <;> cases h
    exact trivial
  | some =>
    rw [Visit.decided?] at h
    split at h <;> cases h
    exact trivial
  | every =>
    rw [Visit.decided?] at h
    split at h <;> cases h
    exact trivial
  | _ => cases h

theorem Visit.all_kept {visit : Visit} {item answer : Value} (hi : item.All p)
    (ha : answer.All p) : AllValues p (visit.kept item answer) := by
  cases visit with
  | filter =>
    rw [Visit.kept]
    split
    · exact allValues_nil.cons hi
    · exact allValues_nil
  | map => exact allValues_nil.cons ha
  | _ => exact allValues_nil

/-! ### Operators -/

theorem all_plus (h : Heap) (a b : Value) : (plus h a b).All p := by
  unfold plus
  split
  · exact trivial
  · split <;> exact trivial

namespace Keeps

theorem isMember (key v : Value) : Keeps p R Anything (isMember key v) := by
  unfold Script.isMember
  refine (heap (Q := Anything) fun _ _ => trivial).bind fun h _ => ?_
  dsimp only
  split
  · exact pure trivial
  · split <;> exact pure trivial
  · exact typeError _

theorem binary (op : BinaryOp) (a b : Value) : Keeps p R (Value.All p) (binary op a b) := by
  unfold Script.binary
  refine (heap (Q := Anything) fun _ _ => trivial).bind fun h _ => ?_
  cases op with
  | add => exact pure (all_plus _ _ _)
  | isIn => exact (isMember _ _).bind fun _ _ => pure trivial
  | _ => exact pure trivial

end Keeps

end BrowserLab.Script
