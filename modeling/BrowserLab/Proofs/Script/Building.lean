import BrowserLab.Proofs.Number.Units
import BrowserLab.Proofs.Script.ValueMethod

/-!
# Building texts

A text can be repeated and filled up to a width, by numbers that need be neither whole nor finite.

* `comesTo_repeat`, `comesTo_padStart`: what the two methods come to, for any arguments.
* `getElem?_cycle`: the characters that a text is filled up with.
* `built_texts_bounded`: which calls throw, what the others come to, and that no text is longer than
  `2 ^ 24` characters that was not before.
-/

namespace BrowserLab.Script

open Eval Number

variable {m m₁ m₂ m' : Machine} {scope : Nat} {s name : String} {v : Value}
  {items : List Element} {args : List Value}

/-! ### Texts put together -/

theorem size_utf8Encode_le (cs : List Char) : cs.utf8Encode.size ≤ 4 * cs.length := by
  induction cs with
  | nil => simp
  | cons c cs ih =>
    rw [List.utf8Encode_cons, ByteArray.size_append, List.utf8Encode_singleton,
      List.size_toByteArray, String.length_utf8EncodeChar, List.length_cons]
    have hsize := c.utf8Size_le_four
    omega

theorem utf8ByteSize_le (s : String) : s.utf8ByteSize ≤ 4 * s.length := by
  have hsize := size_utf8Encode_le s.toList
  rwa [String.length_toList, String.utf8Encode_toList] at hsize

theorem repeatText_eq (s : String) (count : Nat) :
    repeatText s count = String.join (List.replicate count s) := by
  rw [repeatText]
  split
  · rename_i hempty
    rw [String.isEmpty_iff.mp hempty, ← String.toList_inj, String.toList_join]
    simp
  · rfl

theorem length_join_replicate (s : String) (count : Nat) :
    (String.join (List.replicate count s)).length = s.length * count := by
  rw [String.length_join, List.map_replicate, List.sum_replicate]
  simp [Nat.mul_comm]

/-- Copies of the same characters go on as the first copy begins. -/
theorem getElem?_flatten_replicate (cs : List Char) (count i : Nat) (hi : i < count * cs.length) :
    (List.replicate count cs).flatten[i]? = cs[i % cs.length]? := by
  induction count generalizing i with
  | zero => simp at hi
  | succ count ih =>
    rw [List.replicate_succ, List.flatten_cons]
    rcases Nat.lt_or_ge i cs.length with h | h
    · rw [List.getElem?_append_left h, Nat.mod_eq_of_lt h]
    · rw [List.getElem?_append_right h, ih (i - cs.length) (by rw [Nat.succ_mul] at hi; omega),
        Nat.mod_eq_sub_mod h]

section Cycle

variable {cs : List Char} (hne : cs ≠ []) {n : Nat}

include hne

theorem cycle_eq : cycle cs n = ((List.replicate (n / cs.length + 1) cs).flatten).take n := by
  cases cs with
  | nil => exact absurd rfl hne
  | cons c cs => rfl

theorem le_length_flatten_replicate : n ≤ (n / cs.length + 1) * cs.length := by
  have hpos : 0 < cs.length := List.length_pos_iff.mpr hne
  have hdiv := Nat.div_add_mod n cs.length
  have hmod := Nat.mod_lt n hpos
  rw [Nat.succ_mul, Nat.mul_comm]
  omega

theorem length_cycle : (cycle cs n).length = n := by
  rw [cycle_eq hne, List.length_take, List.length_flatten, List.map_replicate, List.sum_replicate,
    smul_eq_mul]
  exact Nat.min_eq_left (le_length_flatten_replicate hne)

theorem getElem?_cycle {i : Nat} (hi : i < n) : (cycle cs n)[i]? = cs[i % cs.length]? := by
  have hlong := le_length_flatten_replicate hne (n := n)
  rw [cycle_eq hne, List.getElem?_take_of_lt hi, getElem?_flatten_replicate cs _ i (by omega)]

end Cycle

/-- The text `t` is `s`, filled up at its beginning to `width` characters with those of `pad`, over
and over again. -/
structure FilledUp (s pad : String) (width : Nat) (t : String) : Prop where
  length : t.length = width
  ends : ∃ front, t = front ++ s ∧
    ∀ i < front.length, front.toList[i]? = pad.toList[i % pad.length]?

theorem filledUp_padStart {pad : String} {width : Nat} (hwidth : s.length < width)
    (hpad : pad ≠ "") : FilledUp s pad width (padStart s width pad) := by
  have hne : pad.toList ≠ [] := mt String.toList_eq_nil_iff.mp hpad
  rw [padStart, if_neg (by omega)]
  refine ⟨?_, _, rfl, fun i hi => ?_⟩
  · rw [String.length_append, String.length_ofList, length_cycle hne]
    omega
  · rw [String.length_ofList, length_cycle hne] at hi
    rw [String.toList_ofList, getElem?_cycle hne hi, String.length_toList]

theorem padStart_of_le {width : Nat} (hwidth : width ≤ s.length) (pad : String) :
    padStart s width pad = s := by
  rw [padStart, if_pos hwidth]

theorem padStart_empty (s : String) (width : Nat) : padStart s width "" = s := by
  rw [padStart]
  split <;> rfl

theorem length_padStart_le (s : String) (width : Nat) (pad : String) :
    (padStart s width pad).length ≤ max s.length width := by
  rcases Nat.lt_or_ge s.length width with hwidth | hwidth
  · by_cases hpad : pad = ""
    · rw [hpad, padStart_empty]
      exact Nat.le_max_left _ _
    · rw [(filledUp_padStart hwidth hpad).length]
      exact Nat.le_max_right _ _
  · rw [padStart_of_le hwidth]
    exact Nat.le_max_left _ _

/-! ### What the methods come to -/

/-- A text of so many characters cannot be repeated as often as the number says. -/
def RefusesCount (length : Nat) (x : Float) : Prop :=
  x < 0.0 ∨ x.isInf = true ∨ maxTextLength < length * natFloor x

/-- What is no number counts as zero. -/
theorem zeroed_count {x : Float} :
    let count := if x.isNaN then 0.0 else x
    (count < 0.0 ↔ x < 0.0) ∧ count.isInf = x.isInf ∧ toNat64 count = toNat64 x := by
  intro count
  cases hnan : x.isNaN with
  | false =>
    have hcount : count = x := if_neg (hnan ▸ Bool.false_ne_true)
    rw [hcount]
    exact ⟨Iff.rfl, rfl, rfl⟩
  | true =>
    have hcount : count = 0.0 := if_pos hnan
    have hx := isNaN_iff.mp hnan
    have hinf : x.isInf = false := Bool.eq_false_iff.mpr fun h => by
      obtain ⟨negative, h⟩ := isInf_iff.mp h
      rw [hx] at h
      cases h
    rw [hcount, hinf, lt_zero_iff, lt_zero_iff, hx, shape_zero]
    refine ⟨?_, isInf_eq_false shape_zero, ?_⟩
    · simp [signedSize_eq_zero]
    · rw [worth_zero.toNat64, toNat64, clampInt, hx]
      rfl

/-- That a number is cut off at 64 bits makes no product small. -/
theorem lt_mul_toNat64_iff {x : Float} (hinf : x.isInf = false) (length : Nat) :
    maxTextLength < length * toNat64 x ↔ maxTextLength < length * natFloor x := by
  rw [toNat64_eq_natFloor hinf]
  rcases Nat.le_total (natFloor x) (2 ^ 64 - 1) with hle | hge
  · rw [Nat.min_eq_right hle]
  · rw [Nat.min_eq_left hge]
    rcases Nat.eq_zero_or_pos length with rfl | hpos
    · rw [Nat.zero_mul, Nat.zero_mul]
    · have hcut : 2 ^ 64 - 1 ≤ length * (2 ^ 64 - 1) := Nat.le_mul_of_pos_left _ hpos
      have hexact : natFloor x ≤ length * natFloor x := Nat.le_mul_of_pos_left _ hpos
      have hmax : maxTextLength = 2 ^ 24 := rfl
      omega

/-- Nor does it change the text that is made, unless that is too long. -/
theorem repeatText_toNat64 {x : Float} (hinf : x.isInf = false)
    (hlong : ¬ maxTextLength < s.length * natFloor x) :
    repeatText s (toNat64 x) = String.join (List.replicate (natFloor x) s) := by
  rw [repeatText_eq, toNat64_eq_natFloor hinf]
  rcases Nat.eq_zero_or_pos s.length with hzero | hpos
  · rw [String.length_eq_zero_iff.mp hzero, ← repeatText_eq, ← repeatText_eq]
    rfl
  · have hexact : natFloor x ≤ s.length * natFloor x := Nat.le_mul_of_pos_left _ hpos
    have hmax : maxTextLength = 2 ^ 24 := rfl
    rw [Nat.min_eq_right (by omega)]

section Repeat

variable {x : Float} (hx : m.heap.number (argument args 0) = x)

include hx

theorem repeat_refused (h : RefusesCount s.length x) :
    ∃ message, ComesTo (fun _ => stringMethod s "repeat" args) m
      (.error (.object m.heap.objects.size)) (m.withError "RangeError" message) := by
  obtain ⟨hneg, hinf, hnat⟩ := zeroed_count (x := x)
  have hnumber : (Eval.number (argument args 0)).runOn m = (.ok x, m) :=
    congrArg (Except.ok ·, m) hx
  simp only [stringMethod, repeatMethod, comesTo_after hnumber]
  generalize (if x.isNaN then 0.0 else x) = count at hneg hinf hnat
  by_cases hsign : x < 0.0 ∨ x.isInf = true
  · have hcount : (decide (count < 0.0) || count.isInf) = true := by
      rw [hinf]
      simpa [hneg] using hsign
    simp only [if_pos hcount]
    exact ⟨_, comesTo_raise.mpr ⟨rfl, rfl⟩⟩
  · obtain ⟨hpos, hfinite⟩ := not_or.mp hsign
    have hcount : ¬ (decide (count < 0.0) || count.isInf) = true := by
      rw [hinf]
      simpa [hneg] using hsign
    have hlong : s.length * toNat64 count > maxTextLength := by
      rw [hnat]
      exact (lt_mul_toNat64_iff (Bool.eq_false_iff.mpr hfinite) _).mpr
        ((h.resolve_left hpos).resolve_left hfinite)
    simp only [if_neg hcount, if_pos hlong]
    exact ⟨_, comesTo_raise.mpr ⟨rfl, rfl⟩⟩

theorem runOn_repeat (h : ¬ RefusesCount s.length x) :
    (stringMethod s "repeat" args).runOn m =
      (.ok (.string (String.join (List.replicate (natFloor x) s))), m) := by
  obtain ⟨hneg, hinf, hnat⟩ := zeroed_count (x := x)
  obtain ⟨hpos, hrest⟩ := not_or.mp h
  obtain ⟨hfinite, hlong⟩ := not_or.mp hrest
  have hnumber : (Eval.number (argument args 0)).runOn m = (.ok x, m) :=
    congrArg (Except.ok ·, m) hx
  rw [Bool.not_eq_true] at hfinite
  have htext := repeatText_toNat64 hfinite hlong
  rw [← lt_mul_toNat64_iff hfinite] at hlong
  rw [← hnat] at htext hlong
  refine (runOn_bind_ok hnumber).trans ?_
  simp only
  generalize (if x.isNaN then 0.0 else x) = count at hneg hinf htext hlong
  have hcount : ¬ (decide (count < 0.0) || count.isInf) = true := by
    rw [hinf, hfinite]
    simpa [hneg] using hpos
  rw [if_neg hcount, if_neg hlong, htext]
  rfl

end Repeat

/-- With what a text is filled up. -/
def padding (h : Heap) (args : List Value) : String :=
  match argument args 1 with
  | .undefined => " "
  | v => h.display v

/-- A width that is not too great is rounded down, and none counts as zero. -/
theorem width_eq {x : Float} (h : ¬ Float.ofNat maxTextLength < x) :
    (if x.isNaN || x <= 0.0 then 0 else toNat64 x) = natFloor x := by
  split
  · rename_i hnone
    rcases (Bool.or_eq_true _ _).mp hnone with hnan | hle
    · rw [natFloor, isNaN_iff.mp hnan]
    · exact (natFloor_of_le_zero (of_decide_eq_true hle)).symm
  · rename_i hsome
    have hle := natFloor_le (n := maxTextLength) (by decide) h
    have hmax : maxTextLength = 2 ^ 24 := rfl
    rw [Bool.or_eq_true, not_or] at hsome
    have hinf : x.isInf = false := by
      refine Bool.eq_false_iff.mpr fun hinf => ?_
      obtain ⟨negative, hinf⟩ := isInf_iff.mp hinf
      cases negative with
      | false =>
        obtain ⟨p, hp, -⟩ := worth_ofNat (n := maxTextLength) (by decide)
        exact h (lt_infinite hp hinf)
      | true =>
        refine hsome.2 (decide_eq_true ?_)
        rw [le_iff_compare, unpack_of_infinite hinf, unpack_zero]
        rfl
    rw [toNat64_eq_natFloor hinf, Nat.min_eq_right (by omega)]

section PadStart

variable {x : Float} (hx : m.heap.number (argument args 0) = x)

include hx

theorem padStart_refused (h : Float.ofNat maxTextLength < x) :
    ∃ message, ComesTo (fun _ => stringMethod s "padStart" args) m
      (.error (.object m.heap.objects.size)) (m.withError "RangeError" message) := by
  have hnumber : (Eval.number (argument args 0)).runOn m = (.ok x, m) :=
    congrArg (Except.ok ·, m) hx
  simp only [stringMethod, padStartMethod, comesTo_after hnumber]
  have hwide : x > Float.ofNat maxTextLength := h
  simp only [if_pos hwide]
  exact ⟨_, comesTo_raise.mpr ⟨rfl, rfl⟩⟩

theorem runOn_padStart (h : ¬ Float.ofNat maxTextLength < x) :
    (stringMethod s "padStart" args).runOn m =
      (.ok (.string (padStart s (natFloor x) (padding m.heap args))), m) := by
  have hnumber : (Eval.number (argument args 0)).runOn m = (.ok x, m) :=
    congrArg (Except.ok ·, m) hx
  refine (runOn_bind_ok hnumber).trans ?_
  have hwide : ¬ x > Float.ofNat maxTextLength := h
  rw [if_neg hwide, ← width_eq h, padding]
  cases argument args 1 <;> rfl

end PadStart

/-! ### Bounds -/

/-- The expression throws an error of that name. -/
def Expr.Throws (e : Expr) (scope : Nat) (m : Machine) (name : String) : Prop :=
  ∃ ref m', ComesTo (eval · e scope) m (.error (.object ref)) m' ∧
    (m'.heap.object ref).get? "name" = some (.string name)

theorem Expr.not_throws {e : Expr} (h : ComesTo (eval · e scope) m (.ok v) m') :
    ¬ e.Throws scope m name := by
  rintro ⟨ref, m₁, hthrown, -⟩
  cases ((ComesTo.unique (steady_eval e scope) h hthrown).1)

theorem Machine.name_withError (m : Machine) (name message : String) :
    ((m.withError name message).heap.object m.heap.objects.size).get? "name" =
      some (.string name) := by
  simp [withError, Heap.newObject, Heap.object]
  rfl

section Bounds

variable {receiver : Expr} (hm : m.stepsLeft = none) (hm₂ : m₂.stepsLeft = none)
  (hreceiver : ComesTo (eval · receiver scope) m (.ok (.string s)) m₁)
  (hitems : ComesTo (evalElements · items scope) m₁ (.ok args) m₂)

include hm hm₂ hreceiver hitems

theorem throws_repeat (h : RefusesCount s.length (m₂.heap.number (argument args 0))) :
    (receiver.methodCall "repeat" items).Throws scope m "RangeError" := by
  obtain ⟨message, hthrown⟩ := repeat_refused rfl h
  exact ⟨_, _, (comesTo_textCall_iff hm hm₂ (by decide) hreceiver hitems).mpr hthrown,
    m₂.name_withError _ message⟩

theorem comesTo_repeat (h : ¬ RefusesCount s.length (m₂.heap.number (argument args 0))) :
    ComesTo (eval · (receiver.methodCall "repeat" items) scope) m (.ok (.string (String.join
      (List.replicate (natFloor (m₂.heap.number (argument args 0))) s)))) m₂ :=
  comesTo_textCall hm hm₂ (by decide) hreceiver hitems (runOn_repeat rfl h)

theorem throws_padStart
    (h : Float.ofNat maxTextLength < m₂.heap.number (argument args 0)) :
    (receiver.methodCall "padStart" items).Throws scope m "RangeError" := by
  obtain ⟨message, hthrown⟩ := padStart_refused rfl h
  exact ⟨_, _, (comesTo_textCall_iff hm hm₂ (by decide) hreceiver hitems).mpr hthrown,
    m₂.name_withError _ message⟩

theorem comesTo_padStart
    (h : ¬ Float.ofNat maxTextLength < m₂.heap.number (argument args 0)) :
    ComesTo (eval · (receiver.methodCall "padStart" items) scope) m (.ok (.string (padStart s
      (natFloor (m₂.heap.number (argument args 0))) (padding m₂.heap args)))) m₂ :=
  comesTo_textCall hm hm₂ (by decide) hreceiver hitems (runOn_padStart rfl h)

/-- Every value that one of the two calls comes to is a text, and no longer than a text may get
unless the receiver was. -/
theorem length_built (name : String) (hname : name = "repeat" ∨ name = "padStart")
    (h : ComesTo (eval · (receiver.methodCall name items) scope) m (.ok v) m') :
    ∃ t, v = .string t ∧ t.length ≤ max s.length maxTextLength := by
  have heq {e : Expr} {t : String} (h : ComesTo (eval · e scope) m (.ok v) m')
      (ht : ComesTo (eval · e scope) m (.ok (.string t)) m₂) : v = .string t :=
    Except.ok.inj (ComesTo.unique (steady_eval e scope) h ht).1
  rcases hname with rfl | rfl
  · by_cases hrefused : RefusesCount s.length (m₂.heap.number (argument args 0))
    · exact absurd (throws_repeat hm hm₂ hreceiver hitems hrefused) (Expr.not_throws h)
    · refine ⟨_, heq h (comesTo_repeat hm hm₂ hreceiver hitems hrefused), ?_⟩
      rw [length_join_replicate]
      exact le_max_of_le_right (not_lt.mp fun hlong => hrefused (.inr (.inr hlong)))
  · by_cases hrefused : Float.ofNat maxTextLength < m₂.heap.number (argument args 0)
    · exact absurd (throws_padStart hm hm₂ hreceiver hitems hrefused) (Expr.not_throws h)
    · refine ⟨_, heq h (comesTo_padStart hm hm₂ hreceiver hitems hrefused), ?_⟩
      exact (length_padStart_le _ _ _).trans
        (max_le_max_left _ (natFloor_le (by decide) hrefused))

end Bounds

/-- For every text, number and padding: to repeat the text throws a RangeError if the number is
below zero, infinite, or makes more than `2 ^ 24` characters when it is rounded down, and comes to
as many copies otherwise; to fill the text up throws one if the number is above `2 ^ 24`, and
otherwise comes to the text itself or to one of exactly so many characters.  So no text gets longer
than `2 ^ 24` characters that was not before, and no product that is made on the way is cut off at
64 bits in a way that is noticed. -/
theorem built_texts_bounded {receiver : Expr} (hm : m.stepsLeft = none)
    (hm₂ : m₂.stepsLeft = none)
    (hreceiver : ComesTo (eval · receiver scope) m (.ok (.string s)) m₁)
    (hitems : ComesTo (evalElements · items scope) m₁ (.ok args) m₂) :
    let x := m₂.heap.number (argument args 0)
    let pad := padding m₂.heap args
    let copies := receiver.methodCall "repeat" items
    let filled := receiver.methodCall "padStart" items
    (copies.Throws scope m "RangeError" ↔
      x < 0.0 ∨ x.isInf = true ∨ 2 ^ 24 < s.length * natFloor x) ∧
    (¬ copies.Throws scope m "RangeError" →
      ComesTo (eval · copies scope) m
        (.ok (.string (String.join (List.replicate (natFloor x) s)))) m₂) ∧
    (filled.Throws scope m "RangeError" ↔ Float.ofNat (2 ^ 24) < x) ∧
    (¬ filled.Throws scope m "RangeError" →
      ∃ t, ComesTo (eval · filled scope) m (.ok (.string t)) m₂ ∧
        (x.isNaN = true ∨ natFloor x ≤ s.length ∨ pad = "" → t = s) ∧
        (x.isNaN = false → s.length < natFloor x → pad ≠ "" → FilledUp s pad (natFloor x) t)) ∧
    (∀ call ∈ [copies, filled], ∀ v m', ComesTo (eval · call scope) m (.ok v) m' →
      ∃ t, v = .string t ∧ t.length ≤ max s.length (2 ^ 24)) ∧
    (x.isInf = false → (2 ^ 24 < min (2 ^ 64 - 1) (s.length * toNat64 x) ↔
      2 ^ 24 < s.length * natFloor x)) ∧
    (¬ copies.Throws scope m "RangeError" → s.utf8ByteSize * toNat64 x ≤ 2 ^ 26) := by
  intro x pad copies filled
  have hmax : maxTextLength = 2 ^ 24 := rfl
  have hcopies : copies.Throws scope m "RangeError" ↔ RefusesCount s.length x := by
    refine ⟨fun hthrown => ?_, throws_repeat hm hm₂ hreceiver hitems⟩
    by_contra hrefused
    exact Expr.not_throws (comesTo_repeat hm hm₂ hreceiver hitems hrefused) hthrown
  have hfilled : filled.Throws scope m "RangeError" ↔ Float.ofNat maxTextLength < x := by
    refine ⟨fun hthrown => ?_, throws_padStart hm hm₂ hreceiver hitems⟩
    by_contra hrefused
    exact Expr.not_throws (comesTo_padStart hm hm₂ hreceiver hitems hrefused) hthrown
  rw [hcopies, hfilled, ← hmax]
  refine ⟨Iff.rfl, comesTo_repeat hm hm₂ hreceiver hitems, Iff.rfl, fun hwide => ?_,
    fun call hcall v m' hv => ?_, fun hfinite => ?_, fun hrefused => ?_⟩
  · refine ⟨_, comesTo_padStart hm hm₂ hreceiver hitems hwide, ?_, fun _ hwidth hpad =>
      filledUp_padStart hwidth hpad⟩
    rintro (hnan | hwidth | hpad)
    · refine padStart_of_le ?_ _
      rw [natFloor, isNaN_iff.mp hnan]
      exact Nat.zero_le _
    · exact padStart_of_le hwidth _
    · have hpadding : padding m₂.heap args = "" := hpad
      rw [hpadding, padStart_empty]
  · rcases List.mem_pair.mp hcall with rfl | rfl
    · exact length_built hm hm₂ hreceiver hitems "repeat" (.inl rfl) hv
    · exact length_built hm hm₂ hreceiver hitems "padStart" (.inr rfl) hv
  · rw [← lt_mul_toNat64_iff hfinite]
    omega
  · obtain ⟨-, hrest⟩ := not_or.mp hrefused
    obtain ⟨hfinite, hlong⟩ := not_or.mp hrest
    rw [← lt_mul_toNat64_iff (Bool.eq_false_iff.mpr hfinite), not_lt, hmax] at hlong
    calc
      s.utf8ByteSize * toNat64 x ≤ 4 * s.length * toNat64 x :=
        Nat.mul_le_mul_right _ (utf8ByteSize_le s)
      _ = 4 * (s.length * toNat64 x) := Nat.mul_assoc 4 _ _
      _ ≤ 4 * 2 ^ 24 := Nat.mul_le_mul_left 4 hlong

/-- A text of two characters is filled up to seven and a half with a pad of two. -/
theorem built_texts_bounded_odd :
    let m := Machine.start (.unused .playwright)
    let receiver := Expr.string "né"
    let items := [Element.item (.number 7.5), .item (.string "→.")]
    m.stepsLeft = none ∧
      ComesTo (eval · receiver globalScope) m (.ok (.string "né")) m ∧
      ComesTo (evalElements · items globalScope) m (.ok [.number 7.5, .string "→."]) m ∧
      ∃ t, ComesTo (eval · (receiver.methodCall "padStart" items) globalScope) m
        (.ok (.string t)) m ∧ FilledUp "né" "→." 7 t := by
  intro m receiver items
  have hm : m.stepsLeft = none := rfl
  have hreceiver : ComesTo (eval · receiver globalScope) m (.ok (.string "né")) m :=
    comesTo_eval_constant hm rfl
  have hitems : ComesTo (evalElements · items globalScope) m
      (.ok [.number 7.5, .string "→."]) m :=
    comesTo_evalElements_cons (comesTo_eval_constant hm rfl)
      (comesTo_evalElements_item (comesTo_eval_constant hm rfl))
  have hwidth : natFloor 7.5 = 7 := by decide +kernel
  obtain ⟨-, -, hrefused, hfilled, -⟩ := built_texts_bounded hm hm hreceiver hitems
  obtain ⟨t, ht, -, hlong⟩ := hfilled fun h => absurd (hrefused.mp h) (by decide +kernel)
  have hshort : "né".length < natFloor 7.5 := by
    rw [hwidth]
    decide
  refine ⟨hm, hreceiver, hitems, t, ht, ?_⟩
  exact hwidth ▸ hlong (by decide +kernel) hshort (by decide)

end BrowserLab.Script
