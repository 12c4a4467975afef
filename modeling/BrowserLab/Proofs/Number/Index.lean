import BrowserLab.Proofs.Number.Units
import BrowserLab.Proofs.Script.Token.Cut

/-!
# Positions as text

A script names an item by a number, and the item is found through the text that is shown for the
number.  The text of an integer reads back as the integer if it is a position of something, and
otherwise as none or as one that is too great.

* `shortest_near`: the digits of a great number stand for more than half of it.
* `readIndex?_display`, `readIndex?_display_of_neg`, `le_of_readIndex?_display`: the text of an
  integer as a position.
* `isNumeral_of_mem_display`: what the text of a number is made of.
-/

namespace BrowserLab.Number

/-! ### The digits of a great number -/

/-- The decimal is more than half of the number. -/
def Decimal.Near (d : Decimal) (n : Nat) : Prop :=
  n * 10 ^ (-d.exponent).toNat < 2 * (d.digits * 10 ^ d.exponent.toNat)

/-- A zero at the end may be left out. -/
theorem Decimal.Near.shift {digits n : Nat} {exponent : Int}
    (h : Decimal.Near ⟨10 * digits, exponent⟩ n) : Decimal.Near ⟨digits, exponent + 1⟩ n := by
  rw [Near] at h ⊢
  simp only at h ⊢
  rcases lt_or_ge exponent 0 with hneg | hneg
  · have hleft : (-exponent).toNat = (-(exponent + 1)).toNat + 1 := by omega
    have hright : exponent.toNat = 0 ∧ (exponent + 1).toNat = 0 := by omega
    rw [hleft, hright.1, pow_succ, pow_zero, ← Nat.mul_assoc] at h
    rw [hright.2, pow_zero]
    omega
  · have hleft : (-exponent).toNat = 0 ∧ (-(exponent + 1)).toNat = 0 := by omega
    have hright : (exponent + 1).toNat = exponent.toNat + 1 := by omega
    rw [hleft.1] at h
    rw [hleft.2, hright, pow_succ]
    linarith

theorem Decimal.Near.of_le {d : Decimal} {m n : Nat} (h : d.Near n) (hle : m ≤ n) : d.Near m :=
  Nat.lt_of_le_of_lt (Nat.mul_le_mul_right _ hle) h

theorem Decimal.Near.strip {d : Decimal} {n : Nat} (h : d.Near n) (zeros : Nat) :
    (d.strip zeros).Near n := by
  induction zeros generalizing d with
  | zero => exact h
  | succ zeros ih =>
    rw [Decimal.strip]
    split
    · rename_i hzero
      simp only [Bool.and_eq_true, decide_eq_true_eq] at hzero
      have hdigits : 10 * (d.digits / 10) = d.digits := by omega
      exact ih (Near.shift (hdigits.symm ▸ h))
    · exact h

theorem gridFloor_ne_zero {n : Nat} {p : Int} (h : 10 ^ p.toNat ≤ n) : gridFloor n 1 p ≠ 0 := by
  have hn : 0 < n := (Nat.pow_pos (by decide)).trans_le h
  rw [gridFloor]
  split
  · rw [Nat.div_one, Nat.pow_eq]
    exact (Nat.mul_pos hn (Nat.pow_pos (by decide))).ne'
  · rw [one_mul, Nat.pow_eq]
    exact (Nat.div_pos h (Nat.pow_pos (by decide))).ne'

/-- Cut off at a digit that is not zero, a number is more than halved. -/
theorem near_of_gridFloor {n d : Nat} {p : Int} (hd : d ≠ 0) (h : gridFloor n 1 p ≤ d) :
    Decimal.Near ⟨d, p⟩ n := by
  rw [gridFloor] at h
  rw [Decimal.Near]
  simp only
  split at h
  · rename_i hneg
    have hexponent : p.toNat = 0 := by omega
    rw [Nat.div_one, Nat.pow_eq] at h
    rw [hexponent, pow_zero]
    omega
  · rename_i hneg
    have hexponent : (-p).toNat = 0 := by omega
    rw [one_mul, Nat.pow_eq] at h
    rw [hexponent, pow_zero, mul_one]
    calc
      n < (n / 10 ^ p.toNat + 1) * 10 ^ p.toNat :=
        Nat.lt_mul_of_div_lt (Nat.lt_succ_self _) (Nat.pow_pos (by decide))
      _ ≤ 2 * d * 10 ^ p.toNat := Nat.mul_le_mul_right _ (by omega)
      _ = 2 * (d * 10 ^ p.toNat) := Nat.mul_assoc _ _ _

theorem onGrid?_le {r : Rounding} {p : Int} {d : Nat} (h : r.onGrid? p = some d) :
    gridFloor r.mid r.den p ≤ d := by
  rw [Rounding.onGrid?] at h
  grind

theorem search_near {r : Rounding} (hden : r.den = 1) {digits : Nat} {p : Int}
    (h : gridFloor r.mid 1 (p - digits) ≠ 0) : (r.search p digits).Near r.mid := by
  induction digits generalizing p with
  | zero =>
    rw [Rounding.search, hden]
    rw [Nat.cast_zero, sub_zero] at h
    exact near_of_gridFloor h le_rfl
  | succ digits ih =>
    have hnext : (r.search (p - 1) digits).Near r.mid := by
      refine ih ?_
      rwa [show p - 1 - digits = p - (digits + 1 : Nat) by omega]
    rw [Rounding.search]
    split
    · rename_i d hd
      split
      · exact hnext
      · exact near_of_gridFloor ‹_› (hden ▸ onGrid?_le hd)
    · exact hnext

theorem ten_pow_le_two_pow {bits : Nat} (h : bits ≤ 1024) {p : Nat}
    (hp : p ≤ bits * 30103 / 100000 - 17) : 10 ^ p ≤ 2 ^ bits := by
  calc
    10 ^ p ≤ 10 ^ (3 * (bits / 10)) := Nat.pow_le_pow_right (by decide) (by omega)
    _ = 1000 ^ (bits / 10) := by rw [Nat.pow_mul]
    _ ≤ 1024 ^ (bits / 10) := Nat.pow_le_pow_left (by decide) _
    _ = 2 ^ (10 * (bits / 10)) := by rw [Nat.pow_mul]
    _ ≤ 2 ^ bits := Nat.pow_le_pow_right (by decide) (by omega)

theorem decimalPoint_le (num den : Nat) (estimate : Int) :
    decimalPoint num den estimate ≤ estimate + 2 := by
  rw [decimalPoint]
  split
  · omega
  · split <;> omega

/-- The digits of a great number stand for more than half of it. -/
theorem shortest_near {p : Parts} (hfit : p.Fitting) (hm : 0 < p.mantissa)
    (hexponent : 2 ≤ p.exponent) : p.shortest.Near (p.mantissa * 2 ^ p.exponent.toNat) := by
  have hratio : binaryRatio (4 * p.mantissa) (p.exponent - 2) =
      (p.mantissa * 2 ^ p.exponent.toNat, 1) := by
    have hshift : p.exponent.toNat = 2 + (p.exponent - 2).toNat := by omega
    rw [binaryRatio, if_neg (by omega), Nat.pow_eq, hshift, pow_add]
    congr 1
    ring
  have hmid : p.rounding.mid = p.mantissa * 2 ^ p.exponent.toNat := by
    rw [Parts.rounding, hratio]
  have hden : p.rounding.den = 1 := by
    rw [Parts.rounding, hratio]
  have hlog : p.mantissa.log2 ≤ 52 := log2_le_of_lt hm hfit.mantissa_lt
  have hbits := hfit.exponent_le
  have hpow : 2 ^ (p.mantissa.log2 + p.exponent.toNat) ≤ p.rounding.mid := by
    rw [hmid, pow_add]
    exact Nat.mul_le_mul_right _ (Nat.log2_self_le hm.ne')
  rw [Parts.shortest, if_neg hm.ne']
  simp only
  rw [← hmid]
  refine (search_near hden (gridFloor_ne_zero (le_trans ?_ hpow))).strip 20
  refine ten_pow_le_two_pow (by omega) ?_
  have hpoint := decimalPoint_le p.rounding.mid p.rounding.den
    (((p.mantissa.log2 : Int) + p.exponent) * 30103 / 100000)
  omega

/-! ### Texts that are positions -/

theorem ofDigits_append_zeros (ds : List Char) (zeros : Nat) :
    ofDigits (ds ++ List.replicate zeros '0') = ofDigits ds * 10 ^ zeros := by
  induction zeros with
  | zero => simp
  | succ zeros ih =>
    rw [List.replicate_succ', ← List.append_assoc, ofDigits, List.foldl_append]
    show 10 * ofDigits (ds ++ List.replicate zeros '0') + digitValue '0' = _
    rw [ih, pow_succ]
    have hzero : digitValue '0' = 0 := rfl
    linarith

theorem readIndex?_digits {ds : List Char} (hne : ds ≠ []) (hdigits : ∀ c ∈ ds, c.isDigit = true) :
    readIndex? (String.ofList ds) = if ofDigits ds < 2 ^ 64 then some (ofDigits ds) else none := by
  rw [readIndex?, readNat?, String.toList_ofList]
  split
  · cases hdigits '+' List.mem_cons_self
  · rw [List.isEmpty_eq_false_iff.mpr hne, List.all_eq_true.mpr hdigits, Nat.pow_eq]
    rfl

/-- Text with anything but digits is no position, a sign before it apart. -/
theorem readIndex?_eq_none {s : String} {c : Char} (hc : c ∈ s.toList) (hdigit : c.isDigit = false)
    (hplus : c ≠ '+') : readIndex? s = none := by
  rw [readIndex?, readNat?]
  refine if_pos ?_
  rw [Bool.or_eq_true, Bool.not_eq_true', List.all_eq_false]
  refine .inr ⟨c, ?_, ne_true_of_eq_false hdigit⟩
  split
  · rename_i rest heq
    rw [heq] at hc
    exact (List.mem_cons.mp hc).resolve_left hplus
  · exact hc

theorem toList_intText (i : Int) : (intText i).toList =
    if i < 0 then '-' :: digitChars i.natAbs else digitChars i.natAbs := by
  rw [intText]
  split
  · rw [String.toList_append, String.toList_ofList (l := digitChars i.natAbs)]
    rfl
  · exact String.toList_ofList

theorem digitChars_ne_nil (n : Nat) : digitChars n ≠ [] := Nat.toDigits_ne_nil

theorem readIndex?_intText {i : Int} (hlt : i < 2 ^ 64) :
    readIndex? (intText i) = if i < 0 then none else some i.toNat := by
  split
  · rename_i hneg
    refine readIndex?_eq_none (c := '-') ?_ rfl (by decide)
    rw [toList_intText, if_pos hneg]
    exact List.mem_cons_self
  · rename_i hneg
    rw [intText, if_neg hneg, readIndex?_digits (digitChars_ne_nil _)
      fun c => Script.isDigit_of_mem_digitChars, Script.ofDigits_digitChars, if_pos (by omega)]
    congr 1
    omega

theorem mem_placePoint (ds : List Char) {places : Nat} (h : places ≠ 0) :
    '.' ∈ placePoint ds places := by
  rw [placePoint, if_neg h]
  exact List.mem_append_right _ List.mem_cons_self

/-- The digits of a great number write a great one, or they have a point. -/
theorem le_of_readIndex?_positional {d : Decimal} {n k : Nat} (h : d.Near (2 * n))
    (hk : readIndex? (String.ofList d.positional) = some k) : n ≤ k := by
  rw [Decimal.positional] at hk
  split at hk
  · rename_i hneg
    have hpoint := mem_placePoint (digitChars d.digits) (show (-d.exponent).toNat ≠ 0 by omega)
    rw [← String.toList_ofList (l := placePoint _ _)] at hpoint
    rw [readIndex?_eq_none hpoint rfl (by decide)] at hk
    cases hk
  · rename_i hneg
    have hexponent : (-d.exponent).toNat = 0 := by omega
    rw [Decimal.Near, hexponent, pow_zero, mul_one] at h
    have hzero : d.digits ≠ 0 := by
      intro hzero
      simp [hzero] at h
    have hdigits : ∀ c ∈ digitChars d.digits ++ List.replicate d.exponent.toNat '0',
        c.isDigit = true := by
      intro c hc
      rcases List.mem_append.mp hc with hc | hc
      · exact Script.isDigit_of_mem_digitChars hc
      · rw [List.eq_of_mem_replicate hc]
        rfl
    rw [if_neg hzero, readIndex?_digits (List.append_ne_nil_of_left_ne_nil (digitChars_ne_nil _) _)
      hdigits, ofDigits_append_zeros, Script.ofDigits_digitChars] at hk
    obtain ⟨-, hk⟩ := Option.ite_none_right_eq_some.mp hk
    cases hk
    omega

/-! ### The text of an integer -/

/-- What the text of a finite number is made of. -/
def isNumeral (c : Char) : Bool := c.isDigit || c == '-' || c == '.'

theorem isNumeral_of_mem_digitChars {n : Nat} {c : Char} (h : c ∈ digitChars n) :
    isNumeral c = true := by
  rw [isNumeral, Script.isDigit_of_mem_digitChars h]
  rfl

theorem isNumeral_of_mem_positional {d : Decimal} {c : Char} (h : c ∈ d.positional) :
    isNumeral c = true := by
  rw [Decimal.positional, placePoint] at h
  have hzero : isNumeral '0' = true := by decide
  have hpoint : isNumeral '.' = true := by decide
  split at h
  · split at h
    · exact isNumeral_of_mem_digitChars h
    · generalize (-d.exponent).toNat = places at h
      have hpadded : ∀ c ∈ List.replicate (places + 1 - (digitChars d.digits).length) '0' ++
          digitChars d.digits, isNumeral c = true := by
        intro c hc
        rcases List.mem_append.mp hc with hc | hc
        · rw [List.eq_of_mem_replicate hc, hzero]
        · exact isNumeral_of_mem_digitChars hc
      rcases List.mem_append.mp h with h | h
      · exact hpadded c (List.mem_of_mem_take h)
      · rcases List.mem_cons.mp h with rfl | h
        · exact hpoint
        · exact hpadded c (List.mem_of_mem_drop h)
  · split at h
    · rw [List.mem_singleton.mp h, hzero]
    · rcases List.mem_append.mp h with h | h
      · exact isNumeral_of_mem_digitChars h
      · rw [List.eq_of_mem_replicate h, hzero]

theorem isNumeral_of_mem_display {x : Float} {p : Parts} (hx : shape x = .finite p) {c : Char}
    (h : c ∈ (display x).toList) : isNumeral c = true := by
  have hminus : isNumeral '-' = true := by decide
  rw [display, hx] at h
  simp only at h
  split at h
  · rw [toList_intText] at h
    split at h
    · rcases List.mem_cons.mp h with rfl | h
      · exact hminus
      · exact isNumeral_of_mem_digitChars h
    · exact isNumeral_of_mem_digitChars h
  · rw [plain, hx] at h
    simp only [withSign, String.toList_ofList] at h
    split at h
    · rcases List.mem_cons.mp h with rfl | h
      · exact hminus
      · exact isNumeral_of_mem_positional h
    · exact isNumeral_of_mem_positional h

/-- The mantissa of a great number stands before the point, with zeros behind it. -/
theorem whole_of_great {p : Parts} (hfit : p.Fitting) (h : 10 ^ 21 ≤ p.whole) :
    2 ≤ p.exponent ∧ 0 < p.mantissa ∧ p.whole = p.mantissa * 2 ^ p.exponent.toNat := by
  have hlt := hfit.mantissa_lt
  have hexponent : 2 ≤ p.exponent := by
    by_contra hsmall
    have hle : p.whole ≤ p.mantissa * 2 := by
      rw [Parts.whole]
      split
      · rw [Nat.shiftRight_eq_div_pow]
        exact (Nat.div_le_self _ _).trans (Nat.le_mul_of_pos_right _ two_pos)
      · rw [Nat.shiftLeft_eq]
        have hone : p.exponent.toNat ≤ 1 := by omega
        exact Nat.mul_le_mul_left _ (Nat.pow_le_pow_right two_pos hone)
    omega
  have hvalue : p.whole = p.mantissa * 2 ^ p.exponent.toNat := by
    rw [Parts.whole, if_neg (by omega), Nat.shiftLeft_eq]
  refine ⟨hexponent, Nat.pos_of_ne_zero fun hzero => ?_, hvalue⟩
  rw [hvalue, hzero] at h
  omega

section Shown

variable {x : Float} {i : Int} (hx : Worth x i)

include hx

theorem display_of_wholeBelow (h : wholeBelow (Nat.pow 10 21) x = true) :
    display x = intText (max (-2 ^ 63) (min (2 ^ 63 - 1) i)) := by
  obtain ⟨p, hp, -⟩ := id hx
  rw [display, hp]
  simp only
  rw [if_pos h, toInt64, hx.clampInt, Nat.pow_eq]
  rfl

/-- The number is a great one where it is not shown through an integer of 64 bits. -/
theorem display_of_great (h : wholeBelow (Nat.pow 10 21) x = false) :
    ∃ p : Parts, p.shortest.Near (2 * 2 ^ 53) ∧
      display x = withSign p.negative p.shortest.positional ∧
      (if p.negative then i < 0 else 2 ^ 53 ≤ i) := by
  obtain ⟨p, hp, -⟩ := id hx
  have hfit := fitting_of_shape hp
  obtain ⟨hintegral, htruncate⟩ := (worth_iff hp).mp hx
  have hwhole : 10 ^ 21 ≤ p.whole := by
    rw [wholeBelow, hp] at h
    simpa [hintegral] using h
  obtain ⟨hexponent, hm, hvalue⟩ := whole_of_great hfit hwhole
  refine ⟨p, (shortest_near hfit hm hexponent).of_le (by omega), ?_, ?_⟩
  · rw [display, hp]
    simp only
    rw [if_neg (ne_true_of_eq_false h), plain, hp]
  · rw [Parts.truncate] at htruncate
    split at htruncate
    · rw [if_pos ‹_›]
      omega
    · rw [if_neg ‹_›]
      omega

theorem readIndex?_display_of_neg (h : i < 0) : readIndex? (display x) = none := by
  cases hbelow : wholeBelow (Nat.pow 10 21) x with
  | true => rw [display_of_wholeBelow hx hbelow, readIndex?_intText (by omega), if_pos (by omega)]
  | false =>
    obtain ⟨p, -, htext, hsign⟩ := display_of_great hx hbelow
    cases hnegative : p.negative with
    | true =>
      rw [htext, hnegative, withSign, if_pos rfl]
      refine readIndex?_eq_none (c := '-') ?_ rfl (by decide)
      rw [String.toList_ofList]
      exact List.mem_cons_self
    | false =>
      rw [hnegative] at hsign
      have hgreat : 2 ^ 53 ≤ i := hsign
      omega

theorem readIndex?_display (h : 0 ≤ i) (hlt : i < 2 ^ 53) :
    readIndex? (display x) = some i.toNat := by
  cases hbelow : wholeBelow (Nat.pow 10 21) x with
  | true =>
    rw [display_of_wholeBelow hx hbelow, readIndex?_intText (by omega), if_neg (by omega)]
    congr 1
    omega
  | false =>
    obtain ⟨p, -, -, hsign⟩ := display_of_great hx hbelow
    split at hsign <;> omega

/-- The text of a great integer is no position, or a great one. -/
theorem le_of_readIndex?_display {k : Nat} (h : 2 ^ 53 ≤ i) (hk : readIndex? (display x) = some k) :
    2 ^ 53 ≤ k := by
  cases hbelow : wholeBelow (Nat.pow 10 21) x with
  | true =>
    rw [display_of_wholeBelow hx hbelow, readIndex?_intText (by omega), if_neg (by omega)] at hk
    cases hk
    omega
  | false =>
    obtain ⟨p, hnear, htext, hsign⟩ := display_of_great hx hbelow
    cases hnegative : p.negative with
    | true =>
      rw [hnegative] at hsign
      have hneg : i < 0 := hsign
      omega
    | false =>
      rw [htext, hnegative, withSign] at hk
      exact le_of_readIndex?_positional hnear hk

end Shown

end BrowserLab.Number
