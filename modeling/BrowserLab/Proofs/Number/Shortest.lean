import BrowserLab.Proofs.Number.Index
import BrowserLab.Proofs.Number.Sum

/-!
# The digits of great integers

What the fewest digits that read back are for an integer from `10 ^ 15` on, below `10 ^ 21`.  They
stand for an integer as well, which lies in the interval of what rounds to the number, and need not
be the number itself.

* `eq_size_of_holds`: of all numbers, only the number itself lies in its interval.
* `search_of_onGrid?`: the search for digits ends no later than on the first grid that has a point
  in the interval.
* `Parts.Great.exists_shortest`: no more than 18 digits are written.
* `Parts.Great.whole_shortest_eq`: up to 54 bits, the digits stand for the number itself.
-/

namespace BrowserLab.Number

/-! ### The interval of a number -/

/-- The bounds of the interval are whole numbers when they are multiplied by this one. -/
def Parts.den (p : Parts) : Nat := if p.exponent < 2 then 2 ^ (2 - p.exponent).toNat else 1

/-- A quarter of the last place of the mantissa, so multiplied. -/
def Parts.quarter (p : Parts) : Nat := if p.exponent < 2 then 1 else 2 ^ (p.exponent - 2).toNat

/-- How many quarters the interval reaches down. -/
def Parts.below (p : Parts) : Nat := if p.mantissa = 2 ^ 52 ∧ -1074 < p.exponent then 1 else 2

/-- The units of a quarter of the last place. -/
def Parts.quarterSize (p : Parts) : Nat := 2 ^ (p.exponent + 1072).toNat

section Interval

variable {p : Parts}

theorem den_pos (p : Parts) : 0 < p.den := by
  rw [Parts.den]
  split
  · exact Nat.two_pow_pos _
  · exact Nat.one_pos

theorem quarter_pos (p : Parts) : 0 < p.quarter := by
  rw [Parts.quarter]
  split
  · exact Nat.one_pos
  · exact Nat.two_pow_pos _

theorem quarterSize_pos (p : Parts) : 0 < p.quarterSize := Nat.two_pow_pos _

theorem below_le (p : Parts) : 1 ≤ p.below ∧ p.below ≤ 2 := by
  rw [Parts.below]
  split <;> omega

theorem rounding_eq (hm : 0 < p.mantissa) : p.rounding =
    ⟨(4 * p.mantissa - p.below) * p.quarter, 4 * p.mantissa * p.quarter,
      (4 * p.mantissa + 2) * p.quarter, p.den, p.mantissa % 2 = 0⟩ := by
  have hratio : binaryRatio (4 * p.mantissa) (p.exponent - 2) =
      (4 * p.mantissa * p.quarter, p.den) := by
    rw [binaryRatio, Parts.quarter, Parts.den, Nat.pow_eq, Nat.pow_eq]
    by_cases h : p.exponent < 2
    · rw [if_pos (by omega), if_pos h, if_pos h, mul_one, neg_sub]
    · rw [if_neg (by omega), if_neg h, if_neg h]
  have hquarter : 4 * p.mantissa * p.quarter / (4 * p.mantissa) = p.quarter :=
    Nat.mul_div_cancel_left _ (by omega)
  have hbelow : (if p.mantissa = Nat.pow 2 52 && -1074 < p.exponent then 1 else 2) = p.below := by
    simp [Parts.below]
  rw [Parts.rounding]
  simp only [hratio, hquarter, hbelow]
  rw [Nat.sub_mul, Nat.add_mul]

theorem quarter_mul_unitsOfOne (h : -1072 ≤ p.exponent) :
    p.quarter * unitsOfOne = p.den * p.quarterSize := by
  rw [Parts.quarter, Parts.den, Parts.quarterSize]
  split
  · rw [one_mul]
    exact unitsOfOne_eq (by omega)
  · have hshift : (p.exponent + 1072).toNat = (p.exponent - 2).toNat + 1074 := by omega
    rw [hshift, pow_add_unitsOfOne, one_mul]

theorem size_eq_quarters (h : -1072 ≤ p.exponent) :
    p.size = 4 * p.mantissa * p.quarterSize := by
  have hshift : (p.exponent + 1074).toNat = (p.exponent + 1072).toNat + 2 := by omega
  rw [Parts.size, Parts.quarterSize, hshift, pow_add]
  ring

/-- What a decimal of the interval lies between. -/
theorem le_of_holds (hm : 0 < p.mantissa) {d q : Nat} (h : p.rounding.holds d q = true) :
    (4 * p.mantissa - p.below) * p.quarter ≤ d * 10 ^ q * p.den ∧
      d * 10 ^ q * p.den ≤ (4 * p.mantissa + 2) * p.quarter := by
  have hneg : ¬ (q : Int) < 0 := by omega
  have horder : (4 * p.mantissa - p.below) * p.quarter ≤ (4 * p.mantissa + 2) * p.quarter :=
    Nat.mul_le_mul_right _ (by omega)
  rw [rounding_eq hm] at h
  simp only [Rounding.holds, compareGrid, if_neg hneg, Int.toNat_natCast, Nat.pow_eq] at h
  split at h
  · rename_i hlow hhigh
    exact ⟨(compare_gt_iff_gt.mp hlow).le, (compare_lt_iff_lt.mp hhigh).le⟩
  · rename_i hlow
    have hlow := compare_eq_iff_eq.mp hlow
    exact ⟨hlow.ge, hlow.le.trans horder⟩
  · rename_i hhigh _
    have hhigh := compare_eq_iff_eq.mp hhigh
    exact ⟨horder.trans hhigh.ge, hhigh.le⟩
  · cases h

theorem holds_of_lt (hm : 0 < p.mantissa) {d q : Nat}
    (hlow : (4 * p.mantissa - p.below) * p.quarter < d * 10 ^ q * p.den)
    (hhigh : d * 10 ^ q * p.den < (4 * p.mantissa + 2) * p.quarter) :
    p.rounding.holds d q = true := by
  have hneg : ¬ (q : Int) < 0 := by omega
  rw [rounding_eq hm]
  simp only [Rounding.holds, compareGrid, if_neg hneg, Int.toNat_natCast, Nat.pow_eq]
  rw [compare_gt_iff_gt.mpr hlow, compare_lt_iff_lt.mpr hhigh]

/-- The interval in units. -/
theorem quarters_of_holds (hm : 0 < p.mantissa) (he : -1072 ≤ p.exponent) {n : Nat}
    (h : p.rounding.holds n 0 = true) :
    (4 * p.mantissa - p.below) * p.quarterSize ≤ n * unitsOfOne ∧
      n * unitsOfOne ≤ (4 * p.mantissa + 2) * p.quarterSize := by
  have hscale : n * p.den * unitsOfOne = n * unitsOfOne * p.den := by ring
  have hquarters (k : Nat) : k * p.quarter * unitsOfOne = k * p.quarterSize * p.den := by
    rw [mul_assoc, quarter_mul_unitsOfOne he]
    ring
  obtain ⟨hlow, hhigh⟩ := le_of_holds (q := 0) hm h
  rw [pow_zero, mul_one] at hlow hhigh
  replace hlow := Nat.mul_le_mul_right unitsOfOne hlow
  replace hhigh := Nat.mul_le_mul_right unitsOfOne hhigh
  rw [hquarters, hscale] at hlow hhigh
  exact ⟨Nat.le_of_mul_le_mul_right hlow (den_pos p), Nat.le_of_mul_le_mul_right hhigh (den_pos p)⟩

/-- Of all numbers, only the number itself lies in the interval. -/
theorem eq_size_of_holds {q : Parts} (hp : p.Fitting) (hq : q.Fitting) (hm : 0 < p.mantissa)
    (he : -1072 ≤ p.exponent) {n : Nat} (hsize : q.size = n * unitsOfOne)
    (h : p.rounding.holds n 0 = true) : q.size = p.size := by
  obtain ⟨hlow, hhigh⟩ := quarters_of_holds hm he h
  rw [← hsize] at hlow hhigh
  have hpos := quarterSize_pos p
  have hbelow := below_le p
  have hmantissa := hp.mantissa_lt
  have hnormal : 2 ^ 52 ≤ p.mantissa := hp.normal.resolve_left (by omega)
  rcases lt_trichotomy q.exponent p.exponent with hlt | heq | hgt
  · -- the other number is at most the greatest one below the power of two
    exfalso
    have hshift : (q.exponent + 1074).toNat ≤ (p.exponent + 1072).toNat + 1 := by omega
    have hbound : q.size ≤ (2 ^ 53 - 1) * 2 * p.quarterSize := by
      rw [Parts.size, Parts.quarterSize, mul_assoc, ← pow_succ']
      exact Nat.mul_le_mul (Nat.le_sub_one_of_lt hq.mantissa_lt)
        (Nat.pow_le_pow_right two_pos hshift)
    have hquotient := Nat.le_of_mul_le_mul_right (hlow.trans hbound) hpos
    rw [Parts.below] at hquotient
    split at hquotient <;> omega
  · have hsame : q.size = 4 * q.mantissa * p.quarterSize := by
      rw [size_eq_quarters (heq ▸ he), Parts.quarterSize, heq, ← Parts.quarterSize]
    rw [hsame] at hlow hhigh
    have hleft := Nat.le_of_mul_le_mul_right hlow hpos
    have hright := Nat.le_of_mul_le_mul_right hhigh hpos
    have hmantissas : q.mantissa = p.mantissa := by omega
    rw [hsame, size_eq_quarters he, hmantissas]
  · -- the other number is at least the next power of two
    exfalso
    have hshift : (p.exponent + 1072).toNat + 3 ≤ (q.exponent + 1074).toNat := by omega
    have hbound : 2 ^ 55 * p.quarterSize ≤ q.size := by
      rw [Parts.size, Parts.quarterSize]
      calc
        2 ^ 55 * 2 ^ (p.exponent + 1072).toNat = 2 ^ 52 * 2 ^ ((p.exponent + 1072).toNat + 3) := by
          rw [pow_add]
          ring
        _ ≤ q.mantissa * 2 ^ (q.exponent + 1074).toNat :=
          Nat.mul_le_mul (hq.normal.resolve_left (by omega)) (Nat.pow_le_pow_right two_pos hshift)
    have hquotient := Nat.le_of_mul_le_mul_right (hbound.trans hhigh) hpos
    omega

end Interval

/-! ### The search -/

theorem Rounding.holds_of_onGrid? {r : Rounding} {p : Int} {d : Nat} (h : r.onGrid? p = some d) :
    r.holds d p = true := by
  rw [onGrid?] at h
  grind

theorem Rounding.holds_mul_pow (r : Rounding) (d q : Nat) :
    r.holds (d * 10 ^ q) 0 = r.holds d q := by
  have hcompare (num den : Nat) : compareGrid (d * 10 ^ q) 0 num den = compareGrid d q num den := by
    rw [compareGrid, compareGrid, if_neg (lt_irrefl 0), if_neg (by omega), Int.toNat_natCast,
      Nat.pow_eq, Nat.pow_eq, Int.toNat_zero, pow_zero, mul_one]
  rw [holds, holds, hcompare, hcompare]

/-- There is a point on the grid if the one below the number is in the interval. -/
theorem Rounding.exists_onGrid? {r : Rounding} {p : Int}
    (h : r.holds (gridFloor r.mid r.den p) p = true) : ∃ d, r.onGrid? p = some d := by
  simp only [onGrid?, h]
  split
  · contradiction
  · exact ⟨_, rfl⟩
  · exact ⟨_, rfl⟩
  · split <;> exact ⟨_, rfl⟩

/-- A natural number is itself the nearest one. -/
theorem Rounding.onGrid?_exact {r : Rounding} {n : Nat} (hden : 0 < r.den)
    (hmid : r.mid = n * r.den) (h : r.holds n 0 = true) : r.onGrid? 0 = some n := by
  have hfloor : gridFloor r.mid r.den 0 = n := by
    rw [gridFloor, if_neg (lt_irrefl 0), hmid]
    simp [hden]
  have hcompare : compareGrid (2 * n + 1) 0 (2 * r.mid) r.den = .gt := by
    rw [compareGrid, if_neg (lt_irrefl 0), hmid, compare_gt_iff_gt]
    simp only [Int.toNat_zero, Nat.pow_eq, pow_zero, mul_one]
    linarith
  rw [onGrid?]
  simp only [hfloor, h, hcompare]
  split <;> simp_all

/-- The search ends no later than on the first grid that has a point in the interval. -/
theorem search_of_onGrid? {r : Rounding} {p q : Int} {digits d : Nat} (hd : d ≠ 0)
    (h : r.onGrid? q = some d) (hle : q ≤ p) (hlt : p < q + digits) :
    r.onGrid? (r.search p digits).exponent = some (r.search p digits).digits ∧
      q ≤ (r.search p digits).exponent := by
  induction digits generalizing p with
  | zero =>
    exfalso
    rw [Nat.cast_zero] at hlt
    omega
  | succ digits ih =>
    rw [Nat.cast_succ] at hlt
    have hnext (hne : r.onGrid? p ≠ some d) : q ≤ p - 1 := by
      have hpq : q ≠ p := by
        rintro rfl
        exact hne h
      omega
    rw [Rounding.search]
    split
    · rename_i e he
      split
      · rename_i hzero
        refine ih (hnext ?_) (by omega)
        rw [he, hzero]
        exact fun heq => hd (Option.some.inj heq).symm
      · exact ⟨he, hle⟩
    · rename_i hnone
      refine ih (hnext ?_) (by omega)
      rw [hnone]
      exact Option.some_ne_none d |>.symm

/-! ### Where the digits begin -/

theorem compareGrid_one {n den : Nat} {p : Int} (hden : 0 < den) (hp : 0 ≤ p) :
    compareGrid 1 p (n * den) den = .gt ↔ n < 10 ^ p.toNat := by
  rw [compareGrid, if_neg (by omega), compare_gt_iff_gt, one_mul, Nat.pow_eq]
  exact Nat.mul_lt_mul_right hden

/-- The point is not too far on the left ... -/
theorem lt_decimalPoint {n den k : Nat} {estimate : Int} (hden : 0 < den) (hestimate : 0 ≤ estimate)
    (hk : k < estimate + 2) (h : 10 ^ k ≤ n) : k < decimalPoint (n * den) den estimate := by
  have hpower {p : Int} (hp : n < 10 ^ p.toNat) : (k : Int) < p := by
    have hlt := (Nat.pow_lt_pow_iff_right (by decide : 1 < 10)).mp (h.trans_lt hp)
    omega
  rw [decimalPoint]
  split
  · rename_i hgt
    exact hpower ((compareGrid_one hden hestimate).mp hgt)
  · split
    · rename_i hgt
      exact hpower ((compareGrid_one hden (by omega)).mp hgt)
    · exact hk

/-- ... and not too far on the right. -/
theorem pow_decimalPoint_le {n den : Nat} {estimate : Int} (hden : 0 < den)
    (hestimate : 0 ≤ estimate) (h : 10 ^ estimate.toNat ≤ n) :
    10 ^ (decimalPoint (n * den) den estimate - 1).toNat ≤ n := by
  rw [decimalPoint]
  split
  · rename_i hgt
    exact absurd ((compareGrid_one hden hestimate).mp hgt) (Nat.not_lt.mpr h)
  · split
    · rwa [add_sub_cancel_right]
    · rename_i hgt
      rw [compareGrid_one hden (by omega), Nat.not_lt] at hgt
      rwa [show estimate + 2 - 1 = estimate + 1 by omega]

theorem ten_pow_estimate_le {bits : Nat} (h : bits < 70) :
    10 ^ (bits * 30103 / 100000) ≤ 2 ^ bits := by
  have hall : ∀ bits < 70, 10 ^ (bits * 30103 / 100000) ≤ 2 ^ bits := by decide +kernel
  exact hall bits h

/-! ### The digits of an integer -/

/-- The natural number that a decimal without places behind the point is. -/
def Decimal.whole (d : Decimal) : Nat := d.digits * 10 ^ d.exponent.toNat

theorem Decimal.whole_strip {d : Decimal} (h : 0 ≤ d.exponent) (zeros : Nat) :
    0 ≤ (d.strip zeros).exponent ∧ (d.strip zeros).whole = d.whole := by
  induction zeros generalizing d with
  | zero => exact ⟨h, rfl⟩
  | succ zeros ih =>
    rw [strip]
    split
    · rename_i hzero
      simp only [Bool.and_eq_true, decide_eq_true_eq] at hzero
      have hdigits : d.digits / 10 * 10 = d.digits := by omega
      have hexponent : (d.exponent + 1).toNat = d.exponent.toNat + 1 := by omega
      have hwhole : Decimal.whole ⟨d.digits / 10, d.exponent + 1⟩ = d.whole := by
        rw [whole, whole, hexponent, pow_succ', ← mul_assoc, hdigits]
      rw [← hwhole]
      exact ih (by simp only; omega)
    · exact ⟨h, rfl⟩

theorem digitChars_mul_pow {n : Nat} (hn : 0 < n) (zeros : Nat) :
    digitChars (n * 10 ^ zeros) = digitChars n ++ List.replicate zeros '0' := by
  induction zeros with
  | zero => simp
  | succ zeros ih =>
    have hpos : 0 < n * 10 ^ zeros := Nat.mul_pos hn (Nat.pow_pos (by decide))
    have hdigit := Nat.toDigits_append_toDigits (b := 10) (d := 0) (by decide) hpos (by decide)
    rw [List.replicate_succ', ← List.append_assoc, ← ih, pow_succ', mul_left_comm]
    exact hdigit.symm

theorem Decimal.positional_of_whole {d : Decimal} (h : 0 ≤ d.exponent) :
    d.positional = digitChars d.whole := by
  rw [positional, if_neg (by omega), whole]
  split
  · rename_i hzero
    rw [hzero, zero_mul]
    rfl
  · rename_i hdigits
    exact (digitChars_mul_pow (Nat.pos_of_ne_zero hdigits) _).symm

/-! ### Great integers -/

theorem value_cases {p : Parts} (h : p.integral = true) :
    (p.exponent < 0 ∧ p.mantissa = p.whole * 2 ^ (-p.exponent).toNat) ∨
      (0 ≤ p.exponent ∧ p.whole = p.mantissa * 2 ^ p.exponent.toNat) := by
  rcases lt_or_ge p.exponent 0 with hneg | hneg
  · refine .inl ⟨hneg, ?_⟩
    rw [Parts.integral, decide_eq_false (by omega), Bool.false_or, decide_eq_true_iff,
      Nat.pow_eq] at h
    rw [Parts.whole, if_pos hneg, Nat.shiftRight_eq_div_pow]
    exact (Nat.div_mul_cancel (Nat.dvd_of_mod_eq_zero h)).symm
  · refine .inr ⟨hneg, ?_⟩
    rw [Parts.whole, if_neg (by omega), Nat.shiftLeft_eq]

/-- Parts of an integer that is not shown through all its digits, but has no exponent either. -/
structure Parts.Great (p : Parts) : Prop extends p.Fitting where
  integral : p.integral = true
  le_whole : 10 ^ 15 ≤ p.whole
  whole_lt : p.whole < 10 ^ 21

namespace Parts.Great

variable {p : Parts} (h : p.Great)

include h

theorem neg_three_le : -3 ≤ p.exponent := by
  have hlow := h.le_whole
  have hmantissa := h.mantissa_lt
  by_contra hsmall
  rcases value_cases h.integral with ⟨-, hvalue⟩ | ⟨hexponent, -⟩
  · have hpower : 2 ^ 4 ≤ 2 ^ (-p.exponent).toNat := Nat.pow_le_pow_right two_pos (by omega)
    have hbound := Nat.mul_le_mul hlow hpower
    rw [← hvalue] at hbound
    omega
  · omega

theorem mantissa_pos : 0 < p.mantissa := by
  have hexponent := h.neg_three_le
  have hnormal : 2 ^ 52 ≤ p.mantissa := h.normal.resolve_left (by omega)
  omega

theorem size_eq : p.size = p.whole * unitsOfOne := by
  have hdvd := (integral_iff h.le_exponent).mp h.integral
  rw [whole_eq h.le_exponent, Nat.div_mul_cancel hdvd]

theorem mid_eq : 4 * p.mantissa * p.quarter = p.whole * p.den := by
  have hexponent : -1072 ≤ p.exponent := by
    have := h.neg_three_le
    omega
  refine Nat.eq_of_mul_eq_mul_right unitsOfOne_pos ?_
  calc
    4 * p.mantissa * p.quarter * unitsOfOne = 4 * p.mantissa * p.quarterSize * p.den := by
      rw [mul_assoc, quarter_mul_unitsOfOne hexponent]
      ring
    _ = p.whole * p.den * unitsOfOne := by
      rw [← size_eq_quarters hexponent, h.size_eq]
      ring

theorem log2_add : (p.mantissa.log2 : Int) + p.exponent = p.whole.log2 := by
  have hwhole : 0 < p.whole := by
    have := h.le_whole
    omega
  rcases value_cases h.integral with ⟨hneg, hvalue⟩ | ⟨hneg, hvalue⟩
  · rw [hvalue, log2_mul_two_pow hwhole]
    omega
  · rw [hvalue, log2_mul_two_pow h.mantissa_pos]
    omega

/-- Where ten to the power is less than a quarter of the last place, or one, the next multiple below
the number is in the interval. -/
theorem mod_mul_den_lt {q : Nat} (hq : q = 0 ∨ 10 ^ (q + 17) ≤ p.whole) :
    p.whole % 10 ^ q * p.den < p.quarter := by
  rcases hq with rfl | hq
  · rw [pow_zero, Nat.mod_one, zero_mul]
    exact quarter_pos p
  · have hmantissa := h.mantissa_lt
    have hpower : 0 < 10 ^ q := Nat.pow_pos (by decide)
    rw [pow_add] at hq
    have hexponent : 2 ≤ p.exponent := by
      by_contra hsmall
      rcases value_cases h.integral with ⟨-, hvalue⟩ | ⟨-, hvalue⟩
      · have hle := Nat.le_mul_of_pos_right p.whole (Nat.two_pow_pos (-p.exponent).toNat)
        omega
      · have hle : 2 ^ p.exponent.toNat ≤ 2 ^ 1 := Nat.pow_le_pow_right two_pos (by omega)
        have hbound := Nat.mul_le_mul_left p.mantissa hle
        omega
    have hvalue : p.whole = p.mantissa * (4 * 2 ^ (p.exponent - 2).toNat) := by
      have hshift : p.exponent.toNat = (p.exponent - 2).toNat + 2 := by omega
      rcases value_cases h.integral with ⟨hneg, -⟩ | ⟨-, hvalue⟩
      · omega
      · rw [hvalue, hshift, pow_add]
        ring
    have hlt : p.whole % 10 ^ q < 10 ^ q := Nat.mod_lt _ hpower
    rw [Parts.den, Parts.quarter, if_neg (by omega), if_neg (by omega), mul_one]
    have hbound := Nat.mul_le_mul_right (4 * 2 ^ (p.exponent - 2).toNat) hmantissa.le
    generalize 2 ^ (p.exponent - 2).toNat = quarter at hvalue hbound ⊢
    omega

theorem holds_floor {q : Nat} (hq : q = 0 ∨ 10 ^ (q + 17) ≤ p.whole) :
    p.rounding.holds (p.whole / 10 ^ q) q = true := by
  have hrest := h.mod_mul_den_lt hq
  have hpos := h.mantissa_pos
  have hbelow := below_le p
  have hvalue : p.whole / 10 ^ q * 10 ^ q * p.den + p.whole % 10 ^ q * p.den =
      4 * p.mantissa * p.quarter := by
    rw [h.mid_eq, ← Nat.add_mul, Nat.div_add_mod']
  have hlow : (4 * p.mantissa - p.below) * p.quarter + p.quarter ≤
      4 * p.mantissa * p.quarter := by
    rw [← Nat.succ_mul]
    exact Nat.mul_le_mul_right _ (by omega)
  have hhigh : 4 * p.mantissa * p.quarter < (4 * p.mantissa + 2) * p.quarter :=
    Nat.mul_lt_mul_of_pos_right (by omega) (quarter_pos p)
  exact holds_of_lt hpos (by omega) (by omega)

theorem exists_onGrid? {q : Nat} (hq : q = 0 ∨ 10 ^ (q + 17) ≤ p.whole) :
    ∃ d, d ≠ 0 ∧ p.rounding.onGrid? q = some d := by
  have hfloor : gridFloor p.rounding.mid p.rounding.den q = p.whole / 10 ^ q := by
    rw [rounding_eq h.mantissa_pos, gridFloor, if_neg (by omega)]
    simp only [h.mid_eq, Int.toNat_natCast, Nat.pow_eq]
    rw [mul_comm p.whole, Nat.mul_div_mul_left _ _ (den_pos p)]
  have hpower : 10 ^ q ≤ p.whole := by
    have hlow := h.le_whole
    rcases hq with rfl | hq
    · omega
    · exact (Nat.pow_le_pow_right (by decide) (Nat.le_add_right q 17)).trans hq
  obtain ⟨d, hd⟩ := Rounding.exists_onGrid? (hfloor.symm ▸ h.holds_floor hq)
  have hle := onGrid?_le hd
  have hpos := Nat.div_pos hpower (Nat.pow_pos (by decide))
  refine ⟨d, ?_, hd⟩
  rw [hfloor] at hle
  omega

/-- The digits of the number are a point of a grid in the interval, with no more than 18 digits. -/
theorem exists_shortest : 0 ≤ p.shortest.exponent ∧ ∃ d q : Nat,
    p.rounding.onGrid? q = some d ∧ p.shortest.whole = d * 10 ^ q ∧
      (10 ^ 18 ≤ p.whole → q ≠ 0) := by
  have hlow := h.le_whole
  have hhigh := h.whole_lt
  have hbits : 49 ≤ p.whole.log2 ∧ p.whole.log2 < 70 :=
    ⟨(Nat.le_log2 (by omega)).mpr (by omega), (Nat.log2_lt (by omega)).mpr (by omega)⟩
  have hestimate : ((p.mantissa.log2 : Int) + p.exponent) * 30103 / 100000 =
      (p.whole.log2 * 30103 / 100000 : Nat) := by
    rw [h.log2_add]
    omega
  have hrounding : p.rounding.mid = p.whole * p.den ∧ p.rounding.den = p.den := by
    rw [rounding_eq h.mantissa_pos]
    exact ⟨h.mid_eq, rfl⟩
  have hpoint := pow_decimalPoint_le (n := p.whole) (den_pos p)
    (Int.natCast_nonneg (p.whole.log2 * 30103 / 100000))
    ((ten_pow_estimate_le hbits.2).trans (Nat.log2_self_le (by omega)))
  have hleft (k : Nat) (hk : k < p.whole.log2 * 30103 / 100000 + 2) (hpow : 10 ^ k ≤ p.whole) :=
    lt_decimalPoint (den_pos p) (Int.natCast_nonneg (p.whole.log2 * 30103 / 100000))
      (by omega : (k : Int) < _) hpow
  have hgreat : 10 ^ 18 ≤ p.whole → 59 ≤ p.whole.log2 := fun hgreat =>
    (Nat.le_log2 (by omega)).mpr (by omega)
  have hfirst := hleft 15 (by omega) hlow
  have hleft := hleft 18
  rw [Parts.shortest, if_neg h.mantissa_pos.ne']
  simp only [hestimate, hrounding.1, hrounding.2]
  generalize decimalPoint _ _ _ = point at hpoint hfirst hleft ⊢
  obtain ⟨d, hd, hgrid⟩ := h.exists_onGrid? (q := (point - 18).toNat) (by
    rcases le_or_gt point 18 with hsmall | hsmall
    · exact .inl (by omega)
    · refine .inr ?_
      rwa [show (point - 18).toNat + 17 = (point - 1).toNat by omega])
  have hfirst' : point - 1 < (point - 18).toNat + (18 : Nat) := by omega
  obtain ⟨hfound, hle⟩ := search_of_onGrid? hd hgrid (by omega) hfirst'
  generalize p.rounding.search (point - 1) 18 = e at hfound hle ⊢
  obtain ⟨hexponent, hwhole⟩ := Decimal.whole_strip (d := e) (by omega) 20
  refine ⟨hexponent, e.digits, e.exponent.toNat, ?_, hwhole, fun hgreat' => ?_⟩
  · rwa [Int.toNat_of_nonneg (by omega)]
  · have hpoint' := hleft (by omega) hgreat'
    omega

theorem holds_shortest : p.rounding.holds p.shortest.whole 0 = true := by
  obtain ⟨-, d, q, hgrid, hwhole, -⟩ := h.exists_shortest
  rw [hwhole, Rounding.holds_mul_pow]
  exact Rounding.holds_of_onGrid? hgrid

theorem whole_shortest_bounds : (4 * p.mantissa - p.below) * p.quarter ≤ p.shortest.whole * p.den ∧
    p.shortest.whole * p.den ≤ (4 * p.mantissa + 2) * p.quarter := by
  have hbounds := le_of_holds (q := 0) h.mantissa_pos h.holds_shortest
  rwa [pow_zero, mul_one] at hbounds

theorem whole_shortest_pos : 0 < p.shortest.whole := by
  have hpos := h.mantissa_pos
  have hbelow := below_le p
  have hlow : 0 < (4 * p.mantissa - p.below) * p.quarter :=
    Nat.mul_pos (by omega) (quarter_pos p)
  exact Nat.pos_of_mul_pos_right (hlow.trans_le h.whole_shortest_bounds.1)

/-- The digits stand for another number only if this is none that is held exactly. -/
theorem whole_shortest_of_size {q : Parts} (hq : q.Fitting)
    (hsize : q.size = p.shortest.whole * unitsOfOne) : p.shortest.whole = p.whole := by
  have hexponent : -1072 ≤ p.exponent := by
    have := h.neg_three_le
    omega
  have hsame := eq_size_of_holds h.toFitting hq h.mantissa_pos hexponent hsize h.holds_shortest
  rw [hsize, h.size_eq] at hsame
  exact Nat.eq_of_mul_eq_mul_right unitsOfOne_pos hsame

/-- A number of 19 digits is not written with all of them. -/
theorem ten_dvd_whole_shortest (hle : 2 * 10 ^ 18 ≤ p.shortest.whole) :
    10 ∣ p.shortest.whole := by
  have hdouble : p.shortest.whole ≤ 2 * p.whole := by
    refine Nat.le_of_mul_le_mul_right ?_ (den_pos p)
    calc
      p.shortest.whole * p.den ≤ (4 * p.mantissa + 2) * p.quarter := h.whole_shortest_bounds.2
      _ ≤ 2 * (4 * p.mantissa) * p.quarter :=
        Nat.mul_le_mul_right _ (by have := h.mantissa_pos; omega)
      _ = 2 * p.whole * p.den := by rw [mul_assoc, h.mid_eq, mul_assoc]
  obtain ⟨-, d, q, -, hwhole, hq⟩ := h.exists_shortest
  rw [hwhole]
  exact Dvd.dvd.mul_left (dvd_pow_self 10 (hq (by omega))) d

/-- The last place of an integer of 54 bits is two at most. -/
theorem exponent_le_one (hlt : p.whole < 2 ^ 54) : p.exponent ≤ 1 := by
  by_contra hgreat
  rcases value_cases h.integral with ⟨hneg, -⟩ | ⟨-, hvalue⟩
  · omega
  · have hnormal : 2 ^ 52 ≤ p.mantissa := h.normal.resolve_left (by omega)
    have hpower : 2 ^ 2 ≤ 2 ^ p.exponent.toNat := Nat.pow_le_pow_right two_pos (by omega)
    have hbound := Nat.mul_le_mul hnormal hpower
    omega

/-- Where the last place is two at most, the digits stand for an integer at a distance of one at
most. -/
theorem whole_shortest_near (hexponent : p.exponent ≤ 1) :
    p.shortest.whole * p.den ≤ p.whole * p.den + 2 ∧
      p.whole * p.den ≤ p.shortest.whole * p.den + 2 := by
  have hquarter : p.quarter = 1 := if_pos (by omega)
  have hmid := h.mid_eq
  have hbelow := below_le p
  obtain ⟨hlow, hhigh⟩ := h.whole_shortest_bounds
  rw [hquarter, mul_one] at hmid hlow hhigh
  omega

theorem whole_shortest_of_exponent_le (hexponent : p.exponent ≤ 0) :
    p.shortest.whole = p.whole := by
  obtain ⟨hhigh, hlow⟩ := h.whole_shortest_near (by omega)
  have hden : 2 ^ 2 ≤ p.den := by
    rw [Parts.den, if_pos (by omega)]
    exact Nat.pow_le_pow_right two_pos (by omega)
  have hle : p.shortest.whole < p.whole + 1 := by
    refine Nat.lt_of_mul_lt_mul_right (a := p.den) ?_
    rw [Nat.succ_mul]
    omega
  have hge : p.whole < p.shortest.whole + 1 := by
    refine Nat.lt_of_mul_lt_mul_right (a := p.den) ?_
    rw [Nat.succ_mul]
    omega
  omega

/-- Where the digits have no zeros behind them, they are those of the number. -/
theorem onGrid?_zero : p.rounding.onGrid? 0 = some p.whole := by
  have hfloor := h.holds_floor (q := 0) (.inl rfl)
  rw [pow_zero, Nat.div_one] at hfloor
  refine Rounding.onGrid?_exact ?_ ?_ hfloor
  · rw [rounding_eq h.mantissa_pos]
    exact den_pos p
  · rw [rounding_eq h.mantissa_pos]
    exact h.mid_eq

/-- Every integer of 54 bits is written exactly: the others in its interval are odd. -/
theorem whole_shortest_eq (hlt : p.whole < 2 ^ 54) : p.shortest.whole = p.whole := by
  rcases (h.exponent_le_one hlt).lt_or_eq with hsmall | hone
  · exact h.whole_shortest_of_exponent_le (by omega)
  · have hden : p.den = 2 := by
      rw [Parts.den, if_pos (by omega), hone]
      rfl
    have hvalue : p.whole = p.mantissa * 2 := by
      rcases value_cases h.integral with ⟨hneg, -⟩ | ⟨-, hvalue⟩
      · omega
      · rwa [hone] at hvalue
    obtain ⟨hhigh, hlow⟩ := h.whole_shortest_near hone.le
    obtain ⟨-, d, q, hgrid, hwhole, -⟩ := h.exists_shortest
    rcases Nat.eq_zero_or_pos q with rfl | hq
    · rw [hwhole, pow_zero, mul_one]
      exact Option.some.inj (hgrid.symm.trans h.onGrid?_zero)
    · have heven : 2 ∣ p.shortest.whole := by
        rw [hwhole]
        exact Dvd.dvd.mul_left (dvd_pow (by decide : 2 ∣ 10) hq.ne') d
      rw [hden] at hlow hhigh
      omega

end Parts.Great

end BrowserLab.Number
