import BrowserLab.Proofs.Number.Whole

/-!
# Numbers in units

Every finite number is a whole number of the units `2 ^ -1074`, and all that is decided about finite
numbers is decided by the number of their units.

* `fitting_of_shape`: which mantissas and exponents a number can have.
* `compare_shapeOf`: finite numbers compare as their units do (`lt_iff`, `le_iff`, `lt_zero_iff`).
* `beq_iff_point`: numbers are equal if they lie at the same point.
* `whole_eq`, `integral_iff`: the integer part is found by dividing by the units of one.
* `Worth x i`: the number is the integer `i`.  Without what is behind the point every finite number
  is one (`worth_trunc`).
* `natFloor`: the number rounded down, as a natural number.
-/

namespace BrowserLab.Number

open Float.Model Float.Model.UnpackedFloat

/-! ### The parts that a number can have -/

/-- Parts that a number can have: the mantissa has 53 bits, and it has no fewer unless the exponent
is the least one. -/
structure Parts.Fitting (p : Parts) : Prop where
  mantissa_lt : p.mantissa < 2 ^ 53
  le_exponent : -1074 ≤ p.exponent
  exponent_le : p.exponent ≤ 971
  normal : p.exponent = -1074 ∨ 2 ^ 52 ≤ p.mantissa

theorem fitting_of_shape {x : Float} {p : Parts} (h : shape x = .finite p) : p.Fitting := by
  simp only [shape, Nat.pow_eq] at h
  generalize x.toBits.toNat = bits at h
  have hfraction : bits % 2 ^ 52 < 2 ^ 52 := Nat.mod_lt _ (Nat.two_pow_pos 52)
  have hexponent : bits / 2 ^ 52 % 2 ^ 11 < 2 ^ 11 := Nat.mod_lt _ (Nat.two_pow_pos 11)
  split at h
  · split at h <;> cases h
  · split at h
    · cases h
      exact ⟨by simp only; omega, le_rfl, by simp only; omega, .inl rfl⟩
    · cases h
      exact ⟨by simp only; omega, by simp only; omega, by simp only; omega,
        .inr (by simp only; omega)⟩

/-! ### Units -/

/-- The units of the number one. -/
def unitsOfOne : Nat := 2 ^ 1074

theorem unitsOfOne_pos : 0 < unitsOfOne := pow_pos two_pos 1074

theorem unitsOfOne_eq {a b : Nat} (h : a + b = 1074) : unitsOfOne = 2 ^ a * 2 ^ b :=
  (congrArg (2 ^ ·) h.symm).trans (pow_add 2 a b)

theorem pow_add_unitsOfOne (k : Nat) : 2 ^ (k + 1074) = 2 ^ k * unitsOfOne := pow_add 2 k 1074

/-- The number of units without the sign. -/
def Parts.size (p : Parts) : Nat := p.mantissa * 2 ^ (p.exponent + 1074).toNat

/-- The number of units, with the sign. -/
def Parts.signedSize (p : Parts) : Int := if p.negative then -(p.size : Int) else p.size

theorem size_pos {p : Parts} (h : 0 < p.mantissa) : 0 < p.size :=
  Nat.mul_pos h (Nat.two_pow_pos _)

theorem signedSize_eq_zero {p : Parts} (h : p.mantissa = 0) : p.signedSize = 0 := by
  simp [Parts.signedSize, Parts.size, h]

theorem signedSize_of_negative {p : Parts} (h : p.negative = true) :
    p.signedSize = -(p.size : Int) := by
  rw [Parts.signedSize, if_pos h]

theorem signedSize_of_positive {p : Parts} (h : p.negative = false) : p.signedSize = p.size := by
  rw [Parts.signedSize, h]
  rfl

section Order

variable {p q : Parts} (hp : p.Fitting) (hq : q.Fitting)

include hp hq

theorem size_lt_of_exponent_lt (h : p.exponent < q.exponent) : p.size < q.size := by
  have hnormal : 2 ^ 52 ≤ q.mantissa := hq.normal.resolve_left (by have := hp.le_exponent; omega)
  obtain ⟨k, hk⟩ : ∃ k, (q.exponent + 1074).toNat = (p.exponent + 1074).toNat + 1 + k :=
    ⟨(q.exponent - p.exponent - 1).toNat, by have := hp.le_exponent; omega⟩
  rw [Parts.size, Parts.size, hk]
  generalize (p.exponent + 1074).toNat = a
  calc
    p.mantissa * 2 ^ a < 2 ^ 53 * 2 ^ a :=
      Nat.mul_lt_mul_of_pos_right hp.mantissa_lt (Nat.two_pow_pos a)
    _ = 2 ^ 52 * 2 ^ (a + 1) := by ring
    _ ≤ q.mantissa * 2 ^ (a + 1 + k) :=
      Nat.mul_le_mul hnormal (Nat.pow_le_pow_right (by decide) (Nat.le_add_right _ k))

/-- The exponents decide, and the mantissas where the exponents are the same. -/
theorem compare_size : compare p.size q.size =
    (compare p.exponent q.exponent).then (compare p.mantissa q.mantissa) := by
  rcases lt_trichotomy p.exponent q.exponent with h | h | h
  · rw [compare_lt_iff_lt.mpr h, compare_lt_iff_lt.mpr (size_lt_of_exponent_lt hp hq h)]
    rfl
  · rw [compare_eq_iff_eq.mpr h, Parts.size, Parts.size, h, ← cmp_eq_compare]
    exact ((strictMono_mul_right_of_pos (Nat.two_pow_pos _)).cmp_map_eq _ _).trans
      (cmp_eq_compare _ _)
  · rw [compare_gt_iff_gt.mpr h, compare_gt_iff_gt.mpr (size_lt_of_exponent_lt hq hp h)]
    rfl

end Order

theorem compare_natCast (m n : Nat) : compare (m : Int) n = compare m n := by
  rw [← cmp_eq_compare, ← cmp_eq_compare]
  exact Nat.strictMono_cast.cmp_map_eq m n

theorem compare_neg_natCast (m n : Nat) : compare (-(m : Int)) (-n) = (compare m n).swap := by
  have hanti : StrictAnti fun n : Nat => -(n : Int) := fun _ _ h =>
    Int.neg_lt_neg (Int.ofNat_lt.mpr h)
  rw [← cmp_eq_compare, ← cmp_eq_compare, cmp_swap]
  exact hanti.cmp_map_eq m n

/-- Finite numbers compare as their units do. -/
theorem compare_shapeOf {u v : UnpackedFloat} {p q : Parts} (hu : shapeOf u = .finite p)
    (hv : shapeOf v = .finite q) (hp : p.Fitting) (hq : q.Fitting) :
    u.compare v = some (compare p.signedSize q.signedSize) := by
  have hsize := compare_size hp hq
  have hpos : 0 < p.mantissa → 0 < p.size := size_pos
  have hpos' : 0 < q.mantissa → 0 < q.size := size_pos
  rcases u with _ | _ | s | ⟨s, m, e, hm⟩ <;> cases hu <;>
    rcases v with _ | _ | t | ⟨t, n, f, hn⟩ <;> cases hv
  · rw [signedSize_eq_zero rfl, signedSize_eq_zero rfl]
    rfl
  · have hpos := hpos' hn
    rw [signedSize_eq_zero rfl]
    cases t
    · rw [signedSize_of_negative rfl, compare_gt_iff_gt.mpr (by omega)]
      rfl
    · rw [signedSize_of_positive rfl, compare_lt_iff_lt.mpr (by omega)]
      rfl
  · have hpos := hpos hm
    rw [signedSize_eq_zero (p := ⟨t == .negative, 0, -1074⟩) rfl]
    cases s
    · rw [signedSize_of_negative rfl, compare_lt_iff_lt.mpr (by omega)]
      rfl
    · rw [signedSize_of_positive rfl, compare_gt_iff_gt.mpr (by omega)]
      rfl
  · have hpos := hpos hm
    have hpos' := hpos' hn
    cases s <;> cases t
    · rw [signedSize_of_negative rfl, signedSize_of_negative rfl, compare_neg_natCast, hsize]
      rfl
    · rw [signedSize_of_negative rfl, signedSize_of_positive rfl, compare_lt_iff_lt.mpr (by omega)]
      rfl
    · rw [signedSize_of_positive rfl, signedSize_of_negative rfl, compare_gt_iff_gt.mpr (by omega)]
      rfl
    · rw [signedSize_of_positive rfl, signedSize_of_positive rfl, compare_natCast, hsize]
      rfl

/-! ### The order -/

theorem lt_iff_compare {x y : Float} :
    x < y ↔ x.toModel.unpack.compare y.toModel.unpack = some .lt :=
  decide_eq_true_iff.trans beq_iff_eq

theorem le_iff_compare {x y : Float} :
    x ≤ y ↔ (x.toModel.unpack.compare y.toModel.unpack).any (·.isLE) = true :=
  decide_eq_true_iff

section Finite

variable {x y : Float} {p q : Parts} (hx : shape x = .finite p) (hy : shape y = .finite q)

include hx hy

theorem compare_eq :
    x.toModel.unpack.compare y.toModel.unpack = some (compare p.signedSize q.signedSize) :=
  compare_shapeOf (shape_eq x ▸ hx) (shape_eq y ▸ hy) (fitting_of_shape hx) (fitting_of_shape hy)

theorem lt_iff : x < y ↔ p.signedSize < q.signedSize := by
  rw [lt_iff_compare, compare_eq hx hy, Option.some_inj, compare_lt_iff_lt]

theorem le_iff : x ≤ y ↔ p.signedSize ≤ q.signedSize := by
  rw [le_iff_compare, compare_eq hx hy, Option.any_some, Int.isLE_compare]

end Finite

section Special

variable {x y : Float}

theorem unpack_of_nan (h : shape x = .nan) : x.toModel.unpack = .notANumber := by
  rw [shape_eq] at h
  cases hx : x.toModel.unpack <;> rw [hx] at h <;> cases h

theorem unpack_of_infinite {negative : Bool} (h : shape x = .infinite negative) :
    x.toModel.unpack = .infinity (if negative then .negative else .positive) := by
  rw [shape_eq] at h
  cases hx : x.toModel.unpack with
  | infinity s =>
    rw [hx] at h
    cases h
    cases s <;> rfl
  | _ =>
    rw [hx] at h
    cases h

theorem isNaN_iff : x.isNaN = true ↔ shape x = .nan := by
  have h : x.isNaN = x.toModel.unpack.isNaN := rfl
  rw [h, shape_eq]
  cases x.toModel.unpack <;> simp [UnpackedFloat.isNaN, shapeOf]

theorem isNaN_eq_false (h : shape x ≠ .nan) : x.isNaN = false :=
  Bool.eq_false_iff.mpr (mt isNaN_iff.mp h)

theorem isInf_iff : x.isInf = true ↔ ∃ negative, shape x = .infinite negative := by
  have h : x.isInf = x.toModel.unpack.isInf := rfl
  rw [h, shape_eq]
  cases x.toModel.unpack <;> simp [UnpackedFloat.isInf, shapeOf]

theorem isInf_eq_false {p : Parts} (h : shape x = .finite p) : x.isInf = false := by
  refine Bool.eq_false_iff.mpr fun hinf => ?_
  obtain ⟨negative, hinf⟩ := isInf_iff.mp hinf
  rw [h] at hinf
  cases hinf

/-- All finite numbers are below the infinite one. -/
theorem lt_infinite {p : Parts} (hx : shape x = .finite p) (hy : shape y = .infinite false) :
    x < y := by
  rw [shape_eq] at hx
  rw [lt_iff_compare, unpack_of_infinite hy]
  cases h : x.toModel.unpack <;> rw [h] at hx <;> cases hx <;> rfl

theorem shape_zero : shape 0.0 = .finite ⟨false, 0, -1074⟩ := rfl

theorem unpack_zero : (0.0 : Float).toModel.unpack = .zero .positive := rfl

theorem lt_zero_iff :
    x < 0.0 ↔ shape x = .infinite true ∨ ∃ p, shape x = .finite p ∧ p.signedSize < 0 := by
  cases h : shape x with
  | finite p =>
    rw [lt_iff h shape_zero, signedSize_eq_zero (p := ⟨false, 0, -1074⟩) rfl]
    simp
  | nan =>
    rw [lt_iff_compare, unpack_of_nan h, unpack_zero]
    simp [UnpackedFloat.compare]
  | infinite negative =>
    rw [lt_iff_compare, unpack_of_infinite h, unpack_zero]
    cases negative <;> simp [UnpackedFloat.compare]

theorem not_zero_le (h : x < 0.0) : ¬ 0.0 ≤ x := by
  rcases lt_zero_iff.mp h with hx | ⟨p, hx, hsize⟩
  · rw [le_iff_compare, unpack_of_infinite hx, unpack_zero]
    exact Bool.false_ne_true
  · rw [le_iff shape_zero hx, signedSize_eq_zero (p := ⟨false, 0, -1074⟩) rfl]
    omega

end Special

/-! ### Equality -/

/-- Where a number lies: at one of the two infinities, or so many units from zero. -/
def point? (x : Float) : Option (Bool ⊕ Int) :=
  match shape x with
  | .nan => none
  | .infinite negative => some (.inl negative)
  | .finite p => some (.inr p.signedSize)

theorem beq_iff_compare {x y : Float} :
    (x == y) = true ↔ x.toModel.unpack.compare y.toModel.unpack = some .eq := by
  change (x.toModel.unpack.compare y.toModel.unpack == some .eq) = true ↔ _
  exact beq_iff_eq

theorem compare_notANumber (u : UnpackedFloat) : u.compare .notANumber = none := by
  cases u <;> rfl

/-- No finite number is compared equal to an infinite one. -/
theorem compare_infinite_finite {x y : Float} {negative : Bool} {p : Parts}
    (hx : shape x = .infinite negative) (hy : shape y = .finite p) :
    x.toModel.unpack.compare y.toModel.unpack ≠ some .eq ∧
      y.toModel.unpack.compare x.toModel.unpack ≠ some .eq := by
  rw [unpack_of_infinite hx]
  rw [shape_eq] at hy
  cases h : y.toModel.unpack <;> rw [h] at hy <;> cases hy <;> cases negative <;>
    simp [UnpackedFloat.compare]

/-- Two numbers are equal if they lie at the same point; what is no number equals nothing. -/
theorem beq_iff_point {x y : Float} :
    (x == y) = true ↔ ∃ point, point? x = some point ∧ point? y = some point := by
  rw [beq_iff_compare]
  cases hx : shape x with
  | nan =>
    rw [unpack_of_nan hx]
    simp [UnpackedFloat.compare, point?, hx]
  | infinite negative =>
    cases hy : shape y with
    | nan =>
      rw [unpack_of_nan hy, compare_notANumber]
      simp [point?, hy]
    | infinite negative' =>
      rw [unpack_of_infinite hx, unpack_of_infinite hy]
      cases negative <;> cases negative' <;> simp [UnpackedFloat.compare, point?, hx, hy] <;> decide
    | finite q => simp [point?, hx, hy, (compare_infinite_finite hx hy).1]
  | finite p =>
    cases hy : shape y with
    | nan =>
      rw [unpack_of_nan hy, compare_notANumber]
      simp [point?, hy]
    | infinite negative => simp [point?, hx, hy, (compare_infinite_finite hy hx).2]
    | finite q =>
      rw [compare_eq hx hy, Option.some_inj, compare_eq_iff_eq]
      simp [point?, hx, hy, eq_comm]

theorem point?_eq_none {x : Float} : point? x = none ↔ x.isNaN = true := by
  rw [isNaN_iff, point?]
  cases shape x <;> simp

theorem beq_self_iff {x : Float} : (x == x) = true ↔ x.isNaN = false := by
  rw [beq_iff_point, ← Bool.not_eq_true, ← point?_eq_none]
  cases point? x <;> simp

theorem beq_comm (x y : Float) : (x == y) = (y == x) := by
  rw [Bool.eq_iff_iff, beq_iff_point, beq_iff_point]
  simp only [and_comm]

theorem beq_trans {x y z : Float} (hxy : (x == y) = true) (hyz : (y == z) = true) :
    (x == z) = true := by
  obtain ⟨point, hx, hy⟩ := beq_iff_point.mp hxy
  obtain ⟨point', hy', hz⟩ := beq_iff_point.mp hyz
  rw [hy] at hy'
  exact beq_iff_point.mpr ⟨point, hx, hz.trans hy'.symm⟩

/-! ### Integers -/

section Integers

variable {p : Parts} (h : -1074 ≤ p.exponent)

include h

/-- The size, where there is something behind the point and where there is nothing. -/
theorem size_of_neg (hneg : p.exponent < 0) :
    ∃ k, p.size = p.mantissa * 2 ^ k ∧ unitsOfOne = 2 ^ (-p.exponent).toNat * 2 ^ k :=
  ⟨_, rfl, unitsOfOne_eq (by omega)⟩

omit h in
theorem size_of_nonneg (hneg : ¬ p.exponent < 0) :
    p.size = p.mantissa * 2 ^ p.exponent.toNat * unitsOfOne := by
  have hshift : (p.exponent + 1074).toNat = p.exponent.toNat + 1074 := by omega
  rw [Parts.size, hshift, pow_add_unitsOfOne, mul_assoc]

theorem whole_eq : p.whole = p.size / unitsOfOne := by
  rw [Parts.whole]
  split
  · rename_i hneg
    obtain ⟨k, hsize, hone⟩ := size_of_neg h hneg
    rw [hsize, hone, Nat.mul_div_mul_right _ _ (Nat.two_pow_pos _), Nat.shiftRight_eq_div_pow]
  · rename_i hneg
    rw [size_of_nonneg hneg, Nat.mul_div_cancel _ unitsOfOne_pos, Nat.shiftLeft_eq]

theorem integral_iff : p.integral = true ↔ unitsOfOne ∣ p.size := by
  rw [Parts.integral]
  by_cases hneg : p.exponent < 0
  · obtain ⟨k, hsize, hone⟩ := size_of_neg h hneg
    rw [hsize, hone, Nat.mul_dvd_mul_iff_right (Nat.two_pow_pos _), decide_eq_false (by omega),
      Bool.false_or, decide_eq_true_iff]
    exact Nat.dvd_iff_mod_eq_zero.symm
  · rw [size_of_nonneg hneg, decide_eq_true (by omega)]
    exact iff_of_true rfl (Nat.dvd_mul_left _ _)

end Integers

/-- The number is the integer. -/
def Worth (x : Float) (i : Int) : Prop := ∃ p, shape x = .finite p ∧ p.signedSize = i * unitsOfOne

theorem eq_mul_iff {a b i : Int} (hb : b ≠ 0) : a = i * b ↔ b ∣ a ∧ a / b = i :=
  ⟨fun h => ⟨Dvd.intro_left i h.symm, Int.ediv_eq_of_eq_mul_left hb h⟩,
    fun ⟨hdvd, hquotient⟩ => (Int.ediv_eq_iff_eq_mul_left hb hdvd).mp hquotient⟩

theorem worth_iff_signedSize {x : Float} {i : Int} {p : Parts} (h : shape x = .finite p) :
    Worth x i ↔ p.signedSize = i * unitsOfOne := by
  constructor
  · rintro ⟨q, hq, hsize⟩
    obtain rfl : p = q := Shape.finite.inj (h.symm.trans hq)
    exact hsize
  · exact fun hsize => ⟨p, h, hsize⟩

theorem worth_iff {x : Float} {i : Int} {p : Parts} (h : shape x = .finite p) :
    Worth x i ↔ p.integral = true ∧ p.truncate = i := by
  have hexponent := (fitting_of_shape h).le_exponent
  have hone : (unitsOfOne : Int) ≠ 0 := Int.natCast_ne_zero.mpr unitsOfOne_pos.ne'
  rw [worth_iff_signedSize h, integral_iff hexponent, ← Int.natCast_dvd_natCast, Parts.truncate,
    whole_eq hexponent, Int.natCast_div, Parts.signedSize]
  cases p.negative with
  | false => exact eq_mul_iff hone
  | true =>
    rw [if_pos rfl, if_pos rfl, neg_eq_iff_eq_neg, neg_eq_iff_eq_neg, ← neg_mul]
    exact eq_mul_iff hone

/-! ### What is known of integers -/

namespace Worth

variable {x y : Float} {i j : Int}

theorem lt_iff (hx : Worth x i) (hy : Worth y j) : x < y ↔ i < j := by
  obtain ⟨p, hp, hpsize⟩ := hx
  obtain ⟨q, hq, hqsize⟩ := hy
  rw [Number.lt_iff hp hq, hpsize, hqsize]
  exact mul_lt_mul_iff_left₀ (Int.natCast_pos.mpr unitsOfOne_pos)

theorem le_iff (hx : Worth x i) (hy : Worth y j) : x ≤ y ↔ i ≤ j := by
  obtain ⟨p, hp, hpsize⟩ := hx
  obtain ⟨q, hq, hqsize⟩ := hy
  rw [Number.le_iff hp hq, hpsize, hqsize]
  exact mul_le_mul_iff_left₀ (Int.natCast_pos.mpr unitsOfOne_pos)

theorem unique (h : Worth x i) (h' : Worth x j) : i = j := by
  obtain ⟨p, hp, -⟩ := id h
  rw [← ((worth_iff hp).mp h).2, ((worth_iff hp).mp h').2]

theorem isNaN (h : Worth x i) : x.isNaN = false := by
  obtain ⟨p, hp, -⟩ := h
  exact isNaN_eq_false (hp ▸ nofun)

theorem trunc (h : Worth x i) : trunc x = x := by
  obtain ⟨p, hp, -⟩ := id h
  rw [Number.trunc, hp]
  exact if_pos ((worth_iff hp).mp h).1

theorem clampInt (h : Worth x i) (low high : Int) : clampInt low high x = max low (min high i) := by
  obtain ⟨p, hp, -⟩ := id h
  rw [Number.clampInt, hp, ← ((worth_iff hp).mp h).2]

theorem toNat64 (h : Worth x i) : toNat64 x = min (2 ^ 64 - 1) i.toNat := by
  rw [Number.toNat64, h.clampInt, Nat.pow_eq]
  omega

end Worth

theorem worth_zero : Worth 0.0 0 := ⟨_, shape_zero, by rw [signedSize_eq_zero rfl, zero_mul]⟩

theorem ofNat_eq_nearest {n : Nat} (hpos : 0 < n) (hlt : n < 2 ^ 53) :
    Float.ofNat n = nearest n 0 :=
  (nearest_eq hpos hlt).symm

theorem worth_ofNat {n : Nat} (hlt : n < 2 ^ 53) : Worth (Float.ofNat n) n := by
  obtain rfl | hpos := Nat.eq_zero_or_pos n
  · exact worth_zero
  · rw [ofNat_eq_nearest hpos hlt]
    exact (worth_iff (shape_nearest hpos hlt)).mpr
      ⟨integral_wholeParts hpos hlt _, truncate_wholeParts hpos hlt _⟩

theorem worth_neg_ofNat {n : Nat} (hlt : n < 2 ^ 53) : Worth (-Float.ofNat n) (-n) := by
  obtain rfl | hpos := Nat.eq_zero_or_pos n
  · exact ⟨⟨true, 0, -1074⟩, rfl, by rw [signedSize_eq_zero rfl, Nat.cast_zero, neg_zero, zero_mul]⟩
  · rw [ofNat_eq_nearest hpos hlt]
    exact (worth_iff (shape_neg_nearest hpos hlt)).mpr
      ⟨integral_wholeParts hpos hlt _, truncate_wholeParts hpos hlt _⟩

theorem worth_neg_one : Worth (-1.0) (-1) := by
  have hshape : shape (-1.0) = .finite ⟨true, 2 ^ 52, -52⟩ := rfl
  exact (worth_iff hshape).mpr ⟨by decide, by decide⟩

/-- Without what is behind the point a finite number is an integer. -/
theorem worth_trunc {x : Float} {p : Parts} (h : shape x = .finite p) :
    Worth (trunc x) p.truncate := by
  rw [trunc, h]
  by_cases hintegral : p.integral = true
  · simp only [hintegral, if_true]
    exact (worth_iff h).mpr ⟨hintegral, rfl⟩
  · have hneg : p.exponent < 0 := by
      by_contra hneg
      rw [Parts.integral, decide_eq_true (by omega)] at hintegral
      exact hintegral rfl
    have hwhole : p.whole < 2 ^ 53 := by
      rw [Parts.whole, if_pos hneg, Nat.shiftRight_eq_div_pow]
      exact (Nat.div_le_self _ _).trans_lt (fitting_of_shape h).mantissa_lt
    simp only [hintegral, Parts.truncate, signed]
    cases p.negative with
    | false => exact worth_ofNat hwhole
    | true => exact worth_neg_ofNat hwhole

/-! ### Cut off at bounds -/

section Bounds

variable {x y : Float}

theorem toNat64_of_lt_zero (h : x < 0.0) : toNat64 x = 0 := by
  rw [toNat64, clampInt]
  rcases lt_zero_iff.mp h with hshape | ⟨p, hshape, hsize⟩
  · rw [hshape]
    rfl
  · have htruncate : p.truncate ≤ 0 := by
      rw [Parts.truncate]
      rw [Parts.signedSize] at hsize
      split at hsize
      · rw [if_pos ‹_›]
        omega
      · omega
    simp only [hshape]
    omega

/-- Below zero there is nothing to take away. -/
theorem toNat64_greater_zero (x : Float) : toNat64 (greater x 0.0) = toNat64 x := by
  have hzero : toNat64 0.0 = 0 := worth_zero.toNat64
  rw [greater]
  split
  · rename_i hnan
    rw [hzero, toNat64, clampInt, isNaN_iff.mp hnan]
    rfl
  · rw [worth_zero.isNaN, if_neg Bool.false_ne_true]
    split
    · rename_i hneg
      rw [hzero, toNat64_of_lt_zero hneg]
    · rfl

theorem toNat64_le_of_not_lt {n : Nat} (hy : Worth y n) (hx : x.isNaN = false) (h : ¬ y < x) :
    toNat64 x ≤ n := by
  rw [toNat64, clampInt]
  cases hshape : shape x with
  | nan => rw [isNaN_iff.mpr hshape] at hx; cases hx
  | infinite negative =>
    cases negative with
    | false =>
      obtain ⟨q, hq, -⟩ := hy
      exact absurd (lt_infinite hq hshape) h
    | true => exact Nat.zero_le n
  | finite p =>
    obtain ⟨q, hq, hqsize⟩ := hy
    rw [lt_iff hq hshape, hqsize, not_lt] at h
    have htruncate : p.truncate ≤ n := by
      rw [Parts.truncate]
      split
      · omega
      · rename_i hpositive
        rw [Parts.signedSize, if_neg hpositive, ← Nat.cast_mul, Nat.cast_le] at h
        rw [whole_eq (fitting_of_shape hshape).le_exponent, Nat.cast_le]
        exact Nat.div_le_of_le_mul (Nat.mul_comm n _ ▸ h)
    simp only
    omega

theorem toNat64_lesser_le {n : Nat} (hy : Worth y n) (x : Float) : toNat64 (lesser x y) ≤ n := by
  have hbound : toNat64 y ≤ n := by
    rw [hy.toNat64]
    omega
  rw [lesser]
  split
  · exact hbound
  · rename_i hnan
    rw [hy.isNaN, if_neg Bool.false_ne_true]
    split
    · exact hbound
    · rename_i hle
      exact toNat64_le_of_not_lt hy (Bool.eq_false_iff.mpr hnan) hle

end Bounds

/-! ### Rounded down to a natural number -/

/-- The greatest natural number that is not above the number, or zero if there is none. -/
def natFloor (x : Float) : Nat :=
  match shape x with
  | .finite p => p.truncate.toNat
  | _ => 0

section Floor

variable {x : Float}

theorem natFloor_of_finite {p : Parts} (h : shape x = .finite p) :
    natFloor x = p.truncate.toNat := by
  rw [natFloor, h]

/-- It is the number rounded down, unless that is below zero. -/
theorem worth_floor {p : Parts} (h : shape x = .finite p) (hpos : ¬ x < 0.0) :
    Worth (floor x) (natFloor x) := by
  have htrunc := worth_trunc h
  rw [natFloor_of_finite h]
  cases hneg : p.negative with
  | false =>
    have hfloor : floor x = trunc x := by
      simp only [floor, trunc, h, hneg, Bool.false_eq_true, if_false]
    have htruncate : p.truncate = p.whole := by
      rw [Parts.truncate, hneg, if_neg Bool.false_ne_true]
    rwa [hfloor, htruncate, Int.toNat_natCast, ← htruncate]
  | true =>
    -- only zero has this sign and is not below zero
    have hzero : p.signedSize = 0 := by
      rw [lt_iff h shape_zero, signedSize_eq_zero (p := ⟨false, 0, -1074⟩) rfl,
        signedSize_of_negative hneg] at hpos
      rw [signedSize_of_negative hneg]
      omega
    have hx : Worth x 0 := (worth_iff_signedSize h).mpr (hzero.trans (zero_mul _).symm)
    obtain ⟨hintegral, htruncate⟩ := (worth_iff h).mp hx
    have hfloor : floor x = x := by
      simp only [floor, h, hintegral, if_true]
    rwa [hfloor, htruncate]

theorem toNat64_eq_natFloor (h : x.isInf = false) :
    toNat64 x = min (2 ^ 64 - 1) (natFloor x) := by
  rw [toNat64, clampInt, natFloor, Nat.pow_eq]
  cases hx : shape x with
  | infinite negative => rw [isInf_iff.mpr ⟨negative, hx⟩] at h; cases h
  | nan => rfl
  | finite p =>
    simp only
    omega

theorem natFloor_of_le_zero (h : x ≤ 0.0) : natFloor x = 0 := by
  cases hx : shape x with
  | finite p =>
    rw [le_iff hx shape_zero, signedSize_eq_zero (p := ⟨false, 0, -1074⟩) rfl,
      Parts.signedSize] at h
    rw [natFloor_of_finite hx, Parts.truncate]
    split
    · omega
    · rename_i hpositive
      rw [if_neg hpositive] at h
      have hsize : p.size = 0 := by omega
      rw [whole_eq (fitting_of_shape hx).le_exponent, hsize, Nat.zero_div]
      rfl
  | _ => rw [natFloor, hx]

/-- What is not above a natural number of at most 53 bits is rounded down to one that is not. -/
theorem natFloor_le {n : Nat} (hn : n < 2 ^ 53) (h : ¬ Float.ofNat n < x) : natFloor x ≤ n := by
  cases hx : shape x with
  | finite p =>
    have hle := toNat64_le_of_not_lt (worth_ofNat hn) (isNaN_eq_false (hx ▸ nofun)) h
    rw [toNat64_eq_natFloor (isInf_eq_false hx)] at hle
    omega
  | _ =>
    rw [natFloor, hx]
    exact Nat.zero_le n

end Floor

end BrowserLab.Number
