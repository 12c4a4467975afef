import BrowserLab.Proofs.Number.Units

/-!
# Sums of integers

The sum of two integers is exact where it has at most 53 bits (`Worth.add`), and rounding never
takes its sign from a negative one (`Worth.add_lt_zero`).

* `round_of_exact`: what can be written with a normal mantissa is rounded to itself.
* `round_normal`: what is not too small is rounded to a number with a normal mantissa.
-/

namespace BrowserLab.Number

open Float.Model Float.Model.UnpackedFloat

/-! ### Rounding -/

theorem log2_mul_two_pow {m : Nat} (hm : 0 < m) (k : Nat) : (m * 2 ^ k).log2 = m.log2 + k := by
  have hbounds := (Nat.log2_eq_iff (n := m) hm.ne').mp rfl
  have hpos : 0 < 2 ^ k := Nat.two_pow_pos k
  rw [Nat.log2_eq_iff (Nat.mul_pos hm hpos).ne', Nat.pow_add, Nat.add_right_comm, Nat.pow_add]
  exact ⟨Nat.mul_le_mul_right _ hbounds.1, Nat.mul_lt_mul_of_pos_right hbounds.2 hpos⟩

theorem targetExponent_eq {m : Nat} {e : Int} (h : -1022 ≤ (m.log2 : Int) + e) :
    Format.binary64.targetExponent (totalExponent m e) = m.log2 + e - 52 := by
  have hbits : (Format.binary64.mantissaBits : Int) = 53 := rfl
  have hmin : Format.binary64.minExponent = -1074 := rfl
  rw [Format.targetExponent, totalExponent, hbits, hmin]
  omega

theorem mantissa_shiftRight (em : ExtendedMantissa) (k : Nat) :
    (em >>> k).mantissa = em.mantissa / 2 ^ k := by
  show (Nat.repeat ExtendedMantissa.shiftRightOne k em).mantissa = _
  induction k with
  | zero => simp [Nat.repeat]
  | succ k ih =>
    rw [Nat.repeat, ExtendedMantissa.shiftRightOne, ih, Nat.div_div_eq_div_mul, Nat.pow_succ]

theorem roundedMantissa_bounds (em : ExtendedMantissa) :
    em.mantissa ≤ em.roundedMantissa ∧ em.roundedMantissa ≤ em.mantissa + 1 := by
  have hparity := Nat.mod_lt em.mantissa two_pos
  rw [ExtendedMantissa.roundedMantissa]
  rcases em.accuracy with _ | (_ | _ | _) <;> simp only [Accuracy.roundToNearestEven] <;> omega

section Round

variable {m : Nat} {e : Int}

/-- Where the exponent is too great, bits are added. -/
theorem round_of_le (sign : Sign) (h : -1022 ≤ (m.log2 : Int) + e)
    (hbits : m.log2 ≤ 52) :
    UnpackedFloat.round .binary64 sign m e =
      roundWithAccuracy .binary64 sign (m * 2 ^ (52 - m.log2)) (m.log2 + e - 52) .exact := by
  have hshift : (e - ((m.log2 : Int) + e - 52)).toNat = 52 - m.log2 := by omega
  rw [UnpackedFloat.round, targetExponent_eq h]
  simp only [decreaseExponent, hshift, Nat.shiftLeft_eq]
  congr 1
  omega

/-- Where it is too small, none are. -/
theorem round_of_ge (sign : Sign) (h : -1022 ≤ (m.log2 : Int) + e) (hbits : 52 ≤ m.log2) :
    UnpackedFloat.round .binary64 sign m e = roundWithAccuracy .binary64 sign m e .exact := by
  have hshift : (e - ((m.log2 : Int) + e - 52)).toNat = 0 := by omega
  rw [UnpackedFloat.round, targetExponent_eq h]
  simp only [decreaseExponent, hshift, Nat.shiftLeft_zero]
  congr 1
  omega

/-- What can be written with a normal mantissa is rounded to itself. -/
theorem round_of_exact (sign : Sign) {m' : Nat} {e' : Int} (hlow : 2 ^ 52 ≤ m')
    (hhigh : m' < 2 ^ 53) (he : -1074 ≤ e) (he' : -1074 ≤ e')
    (h : m * 2 ^ (e + 1074).toNat = m' * 2 ^ (e' + 1074).toNat) :
    UnpackedFloat.round .binary64 sign m e = .finite sign m' e' (by omega) := by
  have hlog := log2_of_normal hlow hhigh
  rcases le_total e e' with hle | hle
  · obtain ⟨k, hk⟩ : ∃ k : Nat, (k : Int) = e' - e := ⟨(e' - e).toNat, by omega⟩
    have hexponent : (e' + 1074).toNat = k + (e + 1074).toNat := by omega
    obtain rfl : e = e' - k := by omega
    rw [hexponent, Nat.pow_add, ← Nat.mul_assoc] at h
    obtain rfl := Nat.eq_of_mul_eq_mul_right (Nat.two_pow_pos _) h
    have hlog' := log2_mul_two_pow (Nat.lt_of_lt_of_le (Nat.two_pow_pos 52) hlow) k
    rw [round_of_ge sign (by omega) (by omega)]
    exact roundWithAccuracy_normal hlow hhigh he' sign k
  · obtain ⟨k, hk⟩ : ∃ k : Nat, (k : Int) = e - e' := ⟨(e - e').toNat, by omega⟩
    have hexponent : (e + 1074).toNat = k + (e' + 1074).toNat := by omega
    rw [hexponent, Nat.pow_add, ← Nat.mul_assoc] at h
    obtain rfl := Nat.eq_of_mul_eq_mul_right (Nat.two_pow_pos _) h
    have hm : 0 < m := Nat.pos_of_ne_zero fun hm => by simp [hm] at hlow
    rw [log2_mul_two_pow hm] at hlog
    obtain rfl : k = 52 - m.log2 := by omega
    have hexponent' : (m.log2 : Int) + e - 52 = e' - (0 : Nat) := by omega
    rw [round_of_le sign (by omega) (by omega), hexponent']
    simpa using roundWithAccuracy_normal hlow hhigh he' sign 0

/-- Of a mantissa with more bits the first 53 are kept. -/
theorem div_normal {k : Nat} (hk : m.log2 = 52 + k) : 2 ^ 52 ≤ m / 2 ^ k ∧ m / 2 ^ k < 2 ^ 53 := by
  have hm : m ≠ 0 := by
    rintro rfl
    rw [Nat.log2_zero] at hk
    omega
  obtain ⟨hlow, hhigh⟩ := (Nat.log2_eq_iff hm).mp hk
  rw [Nat.le_div_iff_mul_le (Nat.two_pow_pos k), Nat.div_lt_iff_lt_mul (Nat.two_pow_pos k),
    ← Nat.pow_add, ← Nat.pow_add, show 53 + k = 52 + k + 1 by omega]
  exact ⟨hlow, hhigh⟩

/-- Rounded up, a normal mantissa can come to have one bit more, and that bit is taken away. -/
theorem shiftToTargetExponent_rounded {r : Nat} (hlow : 2 ^ 52 ≤ r) (hhigh : r ≤ 2 ^ 53)
    (he : -1074 ≤ e) :
    ∃ m' e', shiftToTargetExponent .binary64 r e .exact = (⟨m', false, false⟩, e') ∧
      2 ^ 52 ≤ m' ∧ m' < 2 ^ 53 ∧ -1074 ≤ e' := by
  rcases Nat.lt_or_eq_of_le hhigh with hlt | rfl
  · have hshift := shiftToTargetExponent_normal hlow hlt he 0
    exact ⟨r, e, by simpa using hshift, hlow, hlt, he⟩
  · have hshift := shiftToTargetExponent_normal (Nat.le_refl (2 ^ 52)) (by decide)
      (show -1074 ≤ e + 1 by omega) 1
    rw [Nat.cast_one, add_sub_cancel_right] at hshift
    exact ⟨2 ^ 52, e + 1, hshift, le_rfl, by decide, by omega⟩

/-- A mantissa with more bits is cut off, rounded, and shifted once more if rounding adds a bit. -/
theorem roundWithAccuracy_of_ge (sign : Sign) (h : -1022 ≤ (m.log2 : Int) + e)
    (hbits : 52 ≤ m.log2) :
    ∃ m' e' hpos, roundWithAccuracy .binary64 sign m e .exact = .finite sign m' e' hpos ∧
      2 ^ 52 ≤ m' ∧ m' < 2 ^ 53 ∧ -1074 ≤ e' := by
  obtain ⟨k, hk⟩ : ∃ k, m.log2 = 52 + k := ⟨m.log2 - 52, by omega⟩
  have hshift : ((m.log2 : Int) + e - 52 - e).toNat = k := by omega
  have hfirst : shiftToTargetExponent .binary64 m e .exact =
      ((⟨m, false, false⟩ : ExtendedMantissa) >>> k, e + k) := by
    rw [shiftToTargetExponent, targetExponent_eq h, shiftToExponent, hshift]
    rfl
  obtain ⟨hlow, hhigh⟩ := div_normal hk
  have hrounded := roundedMantissa_bounds ((⟨m, false, false⟩ : ExtendedMantissa) >>> k)
  rw [mantissa_shiftRight] at hrounded
  obtain ⟨hdown, hup⟩ := hrounded
  obtain ⟨m', e', hsecond, hlow', hhigh', he'⟩ :=
    shiftToTargetExponent_rounded (hlow.trans hdown) (hup.trans hhigh)
      (show -1074 ≤ e + k by omega)
  have hm' : m' ≠ 0 := by omega
  refine ⟨m', e', Nat.pos_of_ne_zero hm', ?_, hlow', hhigh', he'⟩
  rw [roundWithAccuracy, hfirst]
  simp only [hsecond]
  exact dif_neg hm'

/-- What is not too small is rounded to a number with a normal mantissa. -/
theorem round_normal (sign : Sign) (hm : 0 < m) (h : -1022 ≤ (m.log2 : Int) + e) :
    ∃ m' e' hpos, UnpackedFloat.round .binary64 sign m e = .finite sign m' e' hpos ∧
      2 ^ 52 ≤ m' ∧ m' < 2 ^ 53 ∧ -1074 ≤ e' := by
  rcases Nat.lt_or_ge m.log2 53 with hbits | hbits
  · obtain ⟨hlow, hhigh⟩ := mantissa_normal hm ((Nat.log2_lt hm.ne').mp hbits)
    have hexponent : -1074 ≤ (m.log2 : Int) + e - 52 := by omega
    refine ⟨_, _, by omega, ?_, hlow, hhigh, hexponent⟩
    rw [round_of_le sign h (by omega)]
    simpa using roundWithAccuracy_normal hlow hhigh hexponent sign 0
  · rw [round_of_ge sign h (by omega)]
    exact roundWithAccuracy_of_ge sign h (by omega)

end Round

/-! ### Packing -/

theorem unpack_pack_zero (sign : Sign) : (Float.Model.pack (.zero sign)).unpack = .zero sign :=
  unpack_packedZero

theorem unpack_pack_infinity (sign : Sign) :
    (Float.Model.pack (.infinity sign)).unpack = .infinity sign := by
  show UnpackedFloat.unpack .binary64 (packedInfinity .binary64 sign) = _
  simp [UnpackedFloat.unpack, packedInfinity]

/-- Beyond the greatest exponent numbers are infinite. -/
theorem unpack_pack_large (sign : Sign) {m : Nat} {e : Int} (hpos : 0 < m) (h : 971 < e) :
    (Float.Model.pack (.finite sign m e hpos)).unpack = .infinity sign := by
  have hbias : ((Format.binary64.exponentBias : Nat) : Int) = 1023 := rfl
  have hbits : ((Format.binary64.mantissaBitsWithoutImplicit : Nat) : Int) = 52 := rfl
  have hpack : UnpackedFloat.pack .binary64 (.finite sign m e hpos) =
      packedInfinity .binary64 sign := by
    rw [UnpackedFloat.pack, hbias, hbits]
    exact if_pos (show 2 ^ 11 ≤ (e + 1023 + 52).toNat + 1 by omega)
  show UnpackedFloat.unpack .binary64 (UnpackedFloat.pack .binary64 _) = _
  rw [hpack]
  exact unpack_pack_infinity sign

/-! ### Totals -/

section Totals

variable {x : Float} {m : Nat} {e : Int}

theorem size_wholeParts {n : Nat} (hpos : 0 < n) (hlt : n < 2 ^ 53) (negative : Bool) :
    (wholeParts negative n).size = n * unitsOfOne := by
  have hexponent : -1074 ≤ (wholeParts negative n).exponent := by
    show -1074 ≤ (n.log2 : Int) - 52
    omega
  have hwhole := whole_eq hexponent
  rw [whole_wholeParts hpos hlt] at hwhole
  have hdvd := (integral_iff hexponent).mp (integral_wholeParts hpos hlt negative)
  exact (Nat.div_mul_cancel hdvd).symm.trans (congrArg (· * unitsOfOne) hwhole.symm)

/-- A total that is an integer of at most 53 bits is rounded to it. -/
theorem worth_round {n : Nat} (hpos : 0 < n) (hlt : n < 2 ^ 53) (he : -1074 ≤ e)
    (htotal : m * 2 ^ (e + 1074).toNat = n * unitsOfOne) (sign : Sign)
    (hx : x.toModel.unpack = (Float.Model.pack (.round .binary64 sign m e)).unpack) :
    Worth x (sign.apply n) := by
  have hlog := log2_le_of_lt hpos hlt
  obtain ⟨hlow, hhigh⟩ := mantissa_normal hpos hlt
  have hexponent : -1074 ≤ (n.log2 : Int) - 52 := by omega
  rw [← size_wholeParts hpos hlt (sign == .negative)] at htotal
  have hround := round_of_exact sign hlow hhigh he hexponent htotal
  rw [hround, unpack_pack sign _ hlow hhigh hexponent (by omega)] at hx
  have hshape : shape x = .finite (wholeParts (sign == .negative) n) := by
    rw [shape_eq, hx]
    rfl
  refine (worth_iff hshape).mpr ⟨integral_wholeParts hpos hlt _, ?_⟩
  rw [truncate_wholeParts hpos hlt]
  cases sign <;> rfl

/-- A total below zero that is not too small is rounded to a number below zero. -/
theorem round_lt_zero (hm : 0 < m) (h : -1022 ≤ (m.log2 : Int) + e)
    (hx : x.toModel.unpack = (Float.Model.pack (.round .binary64 .negative m e)).unpack) :
    x < 0.0 := by
  obtain ⟨m', e', hpos, hround, hlow, hhigh, hexponent⟩ := round_normal .negative hm h
  rw [hround] at hx
  rw [lt_zero_iff, shape_eq, hx]
  rcases le_or_gt e' 971 with hle | hlt
  · rw [unpack_pack .negative hpos hlow hhigh hexponent hle]
    refine .inr ⟨_, rfl, ?_⟩
    have hsize := size_pos (p := ⟨true, m', e'⟩) hpos
    rw [signedSize_of_negative rfl]
    exact Int.neg_neg_of_pos (Int.natCast_pos.mpr hsize)
  · rw [unpack_pack_large .negative hpos hlt]
    exact .inl rfl

end Totals

/-! ### Sums -/

theorem unpack_add (x y : Float) : (x + y).toModel.unpack =
    (Float.Model.pack (.add .binary64 x.toModel.unpack y.toModel.unpack)).unpack :=
  rfl

theorem unpack_pack_unpack (x : Float) :
    (Float.Model.pack x.toModel.unpack).unpack = x.toModel.unpack :=
  congrArg (UnpackedFloat.unpack .binary64) (pack_unpack_of_valid x.toModel.valid)

theorem signedSize_finite (sign : Sign) (m : Nat) (e : Int) :
    (⟨sign == .negative, m, e⟩ : Parts).signedSize =
      sign.apply (m * 2 ^ (e + 1074).toNat : Nat) := by
  cases sign <;> rfl

theorem apply_mul (sign : Sign) (a c : Int) : sign.apply a * c = sign.apply (a * c) := by
  cases sign
  · exact neg_mul a c
  · rfl

/-- The units of a sum, before it is rounded. -/
theorem add_finite (s t : Sign) {m n : Nat} {e f : Int} (hm : 0 < m) (hn : 0 < n)
    (he : -1074 ≤ e) (hf : -1074 ≤ f) :
    ∃ total, UnpackedFloat.add .binary64 (.finite s m e hm) (.finite t n f hn) =
        normalize .binary64 total (min e f) .positive ∧
      total * 2 ^ (min e f + 1074).toNat =
        (⟨s == .negative, m, e⟩ : Parts).signedSize +
          (⟨t == .negative, n, f⟩ : Parts).signedSize := by
  refine ⟨_, rfl, ?_⟩
  have hleft : (e + 1074).toNat = (e - min e f).toNat + (min e f + 1074).toNat := by omega
  have hright : (f + 1074).toNat = (f - min e f).toNat + (min e f + 1074).toNat := by omega
  simp only [Nat.shiftLeft_eq, signedSize_finite]
  rw [add_mul, apply_mul, apply_mul, hleft, hright]
  push_cast
  ring_nf

section Worth

variable {x y : Float} {i j : Int} {sign : Sign}

theorem worth_of_unpack (hx : Worth x i) (h : y.toModel.unpack = x.toModel.unpack) : Worth y i := by
  obtain ⟨p, hp, hsize⟩ := hx
  rw [shape_eq, ← h, ← shape_eq] at hp
  exact ⟨p, hp, hsize⟩

theorem worth_of_unpack_zero (h : x.toModel.unpack = .zero sign) : Worth x 0 := by
  refine ⟨_, (shape_eq x).trans (congrArg shapeOf h), ?_⟩
  rw [signedSize_eq_zero rfl, zero_mul]

/-- An integer is zero, or it has a mantissa. -/
theorem Worth.unpack_cases (hx : Worth x i) :
    (i = 0 ∧ ∃ sign, x.toModel.unpack = .zero sign) ∨
      ∃ sign m e hm, x.toModel.unpack = .finite sign m e hm ∧ -1074 ≤ e ∧
        (⟨sign == .negative, m, e⟩ : Parts).signedSize = i * unitsOfOne := by
  obtain ⟨p, hp, hsize⟩ := id hx
  have hexponent := (fitting_of_shape hp).le_exponent
  rw [shape_eq] at hp
  cases hu : x.toModel.unpack with
  | zero sign => exact .inl ⟨hx.unique (worth_of_unpack_zero hu), sign, rfl⟩
  | finite sign m e hm =>
    rw [hu] at hp
    cases hp
    exact .inr ⟨sign, m, e, hm, rfl, hexponent, hsize⟩
  | _ =>
    rw [hu] at hp
    cases hp

/-- What is packed is worth what it was before. -/
theorem worth_of_pack {u : UnpackedFloat} (hx : Worth x i) (hu : x.toModel.unpack = u)
    (h : y.toModel.unpack = (Float.Model.pack u).unpack) : Worth y i := by
  rw [← hu, unpack_pack_unpack] at h
  exact worth_of_unpack hx h

theorem worth_zero_add (hx : x.toModel.unpack = .zero sign) (hy : Worth y j) : Worth (x + y) j := by
  have hsum := unpack_add x y
  rcases hy.unpack_cases with ⟨rfl, sign', hy'⟩ | ⟨sign', m, e, hm, hy', -, -⟩
  · rw [hx, hy', UnpackedFloat.add] at hsum
    split at hsum <;> exact worth_of_unpack_zero (hsum.trans (unpack_pack_zero _))
  · rw [hx, hy'] at hsum
    exact worth_of_pack hy hy' hsum

theorem worth_add_zero (hx : Worth x i) (hy : y.toModel.unpack = .zero sign) : Worth (x + y) i := by
  have hsum := unpack_add x y
  rcases hx.unpack_cases with ⟨rfl, sign', hx'⟩ | ⟨sign', m, e, hm, hx', -, -⟩
  · rw [hx', hy, UnpackedFloat.add] at hsum
    split at hsum <;> exact worth_of_unpack_zero (hsum.trans (unpack_pack_zero _))
  · rw [hx', hy] at hsum
    exact worth_of_pack hx hx' hsum

/-- Beside zero there is nothing to add; otherwise a total is rounded. -/
theorem Worth.add_cases (hx : Worth x i) (hy : Worth y j) :
    Worth (x + y) (i + j) ∨
      ∃ total e, -1074 ≤ e ∧ total * 2 ^ (e + 1074).toNat = (i + j) * unitsOfOne ∧
        (x + y).toModel.unpack =
          (Float.Model.pack (normalize .binary64 total e .positive)).unpack := by
  rcases hx.unpack_cases with ⟨rfl, s, hu⟩ | ⟨s, m, e, hm, hu, he, hsize⟩
  · rw [zero_add]
    exact .inl (worth_zero_add hu hy)
  · rcases hy.unpack_cases with ⟨rfl, t, hv⟩ | ⟨t, n, f, hn, hv, hf, hsize'⟩
    · rw [add_zero]
      exact .inl (worth_add_zero hx hv)
    · obtain ⟨total, hadd, htotal⟩ := add_finite s t hm hn he hf
      refine .inr ⟨total, min e f, le_min he hf, ?_, ?_⟩
      · rw [htotal, hsize, hsize', add_mul]
      · rw [unpack_add, hu, hv, hadd]

theorem normalize_of_pos {total e : Int} (h : 0 < total) :
    normalize .binary64 total e .positive = .round .binary64 .positive total.natAbs e := by
  rw [UnpackedFloat.normalize, compare_gt_iff_gt.mpr h]
  simp only
  congr 1
  omega

theorem normalize_of_neg {total e : Int} (h : total < 0) :
    normalize .binary64 total e .positive = .round .binary64 .negative total.natAbs e := by
  rw [UnpackedFloat.normalize, compare_lt_iff_lt.mpr h]
  simp only
  congr 1
  omega

/-- A total has the sign of the integer that it is. -/
theorem total_pos {total e k : Int} (htotal : total * 2 ^ (e + 1074).toNat = k * unitsOfOne)
    (h : 0 < k) : 0 < total := by
  have hpos : 0 < total * 2 ^ (e + 1074).toNat :=
    htotal ▸ mul_pos h (Int.natCast_pos.mpr unitsOfOne_pos)
  exact (mul_pos_iff_of_pos_right (pow_pos two_pos _)).mp hpos

theorem total_neg {total e k : Int} (htotal : total * 2 ^ (e + 1074).toNat = k * unitsOfOne)
    (h : k < 0) : total < 0 := by
  rw [← neg_inj, ← neg_mul, ← neg_mul] at htotal
  exact neg_pos.mp (total_pos htotal (neg_pos.mpr h))

theorem natAbs_total {total e k : Int} (htotal : total * 2 ^ (e + 1074).toNat = k * unitsOfOne) :
    total.natAbs * 2 ^ (e + 1074).toNat = k.natAbs * unitsOfOne := by
  have h := congrArg Int.natAbs htotal
  rwa [Int.natAbs_mul, Int.natAbs_mul, Int.natAbs_pow] at h

/-- A total that is an integer is not too small. -/
theorem le_log2_of_total {m n : Nat} {e : Int} (he : -1074 ≤ e) (hn : 0 < n)
    (htotal : m * 2 ^ (e + 1074).toNat = n * unitsOfOne) : -1022 ≤ (m.log2 : Int) + e := by
  have hlt : unitsOfOne < 2 ^ (m.log2 + 1 + (e + 1074).toNat) := calc
    unitsOfOne ≤ n * unitsOfOne := Nat.le_mul_of_pos_left _ hn
    _ = m * 2 ^ (e + 1074).toNat := htotal.symm
    _ < 2 ^ (m.log2 + 1) * 2 ^ (e + 1074).toNat :=
      Nat.mul_lt_mul_of_pos_right Nat.lt_log2_self (Nat.two_pow_pos _)
    _ = 2 ^ (m.log2 + 1 + (e + 1074).toNat) := (pow_add 2 _ _).symm
  have hexponent := (Nat.pow_lt_pow_iff_right Nat.one_lt_two).mp hlt
  omega

/-- A sum of at most 53 bits is exact. -/
theorem Worth.add (hx : Worth x i) (hy : Worth y j) (hbits : (i + j).natAbs < 2 ^ 53) :
    Worth (x + y) (i + j) := by
  rcases hx.add_cases hy with hsum | ⟨total, e, he, htotal, hsum⟩
  · exact hsum
  · generalize i + j = k at hbits htotal
    have habs := natAbs_total htotal
    rcases lt_trichotomy k 0 with h | rfl | h
    · rw [normalize_of_neg (total_neg htotal h)] at hsum
      have hworth := worth_round (Int.natAbs_pos.mpr h.ne) hbits he habs .negative hsum
      rwa [show Sign.negative.apply k.natAbs = k by show -(k.natAbs : Int) = k; omega] at hworth
    · obtain rfl : total = 0 := by
        rw [zero_mul] at htotal
        exact (mul_eq_zero.mp htotal).resolve_right (pow_ne_zero _ two_ne_zero)
      exact worth_of_unpack_zero (hsum.trans (unpack_pack_zero _))
    · rw [normalize_of_pos (total_pos htotal h)] at hsum
      have hworth := worth_round (Int.natAbs_pos.mpr h.ne') hbits he habs .positive hsum
      rwa [show Sign.positive.apply k.natAbs = k by show (k.natAbs : Int) = k; omega] at hworth

/-- A sum below zero is rounded to a number below zero. -/
theorem Worth.add_lt_zero (hx : Worth x i) (hy : Worth y j) (h : i + j < 0) : x + y < 0.0 := by
  rcases hx.add_cases hy with hsum | ⟨total, e, he, htotal, hsum⟩
  · exact (hsum.lt_iff worth_zero).mpr h
  · generalize i + j = k at h htotal
    have hneg := total_neg htotal h
    rw [normalize_of_neg hneg] at hsum
    exact round_lt_zero (Int.natAbs_pos.mpr hneg.ne)
      (le_log2_of_total he (Int.natAbs_pos.mpr h.ne) (natAbs_total htotal)) hsum

/-- Nothing finite comes up against what is infinite. -/
theorem Worth.add_infinite (hx : Worth x i) (hy : shape y = .infinite true) : x + y < 0.0 := by
  have hsum := unpack_add x y
  rw [unpack_of_infinite hy, if_pos rfl] at hsum
  have hinfinite : (x + y).toModel.unpack = .infinity .negative := by
    rcases hx.unpack_cases with ⟨-, s, hu⟩ | ⟨s, m, e, hm, hu, -, -⟩
    · rw [hu] at hsum
      exact hsum.trans (unpack_pack_infinity _)
    · rw [hu] at hsum
      exact hsum.trans (unpack_pack_infinity _)
  rw [lt_zero_iff, shape_eq, hinfinite]
  exact .inl rfl

end Worth

end BrowserLab.Number
