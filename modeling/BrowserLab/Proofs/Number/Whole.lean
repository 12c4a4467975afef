import BrowserLab.Json.Basic
import BrowserLab.Proofs.Number.Unpacked

/-!
# Whole numbers

A natural number below `2 ^ 53` is read exactly (`shape_nearest`), and so is its negative
(`shape_neg_nearest`).  As JSON, such numbers are the integers they were read from, as long as
integers are written for them.
-/

namespace BrowserLab.Number

open Float.Model Float.Model.UnpackedFloat

/-! ### Rounding what needs none -/

theorem shiftRight_exact (mantissa k : Nat) :
    (⟨mantissa * 2 ^ k, false, false⟩ : ExtendedMantissa) >>> k = ⟨mantissa, false, false⟩ := by
  show Nat.repeat ExtendedMantissa.shiftRightOne k _ = _
  induction k generalizing mantissa with
  | zero => simp [Nat.repeat]
  | succ k ih =>
    have hpow : mantissa * 2 ^ (k + 1) = mantissa * 2 * 2 ^ k := by
      rw [Nat.pow_succ, Nat.mul_assoc, Nat.mul_comm 2]
    rw [Nat.repeat, hpow, ih]
    simp [ExtendedMantissa.shiftRightOne]

section Normal

variable {mantissa : Nat} {exponent : Int} (hlow : 2 ^ 52 ≤ mantissa) (hhigh : mantissa < 2 ^ 53)
  (hexponent : -1074 ≤ exponent)

include hlow hhigh hexponent

theorem targetExponent_normal (k : Nat) :
    Format.binary64.targetExponent (totalExponent (mantissa * 2 ^ k) (exponent - k)) =
      exponent := by
  have hpos : 0 < 2 ^ k := Nat.two_pow_pos k
  have hlog : (mantissa * 2 ^ k).log2 = 52 + k := by
    rw [Nat.log2_eq_iff (Nat.mul_ne_zero (by omega) (Nat.ne_of_gt hpos))]
    constructor
    · rw [Nat.pow_add]
      exact Nat.mul_le_mul_right _ hlow
    · rw [show 52 + k + 1 = 53 + k by omega, Nat.pow_add]
      exact Nat.mul_lt_mul_of_pos_right hhigh hpos
  have hbits : (Format.binary64.mantissaBits : Int) = 53 := rfl
  have hmin : Format.binary64.minExponent = -1074 := rfl
  rw [Format.targetExponent, totalExponent, hlog, hbits, hmin]
  omega

theorem shiftToTargetExponent_normal (k : Nat) :
    shiftToTargetExponent .binary64 (mantissa * 2 ^ k) (exponent - k) .exact =
      (⟨mantissa, false, false⟩, exponent) := by
  have hshift : (exponent - (exponent - k)).toNat = k := by omega
  rw [shiftToTargetExponent, targetExponent_normal hlow hhigh hexponent, shiftToExponent]
  simp only [hshift, ExtendedMantissa.ofMantissaAndAccuracy, shiftRight_exact]
  rw [Int.sub_add_cancel]

theorem roundWithAccuracy_normal (sign : Sign) (k : Nat) :
    roundWithAccuracy .binary64 sign (mantissa * 2 ^ k) (exponent - k) .exact =
      .finite sign mantissa exponent (by omega) := by
  have hshift := shiftToTargetExponent_normal hlow hhigh hexponent
  have hagain : shiftToTargetExponent .binary64 mantissa exponent .exact =
      (⟨mantissa, false, false⟩, exponent) := by simpa using hshift 0
  rw [roundWithAccuracy, hshift]
  simp only [ExtendedMantissa.roundedMantissa, ExtendedMantissa.accuracy,
    Accuracy.roundToNearestEven, hagain]
  exact dif_neg (by omega)

end Normal

/-! ### Natural numbers -/

section Natural

variable {n : Nat} (hpos : 0 < n) (hlt : n < 2 ^ 53)

include hpos hlt

theorem log2_le_of_lt : n.log2 ≤ 52 := Nat.le_of_lt_succ ((Nat.log2_lt (by omega)).mpr hlt)

/-- Shifted until it is a mantissa, it is a normal one. -/
theorem mantissa_normal : 2 ^ 52 ≤ n * 2 ^ (52 - n.log2) ∧ n * 2 ^ (52 - n.log2) < 2 ^ 53 := by
  have hlog := log2_le_of_lt hpos hlt
  have hbounds := (Nat.log2_eq_iff (n := n) (by omega)).mp rfl
  have hlow : 2 ^ 52 = 2 ^ n.log2 * 2 ^ (52 - n.log2) := by
    rw [← Nat.pow_add, Nat.add_sub_cancel' hlog]
  have hhigh : 2 ^ 53 = 2 ^ (n.log2 + 1) * 2 ^ (52 - n.log2) := by
    rw [← Nat.pow_add, show n.log2 + 1 + (52 - n.log2) = 53 by omega]
  constructor
  · rw [hlow]
    exact Nat.mul_le_mul_right _ hbounds.1
  · rw [hhigh]
    exact Nat.mul_lt_mul_of_pos_right hbounds.2 (Nat.two_pow_pos _)

theorem ofNat_whole : UnpackedFloat.ofNat .binary64 n =
    .finite .positive (n * 2 ^ (52 - n.log2)) ((n.log2 : Int) - 52) (by
      have := (mantissa_normal hpos hlt).1
      omega) := by
  have hlog := log2_le_of_lt hpos hlt
  obtain ⟨hlow, hhigh⟩ := mantissa_normal hpos hlt
  have hbits : (Format.binary64.mantissaBits : Int) = 53 := rfl
  have hmin : Format.binary64.minExponent = -1074 := rfl
  have htarget : Format.binary64.targetExponent (totalExponent n 0) = (n.log2 : Int) - 52 := by
    rw [Format.targetExponent, totalExponent, hbits, hmin]
    omega
  have hshift : (0 - ((n.log2 : Int) - 52)).toNat = 52 - n.log2 := by omega
  have hcompare : compare (n : Int) 0 = .gt := by
    rw [Int.compare_eq_gt]
    omega
  have hround := roundWithAccuracy_normal hlow hhigh (show -1074 ≤ (n.log2 : Int) - 52 by omega)
    .positive 0
  rw [UnpackedFloat.ofNat, UnpackedFloat.ofInt, UnpackedFloat.normalize, hcompare]
  simp only [UnpackedFloat.round, Int.toNat_natCast, htarget, decreaseExponent, hshift,
    Nat.shiftLeft_eq]
  have hexponent : (0 : Int) - ((52 - n.log2 : Nat) : Int) =
      (n.log2 : Int) - 52 - ((0 : Nat) : Int) := by
    omega
  rw [← hround, hexponent, Nat.pow_zero, Nat.mul_one]

theorem unpack_toFloat : (UInt64.ofNat n).toFloat.toModel.unpack =
    .finite .positive (n * 2 ^ (52 - n.log2)) ((n.log2 : Int) - 52) (by
      have := (mantissa_normal hpos hlt).1
      omega) := by
  have hlog := log2_le_of_lt hpos hlt
  obtain ⟨hlow, hhigh⟩ := mantissa_normal hpos hlt
  have hword : (UInt64.ofNat n).toNat = n := by
    rw [UInt64.toNat_ofNat', Nat.mod_eq_of_lt (by omega)]
  show (Float.Model.pack (UnpackedFloat.ofNat .binary64 (UInt64.ofNat n).toNat)).unpack = _
  rw [hword, ofNat_whole hpos hlt]
  exact unpack_pack .positive _ hlow hhigh (by omega) (by omega)

/-- Multiplied by one, a natural number stays what it is. -/
theorem unpack_ofScientific : (Float.ofScientific n false 0).toModel.unpack =
    .finite .positive (n * 2 ^ (52 - n.log2)) ((n.log2 : Int) - 52) (by
      have := (mantissa_normal hpos hlt).1
      omega) := by
  have hlog := log2_le_of_lt hpos hlt
  obtain ⟨hlow, hhigh⟩ := mantissa_normal hpos hlt
  have hone : (Float.ofBits 0x3FF0000000000000).toModel.unpack =
      .finite .positive (2 ^ 52) (-52) (by decide) := rfl
  have hproduct : Float.ofScientific n false 0 =
      (UInt64.ofNat n).toFloat * Float.ofBits 0x3FF0000000000000 := by
    rw [Float.ofScientific, dif_pos ⟨hlt, by decide⟩]
    rfl
  have hround := roundWithAccuracy_normal hlow hhigh (show -1074 ≤ (n.log2 : Int) - 52 by omega)
    .positive 52
  rw [hproduct]
  show (Float.Model.pack (UnpackedFloat.mul .binary64 (UInt64.ofNat n).toFloat.toModel.unpack
    (Float.ofBits 0x3FF0000000000000).toModel.unpack)).unpack = _
  rw [unpack_toFloat hpos hlt, hone, UnpackedFloat.mul]
  refine Eq.trans ?_ (unpack_pack .positive _ hlow hhigh (by omega) (by omega))
  exact congrArg (fun u => (Float.Model.pack u).unpack) hround

end Natural

theorem nearest_eq {n : Nat} (hpos : 0 < n) (hlt : n < 2 ^ 53) :
    nearest n 0 = Float.ofScientific n false 0 := by
  have hdigits : (digitChars n).length ≤ 16 :=
    (Nat.length_toDigits_le_iff (by decide) (by decide)).mpr (by omega)
  have hsize : ¬310 < ((digitChars n).length : Int) + 0 := by omega
  have hsize' : ¬((digitChars n).length : Int) + 0 < -330 := by omega
  rw [nearest, if_neg (by omega)]
  simp only
  rw [if_neg hsize, if_neg hsize']
  rfl

/-! ### Parts of whole numbers -/

/-- The parts of a whole number and its sign. -/
def wholeParts (negative : Bool) (n : Nat) : Parts :=
  ⟨negative, n * 2 ^ (52 - n.log2), (n.log2 : Int) - 52⟩

section Parts

variable {n : Nat} (hpos : 0 < n) (hlt : n < 2 ^ 53) (negative : Bool)

include hpos hlt

theorem shape_nearest : shape (nearest n 0) = .finite (wholeParts false n) := by
  rw [shape_eq, nearest_eq hpos hlt, unpack_ofScientific hpos hlt]
  rfl

theorem shape_neg_nearest : shape (-nearest n 0) = .finite (wholeParts true n) := by
  have hlog := log2_le_of_lt hpos hlt
  obtain ⟨hlow, hhigh⟩ := mantissa_normal hpos hlt
  have hneg : (-nearest n 0).toModel.unpack =
      .finite .negative (n * 2 ^ (52 - n.log2)) ((n.log2 : Int) - 52) (by omega) := by
    show (Float.Model.pack (nearest n 0).toModel.unpack.neg).unpack = _
    rw [nearest_eq hpos hlt, unpack_ofScientific hpos hlt]
    exact unpack_pack .negative _ hlow hhigh (by omega) (by omega)
  rw [shape_eq, hneg]
  rfl

theorem whole_wholeParts : (wholeParts negative n).whole = n := by
  have hlog := log2_le_of_lt hpos hlt
  rw [Parts.whole, wholeParts]
  by_cases h : (n.log2 : Int) - 52 < 0
  · have hshift : (-((n.log2 : Int) - 52)).toNat = 52 - n.log2 := by omega
    rw [if_pos h, hshift, Nat.shiftRight_eq_div_pow]
    exact Nat.mul_div_cancel n (Nat.two_pow_pos _)
  · have hlog' : n.log2 = 52 := by omega
    rw [if_neg h, hlog']
    simp

theorem integral_wholeParts : (wholeParts negative n).integral = true := by
  have hlog := log2_le_of_lt hpos hlt
  have hshift : (-((n.log2 : Int) - 52)).toNat = 52 - n.log2 := by omega
  rw [Parts.integral, wholeParts, hshift]
  simp

theorem truncate_wholeParts :
    (wholeParts negative n).truncate = if negative then -(n : Int) else n := by
  rw [Parts.truncate, whole_wholeParts hpos hlt]
  rfl

end Parts

/-! ### As JSON -/

theorem ofNumber_of_shape {x : Float} {n : Nat} {negative : Bool} (hpos : 0 < n)
    (hlt : n < 9 * 10 ^ 15) (h : shape x = .finite (wholeParts negative n)) :
    Json.ofNumber x = .int (if negative then -(n : Int) else n) := by
  have hlt' : n < 2 ^ 53 := by omega
  have hbelow : wholeBelow (9 * Nat.pow 10 15) x = true := by
    rw [wholeBelow, h]
    simp only [integral_wholeParts hpos hlt', whole_wholeParts hpos hlt', Bool.true_and,
      decide_eq_true_eq]
    exact hlt
  have hint : toInt64 x = if negative then -(n : Int) else n := by
    rw [toInt64, clampInt, h]
    simp only [truncate_wholeParts hpos hlt']
    cases negative <;> simp <;> omega
  rw [Json.ofNumber, hbelow, if_pos rfl, hint]

theorem ofNumber_zero : Json.ofNumber (nearest 0 0) = .int 0 := by
  have hshape : shape (nearest 0 0) = .finite ⟨false, 0, -1074⟩ := rfl
  have hwhole : (⟨false, 0, -1074⟩ : Parts).whole = 0 := Nat.zero_shiftRight _
  have hintegral : (⟨false, 0, -1074⟩ : Parts).integral = true := by
    rw [Parts.integral, Nat.zero_mod]
    rfl
  have hbelow : wholeBelow (9 * Nat.pow 10 15) (nearest 0 0) = true := by
    rw [wholeBelow, hshape]
    simp only [hintegral, hwhole, Bool.true_and, decide_eq_true_eq]
    decide
  have hint : toInt64 (nearest 0 0) = 0 := by
    rw [toInt64, clampInt, hshape]
    simp only [Parts.truncate, hwhole]
    decide
  rw [Json.ofNumber, hbelow, if_pos rfl, hint]

theorem ofNumber_nearest {n : Nat} (hlt : n < 9 * 10 ^ 15) :
    Json.ofNumber (nearest n 0) = .int n := by
  obtain rfl | hpos := Nat.eq_zero_or_pos n
  · exact ofNumber_zero
  · exact ofNumber_of_shape hpos hlt (shape_nearest hpos (by omega))

theorem ofNumber_neg_nearest {n : Nat} (hpos : 0 < n) (hlt : n < 9 * 10 ^ 15) :
    Json.ofNumber (-nearest n 0) = .int (-n) :=
  ofNumber_of_shape hpos hlt (shape_neg_nearest hpos (by omega))

end BrowserLab.Number
