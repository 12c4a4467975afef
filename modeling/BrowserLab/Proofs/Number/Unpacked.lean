import Mathlib
import BrowserLab.Number.Reader

/-!
# The parts of numbers that are computed

Arithmetic takes numbers apart, computes with the parts and packs the result.  `shape` reads the
same parts off the bits (`shape_eq`), and a normal number survives being packed (`unpack_pack`), so
that the parts of a result are those that have been computed.
-/

namespace BrowserLab.Number

open Float.Model Float.Model.UnpackedFloat

/-- The parts of a number that has been taken apart. -/
def shapeOf : UnpackedFloat → Shape
  | .infinity sign => .infinite (sign == .negative)
  | .notANumber => .nan
  | .zero sign => .finite ⟨sign == .negative, 0, -1074⟩
  | .finite sign mantissa exponent _ => .finite ⟨sign == .negative, mantissa, exponent⟩

/-! ### Fields of bits -/

section Fields

variable (b : BitVec Format.binary64.numBits)

theorem toNat_unpackMantissa : (unpackMantissa b).toNat = b.toNat % 2 ^ 52 := by
  simp [unpackMantissa]

theorem toNat_unpackExponent : (unpackExponent b).toNat = b.toNat / 2 ^ 52 % 2 ^ 11 := by
  simp [unpackExponent, Nat.shiftRight_eq_div_pow]

theorem unpackSign_eq_negative :
    (Sign.ofBitVec (unpackSign b) == .negative) = decide (b.toNat / 2 ^ 63 = 1) := by
  have hlt : b.toNat < 2 ^ 64 := b.isLt
  have hsign : (unpackSign b).toNat = b.toNat / 2 ^ 63 % 2 := by
    simp [unpackSign, Nat.shiftRight_eq_div_pow]
  have hzero : unpackSign b = 0#1 ↔ b.toNat / 2 ^ 63 % 2 = 0 := by
    rw [← hsign, ← BitVec.toNat_inj]
    rfl
  rw [Sign.ofBitVec]
  by_cases h : b.toNat / 2 ^ 63 % 2 = 0
  · rw [if_pos (hzero.mpr h), decide_eq_false (by omega)]
    rfl
  · rw [if_neg fun h' => h (hzero.mp h'), decide_eq_true (by omega)]
    rfl

end Fields

theorem toNat_one_append (v : BitVec 52) : (1#1 ++ v).toNat = 2 ^ 52 + v.toNat := by
  rw [BitVec.toNat_append, ← Nat.shiftLeft_add_eq_or_of_lt v.isLt]
  simp [Nat.shiftLeft_eq]

theorem bitVec_eq_iff {w n : Nat} (v : BitVec w) (h : n < 2 ^ w) :
    v = BitVec.ofNat w n ↔ v.toNat = n := by
  rw [← BitVec.toNat_inj, BitVec.toNat_ofNat, Nat.mod_eq_of_lt h]

/-- The shape of a number is that of its unpacked form. -/
theorem shape_eq (x : Float) : shape x = shapeOf x.toModel.unpack := by
  have hbits : x.toBits.toNat = x.toModel.toBits.toBitVec.toNat := rfl
  have hbias : ((Format.binary64.exponentBias : Nat) : Int) = 1023 := rfl
  have hall : (-1#_ : BitVec Format.binary64.exponentBits) = BitVec.ofNat 11 2047 := rfl
  rw [shape, hbits, Float.Model.unpack, UnpackedFloat.unpack]
  generalize x.toModel.toBits.toBitVec = b
  have hmantissa := toNat_unpackMantissa b
  have hexponent := toNat_unpackExponent b
  have hsign := unpackSign_eq_negative b
  simp only [Nat.pow_eq, ← hmantissa, ← hexponent, ← hsign, hall]
  have hinfinite : @unpackExponent Format.binary64 b = 2047#11 ↔ _ := bitVec_eq_iff _ (by decide)
  have hsubnormal : @unpackExponent Format.binary64 b = 0#11 ↔ _ := bitVec_eq_iff _ (by decide)
  have hzero : @unpackMantissa Format.binary64 b = 0#52 ↔ _ := bitVec_eq_iff _ (by decide)
  by_cases h : (@unpackExponent Format.binary64 b).toNat = 2047
  · rw [if_pos h, if_pos (hinfinite.mpr h)]
    by_cases h' : (@unpackMantissa Format.binary64 b).toNat = 0
    · rw [if_pos h', if_pos (hzero.mpr h')]
      rfl
    · rw [if_neg h', if_neg fun h => h' (hzero.mp h)]
      rfl
  · rw [if_neg h, if_neg fun h' => h (hinfinite.mp h')]
    by_cases h' : (@unpackExponent Format.binary64 b).toNat = 0
    · rw [if_pos h', if_pos (hsubnormal.mpr h')]
      by_cases h'' : (@unpackMantissa Format.binary64 b).toNat = 0
      · rw [dif_pos (hzero.mpr h''), h'']
        rfl
      · rw [dif_neg fun h => h'' (hzero.mp h), shapeOf, h', hbias]
        rfl
    · rw [if_neg h', if_neg fun h => h' (hsubnormal.mp h), shapeOf, toNat_one_append, hbias]
      rfl

/-! ### Packing -/

theorem log2_of_normal {mantissa : Nat} (hlow : 2 ^ 52 ≤ mantissa) (hhigh : mantissa < 2 ^ 53) :
    mantissa.log2 = 52 := by
  have hle : 52 ≤ mantissa.log2 := (Nat.le_log2 (by omega)).mpr hlow
  have hlt : mantissa.log2 < 53 := (Nat.log2_lt (by omega)).mpr hhigh
  omega

/-- A normal number is left as it is by packing. -/
theorem unpack_pack (sign : Sign) {mantissa : Nat} {exponent : Int} (hpos : 0 < mantissa)
    (hlow : 2 ^ 52 ≤ mantissa) (hhigh : mantissa < 2 ^ 53) (hexponent : -1074 ≤ exponent)
    (hexponent' : exponent ≤ 971) :
    (Float.Model.pack (.finite sign mantissa exponent hpos)).unpack =
      .finite sign mantissa exponent hpos := by
  have hbias : ((Format.binary64.exponentBias : Nat) : Int) = 1023 := rfl
  obtain ⟨biased, hbiased⟩ : ∃ biased : Nat, (biased : Int) = exponent + 1075 :=
    ⟨(exponent + 1075).toNat, by omega⟩
  have hlt : biased < 2047 := by omega
  have hpos' : 0 < biased := by omega
  have hpack : UnpackedFloat.pack .binary64 (.finite sign mantissa exponent hpos) =
      packComponents .binary64 sign (BitVec.ofNat 11 biased) (BitVec.ofNat 52 mantissa) := by
    have hsum : (exponent + (Format.binary64.exponentBias : Int) +
        (Format.binary64.mantissaBitsWithoutImplicit : Int)).toNat = biased := by
      rw [hbias]
      show (exponent + 1023 + 52).toNat = biased
      omega
    rw [UnpackedFloat.pack]
    simp only [log2_of_normal hlow hhigh, hsum]
    rw [if_neg (show ¬2 ^ 11 ≤ biased + 1 by omega),
      if_pos (show 52 + 1 = Format.binary64.mantissaBits from rfl)]
  have hexponentField : (BitVec.ofNat 11 biased).toNat = biased := by
    rw [BitVec.toNat_ofNat, Nat.mod_eq_of_lt (by omega)]
  have hmantissaField : (1#1 ++ BitVec.ofNat 52 mantissa).toNat = mantissa := by
    rw [toNat_one_append, BitVec.toNat_ofNat]
    omega
  have hfinite : BitVec.ofNat 11 biased ≠ -1#11 := by
    intro h
    rw [show (-1#11 : BitVec 11) = BitVec.ofNat 11 2047 from rfl, bitVec_eq_iff _ (by decide),
      hexponentField] at h
    omega
  have hnormal : BitVec.ofNat 11 biased ≠ 0#11 := by
    intro h
    rw [bitVec_eq_iff _ (by decide), hexponentField] at h
    omega
  show UnpackedFloat.unpack .binary64 (UnpackedFloat.pack .binary64 _) = _
  rw [hpack, UnpackedFloat.unpack]
  simp only [unpackMantissa_packComponents, unpackExponent_packComponents,
    unpackSign_packComponents, Sign.ofBitVec_toBitVec]
  rw [if_neg hfinite, if_neg hnormal]
  congr 1
  rw [hexponentField, hbias]
  show (biased : Int) - (1023 + 52) = exponent
  omega

end BrowserLab.Number
