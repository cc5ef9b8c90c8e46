import LaunchLine.Number.Decimal
import Mathlib

/-!
# Proofs/WholeFloats — whole numbers as floats

A whole number below `2 ^ 53` is a float, and reading it as one is exact: scaling it by one leaves
it as it is, and a float that was read from a count is cut back to that count
(`Decimal.toUInt32_magnitude`).  A float is a mantissa of fifty-three bits and an exponent, so the
number is shifted to the left as far as it goes: `wholeFloat`.
-/

namespace LaunchLine

open Float.Model Float.Model.UnpackedFloat

variable {m n s : Nat} {e : Int}

/-! ## Mantissas of fifty-three bits -/

/-- **A mantissa of fifty-three bits**, the first of them set. -/
def IsMantissa (m : Nat) : Prop :=
  2 ^ 52 ≤ m ∧ m < 2 ^ 53

theorem IsMantissa.pos (h : IsMantissa m) : 0 < m :=
  Nat.lt_of_lt_of_le (Nat.two_pow_pos 52) h.1

/-- The size of a mantissa that zeros follow. -/
theorem IsMantissa.log2_mul_two_pow (h : IsMantissa m) (s : Nat) : (m * 2 ^ s).log2 = 52 + s := by
  have hpos : m * 2 ^ s ≠ 0 := (Nat.mul_pos h.pos (Nat.two_pow_pos s)).ne'
  rw [Nat.log2_eq_iff hpos, Nat.pow_add, Nat.add_right_comm, Nat.pow_add _ 53]
  exact ⟨Nat.mul_le_mul_right _ h.1, Nat.mul_lt_mul_of_pos_right h.2 (Nat.two_pow_pos s)⟩

theorem targetExponent_binary64 (t : Int) :
    Format.binary64.targetExponent t = max (t - 53) (-1074) := by
  rw [Format.targetExponent]
  rfl

theorem targetExponent_mantissa (h : IsMantissa m) (s : Nat) (he : -1074 ≤ e) :
    Format.binary64.targetExponent (totalExponent (m * 2 ^ s) (e - s)) = e := by
  rw [targetExponent_binary64, totalExponent, h.log2_mul_two_pow]
  omega

/-- Zeros are shifted out exactly. -/
theorem shiftRight_mul_two_pow (m s : Nat) :
    (⟨m * 2 ^ s, false, false⟩ : ExtendedMantissa) >>> s = ⟨m, false, false⟩ := by
  change Nat.repeat ExtendedMantissa.shiftRightOne s _ = _
  induction s generalizing m with
  | zero =>
    rw [Nat.pow_zero, Nat.mul_one]
    rfl
  | succ s ih =>
    rw [Nat.repeat, Nat.pow_succ', ← Nat.mul_assoc, ih (m * 2), ExtendedMantissa.shiftRightOne]
    simp

theorem shiftToExponent_mantissa (m s : Nat) (e : Int) :
    shiftToExponent (m * 2 ^ s) (e - s) .exact e = (⟨m, false, false⟩, e) := by
  have hshift : (e - (e - s)).toNat = s := by omega
  rw [shiftToExponent, hshift, ExtendedMantissa.ofMantissaAndAccuracy]
  rw [shiftRight_mul_two_pow, Int.sub_add_cancel]

/-- **Rounding a mantissa that zeros follow is exact.** -/
theorem roundWithAccuracy_mantissa (h : IsMantissa m) (s : Nat) (he : -1074 ≤ e) :
    roundWithAccuracy .binary64 .positive (m * 2 ^ s) (e - s) .exact
      = .finite .positive m e h.pos := by
  have hfirst : shiftToTargetExponent .binary64 (m * 2 ^ s) (e - s) .exact
      = (⟨m, false, false⟩, e) := by
    rw [shiftToTargetExponent, targetExponent_mantissa h s he, shiftToExponent_mantissa]
  have hsecond : shiftToTargetExponent .binary64 m e .exact = (⟨m, false, false⟩, e) := by
    have hzero := targetExponent_mantissa h 0 he
    have hshift := shiftToExponent_mantissa m 0 e
    simp only [Nat.pow_zero, Nat.mul_one, Int.natCast_zero, Int.sub_zero] at hzero hshift
    rw [shiftToTargetExponent, hzero, hshift]
  have hrounded : (⟨m, false, false⟩ : ExtendedMantissa).roundedMantissa = m := rfl
  rw [roundWithAccuracy, hfirst]
  dsimp only
  rw [hrounded]
  simp only [hsecond]
  exact dif_neg h.pos.ne'

/-! ## Packing -/

/-- The leading bit of a mantissa is not packed, and is put back. -/
theorem IsMantissa.toNat_append (h : IsMantissa m) : (1#1 ++ BitVec.ofNat 52 m).toNat = m := by
  obtain ⟨hlow, hhigh⟩ := h
  rw [BitVec.toNat_append, ← Nat.shiftLeft_add_eq_or_of_lt (BitVec.isLt _), BitVec.toNat_ofNat,
    BitVec.toNat_ofNat, Nat.shiftLeft_eq]
  omega

/-- An exponent field that is neither zeros nor ones holds what was written into it. -/
theorem toNat_exponentField {k : Nat} (hpos : 0 < k) (hsmall : k < 2047) :
    (BitVec.ofNat 11 k).toNat = k ∧ BitVec.ofNat 11 k ≠ -1#11 ∧ BitVec.ofNat 11 k ≠ 0#11 := by
  have hfield : (BitVec.ofNat 11 k).toNat = k := by
    rw [BitVec.toNat_ofNat, Nat.mod_eq_of_lt (by omega)]
  refine ⟨hfield, fun hones => ?_, fun hzeros => ?_⟩
  · have hvalue : k = 2047 := hfield.symm.trans (congrArg BitVec.toNat hones)
    omega
  · have hvalue : k = 0 := hfield.symm.trans (congrArg BitVec.toNat hzeros)
    omega

/-- **What is packed is unpacked again.** -/
theorem unpack_pack_mantissa (h : IsMantissa m) (hlow : -1074 ≤ e) (hhigh : e ≤ 971) :
    UnpackedFloat.unpack .binary64 (UnpackedFloat.pack .binary64 (.finite .positive m e h.pos))
      = .finite .positive m e h.pos := by
  have hlog : m.log2 = 52 := by simpa using h.log2_mul_two_pow 0
  have hbias : (e + Format.binary64.exponentBias
      + Format.binary64.mantissaBitsWithoutImplicit).toNat = (e + 1075).toNat := by
    change (e + (1023 : Nat) + (52 : Nat)).toNat = _
    omega
  obtain ⟨hexponent, hones, hzeros⟩ := toNat_exponentField (k := (e + 1075).toNat) (by omega)
    (by omega)
  rw [UnpackedFloat.pack]
  simp only [hlog, hbias]
  rw [if_neg (by omega), if_pos (show 52 + 1 = Format.binary64.mantissaBits from rfl),
    UnpackedFloat.unpack]
  simp only [unpackMantissa_packComponents, unpackExponent_packComponents,
    unpackSign_packComponents, Sign.ofBitVec_toBitVec]
  rw [if_neg hones, if_neg hzeros]
  simp only [h.toNat_append, hexponent]
  congr 1
  change ((e + 1075).toNat : Int) - ((1023 : Nat) + (52 : Nat)) = e
  omega

/-! ## Whole numbers -/

/-- A whole number shifted to the left as far as it goes. -/
def shifted (n : Nat) : Nat :=
  n * 2 ^ (52 - n.log2)

theorem isMantissa_shifted (hpos : 0 < n) (hsmall : n < 2 ^ 53) : IsMantissa (shifted n) := by
  have hlog : n.log2 < 53 := (Nat.log2_lt hpos.ne').2 hsmall
  have hlow : 2 ^ n.log2 ≤ n := Nat.log2_self_le hpos.ne'
  have hhigh : n < 2 ^ (n.log2 + 1) := Nat.lt_log2_self
  refine ⟨?_, ?_⟩
  · calc 2 ^ 52 = 2 ^ n.log2 * 2 ^ (52 - n.log2) := by rw [← Nat.pow_add]; congr 1; omega
      _ ≤ shifted n := Nat.mul_le_mul_right _ hlow
  · calc shifted n < 2 ^ (n.log2 + 1) * 2 ^ (52 - n.log2) :=
          Nat.mul_lt_mul_of_pos_right hhigh (Nat.two_pow_pos _)
      _ = 2 ^ 53 := by rw [← Nat.pow_add]; congr 1; omega

/-- **The float of a whole number** below `2 ^ 53`. -/
def wholeFloat (n : Nat) : UnpackedFloat :=
  if h : 0 < shifted n then .finite .positive (shifted n) (-(52 - n.log2 : Nat)) h
  else .zero .positive

theorem wholeFloat_of_pos (hpos : 0 < n) (hsmall : n < 2 ^ 53) :
    wholeFloat n = .finite .positive (shifted n) (-(52 - n.log2 : Nat))
      (isMantissa_shifted hpos hsmall).pos :=
  dif_pos _

/-- A float of a whole number is unpacked as it was packed. -/
theorem unpack_pack_wholeFloat (hsmall : n < 2 ^ 53) :
    (Float.Model.pack (wholeFloat n)).unpack = wholeFloat n := by
  rcases Nat.eq_zero_or_pos n with rfl | hpos
  · rfl
  · rw [wholeFloat_of_pos hpos hsmall]
    exact unpack_pack_mantissa (isMantissa_shifted hpos hsmall) (by omega) (by omega)

/-- Exponents are lowered by shifting to the left. -/
theorem decreaseExponent_eq {target : Int} (h : (e - target).toNat = s) :
    decreaseExponent m e target = (m * 2 ^ s, e - s) := by
  subst h
  rw [decreaseExponent, Nat.shiftLeft_eq]

/-- **Reading a whole number is exact.** -/
theorem ofNat_eq_wholeFloat (hsmall : n < 2 ^ 53) :
    UnpackedFloat.ofNat .binary64 n = wholeFloat n := by
  rcases Nat.eq_zero_or_pos n with rfl | hpos
  · rfl
  · have hm := isMantissa_shifted hpos hsmall
    have hlog : n.log2 < 53 := (Nat.log2_lt hpos.ne').2 hsmall
    have htarget : Format.binary64.targetExponent (totalExponent n 0) = -(52 - n.log2 : Nat) := by
      rw [targetExponent_binary64, totalExponent]
      omega
    have hcompare : compare (n : Int) 0 = .gt := Int.compare_eq_gt.2 (by omega)
    rw [wholeFloat_of_pos hpos hsmall, UnpackedFloat.ofNat, UnpackedFloat.ofInt,
      UnpackedFloat.normalize, hcompare]
    simp only [Int.toNat_natCast]
    have hround : roundWithAccuracy .binary64 .positive (shifted n) (-(52 - n.log2 : Nat)) .exact
        = .finite .positive (shifted n) (-(52 - n.log2 : Nat)) hm.pos := by
      simpa using roundWithAccuracy_mantissa hm 0 (e := -(52 - n.log2 : Nat)) (by omega)
    have hlower : decreaseExponent n 0 (-(52 - n.log2 : Nat))
        = (shifted n, -((52 - n.log2 : Nat) : Int)) := by
      rw [decreaseExponent_eq (s := 52 - n.log2) (by omega), Int.zero_sub, shifted]
    rw [UnpackedFloat.round, htarget, hlower]
    exact hround

/-- **Scaling by one** changes no whole number. -/
theorem mul_wholeFloat_one (hsmall : n < 2 ^ 53) :
    (wholeFloat n).mul .binary64 (wholeFloat 1) = wholeFloat n := by
  rcases Nat.eq_zero_or_pos n with rfl | hpos
  · rfl
  · have hm := isMantissa_shifted hpos hsmall
    have hround := roundWithAccuracy_mantissa hm 52 (e := -(52 - n.log2 : Nat)) (by omega)
    rw [wholeFloat_of_pos hpos hsmall, wholeFloat_of_pos Nat.one_pos (by omega)]
    exact hround

/-- A float of a whole number is cut to that number. -/
theorem roundToInt_shifted (n : Nat) :
    roundToInt .positive (shifted n) (-(52 - n.log2 : Nat)) = n := by
  have hlower : decreaseExponent (shifted n) (-(52 - n.log2 : Nat)) 0
      = (shifted n, -((52 - n.log2 : Nat) : Int)) := by
    rw [decreaseExponent_eq (s := 0) (by omega), Nat.pow_zero, Nat.mul_one, Int.natCast_zero,
      Int.sub_zero]
  have hshift := shiftToExponent_mantissa n (52 - n.log2) 0
  rw [Int.zero_sub] at hshift
  rw [roundToInt, hlower]
  dsimp only
  rw [shifted, hshift]
  rfl

theorem toUInt32_wholeFloat (hsmall : n < UInt32.size) :
    (wholeFloat n).toUInt32 = n.toUInt32 := by
  have hbound : n < 2 ^ 53 := Nat.lt_trans hsmall (by decide)
  have hint : (wholeFloat n).toInt 0 (UInt32.size - 1) = n := by
    rcases Nat.eq_zero_or_pos n with rfl | hpos
    · rfl
    · rw [wholeFloat_of_pos hpos hbound]
      exact roundToInt_shifted n
  rw [UnpackedFloat.toUInt32, hint, Int.toNat_natCast, UInt32.ofNatClamp, dif_pos hsmall]
  exact UInt32.ofNatLT_eq_ofNat n

theorem isInf_wholeFloat (n : Nat) : (wholeFloat n).isInf = false := by
  rw [wholeFloat]
  split <;> rfl

/-! ## Decimals without an exponent -/

namespace Decimal

/-- **A whole number below `2 ^ 53` is read exactly.** -/
theorem toModel_magnitude (hsmall : n < 2 ^ 53) :
    (magnitude n 0).toModel = Float.Model.pack (wholeFloat n) := by
  rw [magnitude]
  split
  · next hzero =>
    subst hzero
    rfl
  · have hread : (n.toUInt64.toFloat).toModel = Float.Model.pack (wholeFloat n) := by
      have hnat : n.toUInt64.toNat = n := by
        exact UInt64.toNat_ofNat_of_lt' (Nat.lt_trans hsmall (by decide))
      change Float.Model.pack (UnpackedFloat.ofNat .binary64 n.toUInt64.toNat) = _
      rw [hnat, ofNat_eq_wholeFloat hsmall]
    have hone : (Float.exactlyRepresentablePowersOfTen[0]).toModel.unpack = wholeFloat 1 := rfl
    rw [if_neg (by omega), if_neg (by omega)]
    rw [Float.ofScientific, dif_pos ⟨hsmall, by decide⟩]
    change Float.Model.pack (UnpackedFloat.mul .binary64 (n.toUInt64.toFloat).toModel.unpack
      (Float.exactlyRepresentablePowersOfTen[0]).toModel.unpack) = _
    rw [hread, hone, unpack_pack_wholeFloat hsmall, mul_wholeFloat_one hsmall]

theorem isInf_magnitude (hsmall : n < 2 ^ 53) : (magnitude n 0).isInf = false := by
  rw [Float.isInf, Float.Model.isInf, toModel_magnitude hsmall, unpack_pack_wholeFloat hsmall]
  exact isInf_wholeFloat n

/-- **A count that was read as a float** is cut back to the count. -/
theorem toUInt32_magnitude (hsmall : n < UInt32.size) : (magnitude n 0).toUInt32 = n.toUInt32 := by
  have hbound : n < 2 ^ 53 := Nat.lt_trans hsmall (by decide)
  rw [Float.toUInt32, Float.Model.toUInt32, toModel_magnitude hbound, unpack_pack_wholeFloat hbound]
  exact toUInt32_wholeFloat hsmall

/-- **Scaling by the zeroth power of ten** changes no whole number. -/
theorem magnitude_mul_one (hsmall : n < 2 ^ 53) :
    magnitude n 0 * magnitude 1 0 = magnitude n 0 := by
  have hone : (magnitude 1 0).toModel.unpack = wholeFloat 1 := by
    rw [toModel_magnitude (by omega), unpack_pack_wholeFloat (by omega)]
  have hmodel : (magnitude n 0 * magnitude 1 0).toModel = (magnitude n 0).toModel := by
    change Float.Model.pack (UnpackedFloat.mul .binary64 (magnitude n 0).toModel.unpack
      (magnitude 1 0).toModel.unpack) = _
    rw [hone, toModel_magnitude hsmall, unpack_pack_wholeFloat hsmall, mul_wholeFloat_one hsmall]
  exact congrArg Float.ofModel hmodel

end Decimal

end LaunchLine
