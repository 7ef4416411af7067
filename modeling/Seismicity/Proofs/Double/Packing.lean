import Mathlib

/-!
# Rounded and Packed Doubles

What rounding to the binary format keeps: whether a result is a number, whether it is
zero, and its sign.

An unpacked double is a sign, a significand and an exponent of two without any bound
on either. Rounding shifts bits out of the significand until at most 53 are left and
the exponent is not below that of the least double (`rounded_roundWithAccuracy`), and
packing a result of that form can at most replace it by an infinity of the same sign
(`kindOf_pack`). What is left of a double when only these questions are asked of it is
its `Kind`.

Rounding can turn a number into zero, but not one that is a whole multiple of the
least double already (`roundWithAccuracy_cases`). Sums are such multiples, products and
quotients need not be.

## Main definitions

* `Double.Kind`, `Double.kindOf`: What a double is, up to its magnitude.
* `Double.Rounded`: The form that rounding brings a result into.

## Theorems

* `shiftRight_mantissa`, `roundedMantissa_bounds`: The two steps of rounding.
* `shiftBits_spec`: How far is shifted.
* `roundWithAccuracy_cases`: What rounding makes of a significand.
* `unpack_normal`, `unpack_subnormal`: The numbers with all 53 bits, and those with fewer.
* `unpack_pack_finite`, `kindOf_pack`: What packing makes of a rounded result.
* `unpack_bounds`: The range of significands and exponents.
-/

open Float.Model Float.Model.UnpackedFloat

namespace Seismicity

namespace Double

/-- What a double is, up to its magnitude. -/
inductive Kind where
  | nan
  | infinite (sign : Sign)
  | zero (sign : Sign)
  | finite (sign : Sign)

/-- The kind of an unpacked double. -/
def kindOf : UnpackedFloat → Kind
  | .notANumber => .nan
  | .infinity sign => .infinite sign
  | .zero sign => .zero sign
  | .finite sign _ _ _ => .finite sign

/-- Rounding leaves at most 53 bits of significand, and no exponent below that of the
    least positive double. -/
def Rounded : UnpackedFloat → Prop
  | .finite _ m e _ => m < 2 ^ 53 ∧ -1074 ≤ e
  | _ => True

/-- Shifting drops the last bits. -/
theorem shiftRight_mantissa (em : ExtendedMantissa) (k : Nat) :
    (em >>> k).mantissa = em.mantissa / 2 ^ k := by
  induction k with
  | zero => rw [pow_zero, Nat.div_one]; rfl
  | succ k ih =>
      have hstep : (em >>> (k + 1)).mantissa = (em >>> k).mantissa / 2 := rfl
      rw [hstep, ih, Nat.div_div_eq_div_mul, pow_succ]

theorem ofMantissaAndAccuracy_mantissa (m : Nat) (accuracy : Accuracy) :
    (ExtendedMantissa.ofMantissaAndAccuracy m accuracy).mantissa = m := by
  cases accuracy with
  | exact => rfl
  | inexact ordering => cases ordering <;> rfl

/-- Rounding adds at most one to the last bit that is left. -/
theorem roundedMantissa_bounds (em : ExtendedMantissa) :
    em.mantissa ≤ em.roundedMantissa ∧ em.roundedMantissa ≤ em.mantissa + 1 := by
  obtain ⟨m, roundBit, stickyBit⟩ := em
  have heven := Nat.mod_lt m (Nat.zero_lt_two)
  cases roundBit <;> cases stickyBit <;>
    simp only [ExtendedMantissa.roundedMantissa, ExtendedMantissa.accuracy,
      Accuracy.roundToNearestEven] <;> omega

/-- The shift to the target exponent, as a number of bits. -/
def shiftBits (m : Nat) (e : Int) : Nat :=
  (Format.binary64.targetExponent (totalExponent m e) - e).toNat

theorem shiftToTargetExponent_eq (m : Nat) (e : Int) (accuracy : Accuracy) :
    (shiftToTargetExponent Format.binary64 m e accuracy).1.mantissa = m / 2 ^ shiftBits m e ∧
      (shiftToTargetExponent Format.binary64 m e accuracy).2 = e + shiftBits m e := by
  refine ⟨?_, rfl⟩
  change (ExtendedMantissa.ofMantissaAndAccuracy m accuracy >>> shiftBits m e).mantissa = _
  rw [shiftRight_mantissa, ofMantissaAndAccuracy_mantissa]

/-- So many bits are shifted out that at most 53 are left and the exponent is in
    range, and no more than that. -/
theorem shiftBits_spec (m : Nat) (e : Int) :
    m.log2 ≤ 52 + shiftBits m e ∧ -1074 ≤ e + shiftBits m e ∧
      (shiftBits m e = 0 ∨ (shiftBits m e : Int) = m.log2 - 52 ∨
        e + shiftBits m e = -1074) := by
  have htarget : Format.binary64.targetExponent (totalExponent m e)
      = max ((m.log2 : Int) + 1 + e - 53) (-1074) := rfl
  rw [shiftBits, htarget]
  omega

theorem shiftRight_lt (m : Nat) (e : Int) : m / 2 ^ shiftBits m e < 2 ^ 53 := by
  have hbits := (shiftBits_spec m e).1
  rw [Nat.div_lt_iff_lt_mul (Nat.two_pow_pos _), ← pow_add]
  exact Nat.lt_log2_self.trans_le (Nat.pow_le_pow_right Nat.zero_lt_two (by omega))

/-- A whole multiple of the least double is not shifted away. -/
theorem shiftRight_pos (m : Nat) (e : Int) (hm : 0 < m) (he : -1074 ≤ e) :
    0 < m / 2 ^ shiftBits m e := by
  have hspec := shiftBits_spec m e
  have hle : shiftBits m e ≤ m.log2 := by omega
  exact Nat.div_pos ((Nat.pow_le_pow_right Nat.zero_lt_two hle).trans
    (Nat.log2_self_le hm.ne')) (Nat.two_pow_pos _)

/-- Rounding shifts, rounds the last bit, and shifts again, in case that the significand
    was rounded up to `2 ^ 53`. -/
theorem exists_roundWithAccuracy (sign : Sign) (m : Nat) (e : Int) (accuracy : Accuracy) :
    ∃ r, m / 2 ^ shiftBits m e ≤ r ∧ r ≤ m / 2 ^ shiftBits m e + 1 ∧
      roundWithAccuracy Format.binary64 sign m e accuracy =
        if h : r / 2 ^ shiftBits r (e + shiftBits m e) = 0 then .zero sign
        else .finite sign (r / 2 ^ shiftBits r (e + shiftBits m e))
          (e + shiftBits m e + shiftBits r (e + shiftBits m e)) (Nat.pos_of_ne_zero h) := by
  obtain ⟨hfirst, he⟩ := shiftToTargetExponent_eq m e accuracy
  rcases hshift : shiftToTargetExponent Format.binary64 m e accuracy with ⟨em, e₁⟩
  rw [hshift] at hfirst he
  dsimp only at hfirst he
  subst he
  obtain ⟨hlast, he'⟩ :=
    shiftToTargetExponent_eq em.roundedMantissa (e + shiftBits m e) .exact
  have hround := roundedMantissa_bounds em
  refine ⟨em.roundedMantissa, hfirst ▸ hround.1, hfirst ▸ hround.2, ?_⟩
  simp only [roundWithAccuracy, hshift, hlast, he']

/-- What rounding makes of a significand: zero or a number in range, at an exponent
    that is raised by hardly more than the shift. -/
theorem roundWithAccuracy_cases (sign : Sign) (m : Nat) (e : Int) (accuracy : Accuracy) :
    (roundWithAccuracy Format.binary64 sign m e accuracy = .zero sign ∧
      ¬ (0 < m ∧ -1074 ≤ e)) ∨
    ∃ m' e' hm', roundWithAccuracy Format.binary64 sign m e accuracy = .finite sign m' e' hm' ∧
      m' < 2 ^ 53 ∧ -1074 ≤ e' ∧ e' ≤ e + shiftBits m e + 1 := by
  obtain ⟨r, hlow, hhigh, hround⟩ := exists_roundWithAccuracy sign m e accuracy
  have hspec := shiftBits_spec m e
  have hspec' := shiftBits_spec r (e + shiftBits m e)
  have hbits : r.log2 ≤ 53 := by
    have hlt := shiftRight_lt m e
    by_cases hzero : r = 0
    · rw [hzero]
      decide
    · exact Nat.lt_succ_iff.mp ((Nat.log2_lt hzero).mpr (by omega))
  by_cases hfinal : r / 2 ^ shiftBits r (e + shiftBits m e) = 0
  · refine .inl ⟨?_, fun hpos => ?_⟩
    · rw [hround, dif_pos hfinal]
    · have hfirstPos := shiftRight_pos m e hpos.1 hpos.2
      have hlastPos := shiftRight_pos r (e + shiftBits m e) (by omega) (by omega)
      omega
  · refine .inr ⟨_, _, Nat.pos_of_ne_zero hfinal, hround.trans (dif_neg hfinal),
      shiftRight_lt _ _, ?_, ?_⟩
    · omega
    · omega

/-- A significand with 53 bits or more is rounded to one with all 53, at the exponent of
    its last bit or the next one. -/
theorem roundWithAccuracy_normal (sign : Sign) (m : Nat) (e : Int) (accuracy : Accuracy)
    (hm : 52 ≤ m.log2) (he : -1074 ≤ e) :
    ∃ m' e' hm', roundWithAccuracy Format.binary64 sign m e accuracy = .finite sign m' e' hm' ∧
      2 ^ 52 ≤ m' ∧ e + m.log2 - 52 ≤ e' ∧ e' ≤ e + m.log2 - 51 := by
  obtain ⟨r, hlow, hhigh, hround⟩ := exists_roundWithAccuracy sign m e accuracy
  have hspec := shiftBits_spec m e
  have hspec' := shiftBits_spec r (e + shiftBits m e)
  have hlt := shiftRight_lt m e
  have hbits : 2 ^ 52 ≤ m / 2 ^ shiftBits m e := by
    rw [Nat.le_div_iff_mul_le (Nat.two_pow_pos _), ← pow_add]
    exact (Nat.pow_le_pow_right Nat.zero_lt_two (by omega)).trans (Nat.log2_self_le (by
      rintro rfl
      exact absurd hm (by decide)))
  have hlog : 52 ≤ r.log2 ∧ r.log2 ≤ 53 :=
    ⟨(Nat.le_log2 (by omega)).mpr (by omega),
      Nat.lt_succ_iff.mp ((Nat.log2_lt (by omega)).mpr (by omega))⟩
  have hfinal : 2 ^ 52 ≤ r / 2 ^ shiftBits r (e + shiftBits m e) := by
    rw [Nat.le_div_iff_mul_le (Nat.two_pow_pos _), ← pow_add]
    exact (Nat.pow_le_pow_right Nat.zero_lt_two (by omega)).trans (Nat.log2_self_le (by omega))
  have hpos := (Nat.two_pow_pos 52).trans_le hfinal
  refine ⟨_, _, hpos, hround.trans (dif_neg hpos.ne'), hfinal, ?_, ?_⟩
  · omega
  · omega

/-- Rounding brings any number into the range of the format. -/
theorem rounded_roundWithAccuracy (sign : Sign) (m : Nat) (e : Int) (accuracy : Accuracy) :
    Rounded (roundWithAccuracy Format.binary64 sign m e accuracy) := by
  obtain ⟨h, _⟩ | ⟨m', e', hm', h, hm, he, _⟩ := roundWithAccuracy_cases sign m e accuracy
  · rw [h]
    trivial
  · rw [h]
    exact ⟨hm, he⟩

/-- The last exponent without a significand is an infinity. -/
theorem unpack_infinite (sign : Sign) :
    UnpackedFloat.unpack Format.binary64 (packComponents Format.binary64 sign (-1#11) 0#52)
      = .infinity sign := by
  simp only [UnpackedFloat.unpack, unpackMantissa_packComponents, unpackExponent_packComponents,
    unpackSign_packComponents, Sign.ofBitVec_toBitVec, if_true]

/-- The other exponents are numbers. The first stands for the second, without the leading
    bit that all others have. -/
theorem unpack_finite (sign : Sign) (exponent : BitVec 11) (significand : BitVec 52)
    (hlast : exponent ≠ -1#11) (hzero : ¬ (exponent = 0#11 ∧ significand = 0#52)) :
    ∃ m e hm, UnpackedFloat.unpack Format.binary64
        (packComponents Format.binary64 sign exponent significand) = .finite sign m e hm ∧
      e = max (exponent.toNat : Int) 1 - 1075 ∧ (exponent ≠ 0#11 → 2 ^ 52 ≤ m) := by
  have hbias : Format.binary64.exponentBias = 1023 := by decide
  simp only [UnpackedFloat.unpack, unpackMantissa_packComponents, unpackExponent_packComponents,
    unpackSign_packComponents, Sign.ofBitVec_toBitVec, if_neg hlast, hbias]
  by_cases hfirst : exponent = 0#11
  · have hsome : significand ≠ 0#52 := fun h => hzero ⟨hfirst, h⟩
    have hpos : 0 < significand.toNat :=
      Nat.pos_of_ne_zero fun h => hsome (BitVec.eq_of_toNat_eq h)
    simp only [hfirst, if_true, dif_neg hsome]
    exact ⟨_, _, hpos, rfl, rfl, fun h => absurd rfl h⟩
  · have hpos : exponent.toNat ≠ 0 := fun h => hfirst (BitVec.eq_of_toNat_eq h)
    have hleading : 2 ^ 52 ≤ (1#1 ++ significand).toNat := by
      rw [BitVec.toNat_append]
      exact Nat.left_le_or
    simp only [hfirst, if_false]
    exact ⟨_, _, (Nat.two_pow_pos 52).trans_le hleading, rfl, by omega, fun _ => hleading⟩

/-- With all 53 bits the exponent is kept: it is neither the first nor the last one. -/
theorem unpack_normal (sign : Sign) (m : Nat) (e : Int) (hlow : -1074 ≤ e) (hhigh : e ≤ 971) :
    ∃ m' hm', UnpackedFloat.unpack Format.binary64 (packComponents Format.binary64 sign
        (BitVec.ofNat 11 (e + 1075).toNat) (BitVec.ofNat 52 m)) = .finite sign m' e hm' ∧
      2 ^ 52 ≤ m' := by
  have hvalue : (BitVec.ofNat 11 (e + 1075).toNat).toNat = (e + 1075).toNat :=
    Nat.mod_eq_of_lt (by omega)
  have hlast : BitVec.ofNat 11 (e + 1075).toNat ≠ -1#11 := by
    intro h
    have := congrArg BitVec.toNat h
    rw [hvalue] at this
    change _ = 2047 at this
    omega
  have hfirst : BitVec.ofNat 11 (e + 1075).toNat ≠ 0#11 := by
    intro h
    have := congrArg BitVec.toNat h
    rw [hvalue] at this
    change _ = 0 at this
    omega
  obtain ⟨m', e', hm', hunpack, he', hleading⟩ :=
    unpack_finite sign _ (BitVec.ofNat 52 m) hlast fun h => hfirst h.1
  rw [hvalue] at he'
  obtain rfl : e' = e := by omega
  exact ⟨m', hm', hunpack, hleading hfirst⟩

/-- With fewer bits the exponent is the least one, and none of them is dropped. -/
theorem unpack_subnormal (sign : Sign) (m : Nat) (hm : 0 < m) (hfew : m < 2 ^ 52) :
    ∃ m' hm', UnpackedFloat.unpack Format.binary64 (packComponents Format.binary64 sign
      0#11 (BitVec.ofNat 52 m)) = .finite sign m' (-1074) hm' := by
  have hsome : BitVec.ofNat 52 m ≠ 0#52 := by
    intro h
    have := congrArg BitVec.toNat h
    change m % 2 ^ 52 = 0 at this
    rw [Nat.mod_eq_of_lt hfew] at this
    omega
  obtain ⟨m', e', hm', hunpack, rfl, _⟩ :=
    unpack_finite sign 0#11 (BitVec.ofNat 52 m) (by decide) fun h => hsome h.2
  exact ⟨m', hm', hunpack⟩

/-- Packing a rounded number keeps its sign and that it is not zero. It does not raise
    the exponent, and keeps it if all 53 bits are there. From `2 ^ 1024` on it is
    infinite. -/
theorem unpack_pack_finite (sign : Sign) (m : Nat) (e : Int) (hm : 0 < m)
    (h : Rounded (.finite sign m e hm)) :
    (971 < e → (Float.Model.pack (.finite sign m e hm)).unpack = .infinity sign) ∧
      (e ≤ 971 → ∃ m' e' hm', (Float.Model.pack (.finite sign m e hm)).unpack
        = .finite sign m' e' hm' ∧ e' ≤ e ∧ (2 ^ 52 ≤ m → e' = e ∧ 2 ^ 52 ≤ m')) := by
  obtain ⟨hbits, he⟩ := h
  have hbias : Format.binary64.exponentBias = 1023 := by decide
  have hwidth : (2 : Nat) ^ Format.binary64.exponentBits = 2048 := by decide
  have hbiased : (e + Format.binary64.exponentBias + (52 : Nat)).toNat = (e + 1075).toNat := by
    rw [hbias]
    omega
  have hpack : (Float.Model.pack (.finite sign m e hm)).unpack
      = UnpackedFloat.unpack Format.binary64 (UnpackedFloat.pack Format.binary64
        (.finite sign m e hm)) := rfl
  simp only [UnpackedFloat.pack, hwidth, hbiased] at hpack
  rw [hpack]
  constructor
  · intro hlarge
    rw [if_pos (by omega), packedInfinity]
    exact unpack_infinite sign
  intro hsmall
  rw [if_neg (by omega)]
  by_cases hnormal : m.log2 + 1 = Format.binary64.mantissaBits
  · rw [if_pos hnormal]
    obtain ⟨m', hm', hunpack, hleading⟩ := unpack_normal sign m e he hsmall
    exact ⟨m', e, hm', hunpack, le_rfl, fun _ => ⟨rfl, hleading⟩⟩
  · have hfew : m < 2 ^ 52 := by
      have hlog := (Nat.log2_lt hm.ne').mpr hbits
      change m.log2 + 1 ≠ 53 at hnormal
      exact (Nat.log2_lt hm.ne').mp (by omega)
    rw [if_neg hnormal]
    obtain ⟨m', hm', hunpack⟩ := unpack_subnormal sign m hm hfew
    exact ⟨m', -1074, hm', hunpack, he, fun hall => absurd hfew (Nat.not_lt.mpr hall)⟩

/-- Packing a rounded result keeps what it is, unless it becomes infinite. -/
theorem kindOf_pack (u : UnpackedFloat) (h : Rounded u) :
    kindOf (Float.Model.pack u).unpack = kindOf u ∨
      ∃ sign m e hm, u = .finite sign m e hm ∧ 971 < e ∧
        kindOf (Float.Model.pack u).unpack = .infinite sign := by
  cases u with
  | infinity sign => exact .inl (congrArg kindOf (unpack_infinite sign))
  | notANumber => exact .inl (congrArg kindOf unpack_packedNaN)
  | zero sign => exact .inl (congrArg kindOf unpack_packedZero)
  | finite sign m e hm =>
      obtain ⟨hinfinite, hfinite⟩ := unpack_pack_finite sign m e hm h
      by_cases hlarge : 971 < e
      · exact .inr ⟨sign, m, e, hm, rfl, hlarge, congrArg kindOf (hinfinite hlarge)⟩
      · obtain ⟨m', e', hm', hunpack, _⟩ := hfinite (Int.not_lt.mp hlarge)
        exact .inl ((congrArg kindOf hunpack).trans rfl)

/-- The range of the significand and the exponent of a double. -/
theorem unpack_bounds (x : Float.Model) (sign : Sign) (m : Nat) (e : Int) (hm : 0 < m)
    (h : x.unpack = .finite sign m e hm) : m < 2 ^ 53 ∧ -1074 ≤ e ∧ e ≤ 971 := by
  have hbias : Format.binary64.exponentBias = 1023 := by decide
  have hfield : (@unpackExponent Format.binary64 x.toBits.toBitVec).toNat < 2048 :=
    BitVec.isLt _
  have hbits : (@unpackMantissa Format.binary64 x.toBits.toBitVec).toNat < 2 ^ 52 :=
    BitVec.isLt _
  have hleading :
      (1#1 ++ @unpackMantissa Format.binary64 x.toBits.toBitVec).toNat < 2 ^ 53 :=
    BitVec.isLt _
  rw [Float.Model.unpack, UnpackedFloat.unpack] at h
  simp only [hbias] at h
  split_ifs at h with hlast hnone hfirst hnone
  · -- The first exponent is that of the second, and the leading bit is not there.
    cases h
    rw [hfirst]
    exact ⟨by omega, by decide, by decide⟩
  · cases h
    have hnotLast : (@unpackExponent Format.binary64 x.toBits.toBitVec).toNat ≠ 2047 :=
      fun heq => hlast (BitVec.eq_of_toNat_eq heq)
    have hnotFirst : (@unpackExponent Format.binary64 x.toBits.toBitVec).toNat ≠ 0 :=
      fun heq => hfirst (BitVec.eq_of_toNat_eq heq)
    refine ⟨hleading, ?_, ?_⟩ <;> push_cast <;> omega

end Double

end Seismicity
