import Seismicity.Proofs.Double.Signs

/-!
# Finite Doubles

Which operations on finite doubles have finite results.

A result is rounded to a finite double if its magnitude is below half of the range
(`isFinite_round`). Counts of 64 bits are far below that, and a quotient is, if the
divisor is two or more. A product can be out of range, and is infinite then; it is
never anything else that is not finite.

## Main definitions

* `Double.atLeastTwo`: What divides without overflow.

## Theorems

* `isFinite_round`: Rounded results of a moderate magnitude.
* `isFinite_neg`, `isFinite_mul`, `isFinite_div`: Arithmetic.
* `isNaN_mul`: Products of finite doubles are numbers.
* `isFinite_ofNat`: Counts of 64 bits.
-/

open Float.Model Float.Model.UnpackedFloat

namespace Seismicity

namespace Double

/-- What is finite is zero or has a significand. -/
theorem eq_of_isFinite (u : UnpackedFloat) (h : u.isFinite = true) :
    (∃ sign, u = .zero sign) ∨ ∃ sign m e hm, u = .finite sign m e hm := by
  cases u with
  | notANumber => exact absurd h Bool.false_ne_true
  | infinity sign => exact absurd h Bool.false_ne_true
  | zero sign => exact .inl ⟨sign, rfl⟩
  | finite sign m e hm => exact .inr ⟨sign, m, e, hm, rfl⟩

theorem isFinite_pack_zero (sign : Sign) :
    UnpackedFloat.isFinite (Float.Model.pack (.zero sign)).unpack = true :=
  congrArg UnpackedFloat.isFinite unpack_packedZero

/-- A rounded result is packed into a finite double if its exponent is in range. -/
theorem isFinite_pack (sign : Sign) (m : Nat) (e : Int) (hm : 0 < m)
    (h : Rounded (.finite sign m e hm)) (he : e ≤ 971) :
    UnpackedFloat.isFinite (Float.Model.pack (.finite sign m e hm)).unpack = true := by
  obtain ⟨m', e', hm', hunpack, _⟩ := (unpack_pack_finite sign m e hm h).2 he
  rw [hunpack]
  rfl

/-- Results below `2 ^ 1023` are rounded to finite doubles. -/
theorem isFinite_round (sign : Sign) (m : Nat) (e : Int) (accuracy : Accuracy)
    (he : e ≤ 970) (hm : e + m.log2 ≤ 1022) :
    UnpackedFloat.isFinite
      (Float.Model.pack (roundWithAccuracy Format.binary64 sign m e accuracy)).unpack = true := by
  have hspec := shiftBits_spec m e
  obtain ⟨hround, _⟩ | ⟨m', e', hm', hround, hbits, hlow, hle⟩ :=
    roundWithAccuracy_cases sign m e accuracy
  · rw [hround]
    exact isFinite_pack_zero sign
  · rw [hround]
    exact isFinite_pack sign m' e' hm' ⟨hbits, hlow⟩ (by omega)

theorem isFinite_neg (x : Float) (h : x.isFinite = true) : (-x).isFinite = true := by
  change UnpackedFloat.isFinite (Float.Model.pack x.toModel.unpack.neg).unpack = true
  obtain ⟨sign, hx⟩ | ⟨sign, m, e, hm, hx⟩ := eq_of_isFinite x.toModel.unpack h
  · rw [hx]
    exact isFinite_pack_zero _
  · obtain ⟨hbits, hlow, hhigh⟩ := unpack_bounds x.toModel sign m e hm hx
    rw [hx]
    exact isFinite_pack _ m e hm ⟨hbits, hlow⟩ hhigh

/-- A product of finite doubles is finite or infinite. -/
theorem isFinite_mul (x y : Float) (hx : x.isFinite = true) (hy : y.isFinite = true)
    (hinf : (x * y).isInf = false) : (x * y).isFinite = true := by
  change UnpackedFloat.isInf (Float.Model.pack (UnpackedFloat.mul Format.binary64
    x.toModel.unpack y.toModel.unpack)).unpack = false at hinf
  change UnpackedFloat.isFinite (Float.Model.pack (UnpackedFloat.mul Format.binary64
    x.toModel.unpack y.toModel.unpack)).unpack = true
  obtain ⟨sign, hx⟩ | ⟨sign, m, e, hm, hx⟩ := eq_of_isFinite x.toModel.unpack hx
  · obtain ⟨sign', hy⟩ | ⟨sign', m', e', hm', hy⟩ := eq_of_isFinite y.toModel.unpack hy <;>
      rw [hx, hy] <;> exact isFinite_pack_zero _
  obtain ⟨sign', hy⟩ | ⟨sign', m', e', hm', hy⟩ := eq_of_isFinite y.toModel.unpack hy
  · rw [hx, hy]
    exact isFinite_pack_zero _
  rw [hx, hy] at hinf ⊢
  simp only [UnpackedFloat.mul] at hinf ⊢
  obtain ⟨hround, _⟩ | ⟨m₁, e₁, hm₁, hround, hbits, hlow, _⟩ :=
    roundWithAccuracy_cases (sign * sign') (m * m') (e + e') .exact
  · rw [hround]
    exact isFinite_pack_zero _
  rw [hround] at hinf ⊢
  refine isFinite_pack _ m₁ e₁ hm₁ ⟨hbits, hlow⟩ (Int.not_lt.mp fun hlarge => ?_)
  rw [(unpack_pack_finite _ m₁ e₁ hm₁ ⟨hbits, hlow⟩).1 hlarge] at hinf
  exact absurd hinf Bool.true_eq_false.mp

theorem isNaN_mul (x y : Float) (hx : x.isFinite = true) (hy : y.isFinite = true) :
    (x * y).isNaN ≠ true := by
  by_cases hinf : (x * y).isInf = true
  · intro hnan
    change UnpackedFloat.isInf (x * y).toModel.unpack = true at hinf
    change UnpackedFloat.isNaN (x * y).toModel.unpack = true at hnan
    cases hproduct : (x * y).toModel.unpack with
    | infinity sign =>
        rw [hproduct] at hnan
        exact Bool.false_ne_true hnan
    | _ =>
        rw [hproduct] at hinf
        exact Bool.false_ne_true hinf
  · rw [isNaN_of_isFinite _ (isFinite_mul x y hx hy (Bool.not_eq_true _ ▸ hinf))]
    decide

/-- A finite double of the magnitude two or more. -/
def atLeastTwo : UnpackedFloat → Bool
  | .finite _ m e _ => 1 ≤ e + m.log2
  | _ => false

theorem eq_of_atLeastTwo (u : UnpackedFloat) (h : atLeastTwo u = true) :
    ∃ sign m e hm, u = .finite sign m e hm ∧ 1 ≤ e + m.log2 := by
  cases u with
  | finite sign m e hm => exact ⟨sign, m, e, hm, rfl, of_decide_eq_true h⟩
  | _ => exact absurd h Bool.false_ne_true

/-- A quotient has as many bits as the difference of the lengths says, or one more. -/
theorem log2_div_le (m n k : Nat) (hn : 0 < n) (hq : m <<< k / n ≠ 0) :
    (m <<< k / n).log2 + n.log2 ≤ m.log2 + k := by
  rw [Nat.shiftLeft_eq] at hq ⊢
  refine Nat.lt_succ_iff.mp ((Nat.pow_lt_pow_iff_right Nat.one_lt_two).mp ?_)
  calc 2 ^ ((m * 2 ^ k / n).log2 + n.log2)
      = 2 ^ (m * 2 ^ k / n).log2 * 2 ^ n.log2 := pow_add _ _ _
    _ ≤ m * 2 ^ k / n * n := Nat.mul_le_mul (Nat.log2_self_le hq) (Nat.log2_self_le hn.ne')
    _ ≤ m * 2 ^ k := Nat.div_mul_le_self _ _
    _ < 2 ^ (m.log2 + 1) * 2 ^ k := by
        exact Nat.mul_lt_mul_of_pos_right Nat.lt_log2_self (Nat.two_pow_pos k)
    _ = 2 ^ (m.log2 + k + 1) := by rw [← pow_add, Nat.add_right_comm]

/-- A quotient is finite if the divisor has the magnitude two or more. -/
theorem isFinite_div (x y : Float) (hx : x.isFinite = true)
    (hy : atLeastTwo y.toModel.unpack = true) : (x / y).isFinite = true := by
  obtain ⟨sign, m, e, hm, hy, htwo⟩ := eq_of_atLeastTwo _ hy
  change UnpackedFloat.isFinite (Float.Model.pack (UnpackedFloat.div Format.binary64
    x.toModel.unpack y.toModel.unpack)).unpack = true
  obtain ⟨sign', hx⟩ | ⟨sign', m', e', hm', hx⟩ := eq_of_isFinite x.toModel.unpack hx
  · rw [hx, hy]
    exact isFinite_pack_zero _
  obtain ⟨hbits, _, hhigh⟩ := unpack_bounds x.toModel sign' m' e' hm' hx
  have hlog : m'.log2 ≤ 52 := Nat.lt_succ_iff.mp ((Nat.log2_lt hm'.ne').mpr hbits)
  have htarget : Format.binary64.targetExponent (totalExponent m' e' - totalExponent m e)
      = max ((m'.log2 : Int) + 1 + e' - ((m.log2 : Int) + 1 + e) - 53) (-1074) := rfl
  rw [hx, hy]
  simp only [UnpackedFloat.div, divCore, htarget]
  generalize htargetExponent : min (e' - e) (max ((m'.log2 : Int) + 1 + e'
    - ((m.log2 : Int) + 1 + e) - 53) (-1074)) = target
  -- The shift raises the dividend by as much as it lowers the exponent, and the divisor
  -- takes off at least what its own exponent adds.
  refine isFinite_round _ _ _ _ (by omega) ?_
  by_cases hq : m' <<< (e' - e - target).toNat / m = 0
  · rw [hq, Nat.log2_zero]
    omega
  · have hquotient := log2_div_le m' m (e' - e - target).toNat hm hq
    omega

theorem log2_le_of_lt {m k : Nat} (h : m < 2 ^ (k + 1)) : m.log2 ≤ k := by
  by_cases hm : m = 0
  · rw [hm, Nat.log2_zero]
    exact Nat.zero_le k
  · exact Nat.lt_succ_iff.mp ((Nat.log2_lt hm).mpr h)

/-- A word is rounded to a double far from the end of the range. -/
theorem unpack_toFloat (n : UInt64) :
    (∃ sign, n.toFloat.toModel.unpack = .zero sign) ∨
      ∃ sign m e hm, n.toFloat.toModel.unpack = .finite sign m e hm ∧ e ≤ 12 := by
  have hn : n.toNat < 2 ^ 64 := n.toNat_lt
  change (∃ sign, (Float.Model.pack (UnpackedFloat.normalize Format.binary64 (n.toNat : Int) 0
      .positive)).unpack = .zero sign) ∨
    ∃ sign m e hm, (Float.Model.pack (UnpackedFloat.normalize Format.binary64 (n.toNat : Int) 0
      .positive)).unpack = .finite sign m e hm ∧ e ≤ 12
  generalize n.toNat = k at hn
  by_cases hzero : k = 0
  · rw [hzero]
    exact .inl ⟨.positive, unpack_packedZero⟩
  have hround : UnpackedFloat.normalize Format.binary64 (k : Int) 0 .positive
      = UnpackedFloat.round Format.binary64 .positive k 0 := by
    rw [UnpackedFloat.normalize,
      Int.compare_eq_gt.mpr (Int.natCast_pos.mpr (Nat.pos_of_ne_zero hzero)), Int.toNat_natCast]
  rw [hround, UnpackedFloat.round]
  generalize Format.binary64.targetExponent (totalExponent k 0) = target
  simp only [decreaseExponent]
  generalize (0 - target).toNat = raised
  have hlog : (k <<< raised).log2 ≤ 63 + raised := log2_le_of_lt (by
    rw [Nat.shiftLeft_eq, Nat.add_right_comm, pow_add]
    exact Nat.mul_lt_mul_of_pos_right hn (Nat.two_pow_pos raised))
  have hspec := shiftBits_spec (k <<< raised) (0 - raised)
  obtain ⟨hzero, _⟩ | ⟨m, e, hm, hfinite, hbits, hlow, hhigh⟩ :=
    roundWithAccuracy_cases .positive (k <<< raised) (0 - raised) .exact
  · rw [hzero]
    exact .inl ⟨.positive, unpack_packedZero⟩
  · rw [hfinite]
    obtain ⟨m', e', hm', hunpack, he'⟩ :=
      (unpack_pack_finite .positive m e hm ⟨hbits, hlow⟩).2 (by omega)
    exact .inr ⟨.positive, m', e', hm', hunpack, by omega⟩

/-- Counts of 64 bits are finite doubles. -/
theorem isFinite_ofNat (n : Nat) (h : n < 2 ^ 64) : (Float.ofNat n).isFinite = true := by
  have hone : Float.exactlyRepresentablePowersOfTen[0].toModel.unpack
      = .finite .positive (2 ^ 52) (-52) (by decide) := rfl
  change (Float.ofScientific n false 0).isFinite = true
  rw [Float.ofScientific]
  by_cases hfast : n < 2 ^ 53 ∧ 0 ≤ 22
  · -- A double times one.
    rw [dif_pos hfast]
    change UnpackedFloat.isFinite (Float.Model.pack (UnpackedFloat.mul Format.binary64
      n.toUInt64.toFloat.toModel.unpack
      Float.exactlyRepresentablePowersOfTen[0].toModel.unpack)).unpack = true
    rw [hone]
    obtain ⟨sign, hx⟩ | ⟨sign, m, e, hm, hx, he⟩ := unpack_toFloat n.toUInt64
    · rw [hx]
      exact isFinite_pack_zero _
    · obtain ⟨hbits, _, _⟩ := unpack_bounds _ sign m e hm hx
      have hlog : (m * 2 ^ 52).log2 ≤ 104 := log2_le_of_lt (by omega)
      rw [hx]
      exact isFinite_round _ _ _ _ (by omega) (by omega)
  · -- Rounded from the significand.
    rw [dif_neg hfast]
    change UnpackedFloat.isFinite (Float.Model.pack
      (UnpackedFloat.ofScientific Format.binary64 n 0)).unpack = true
    have hlog : (n <<< 53 * 10 ^ 0).log2 ≤ 116 := log2_le_of_lt (by
      rw [Nat.shiftLeft_eq]
      omega)
    have hscientific : UnpackedFloat.ofScientific Format.binary64 n 0
        = roundWithAccuracy Format.binary64 .positive (n <<< 53 * 10 ^ 0) (-53) .exact := by
      rw [UnpackedFloat.ofScientific, dif_neg (by omega), if_neg (by decide), if_neg (by
        have hexponents : (2 ^ Format.binary64.exponentBits : Int) = 2048 := by decide
        omega), if_pos le_rfl]
      rfl
    rw [hscientific]
    exact isFinite_round _ _ _ _ (by decide) (by omega)

end Double

end Seismicity
