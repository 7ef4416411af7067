import Seismicity.Proofs.Double.Signs

/-!
# Counts from Doubles

What is left of a double when it is taken for a count.

A count is the whole part of a double. It is the significand without the bits behind the
point (`toNat_toUInt64`), so bounds on the double become bounds on the count once the order
of doubles is known on significands and exponents. That order looks at the exponents first
(`le_finite_iff`), which is right because only the least exponent has significands with
fewer than 53 bits (`unpack_leading`).

The order is total on what is a number (`le_of_not_lt`). A test that fails is therefore as
good as one that succeeds the other way round, as long as neither side can fail to be a
number.

## Theorems

* `unpack_leading`: Above the least exponent all 53 bits are there.
* `compare_swap`, `exists_compare`, `le_of_not_lt`: Any two numbers can be compared.
* `le_finite_iff`: The order of positive numbers.
* `toNat_toUInt64`: The whole part of a positive number.
* `one_le_greater`: The greater of a double and one.
* `wholePart_bounds`: Counts up to 10 ^ 15 are exact.
-/

open Float.Model Float.Model.UnpackedFloat

namespace Seismicity

namespace Double

/-- Above the least exponent all 53 bits of the significand are there. -/
theorem unpack_leading (x : Float.Model) (sign : Sign) (m : Nat) (e : Int) (hm : 0 < m)
    (h : x.unpack = .finite sign m e hm) (he : -1074 < e) : 2 ^ 52 ≤ m := by
  have hbias : Format.binary64.exponentBias = 1023 := by decide
  have hleading : 2 ^ 52 ≤ (1#1 ++ @unpackMantissa Format.binary64 x.toBits.toBitVec).toNat := by
    rw [BitVec.toNat_append]
    exact Nat.left_le_or
  rw [Float.Model.unpack, UnpackedFloat.unpack] at h
  simp only [hbias] at h
  split_ifs at h with hlast hnone hfirst hnone
  · -- The first exponent is the least one.
    cases h
    rw [hfirst] at he
    exact absurd he (by decide)
  · cases h
    exact hleading

theorem compare_significands_swap (m m' : Nat) (e e' : Int) :
    (compare e' e).then (compare m' m) = ((compare e e').then (compare m m')).swap := by
  rw [Ordering.swap_then, Int.compare_swap, Nat.compare_swap]

/-- Comparing the other way round gives the opposite answer. -/
theorem compare_swap (u v : UnpackedFloat) :
    UnpackedFloat.compare v u = (UnpackedFloat.compare u v).map Ordering.swap := by
  cases u with
  | notANumber => cases v <;> rfl
  | zero sign =>
      cases v with
      | infinity sign' => cases sign' <;> rfl
      | finite sign' m' e' hm' => cases sign' <;> rfl
      | _ => rfl
  | infinity sign =>
      cases v with
      | infinity sign' => cases sign <;> cases sign' <;> rfl
      | finite sign' m' e' hm' => cases sign <;> cases sign' <;> rfl
      | _ => cases sign <;> rfl
  | finite sign m e hm =>
      cases v with
      | infinity sign' => cases sign <;> cases sign' <;> rfl
      | finite sign' m' e' hm' =>
          -- Only numbers of one sign have their exponents and significands compared.
          have hswap := compare_significands_swap m m' e e'
          cases sign with
          | negative =>
              cases sign' with
              | negative => exact congrArg (fun o => some (Ordering.swap o)) hswap
              | positive => rfl
          | positive =>
              cases sign' with
              | negative => rfl
              | positive => exact congrArg some hswap
      | _ => cases sign <;> rfl

/-- Numbers can be compared. -/
theorem exists_compare (u v : UnpackedFloat) (hu : u.isNaN = false) (hv : v.isNaN = false) :
    ∃ o, UnpackedFloat.compare u v = some o := by
  cases u with
  | notANumber => exact absurd hu Bool.true_eq_false.mp
  | zero sign =>
      cases v with
      | notANumber => exact absurd hv Bool.true_eq_false.mp
      | zero sign' => exact ⟨_, rfl⟩
      | infinity sign' => cases sign' <;> exact ⟨_, rfl⟩
      | finite sign' m' e' hm' => cases sign' <;> exact ⟨_, rfl⟩
  | infinity sign =>
      cases v with
      | notANumber => exact absurd hv Bool.true_eq_false.mp
      | zero sign' => cases sign <;> exact ⟨_, rfl⟩
      | infinity sign' => cases sign <;> cases sign' <;> exact ⟨_, rfl⟩
      | finite sign' m' e' hm' => cases sign <;> cases sign' <;> exact ⟨_, rfl⟩
  | finite sign m e hm =>
      cases v with
      | notANumber => exact absurd hv Bool.true_eq_false.mp
      | zero sign' => cases sign <;> exact ⟨_, rfl⟩
      | infinity sign' => cases sign <;> cases sign' <;> exact ⟨_, rfl⟩
      | finite sign' m' e' hm' => cases sign <;> cases sign' <;> exact ⟨_, rfl⟩

/-- The order of numbers is total. -/
theorem le_of_not_lt (x y : Float) (hx : x.isNaN = false) (hy : y.isNaN = false)
    (h : ¬ x < y) : y ≤ x := by
  rw [lt_iff, UnpackedFloat.lt] at h
  rw [le_iff, UnpackedFloat.le, compare_swap]
  rcases exists_compare x.toModel.unpack y.toModel.unpack hx hy with ⟨o, ho⟩
  rw [ho] at h ⊢
  cases o with
  | lt => exact absurd rfl h
  | eq => rfl
  | gt => rfl

/-- Only what is a number is equal to itself. -/
theorem isNaN_of_beq_self (x : Float) (h : (x == x) = true) : x.isNaN = false := by
  change UnpackedFloat.beq x.toModel.unpack x.toModel.unpack = true at h
  change UnpackedFloat.isNaN x.toModel.unpack = false
  cases hx : x.toModel.unpack with
  | notANumber =>
      rw [hx] at h
      exact absurd h (by decide)
  | _ => rfl

/-- Positive numbers are ordered by their exponents, and then by their significands. -/
theorem le_finite_iff (m m' : Nat) (e e' : Int) (hm : 0 < m) (hm' : 0 < m') :
    UnpackedFloat.le (.finite .positive m e hm) (.finite .positive m' e' hm') = true ↔
      e < e' ∨ e = e' ∧ m ≤ m' := by
  change ((compare e e').then (compare m m')).isLE = true ↔ _
  rw [Ordering.isLE_then_iff_or, Int.compare_eq_lt, Int.compare_eq_eq, Nat.isLE_compare]

/-- The whole part of a positive number is its significand without the bits behind the
    point. -/
theorem toNat_toUInt64 (x : Float) (m : Nat) (e : Int) (hm : 0 < m)
    (hx : x.toModel.unpack = .finite .positive m e hm) (he : e ≤ 0)
    (hfits : m / 2 ^ (-e).toNat < UInt64.size) :
    x.toUInt64.toNat = m / 2 ^ (-e).toNat := by
  have hkept : (e - 0).toNat = 0 := by omega
  have hdropped : (0 - (e - ((0 : Nat) : Int))).toNat = (-e).toNat := by omega
  have hround : UnpackedFloat.roundToInt .positive m e = (m / 2 ^ (-e).toNat : Nat) := by
    rw [UnpackedFloat.roundToInt]
    simp only [decreaseExponent, hkept, Nat.shiftLeft_zero, UnpackedFloat.shiftToExponent,
      hdropped, shiftRight_mantissa, ofMantissaAndAccuracy_mantissa]
    rfl
  change (UInt64.ofNatClamp
    (UnpackedFloat.toInt 0 (UInt64.size - 1) x.toModel.unpack).toNat).toNat = _
  rw [hx, UnpackedFloat.toInt, hround, Int.toNat_natCast, UInt64.ofNatClamp, dif_pos hfits,
    UInt64.toNat_ofNatLT]

/-- What is at least one is infinite, or a number whose leading bit is not behind the
    point. -/
theorem eq_of_one_le (x : Float) (h : 1.0 ≤ x) :
    x.toModel.unpack = .infinity .positive ∨
      ∃ m e hm, x.toModel.unpack = .finite .positive m e hm ∧ -52 ≤ e ∧ 2 ^ 52 ≤ m := by
  have hone : (1.0 : Float).toModel.unpack = .finite .positive (2 ^ 52) (-52) (by decide) := rfl
  rw [le_iff, hone] at h
  cases hx : x.toModel.unpack with
  | notANumber =>
      rw [hx] at h
      exact absurd h (by decide)
  | zero sign =>
      rw [hx] at h
      exact absurd h Bool.false_ne_true
  | infinity sign =>
      cases sign with
      | positive => exact .inl rfl
      | negative =>
          rw [hx] at h
          exact absurd h (by decide)
  | finite sign m e hm =>
      cases sign with
      | negative =>
          rw [hx] at h
          exact absurd h Bool.false_ne_true
      | positive =>
          rw [hx, le_finite_iff] at h
          have he : -52 ≤ e := by omega
          exact .inr ⟨m, e, hm, rfl, he, unpack_leading x.toModel _ m e hm hx (by omega)⟩

/-- The greater of a double and one is at least one, also if the double is no number. -/
theorem one_le_greater (x : Float) : 1.0 ≤ Scalar.greater x 1.0 := by
  have hone : (1.0 : Float) ≤ 1.0 := by decide
  unfold Scalar.greater
  split_ifs with hlt hself
  · exact hone
  · exact le_of_not_lt x 1.0 (isNaN_of_beq_self x hself) (by decide) hlt
  · exact hone

/-- Up to 10 ^ 15 the whole part of a double is a count within the same bounds. -/
theorem wholePart_bounds (x : Float) (hlow : 1.0 ≤ x) (hhigh : x ≤ 1000000000000000.0) :
    1 ≤ Scalar.wholePart x ∧ Scalar.wholePart x ≤ 10 ^ 15 := by
  have hmost : (1000000000000000.0 : Float).toModel.unpack
      = .finite .positive 8000000000000000 (-3) (by decide) := rfl
  rw [le_iff, hmost] at hhigh
  rcases eq_of_one_le x hlow with hx | ⟨m, e, hm, hx, he, hleading⟩
  · rw [hx] at hhigh
    exact absurd hhigh (by decide)
  rw [hx, le_finite_iff] at hhigh
  have hbits := (unpack_bounds x.toModel _ m e hm hx).1
  -- Between three and 52 bits stand behind the point.
  obtain ⟨k, hk⟩ : ∃ k, (-e).toNat = k := ⟨_, rfl⟩
  have hone : 1 ≤ m / 2 ^ k := by
    rw [Nat.le_div_iff_mul_le (Nat.two_pow_pos k), one_mul]
    exact (Nat.pow_le_pow_right Nat.zero_lt_two (by omega)).trans hleading
  have hmax : m / 2 ^ k ≤ 10 ^ 15 := by
    rcases hhigh with hless | ⟨rfl, hle⟩
    · have hsixteenth : m / 2 ^ k ≤ m / 2 ^ 4 :=
        Nat.div_le_div_left (Nat.pow_le_pow_right Nat.zero_lt_two (by omega)) (by decide)
      omega
    · obtain rfl : k = 3 := by omega
      omega
  have hwhole := toNat_toUInt64 x m e hm hx (by omega)
    (by rw [hk]; exact hmax.trans_lt (by decide))
  rw [hk] at hwhole
  change 1 ≤ x.toUInt64.toNat ∧ x.toUInt64.toNat ≤ 10 ^ 15
  rw [hwhole]
  exact ⟨hone, hmax⟩

end Double

end Seismicity
