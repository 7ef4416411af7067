import Seismicity.Double.Arithmetic
import Seismicity.Proofs.Double.Packing

/-!
# Signs of Doubles

How doubles compare with zero, that sums of positive doubles are positive, and that
products of doubles that are not negative are not negative.

How a double compares with zero is a question about its kind. What is not a number
does not compare at all, so that `¬ x ≤ 0` is not the same as `0 < x`: what lies
between the two is exactly what is not a number (`not_le_zero_iff`).

A sum of positive doubles can overflow, and is still positive then; it cannot be
rounded to zero, since it is a whole multiple of the least double (`add_pos`).

## Main definitions

* `Double.Kind.order`: How doubles of a kind compare with zero.
* `Double.kind`: The kind of a double.

## Theorems

* `lt_iff`, `le_iff`: Comparisons are made on unpacked doubles.
* `zero_lt_iff`, `lt_zero_iff`, `not_le_zero_iff`: Comparisons with zero.
* `order_pack`: Packing keeps the sign.
* `add_pos`, `sum_pos`: Sums of positive doubles.
* `not_mul_lt_zero`: Products of doubles that are not negative.
-/

open Float.Model Float.Model.UnpackedFloat

namespace Seismicity

namespace Double

/-- How doubles of a kind compare with zero: not at all, if they are not numbers. -/
def Kind.order : Kind → Option Ordering
  | .nan => none
  | .zero _ => some .eq
  | .infinite .negative => some .lt
  | .infinite .positive => some .gt
  | .finite .negative => some .lt
  | .finite .positive => some .gt

/-- The kind of a double. -/
def kind (x : Float) : Kind := kindOf x.toModel.unpack

theorem compare_zero (u : UnpackedFloat) :
    UnpackedFloat.compare u (.zero .positive) = (kindOf u).order := by
  cases u with
  | notANumber => rfl
  | infinity sign => cases sign <;> rfl
  | zero sign => cases sign <;> rfl
  | finite sign m e hm => cases sign <;> rfl

theorem zero_compare (u : UnpackedFloat) :
    UnpackedFloat.compare (.zero .positive) u = (kindOf u).order.map Ordering.swap := by
  cases u with
  | notANumber => rfl
  | infinity sign => cases sign <;> rfl
  | zero sign => cases sign <;> rfl
  | finite sign m e hm => cases sign <;> rfl

theorem unpack_zero : (0.0 : Float).toModel.unpack = .zero .positive := rfl

theorem lt_iff (x y : Float) :
    x < y ↔ UnpackedFloat.lt x.toModel.unpack y.toModel.unpack = true :=
  decide_eq_true_iff

theorem le_iff (x y : Float) :
    x ≤ y ↔ UnpackedFloat.le x.toModel.unpack y.toModel.unpack = true :=
  decide_eq_true_iff

theorem zero_lt_iff (x : Float) : 0.0 < x ↔ (kind x).order = some .gt := by
  rw [lt_iff, unpack_zero, UnpackedFloat.lt, zero_compare, kind, beq_iff_eq]
  generalize (kindOf x.toModel.unpack).order = order
  decide +revert

theorem lt_zero_iff (x : Float) : x < 0.0 ↔ (kind x).order = some .lt := by
  rw [lt_iff, unpack_zero, UnpackedFloat.lt, compare_zero, kind, beq_iff_eq]

theorem isNaN_iff (x : Float) : x.isNaN = true ↔ (kind x).order = none := by
  change UnpackedFloat.isNaN x.toModel.unpack = true ↔ _
  rw [kind]
  cases x.toModel.unpack with
  | notANumber => decide
  | infinity sign =>
      cases sign <;> exact iff_of_false Bool.false_ne_true (Option.some_ne_none _)
  | zero sign => exact iff_of_false Bool.false_ne_true (Option.some_ne_none _)
  | finite sign m e hm =>
      cases sign <;> exact iff_of_false Bool.false_ne_true (Option.some_ne_none _)

theorem not_zero_lt_of_isNaN (x : Float) (h : x.isNaN = true) : ¬ 0.0 < x := by
  rw [zero_lt_iff, (isNaN_iff x).mp h]
  exact Option.some_ne_none _ ∘ Eq.symm

theorem isNaN_of_isFinite (x : Float) (h : x.isFinite = true) : x.isNaN = false := by
  change UnpackedFloat.isFinite x.toModel.unpack = true at h
  change UnpackedFloat.isNaN x.toModel.unpack = false
  cases hx : x.toModel.unpack with
  | notANumber =>
      rw [hx] at h
      exact absurd h Bool.false_ne_true
  | _ => rfl

/-- What is not at most zero is above zero, or not a number. -/
theorem not_le_zero_iff (x : Float) : ¬ x ≤ 0.0 ↔ 0.0 < x ∨ x.isNaN = true := by
  -- All three conditions depend on how `x` compares with zero, which has four outcomes.
  rw [zero_lt_iff, isNaN_iff, le_iff, unpack_zero, UnpackedFloat.le, compare_zero, kind]
  generalize (kindOf x.toModel.unpack).order = order
  decide +revert

/-- At least zero is what is not below zero, and is a number. -/
theorem zero_le_iff (x : Float) : 0.0 ≤ x ↔ ¬ x < 0.0 ∧ x.isNaN ≠ true := by
  rw [lt_zero_iff, ne_eq, isNaN_iff, le_iff, unpack_zero, UnpackedFloat.le, zero_compare, kind]
  generalize (kindOf x.toModel.unpack).order = order
  decide +revert

/-- Packing a rounded result keeps how it compares with zero. -/
theorem order_pack (u : UnpackedFloat) (h : Rounded u) :
    (kindOf (Float.Model.pack u).unpack).order = (kindOf u).order := by
  obtain hsame | ⟨sign, m, e, hm, hu, _, hinfinite⟩ := kindOf_pack u h
  · rw [hsame]
  · rw [hinfinite, hu]
    cases sign <;> rfl

theorem rounded_unpack (x : Float.Model) : Rounded x.unpack := by
  cases hx : x.unpack with
  | finite sign m e hm => exact ⟨(unpack_bounds x sign m e hm hx).1,
      (unpack_bounds x sign m e hm hx).2.1⟩
  | _ => trivial

/-- What is above zero is infinite or has a significand. -/
theorem eq_of_order_gt (u : UnpackedFloat) (h : (kindOf u).order = some .gt) :
    u = .infinity .positive ∨ ∃ m e hm, u = .finite .positive m e hm := by
  cases u with
  | notANumber => cases h
  | zero sign => cases h
  | infinity sign =>
      cases sign with
      | negative => cases h
      | positive => exact .inl rfl
  | finite sign m e hm =>
      cases sign with
      | negative => cases h
      | positive => exact .inr ⟨m, e, hm, rfl⟩

/-- A whole multiple of the least double is not rounded to zero. -/
theorem kindOf_round (sign : Sign) (m : Nat) (e : Int) (hm : 0 < m) (he : -1074 ≤ e) :
    Rounded (UnpackedFloat.round Format.binary64 sign m e) ∧
      kindOf (UnpackedFloat.round Format.binary64 sign m e) = .finite sign := by
  have htarget : -1074 ≤ Format.binary64.targetExponent (totalExponent m e) := le_max_right _ _
  rw [UnpackedFloat.round]
  generalize Format.binary64.targetExponent (totalExponent m e) = target at htarget
  have hraised : 0 < m <<< (e - target).toNat := by
    rw [Nat.shiftLeft_eq]
    exact Nat.mul_pos hm (Nat.two_pow_pos _)
  have hexponent : -1074 ≤ e - (e - target).toNat := by omega
  simp only [decreaseExponent]
  refine ⟨rounded_roundWithAccuracy _ _ _ _, ?_⟩
  obtain ⟨_, hzero⟩ | ⟨m', e', hm', hround, _⟩ :=
    roundWithAccuracy_cases sign (m <<< (e - target).toNat) (e - (e - target).toNat) .exact
  · exact absurd ⟨hraised, hexponent⟩ hzero
  · rw [hround]
    rfl

/-- Positive doubles have a positive sum. -/
theorem order_add (u v : UnpackedFloat) (hu : Rounded u) (hv : Rounded v)
    (hupos : (kindOf u).order = some .gt) (hvpos : (kindOf v).order = some .gt) :
    Rounded (UnpackedFloat.add Format.binary64 u v) ∧
      (kindOf (UnpackedFloat.add Format.binary64 u v)).order = some .gt := by
  obtain rfl | ⟨m, e, hm, rfl⟩ := eq_of_order_gt u hupos
  · obtain rfl | ⟨m', e', hm', rfl⟩ := eq_of_order_gt v hvpos
    · exact ⟨trivial, rfl⟩
    · exact ⟨trivial, rfl⟩
  · obtain rfl | ⟨m', e', hm', rfl⟩ := eq_of_order_gt v hvpos
    · exact ⟨trivial, rfl⟩
    · -- Both are brought to the smaller exponent, and their significands added.
      have hsum : 0 < m <<< (e - min e e').toNat + m' <<< (e' - min e e').toNat := by
        rw [Nat.shiftLeft_eq]
        exact Nat.add_pos_left (Nat.mul_pos hm (Nat.two_pow_pos _)) _
      obtain ⟨hrounded, hkind⟩ := kindOf_round .positive _ (min e e') hsum (le_min hu.2 hv.2)
      have hadd : UnpackedFloat.add Format.binary64 (.finite .positive m e hm)
          (.finite .positive m' e' hm') = UnpackedFloat.round Format.binary64 .positive
            (m <<< (e - min e e').toNat + m' <<< (e' - min e e').toNat) (min e e') := by
        simp only [UnpackedFloat.add, decreaseExponent, Sign.apply]
        rw [← Nat.cast_add, UnpackedFloat.normalize,
          Int.compare_eq_gt.mpr (Int.natCast_pos.mpr hsum), Int.toNat_natCast]
      rw [hadd, hkind]
      exact ⟨hrounded, rfl⟩

theorem add_pos (x y : Float) (hx : 0.0 < x) (hy : 0.0 < y) : 0.0 < x + y := by
  rw [zero_lt_iff] at hx hy ⊢
  obtain ⟨hrounded, horder⟩ :=
    order_add _ _ (rounded_unpack x.toModel) (rounded_unpack y.toModel) hx hy
  exact (order_pack _ hrounded).trans horder

/-- Minus zero adds nothing. -/
theorem negZero_add_pos (x : Float) (hx : 0.0 < x) : 0.0 < -0.0 + x := by
  rw [zero_lt_iff] at hx ⊢
  have hadd : (-0.0 + x).toModel = Float.Model.pack x.toModel.unpack := by
    have hzero : (-0.0 : Float).toModel.unpack = .zero .negative := rfl
    change Float.Model.pack (UnpackedFloat.add Format.binary64 (-0.0 : Float).toModel.unpack
      x.toModel.unpack) = _
    rw [hzero]
    obtain hx | ⟨m, e, hm, hx⟩ := eq_of_order_gt _ hx <;> rw [hx] <;> rfl
  rw [kind, hadd]
  exact (order_pack _ (rounded_unpack x.toModel)).trans hx

/-- A sum of positive doubles is positive, if there are any. -/
theorem sum_pos (xs : List Float) (hsome : xs ≠ []) (hpos : ∀ x ∈ xs, 0.0 < x) :
    0.0 < Scalar.sum xs := by
  have hrest : ∀ (ys : List Float) (total : Float), 0.0 < total → (∀ y ∈ ys, 0.0 < y) →
      0.0 < ys.foldl (· + ·) total := by
    intro ys
    induction ys with
    | nil => exact fun total htotal _ => htotal
    | cons y rest ih =>
        intro total htotal hys
        exact ih (total + y) (add_pos total y htotal (hys y List.mem_cons_self))
          fun z hz => hys z (List.mem_cons_of_mem y hz)
  cases xs with
  | nil => exact absurd rfl hsome
  | cons x rest =>
      -- A sum starts at minus zero, which is not positive itself.
      exact hrest rest (-0.0 + x) (negZero_add_pos x (hpos x List.mem_cons_self))
        fun y hy => hpos y (List.mem_cons_of_mem x hy)

/-- What is not below zero is no number, zero, infinite or has a significand. -/
theorem eq_of_order_ne_lt (u : UnpackedFloat) (h : (kindOf u).order ≠ some .lt) :
    u = .notANumber ∨ (∃ sign, u = .zero sign) ∨ u = .infinity .positive ∨
      ∃ m e hm, u = .finite .positive m e hm := by
  cases u with
  | notANumber => exact .inl rfl
  | zero sign => exact .inr (.inl ⟨sign, rfl⟩)
  | infinity sign =>
      cases sign with
      | negative => exact absurd rfl h
      | positive => exact .inr (.inr (.inl rfl))
  | finite sign m e hm =>
      cases sign with
      | negative => exact absurd rfl h
      | positive => exact .inr (.inr (.inr ⟨m, e, hm, rfl⟩))

/-- A product of what is not below zero is not below zero. -/
theorem order_mul (u v : UnpackedFloat) (hu : (kindOf u).order ≠ some .lt)
    (hv : (kindOf v).order ≠ some .lt) :
    Rounded (UnpackedFloat.mul Format.binary64 u v) ∧
      (kindOf (UnpackedFloat.mul Format.binary64 u v)).order ≠ some .lt := by
  have hsign : Sign.positive * Sign.positive = .positive := rfl
  rcases eq_of_order_ne_lt u hu with rfl | ⟨sign, rfl⟩ | rfl | ⟨m, e, hm, rfl⟩ <;>
    rcases eq_of_order_ne_lt v hv with rfl | ⟨sign', rfl⟩ | rfl | ⟨m', e', hm', rfl⟩
  case inr.inr.inr.inr.inr.inr =>
    -- The only product that is rounded.
    refine ⟨rounded_roundWithAccuracy _ _ _ _, ?_⟩
    simp only [UnpackedFloat.mul, hsign]
    obtain ⟨hround, _⟩ | ⟨_, _, _, hround, _⟩ :=
      roundWithAccuracy_cases .positive (m * m') (e + e') .exact <;> rw [hround] <;>
      simp only [kindOf, Kind.order, ne_eq, Option.some.injEq, reduceCtorEq, not_false_eq_true]
  all_goals
    refine ⟨trivial, ?_⟩
    simp only [UnpackedFloat.mul, hsign, kindOf, Kind.order, ne_eq, Option.some.injEq,
      reduceCtorEq, not_false_eq_true]

theorem not_mul_lt_zero (x y : Float) (hx : ¬ x < 0.0) (hy : ¬ y < 0.0) : ¬ x * y < 0.0 := by
  rw [lt_zero_iff] at hx hy ⊢
  obtain ⟨hrounded, horder⟩ := order_mul _ _ hx hy
  exact fun h => horder ((order_pack _ hrounded).symm.trans h)

end Double

end Seismicity
