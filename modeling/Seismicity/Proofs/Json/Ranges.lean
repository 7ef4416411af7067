import Seismicity.Proofs.Double.Finite
import Seismicity.Proofs.Json.Numerals

/-!
# Numbers That Texts Hold

Whatever a text says, the numbers that are read from it are in range: counts have 64
bits, and doubles are finite.

A numeral may well stand for more. Digits that do not fit into 64 bits are counted, and
not taken in; what is left is scaled by powers of ten, which is a fault where it leaves
the range of doubles.

## Main definitions

* `Number.InRange`: Numbers of 64 bits.
* `Json.Scanned.InRange`: Trees whose numbers are in range.

## Theorems

* `Numeral.isFinite_scale`: Scaling keeps doubles finite.
* `Numeral.value_inRange`: Numerals are in range.
* `scan_inRange`: So are the numbers of every text.
-/

namespace Seismicity

/-- A number of 64 bits: whole numbers are below `2 ^ 64`, and doubles are finite. -/
def Number.InRange : Number → Prop
  | .natural n => n < twoTo 64
  | .negative n => n < twoTo 64
  | .real x => x.isFinite = true

namespace Json

/-- What is done with a result only adds to how it was reached. -/
theorem map_eq_ok {ε σ τ : Type} {result : Except ε σ} {f : σ → τ} {y : τ} :
    result.map f = .ok y ↔ ∃ x, result = .ok x ∧ f x = y := by
  cases result with
  | error e => simp only [Except.map, reduceCtorEq, false_and, exists_false]
  | ok x => simp only [Except.map, Except.ok.injEq, exists_eq_left']

/-- The numbers of a tree are in range, as far as they could be read. -/
inductive Scanned.InRange : Scanned → Prop where
  | null : InRange .null
  | bool (b : Bool) : InRange (.bool b)
  | number {value : Except Fault Number} (h : ∀ n, value = .ok n → n.InRange) :
      InRange (.number value)
  | string (text : Except Fault String) : InRange (.string text)
  | array {items : List Scanned} (ending : Ending) (h : ∀ item ∈ items, InRange item) :
      InRange (.array items ending)
  | object {members : List (Except Fault String × Scanned)} (ending : Ending)
      (h : ∀ m ∈ members, InRange m.2) : InRange (.object members ending)
  | deep {inner : Scanned} (h : InRange inner) : InRange (.deep inner)
  | word (read skipped : Fault) : InRange (.word read skipped)
  | broken (read skipped : Fault) : InRange (.broken read skipped)

namespace Numeral

theorem accumulate_lt (ds : List Char) : ∀ significand taken, significand < twoTo 64 →
    (accumulate significand taken ds).1 < twoTo 64 := by
  induction ds with
  | nil => exact fun _ _ h => h
  | cons c ds ih =>
      intro significand taken h
      rw [accumulate]
      by_cases hnext : 10 * significand + (c.toNat - '0'.toNat) < twoTo 64
      · rw [if_pos hnext]
        exact ih _ _ hnext
      · rw [if_neg hnext]
        exact h

section PowersOfTen

open Float.Model Float.Model.UnpackedFloat

/-- Powers of ten that are not tabulated are rounded, to doubles with all 53 bits. -/
theorem atLeastTwo_powerOfTen_rounded (n : Nat) (hlow : 22 < n) (hhigh : n ≤ 307) :
    Double.atLeastTwo (powerOfTen n).toModel.unpack = true := by
  have hscientific : (powerOfTen n).toModel = Float.Model.pack
      (roundWithAccuracy Format.binary64 .positive (1 <<< 53 * 10 ^ n) (-53) .exact) := by
    change (Float.ofScientific 1 false n).toModel = _
    rw [Float.ofScientific, dif_neg (by omega)]
    change Float.Model.pack (UnpackedFloat.ofScientific Format.binary64 1 n) = _
    have hexponents : (2 ^ Format.binary64.exponentBits : Int) = 2048 := by decide
    rw [UnpackedFloat.ofScientific, dif_neg (by decide), if_neg (by omega), if_neg (by omega),
      if_pos (by omega)]
    rfl
  have hpositive : 1 <<< 53 * 10 ^ n ≠ 0 := (Nat.mul_pos (by decide) (Nat.pow_pos (by decide))).ne'
  -- More than 53 bits are left, so that the exponent is kept, and fewer than 1074.
  have hleast : 106 ≤ (1 <<< 53 * 10 ^ n).log2 := by
    rw [Nat.le_log2 hpositive]
    calc 2 ^ 106 ≤ 1 <<< 53 * 10 ^ 22 := by decide
      _ ≤ 1 <<< 53 * 10 ^ n := Nat.mul_le_mul_left _ (Nat.pow_le_pow_right (by decide) hlow.le)
  have hmost : (1 <<< 53 * 10 ^ n).log2 < 1074 := by
    rw [Nat.log2_lt hpositive]
    calc 1 <<< 53 * 10 ^ n ≤ 1 <<< 53 * 10 ^ 307 :=
          Nat.mul_le_mul_left _ (Nat.pow_le_pow_right (by decide) hhigh)
      _ < 2 ^ 1074 := by decide +kernel
  obtain ⟨m, e, hm, hround, hall, hfrom, hto⟩ :=
    Double.roundWithAccuracy_normal .positive (1 <<< 53 * 10 ^ n) (-53) .exact (by omega)
      (by decide)
  have hrounded := Double.rounded_roundWithAccuracy .positive (1 <<< 53 * 10 ^ n) (-53) .exact
  rw [hround] at hrounded
  obtain ⟨m', e', hm', hunpack, _, hkeep⟩ :=
    (Double.unpack_pack_finite .positive m e hm hrounded).2 (by omega)
  obtain ⟨he', hbits⟩ := hkeep hall
  rw [hscientific, hround, hunpack]
  exact decide_eq_true (by omega)

/-- The powers of ten that are used are finite, and at least ten but for the first. -/
theorem atLeastTwo_powerOfTen (n : Nat) (hpos : 0 < n) (h : n ≤ 308) :
    Double.atLeastTwo (powerOfTen n).toModel.unpack = true := by
  have htabulated : ∀ k < 23, 0 < k → Double.atLeastTwo (powerOfTen k).toModel.unpack = true := by
    decide +kernel
  have hlast : Double.atLeastTwo (powerOfTen 308).toModel.unpack = true := by decide +kernel
  by_cases hsmall : n < 23
  · exact htabulated n hsmall hpos
  by_cases hlarge : n = 308
  · rw [hlarge]
    exact hlast
  · exact atLeastTwo_powerOfTen_rounded n (by omega) (by omega)

end PowersOfTen

theorem isFinite_powerOfTen (n : Nat) (h : n ≤ 308) : (powerOfTen n).isFinite = true := by
  by_cases hzero : n = 0
  · rw [hzero]
    decide
  · obtain ⟨sign, m, e, hm, hunpack, _⟩ :=
      Double.eq_of_atLeastTwo _ (atLeastTwo_powerOfTen n (Nat.pos_of_ne_zero hzero) h)
    exact congrArg Float.Model.UnpackedFloat.isFinite hunpack

/-- Scaling keeps a double finite, or fails. -/
theorem isFinite_scale (x : Float) (exponent : Int) (hx : x.isFinite = true) (y : Float)
    (h : scale x exponent = .ok y) : y.isFinite = true := by
  fun_induction scale x exponent with
  | case1 x exponent hpos hrange product hinf => exact absurd h (by simp)
  | case2 x exponent hpos hrange product hinf =>
      rw [← Except.ok.inj h]
      exact Double.isFinite_mul x _ hx (isFinite_powerOfTen _ (by omega))
        (Bool.eq_false_iff.mpr hinf)
  | case3 x exponent hpos hrange hzero => exact Except.ok.inj h ▸ hx
  | case4 x exponent hpos hrange hzero => exact absurd h (by simp)
  | case5 x exponent hneg hlow hzero => exact Except.ok.inj h ▸ hx
  | case6 x exponent hneg hlow hzero ih =>
      exact ih (Double.isFinite_div x _ hx (atLeastTwo_powerOfTen 308 (by decide) le_rfl)) h
  | case7 x exponent hneg hlow =>
      rw [← Except.ok.inj h]
      exact Double.isFinite_div x _ hx (atLeastTwo_powerOfTen _ (by omega) (by omega))

theorem isFinite_signed (negative : Bool) (x : Float) (h : x.isFinite = true) :
    (signed negative x).isFinite = true := by
  cases negative with
  | false => exact h
  | true => exact Double.isFinite_neg x h

theorem real_inRange (negative : Bool) (significand : Nat) (exponent : Int)
    (hfits : significand < twoTo 64) (n : Number)
    (h : real negative significand exponent = .ok n) : n.InRange := by
  obtain ⟨x, hscale, rfl⟩ := map_eq_ok.mp h
  exact isFinite_signed negative x
    (isFinite_scale _ _ (Double.isFinite_ofNat significand hfits) x hscale)

theorem withExponent_inRange (negative : Bool) (significand : Nat) (exponent : Int) (down : Bool)
    (ds : List Char) (hfits : significand < twoTo 64) (n : Number)
    (h : withExponent negative significand exponent down ds = .ok n) : n.InRange := by
  rw [withExponent] at h
  dsimp only at h
  split_ifs at h
  · rw [← Except.ok.inj h]
    exact isFinite_signed negative 0.0 (by decide)
  · exact real_inRange negative significand _ hfits n h
  · exact real_inRange negative significand _ hfits n h

theorem integer_inRange (negative : Bool) (n : Nat) (hfits : n < twoTo 64) :
    (integer negative n).InRange := by
  rw [integer]
  split_ifs
  · exact hfits
  · exact Double.isFinite_neg _ (Double.isFinite_ofNat n hfits)
  · exact hfits

/-- The number that a numeral stands for is in range. -/
theorem value_inRange (numeral : Numeral) (n : Number) (h : numeral.value = .ok n) :
    n.InRange := by
  have hwhole := accumulate_lt numeral.whole 0 0 (by decide)
  have hfraction := fun fraction => accumulate_lt fraction (accumulate 0 0 numeral.whole).1 0 hwhole
  rw [value] at h
  dsimp only at h
  split at h
  · split_ifs at h
    · rw [← Except.ok.inj h]
      exact integer_inRange _ _ hwhole
    · exact real_inRange _ _ _ hwhole n h
  · exact withExponent_inRange _ _ _ _ _ hwhole n h
  · split at h
    · exact real_inRange _ _ _ (hfraction _) n h
    · exact withExponent_inRange _ _ _ _ _ (hfraction _) n h

end Numeral

theorem Numeral.inRange_value (numeral : Numeral) : (Scanned.number numeral.value).InRange :=
  .number fun n h => numeral.value_inRange n h

theorem scanDigits_inRange (next : List Char → List Char → Scan)
    (h : ∀ ds after, (next ds after).1.InRange) (cs : List Char) :
    (scanDigits next cs).1.InRange := by
  rw [scanDigits]
  split_ifs
  · exact .word _ _
  · exact .word _ _
  · exact h _ _

theorem scanExponent_inRange (numeral : Numeral) (cs : List Char) :
    (scanExponent numeral cs).1.InRange := by
  cases cs with
  | nil => exact numeral.inRange_value
  | cons c cs =>
      rw [scanExponent_cons]
      split_ifs
      · exact scanDigits_inRange _ (fun _ _ => Numeral.inRange_value _) _
      · exact numeral.inRange_value

theorem scanUnsigned_inRange (negative : Bool) (cs : List Char) :
    (scanUnsigned negative cs).1.InRange := by
  rw [scanUnsigned_eq]
  refine scanDigits_inRange _ (fun ds after => ?_) cs
  split_ifs
  · exact .word _ _
  · unfold scanFraction
    split
    · exact scanDigits_inRange _ (fun _ _ => scanExponent_inRange _ _) _
    · exact scanExponent_inRange _ _

theorem scanLiteral_inRange {value : Scanned} (h : value.InRange) (expected cs : List Char) :
    (scanLiteral value expected cs).1.InRange := by
  induction expected generalizing cs with
  | nil => exact h
  | cons e expected ih =>
      cases cs with
      | nil => exact .word _ _
      | cons c cs =>
          rw [scanLiteral]
          split_ifs
          · exact ih cs
          · exact .word _ _

theorem scanText_inRange (cs : List Char) : (scanText cs).1.InRange := by
  rw [scanText]
  dsimp only
  split
  · exact .string _
  · exact .broken _ _
  · exact .broken _ _

theorem nested_inRange (depth : Nat) (scan : Scan) (h : scan.1.InRange) :
    (if depth = depthLimit then ((.deep scan.1, scan.2) : Scan) else scan).1.InRange := by
  split_ifs
  · exact .deep h
  · exact h

section Steps

variable (fuel depth : Nat) (cs : List Char)

theorem scanValue_inRange
    (hitems : ∀ depth cs, ∀ item ∈ (scanItems fuel depth cs).1, item.InRange)
    (hmembers : ∀ depth atEnd cs, ∀ m ∈ (scanMembers fuel depth atEnd cs).1, m.2.InRange) :
    (scanValue (fuel + 1) depth cs).1.InRange := by
  rw [scanValue]
  dsimp only
  split
  · exact .broken _ _
  · refine nested_inRange depth _ ?_
    split
    · exact .array _ fun _ h => absurd h List.not_mem_nil
    · exact .array _ fun _ h => absurd h List.not_mem_nil
    · exact .array _ (hitems _ _)
  · refine nested_inRange depth _ ?_
    split
    · exact .object _ fun _ h => absurd h List.not_mem_nil
    · exact .object _ (hmembers _ _ _)
  · exact scanText_inRange _
  · exact scanUnsigned_inRange _ _
  · split_ifs
    · exact scanUnsigned_inRange _ _
    · exact scanLiteral_inRange .null _ _
    · exact scanLiteral_inRange (.bool true) _ _
    · exact scanLiteral_inRange (.bool false) _ _
    · exact .broken _ _

/-- An item comes first, and others only after a comma. -/
theorem scanItems_inRange (hvalue : ∀ cs, (scanValue fuel depth cs).1.InRange)
    (hitems : ∀ cs, ∀ item ∈ (scanItems fuel depth cs).1, item.InRange) :
    ∀ item ∈ (scanItems (fuel + 1) depth cs).1, item.InRange := by
  have hone : ∀ item ∈ [(scanValue fuel depth cs).1], item.InRange :=
    fun item h => List.mem_singleton.mp h ▸ hvalue cs
  rw [scanItems]
  dsimp only
  split
  · exact hone
  · split
    · exact hone
    · exact hone
    · split
      · exact hone
      · exact hone
      · exact List.forall_mem_cons.mpr ⟨hvalue cs, hitems _⟩
    · exact hone

theorem scanMembers_inRange (atEnd : Ending)
    (hvalue : ∀ cs, (scanValue fuel depth cs).1.InRange)
    (hmembers : ∀ atEnd cs, ∀ m ∈ (scanMembers fuel depth atEnd cs).1, m.2.InRange) :
    ∀ m ∈ (scanMembers (fuel + 1) depth atEnd cs).1, m.2.InRange := by
  have hone : ∀ (key : Except Fault String) (value : Scanned), value.InRange →
      ∀ m ∈ [(key, value)], m.2.InRange :=
    fun key value h m hm => List.mem_singleton.mp hm ▸ h
  rw [scanMembers]
  dsimp only
  split
  · exact fun _ h => absurd h List.not_mem_nil
  · split
    · exact hone _ _ (.broken _ _)
    · split
      · exact hone _ _ (.broken _ _)
      · split
        · exact hone _ _ (hvalue _)
        · split
          · exact hone _ _ (hvalue _)
          · exact hone _ _ (hvalue _)
          · split
            · exact hone _ _ (hvalue _)
            · exact List.forall_mem_cons.mpr ⟨hvalue _, hmembers _ _⟩
          · exact hone _ _ (hvalue _)
      · exact hone _ _ (.broken _ _)
  · exact fun _ h => absurd h List.not_mem_nil

end Steps

/-- The induction is on the fuel, over values, items and members at once. -/
theorem scan_inRange_of_fuel (fuel : Nat) :
    (∀ depth cs, (scanValue fuel depth cs).1.InRange) ∧
      (∀ depth cs, ∀ item ∈ (scanItems fuel depth cs).1, item.InRange) ∧
      ∀ depth atEnd cs, ∀ m ∈ (scanMembers fuel depth atEnd cs).1, m.2.InRange := by
  induction fuel with
  | zero =>
      refine ⟨fun depth cs => ?_, fun depth cs => ?_, fun depth atEnd cs => ?_⟩
      · rw [scanValue]
        exact .broken _ _
      · rw [scanItems]
        exact fun _ h => absurd h List.not_mem_nil
      · rw [scanMembers]
        exact fun _ h => absurd h List.not_mem_nil
  | succ fuel ih =>
      obtain ⟨hvalue, hitems, hmembers⟩ := ih
      exact ⟨fun depth cs => scanValue_inRange fuel depth cs hitems hmembers,
        fun depth cs => scanItems_inRange fuel depth cs (hvalue depth) (hitems depth),
        fun depth atEnd cs =>
          scanMembers_inRange fuel depth cs atEnd (hvalue depth) (hmembers depth)⟩

/-- The numbers of every text are in range. -/
theorem scan_inRange (text : String) : (scan text).1.InRange :=
  (scan_inRange_of_fuel _).1 0 text.toList

end Json

end Seismicity
