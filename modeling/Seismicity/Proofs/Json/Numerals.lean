import Mathlib.Data.List.TakeWhile
import Seismicity.Json.Value
import Seismicity.Json.Scanned

/-!
# Numerals in Text

A numeral is read the same wherever it stands, as long as what follows it cannot
belong to it.

## Main definitions

* `Json.Stops`: A text that does not go on with a numeral.
* `Json.Legible`: A number that is read back from its text.

## Theorems

* `scanUnsigned_eq`: A numeral is digits, a fraction and an exponent.
* `scanExponent_append`, `scanUnsigned_append`: What follows a numeral does not matter.
* `Legible.scanValue_eq`: A legible number is read back wherever it stands.
* `legible_natural`: Counts of 64 bits are legible.
-/

namespace Seismicity

namespace Json

/-- A text does not go on with a numeral: it is empty, or starts with a character that
    no numeral has after its first digit. -/
def Stops (rest : List Char) : Prop :=
  ∀ c ∈ rest.head?, c.isDigit = false ∧ c ≠ '.' ∧ c ≠ 'e' ∧ c ≠ 'E'

/-- A run of characters ends where a text stops that has none of them in front. -/
theorem takeWhile_append_stop (p : Char → Bool) (cs rest : List Char)
    (h : ∀ c ∈ rest.head?, p c = false) :
    (cs ++ rest).takeWhile p = cs.takeWhile p ∧
      (cs ++ rest).dropWhile p = cs.dropWhile p ++ rest := by
  induction cs with
  | nil =>
      cases rest with
      | nil => exact ⟨rfl, rfl⟩
      | cons c rest =>
          have hc := h c rfl
          simp only [List.nil_append, List.takeWhile_cons, List.dropWhile_cons, hc,
            Bool.false_eq_true, if_false, List.takeWhile_nil, List.dropWhile_nil, and_self]
  | cons c cs ih =>
      rw [List.cons_append, List.takeWhile_cons, List.dropWhile_cons, List.takeWhile_cons,
        List.dropWhile_cons, ih.1, ih.2]
      cases p c with
      | true => exact ⟨rfl, rfl⟩
      | false => exact ⟨rfl, rfl⟩

/-- Scans at least one digit, and goes on with the digits and the text after them. -/
def scanDigits (next : List Char → List Char → Scan) (cs : List Char) : Scan :=
  if cs.isEmpty then cutNumeral
  else if (cs.takeWhile Char.isDigit).isEmpty then faultyNumeral
  else next (cs.takeWhile Char.isDigit) (cs.dropWhile Char.isDigit)

/-- The sign of an exponent, and the text after it. -/
def splitSign : List Char → Bool × List Char
  | '-' :: cs => (true, cs)
  | '+' :: cs => (false, cs)
  | cs => (false, cs)

/-- Scans an exponent after its mark. -/
def scanMarked (numeral : Numeral) (cs : List Char) : Scan :=
  scanDigits
    (fun ds after => (.number { numeral with exponent := some ((splitSign cs).1, ds) }.value,
      some after))
    (splitSign cs).2

/-- Scans a numeral after its whole part. -/
def scanFraction (numeral : Numeral) : List Char → Scan
  | '.' :: after =>
    scanDigits (fun ds after => scanExponent { numeral with fraction := some ds } after) after
  | rest => scanExponent numeral rest

theorem scanExponent_cons (numeral : Numeral) (c : Char) (cs : List Char) :
    scanExponent numeral (c :: cs) =
      if c = 'e' || c = 'E' then scanMarked numeral cs
      else (.number numeral.value, some (c :: cs)) := rfl

/-- A numeral is digits without a leading zero, then a fraction and an exponent. -/
theorem scanUnsigned_eq (negative : Bool) (cs : List Char) :
    scanUnsigned negative cs =
      scanDigits (fun ds after =>
        if ds.head? == some '0' && 1 < ds.length then faultyNumeral
        else scanFraction
          { negative := negative, whole := ds, fraction := none, exponent := none } after) cs := by
  rw [scanDigits]
  cases hnone : (cs.takeWhile Char.isDigit).isEmpty with
  | true => simp only [scanUnsigned, hnone, Bool.true_or, if_true]
  | false =>
      simp only [scanUnsigned, hnone, Bool.false_or, Bool.false_eq_true, if_false]
      rfl

/-- Numerals with a fault are not numbers. -/
theorem faultyWord_ne (read skipped : Fault) (v : Except Fault Number)
    (rest : Option (List Char)) : faultyWord read skipped ≠ (.number v, rest) := by
  simp only [faultyWord, ne_eq, Prod.mk.injEq, reduceCtorEq, false_and, not_false_eq_true]

section Following

variable (rest : List Char) (hstop : Stops rest) (v : Except Fault Number)

include hstop

theorem scanDigits_append (next : List Char → List Char → Scan)
    (hnext : ∀ ds after, next ds after = (.number v, some []) →
      next ds (after ++ rest) = (.number v, some rest))
    (cs : List Char) (h : scanDigits next cs = (.number v, some [])) :
    scanDigits next (cs ++ rest) = (.number v, some rest) := by
  obtain ⟨htake, hdrop⟩ :=
    takeWhile_append_stop Char.isDigit cs rest fun c hc => (hstop c hc).1
  rw [scanDigits] at h ⊢
  rw [htake, hdrop]
  cases cs with
  | nil => exact absurd h (faultyWord_ne _ _ _ _)
  | cons c cs =>
      rw [List.isEmpty_cons, if_neg Bool.false_ne_true] at h
      rw [List.cons_append, List.isEmpty_cons, if_neg Bool.false_ne_true]
      by_cases hnone : ((c :: cs).takeWhile Char.isDigit).isEmpty = true
      · rw [if_pos hnone] at h
        exact absurd h (faultyWord_ne _ _ _ _)
      · rw [if_neg hnone] at h ⊢
        exact hnext _ _ h

theorem scanMarked_append (numeral : Numeral) (cs : List Char)
    (h : scanMarked numeral cs = (.number v, some [])) :
    scanMarked numeral (cs ++ rest) = (.number v, some rest) := by
  have hsplit : cs ≠ [] →
      splitSign (cs ++ rest) = ((splitSign cs).1, (splitSign cs).2 ++ rest) := by
    cases cs with
    | nil => exact fun hne => absurd rfl hne
    | cons c cs =>
        intro _
        by_cases hminus : c = '-'
        · rw [hminus]
          rfl
        by_cases hplus : c = '+'
        · rw [hplus]
          rfl
        · have hunsigned : ∀ cs, splitSign (c :: cs) = (false, c :: cs) := by
            intro cs
            rw [splitSign] <;> simp only [List.cons.injEq, hminus, hplus, false_and,
              false_imp_iff, implies_true]
          rw [List.cons_append, hunsigned, hunsigned, List.cons_append]
  cases cs with
  | nil => exact absurd h (faultyWord_ne _ _ _ _)
  | cons c cs =>
      rw [scanMarked] at h ⊢
      rw [hsplit (List.cons_ne_nil c cs)]
      refine scanDigits_append rest hstop v _ (fun ds after hafter => ?_) _ h
      rw [Prod.mk.injEq, Option.some.injEq] at hafter
      rw [hafter.1, hafter.2, List.nil_append]

/-- What follows an exponent does not matter. -/
theorem scanExponent_append (numeral : Numeral) (cs : List Char)
    (h : scanExponent numeral cs = (.number v, some [])) :
    scanExponent numeral (cs ++ rest) = (.number v, some rest) := by
  cases cs with
  | nil =>
      cases rest with
      | nil => exact h
      | cons c rest =>
          obtain ⟨_, _, he, hE⟩ := hstop c rfl
          simp only [scanExponent, Prod.mk.injEq, Scanned.number.injEq, and_true] at h
          simp only [List.nil_append, scanExponent_cons, he, hE, decide_false, Bool.or_self,
            Bool.false_eq_true, if_false, h]
  | cons c cs =>
      rw [scanExponent_cons] at h
      rw [List.cons_append, scanExponent_cons]
      by_cases hmark : (c = 'e' || c = 'E') = true
      · rw [if_pos hmark] at h ⊢
        exact scanMarked_append rest hstop v numeral cs h
      · rw [if_neg hmark] at h
        exact absurd h (by simp only [Prod.mk.injEq, Option.some.injEq, reduceCtorEq, and_false,
          not_false_eq_true])

theorem scanFraction_append (numeral : Numeral) (cs : List Char)
    (h : scanFraction numeral cs = (.number v, some [])) :
    scanFraction numeral (cs ++ rest) = (.number v, some rest) := by
  by_cases hpoint : cs.head? = some '.'
  · rcases List.head?_eq_some_iff.mp hpoint with ⟨after, rfl⟩
    exact scanDigits_append rest hstop v
      (fun ds after => scanExponent { numeral with fraction := some ds } after)
      (fun ds after hafter => scanExponent_append rest hstop v _ after hafter) after h
  · have hplain : ∀ text : List Char, text.head? ≠ some '.' →
        scanFraction numeral text = scanExponent numeral text := by
      intro text htext
      rw [scanFraction]
      intro after hafter
      exact htext (hafter ▸ rfl)
    rw [hplain cs hpoint] at h
    rw [hplain]
    · exact scanExponent_append rest hstop v numeral cs h
    · cases cs with
      | nil => exact fun hhead => (hstop '.' hhead).2.1 rfl
      | cons c cs => exact hpoint

/-- What follows a numeral does not matter. -/
theorem scanUnsigned_append (negative : Bool) (cs : List Char)
    (h : scanUnsigned negative cs = (.number v, some [])) :
    scanUnsigned negative (cs ++ rest) = (.number v, some rest) := by
  rw [scanUnsigned_eq] at h ⊢
  refine scanDigits_append rest hstop v _ (fun ds after hafter => ?_) cs h
  by_cases hzero : (ds.head? == some '0' && decide (1 < ds.length)) = true
  · rw [if_pos hzero] at hafter
    exact absurd hafter (faultyWord_ne _ _ _ _)
  · rw [if_neg hzero] at hafter ⊢
    exact scanFraction_append rest hstop v _ after hafter

end Following

/-- The numeral in front of a text without blanks: whether it has a sign, and the text
    after that. -/
def numeral? : List Char → Option (Bool × List Char)
  | '-' :: cs => some (true, cs)
  | c :: cs => if c.isDigit then some (false, c :: cs) else none
  | [] => none

/-- A numeral is scanned as one, inside whatever brackets. -/
theorem scanValue_numeral (fuel depth : Nat) (cs body : List Char) (negative : Bool)
    (h : numeral? (skipBlank cs) = some (negative, body)) :
    scanValue (fuel + 1) depth cs = scanUnsigned negative body := by
  rw [scanValue]
  split
  next htext => exact absurd (htext ▸ h) (by simp only [numeral?, reduceCtorEq, not_false_eq_true])
  next rest htext => exact absurd (htext ▸ h) (Option.some_ne_none _).symm
  next rest htext => exact absurd (htext ▸ h) (Option.some_ne_none _).symm
  next rest htext => exact absurd (htext ▸ h) (Option.some_ne_none _).symm
  next rest htext =>
    rw [htext, numeral?, Option.some.injEq, Prod.mk.injEq] at h
    rw [← h.1, ← h.2]
  next c rest _ _ _ hminus htext =>
    rw [htext, numeral?] at h
    · by_cases hdigit : c.isDigit = true
      · rw [if_pos hdigit, Option.some.injEq, Prod.mk.injEq] at h
        rw [if_pos hdigit, ← h.1, ← h.2]
      · rw [if_neg hdigit] at h
        exact absurd h (Option.some_ne_none _).symm
    · exact hminus

/-- A literal that is scanned as a number is one. -/
theorem scanLiteral_number (value : Scanned) (expected rest : List Char)
    (v : Except Fault Number) (after : Option (List Char))
    (h : scanLiteral value expected rest = (.number v, after)) : value = .number v := by
  induction expected generalizing rest with
  | nil => exact (Prod.mk.inj h).1
  | cons e expected ih =>
      cases rest with
      | nil => exact absurd h (faultyWord_ne _ _ _ _)
      | cons c rest =>
          rw [scanLiteral] at h
          by_cases hsame : e = c
          · rw [if_pos hsame] at h
            exact ih rest h
          · rw [if_neg hsame] at h
            exact absurd h (faultyWord_ne _ _ _ _)

/-- Only numerals are scanned as numbers. -/
theorem exists_numeral (fuel depth : Nat) (cs : List Char) (v : Except Fault Number)
    (after : Option (List Char)) (h : scanValue (fuel + 1) depth cs = (.number v, after)) :
    ∃ negative body, numeral? (skipBlank cs) = some (negative, body) := by
  rw [scanValue] at h
  split at h
  · exact absurd h (by simp [faulty])
  · dsimp only at h
    split at h
    · exact absurd h (by simp)
    · split at h <;> exact absurd h (by simp)
  · dsimp only at h
    split at h
    · exact absurd h (by simp)
    · split at h <;> exact absurd h (by simp)
  · rw [scanText] at h
    dsimp only at h
    split at h <;> exact absurd h (by simp [faulty])
  next htext => exact ⟨true, _, congrArg numeral? htext⟩
  next c rest _ _ _ hminus htext =>
    rw [htext, numeral?]
    · by_cases hdigit : c.isDigit = true
      · rw [if_pos hdigit]
        exact ⟨false, c :: rest, rfl⟩
      · rw [if_neg hdigit] at h
        split_ifs at h
        · exact absurd (scanLiteral_number _ _ _ _ _ h)
            (by simp only [reduceCtorEq, not_false_eq_true])
        · exact absurd (scanLiteral_number _ _ _ _ _ h)
            (by simp only [reduceCtorEq, not_false_eq_true])
        · exact absurd (scanLiteral_number _ _ _ _ _ h)
            (by simp only [reduceCtorEq, not_false_eq_true])
        · exact absurd h (by simp [faulty])
    · exact hminus

/-- A number is read back from its text. -/
def Legible (n : Number) : Prop := scan (renderNumber n) = (.number (.ok n), some [])

theorem numeral?_append_right (text rest body : List Char) (negative : Bool)
    (h : numeral? text = some (negative, body)) :
    text ≠ [] ∧ numeral? (text ++ rest) = some (negative, body ++ rest) := by
  cases text with
  | nil => exact absurd h (Option.some_ne_none _).symm
  | cons c text =>
      refine ⟨List.cons_ne_nil c text, ?_⟩
      by_cases hminus : c = '-'
      · subst hminus
        simp only [numeral?, Option.some.injEq, Prod.mk.injEq] at h
        rw [List.cons_append, numeral?, h.1, h.2]
      · have hunsigned : ∀ text, numeral? (c :: text) =
            if c.isDigit then some (false, c :: text) else none := by
          intro text
          rw [numeral?]
          exact fun hc => hminus hc
        rw [hunsigned] at h
        rw [List.cons_append, hunsigned]
        by_cases hdigit : c.isDigit = true
        · rw [if_pos hdigit, Option.some.injEq, Prod.mk.injEq] at h
          rw [if_pos hdigit, h.1, ← h.2, List.cons_append]
        · rw [if_neg hdigit] at h
          exact absurd h (Option.some_ne_none _).symm

/-- A numeral begins where a text does, whatever follows. -/
theorem numeral?_append (cs rest body : List Char) (negative : Bool)
    (h : numeral? (skipBlank cs) = some (negative, body)) :
    numeral? (skipBlank (cs ++ rest)) = some (negative, body ++ rest) := by
  obtain ⟨hsome, hnumeral⟩ := numeral?_append_right _ rest body negative h
  have hblank : skipBlank (cs ++ rest) = skipBlank cs ++ rest := by
    rw [skipBlank, List.dropWhile_append, if_neg]
    · rfl
    · exact mt List.isEmpty_iff.mp hsome
  rw [hblank]
  exact hnumeral

/-- A legible number is read back wherever it stands. -/
theorem Legible.scanValue_eq {n : Number} (h : Legible n) (fuel depth : Nat) (rest : List Char)
    (hstop : Stops rest) :
    scanValue (fuel + 1) depth ((renderNumber n).toList ++ rest)
      = (.number (.ok n), some rest) := by
  have hscan : scanValue (2 * (renderNumber n).toList.length + 1 + 1) 0 (renderNumber n).toList
      = (.number (.ok n), some []) := h
  rcases exists_numeral _ _ _ _ _ hscan with ⟨negative, body, hnumeral⟩
  rw [scanValue_numeral _ _ _ _ _ hnumeral] at hscan
  rw [scanValue_numeral _ _ _ _ _ (numeral?_append _ rest body negative hnumeral)]
  exact scanUnsigned_append rest hstop _ negative body hscan

/-- Digits whose number has 64 bits are all taken in. -/
theorem Numeral.accumulate_eq (ds : List Char) :
    ∀ significand taken, Nat.ofDigitChars 10 ds significand < twoTo 64 →
      accumulate significand taken ds
        = (Nat.ofDigitChars 10 ds significand, taken + ds.length, true) := by
  -- Further digits never make a number smaller.
  have hgrow : ∀ (ds : List Char) (n : Nat), n ≤ Nat.ofDigitChars 10 ds n := by
    intro ds
    induction ds with
    | nil => exact fun n => le_rfl
    | cons d ds ih =>
        intro n
        rw [Nat.ofDigitChars_cons]
        exact le_trans (by omega) (ih _)
  induction ds with
  | nil => exact fun significand taken _ => rfl
  | cons d ds ih =>
      intro significand taken hfits
      rw [Nat.ofDigitChars_cons] at hfits ⊢
      rw [accumulate, if_pos ((hgrow ds _).trans_lt hfits), ih _ _ hfits, List.length_cons,
        Nat.add_right_comm, Nat.add_assoc]

/-- Only zero has a leading zero. -/
theorem length_toDigits (n : Nat) (h : (Nat.toDigits 10 n).head? = some '0') :
    (Nat.toDigits 10 n).length = 1 := by
  induction n using Nat.strong_induction_on with
  | _ n ih =>
      by_cases hsmall : n < 10
      · rw [Nat.toDigits_of_lt_base hsmall]
        rfl
      · rcases List.exists_cons_of_ne_nil (Nat.toDigits_ne_nil (n := n / 10) (b := 10))
          with ⟨c, rest, hdigits⟩
        rw [Nat.toDigits_of_base_le (by decide) (Nat.le_of_not_lt hsmall), hdigits,
          List.cons_append, List.head?_cons, Option.some.injEq] at h
        have hone := ih (n / 10) (Nat.div_lt_self (by omega) (by decide))
          (by rw [hdigits, List.head?_cons, h])
        -- A quotient with the one digit zero would be zero.
        rw [hdigits, List.length_cons, Nat.succ_inj, List.length_eq_zero_iff] at hone
        have hzero : n / 10 = 0 := by
          rw [← Nat.ofDigitChars_ten_toDigits (n := n / 10), hdigits, h, hone]
          rfl
        omega

theorem isDigit_of_mem (n : Nat) (c : Char) (h : c ∈ Nat.toDigits 10 n) : c.isDigit = true :=
  Nat.isDigit_of_mem_toDigits (by decide) le_rfl h

theorem numeral?_toDigits (n : Nat) :
    numeral? (skipBlank (Nat.toDigits 10 n)) = some (false, Nat.toDigits 10 n) := by
  rcases List.exists_cons_of_ne_nil (Nat.toDigits_ne_nil (n := n) (b := 10)) with ⟨c, rest, hcons⟩
  have hc := isDigit_of_mem n c (hcons ▸ List.mem_cons_self)
  have hblank : isBlank c = false := by
    rw [← Bool.not_eq_true]
    intro hblank
    simp only [isBlank, Bool.or_eq_true, decide_eq_true_eq, or_assoc] at hblank
    rcases hblank with rfl | rfl | rfl | rfl <;> exact absurd hc (by decide)
  rw [hcons, skipBlank, List.dropWhile_cons, hblank, if_neg Bool.false_ne_true, numeral?,
    if_pos hc]
  rintro rfl
  exact absurd hc (by decide)

theorem scanDigits_toDigits (next : List Char → List Char → Scan) (n : Nat) :
    scanDigits next (Nat.toDigits 10 n) = next (Nat.toDigits 10 n) [] := by
  have hsome : (Nat.toDigits 10 n).isEmpty = false :=
    List.isEmpty_eq_false_iff.mpr Nat.toDigits_ne_nil
  rw [scanDigits, List.takeWhile_eq_self_iff.mpr (isDigit_of_mem n),
    List.dropWhile_eq_nil_iff.mpr (isDigit_of_mem n), hsome, if_neg Bool.false_ne_true,
    if_neg Bool.false_ne_true]

/-- The numeral of a count of 64 bits stands for it. -/
theorem Numeral.value_toDigits (n : Nat) (h : n < twoTo 64) :
    Numeral.value
      { negative := false, whole := Nat.toDigits 10 n, fraction := none, exponent := none }
        = .ok (.natural n) := by
  have haccumulate : accumulate 0 0 (Nat.toDigits 10 n)
      = (n, (Nat.toDigits 10 n).length, true) := by
    rw [accumulate_eq, Nat.ofDigitChars_ten_toDigits, Nat.zero_add]
    rwa [Nat.ofDigitChars_ten_toDigits]
  simp only [value, haccumulate, if_true, integer, Bool.not_false]

/-- Counts of 64 bits are legible. -/
theorem legible_natural (n : Nat) (h : n < twoTo 64) : Legible (.natural n) := by
  have htext : (renderNumber (.natural n)).toList = Nat.toDigits 10 n := Nat.toList_repr
  have hzero : ((Nat.toDigits 10 n).head? == some '0'
      && decide (1 < (Nat.toDigits 10 n).length)) = false := by
    rw [Bool.and_eq_false_iff, beq_eq_false_iff_ne, decide_eq_false_iff_not, or_iff_not_imp_left,
      not_not]
    intro hhead
    rw [length_toDigits n hhead]
    exact lt_irrefl 1
  change scanValue (2 * (renderNumber (.natural n)).toList.length + 1 + 1) 0
    (renderNumber (.natural n)).toList = _
  rw [htext, scanValue_numeral _ _ _ _ _ (numeral?_toDigits n), scanUnsigned_eq,
    scanDigits_toDigits, hzero, if_neg Bool.false_ne_true]
  exact congrArg (fun value => (Scanned.number value, some [])) (Numeral.value_toDigits n h)

end Json

end Seismicity
