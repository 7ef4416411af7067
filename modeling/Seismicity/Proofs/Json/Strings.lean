import Mathlib.Data.List.Basic
import Seismicity.Json.Scanned

/-!
# Quoted Strings

Every string is read back from its quoted text.

Each character is quoted on its own and makes one piece: itself, or for a control
character without a letter of its own the number of its four-digit escape. No such
number is a surrogate, so that the pieces are joined one by one, too.

## Main definitions

* `Json.pieceOf`: The piece that a quoted character makes.

## Theorems

* `scanString_escape`, `joinPieces_pieceOf`: A quoted character is one piece, which is
  joined to it.
* `scanString_quoted`, `readPieces_quoted`: A quoted string is read as itself.
-/

namespace Seismicity

namespace Json

/-- The piece that a quoted character makes. -/
def pieceOf (c : Char) : Piece :=
  if c.toNat < 32 ∧ c ≠ '\n' ∧ c ≠ '\r' ∧ c ≠ '\t' ∧ c.toNat ≠ 8 ∧ c.toNat ≠ 12 then
    .unit c.toNat
  else .char c

/-- The two last digits of the escape of a control character. -/
theorem hexUnit?_control (n : Nat) (h : n < 32) :
    hexUnit? '0' '0' (hexDigit (n / 16)) (hexDigit (n % 16)) = some n := by
  have hall : ∀ k < 32, hexUnit? '0' '0' (hexDigit (k / 16)) (hexDigit (k % 16)) = some k := by
    decide
  exact hall n h

/-- A quoted character is one piece. -/
theorem scanString_escape (c : Char) (rest : List Char) :
    scanString (escape c ++ rest) = (pieceOf c :: (scanString rest).1, (scanString rest).2) := by
  by_cases hquote : c = '"'
  · rw [hquote]
    rfl
  by_cases hbackslash : c = '\\'
  · rw [hbackslash]
    rfl
  by_cases hline : c = '\n'
  · rw [hline]
    rfl
  by_cases hreturn : c = '\r'
  · rw [hreturn]
    rfl
  by_cases htab : c = '\t'
  · rw [htab]
    rfl
  have hofNat : ∀ n, c.toNat = n → c = Char.ofNat n :=
    fun n hn => hn ▸ (Char.ofNat_toNat c).symm
  by_cases hback : c.toNat = 8
  · rw [hofNat 8 hback]
    rfl
  by_cases hfeed : c.toNat = 12
  · rw [hofNat 12 hfeed]
    rfl
  rw [escape, if_neg hquote, if_neg hbackslash, if_neg hline, if_neg hreturn, if_neg htab,
    if_neg hback, if_neg hfeed, pieceOf]
  by_cases hcontrol : c.toNat < 32
  · rw [if_pos hcontrol, if_pos ⟨hcontrol, hline, hreturn, htab, hback, hfeed⟩]
    change scanString ('\\' :: 'u' :: '0' :: '0' :: _ :: _ :: rest) = _
    rw [scanString, hexUnit?_control c.toNat hcontrol]
  · rw [if_neg hcontrol, if_neg fun h => hcontrol h.1]
    change scanString (c :: rest) = _
    rw [scanString, if_neg hcontrol]
    -- The other rules are for quotes and backslashes.
    all_goals simp only [hquote, hbackslash, false_imp_iff, implies_true]

/-- The piece of a character is joined to it. -/
theorem joinPieces_pieceOf (atEnd : Fault) (c : Char) (rest : List Piece) :
    joinPieces atEnd (pieceOf c :: rest) = (joinPieces atEnd rest).map (c :: ·) := by
  rw [pieceOf]
  by_cases hunit : c.toNat < 32 ∧ c ≠ '\n' ∧ c ≠ '\r' ∧ c ≠ '\t' ∧ c.toNat ≠ 8 ∧ c.toNat ≠ 12
  · have htrailing : isTrailing c.toNat = false := by
      rw [isTrailing, Bool.and_eq_false_iff, decide_eq_false_iff_not]
      omega
    have hleading : isLeading c.toNat = false := by
      rw [isLeading, Bool.and_eq_false_iff, decide_eq_false_iff_not]
      omega
    rw [if_pos hunit, joinPieces.eq_def]
    simp only [htrailing, hleading, Bool.false_eq_true, if_false, Char.ofNat_toNat]
  · rw [if_neg hunit]
    rfl

theorem scanString_quoted (cs rest : List Char) :
    scanString (cs.flatMap escape ++ '"' :: rest) = (cs.map pieceOf, .ok rest) := by
  induction cs with
  | nil => rfl
  | cons c cs ih =>
      rw [List.flatMap_cons, List.append_assoc, scanString_escape, ih, List.map_cons]

theorem joinPieces_map (atEnd : Fault) (cs : List Char) :
    joinPieces atEnd (cs.map pieceOf) = .ok cs := by
  induction cs with
  | nil => rfl
  | cons c cs ih =>
      rw [List.map_cons, joinPieces_pieceOf, ih]
      rfl

/-- The pieces of a quoted string are read as the string. -/
theorem readPieces_quoted (s : String) (rest : List Char) :
    readPieces (s.toList.map pieceOf) (.ok rest) = .ok s := by
  rw [readPieces, joinPieces_map, Except.map, String.ofList_toList]

end Json

end Seismicity
