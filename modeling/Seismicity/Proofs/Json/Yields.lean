import Seismicity.Json.Codec
import Seismicity.Proofs.Json.Ranges

/-!
# What Codecs Can Read

What is known of a value because a codec has read it, whatever the text was: doubles are
finite, since the numbers of every text are in range. Nothing else is, unless a codec
checks it.

Records are read from objects and from arrays, and what is known has to hold in both
cases; for objects it has to hold of the slots that the members are read into.

## Main definitions

* `Codec.Yields`: What all values have that a codec reads.
* `Fields.Yields`: What all records have that are read with some fields.

## Theorems

* `Codec.Yields.of_parse`: The values of all texts.
* `Codec.yields_real`, `Codec.Yields.list`, `Codec.Yields.pair`, `Codec.Yields.record`:
  Parts and wholes.
-/

namespace Seismicity

namespace Json

variable {β γ : Type}

/-- All values that a codec reads from trees in range are as `P` says. -/
def Codec.Yields (codec : Codec β) (P : β → Prop) : Prop :=
  ∀ tree x, Scanned.InRange tree → codec.decode tree = .ok x → P x

namespace Codec

variable {codec : Codec β} {P : β → Prop}

/-- All values that are read from texts are as `P` says. -/
theorem Yields.of_parse (h : codec.Yields P) (text : String) (x : β)
    (hparse : codec.parse text = .ok x) : P x := by
  rw [parse] at hparse
  dsimp only at hparse
  split at hparse
  · exact absurd hparse (by simp)
  next value hdecode =>
    split_ifs at hparse
    · exact Except.ok.inj hparse ▸ h _ value (scan_inRange text) hdecode

/-- Doubles that are read are finite. -/
theorem yields_real : real.Yields fun x => x.isFinite = true := by
  intro tree x hrange h
  simp only [real] at h
  split at h
  next n =>
    cases hrange with
    | number hn => exact Except.ok.inj h ▸ Double.isFinite_ofNat n (hn _ rfl)
  next n =>
    cases hrange with
    | number hn =>
        exact Except.ok.inj h ▸ Double.isFinite_neg _ (Double.isFinite_ofNat n (hn _ rfl))
  next y =>
    cases hrange with
    | number hn =>
        rw [← Except.ok.inj h]
        exact hn _ rfl
  next => exact absurd h (by simp)

theorem Yields.decodeItems (h : codec.Yields P) (items : List Scanned)
    (hrange : ∀ item ∈ items, item.InRange) :
    ∀ xs, codec.decodeItems items = .ok xs → ∀ x ∈ xs, P x := by
  induction items with
  | nil =>
      intro xs hdecode x hx
      rw [Codec.decodeItems, Except.ok.injEq] at hdecode
      exact absurd (hdecode ▸ hx) List.not_mem_nil
  | cons item items ih =>
      intro xs hdecode
      rw [Codec.decodeItems] at hdecode
      obtain ⟨hitem, hitems⟩ := List.forall_mem_cons.mp hrange
      split at hdecode
      · exact absurd hdecode (by simp)
      next y hy =>
        obtain ⟨ys, hrest, rfl⟩ := map_eq_ok.mp hdecode
        exact List.forall_mem_cons.mpr ⟨h item y hitem hy, ih hitems ys hrest⟩

theorem Yields.list (h : codec.Yields P) : codec.list.Yields fun xs => ∀ x ∈ xs, P x := by
  intro tree xs hrange hdecode
  simp only [Codec.list] at hdecode
  split at hdecode
  next items ending =>
    cases hrange with
    | array _ hitems =>
        split at hdecode
        · exact absurd hdecode (by simp)
        next ys hys =>
          split at hdecode
          · exact absurd hdecode (by simp)
          · exact Except.ok.inj hdecode ▸ h.decodeItems items hitems ys hys
  · exact absurd hdecode (by simp)
  · exact absurd hdecode (by simp)

/-- The next item of an array. -/
theorem Yields.nextItem (h : codec.Yields P) (index : Nat) (expected : String) (ending : Ending)
    (items : List Scanned) (hrange : ∀ item ∈ items, item.InRange) (x : β) (rest : List Scanned)
    (hnext : codec.nextItem index expected ending items = .ok (x, rest)) : P x := by
  cases items with
  | nil =>
      rw [Codec.nextItem] at hnext
      split at hnext <;> exact absurd hnext (by simp)
  | cons item items =>
      obtain ⟨y, hdecode, heq⟩ := map_eq_ok.mp hnext
      obtain ⟨rfl, _⟩ := Prod.mk.inj heq
      exact h item y (hrange item List.mem_cons_self) hdecode

/-- Of pairs the first member is all that is asked for here. -/
theorem Yields.pair (h : codec.Yields P) (second : Codec γ) :
    (codec.pair second).Yields fun p => P p.1 := by
  intro tree p hrange hdecode
  simp only [Codec.pair] at hdecode
  split at hdecode
  next items ending =>
    cases hrange with
    | array _ hitems =>
        split at hdecode
        · exact absurd hdecode (by simp)
        next x rest hx =>
          split at hdecode
          · exact absurd hdecode (by simp)
          next y rest' hy =>
            obtain ⟨_, _, rfl⟩ := map_eq_ok.mp hdecode
            exact h.nextItem 0 _ ending items hitems x rest hx
  · exact absurd hdecode (by simp)
  · exact absurd hdecode (by simp)

end Codec

/-- All records that are read with some fields are as `P` says, because what is read into
    the slots is always as `Q` says. -/
structure Fields.Yields (fields : Fields β) (Q : fields.Slots → Prop) (P : β → Prop) : Prop where
  blank : Q fields.blank
  accept : ∀ key value slots slots', Scanned.InRange value → Q slots →
    fields.accept key value slots = some (.ok slots') → Q slots'
  finish : ∀ slots x, Q slots → fields.finish slots = .ok x → P x
  sequence : ∀ index expected ending items x rest, (∀ item ∈ items, Scanned.InRange item) →
    fields.sequence index expected ending items = .ok (x, rest) → P x

namespace Fields

variable {P : β → Prop}

theorem Yields.readMembers {fields : Fields β} {Q : fields.Slots → Prop} (h : fields.Yields Q P)
    (members : List (Except Fault String × Scanned)) (hrange : ∀ m ∈ members, m.2.InRange) :
    ∀ slots slots', Q slots → fields.readMembers slots members = .ok slots' → Q slots' := by
  induction members with
  | nil =>
      intro slots slots' hslots hread
      rw [Fields.readMembers, Except.ok.injEq] at hread
      exact hread ▸ hslots
  | cons m members ih =>
      intro slots slots' hslots hread
      obtain ⟨key, value⟩ := m
      obtain ⟨hvalue, hmembers⟩ := List.forall_mem_cons.mp hrange
      cases key with
      | error fault => exact absurd hread (by simp [Fields.readMembers])
      | ok key =>
          rw [Fields.readMembers] at hread
          split at hread
          · exact absurd hread (by simp)
          next next haccept =>
            have hnext := h.accept key value slots next hvalue hslots haccept
            exact ih hmembers next slots' hnext hread
          next =>
            split at hread
            · exact absurd hread (by simp)
            · exact ih hmembers slots slots' hslots hread

theorem Yields.read {fields : Fields β} {Q : fields.Slots → Prop} (h : fields.Yields Q P)
    (name : String) (tree : Scanned) (x : β) (hrange : tree.InRange)
    (hread : fields.read name tree = .ok x) : P x := by
  unfold Fields.read at hread
  split at hread
  next members ending =>
    cases hrange with
    | object _ hmembers =>
        rw [readObject] at hread
        split at hread
        · exact absurd hread (by simp)
        next slots hslots =>
          split at hread
          · exact absurd hread (by simp)
          · exact h.finish slots x (h.readMembers members hmembers _ slots h.blank hslots) hread
  next items ending =>
    cases hrange with
    | array _ hitems =>
        split at hread
        · exact absurd hread (by simp)
        next y rest hy =>
          obtain ⟨_, _, rfl⟩ := map_eq_ok.mp hread
          exact h.sequence 0 _ ending items y rest hitems hy
  · exact absurd hread (by simp)
  · exact absurd hread (by simp)

/-- A field that has to be there. -/
theorem yields_field {codec : Codec β} (h : codec.Yields P) (name : String) :
    (field name codec required).Yields (fun slot : Option β => ∀ x, slot = some x → P x) P where
  blank x hx := absurd hx (by simp [field])
  accept key value slot slot' hrange _ haccept := by
    intro x hx
    simp only [field] at haccept
    split_ifs at haccept
    split at haccept
    · exact absurd haccept (by simp)
    · obtain ⟨y, hdecode, hy⟩ := map_eq_ok.mp (Option.some.inj haccept)
      rw [← hy, Option.some.injEq] at hx
      exact hx ▸ h value y hrange hdecode
  finish slot x hslot hfinish := by
    simp only [field, required] at hfinish
    split at hfinish
    · exact Except.ok.inj hfinish ▸ hslot _ rfl
    · exact absurd hfinish (by simp)
  sequence index expected ending items x rest hrange hsequence := by
    simp only [field, required] at hsequence
    exact h.nextItem index expected ending items hrange x rest hsequence

/-- The fields of a type that corresponds to another one. -/
theorem Yields.via {fields : Fields β} {Q : fields.Slots → Prop} (h : fields.Yields Q P)
    {R : γ → Prop} (make : β → γ) (view : γ → β) (hmake : ∀ x, P x → R (make x)) :
    (fields.via make view).Yields Q R where
  blank := h.blank
  accept := h.accept
  finish slots y hslots hfinish := by
    obtain ⟨x, hx, rfl⟩ := map_eq_ok.mp hfinish
    exact hmake x (h.finish slots x hslots hx)
  sequence index expected ending items y rest hrange hsequence := by
    obtain ⟨p, hp, heq⟩ := map_eq_ok.mp hsequence
    obtain ⟨rfl, _⟩ := Prod.mk.inj heq
    exact hmake _ (h.sequence index expected ending items p.1 p.2 hrange hp)

end Fields

theorem Codec.Yields.record {fields : Fields β} {Q : fields.Slots → Prop} {P : β → Prop}
    (h : fields.Yields Q P) (name : String) : (Codec.record name fields).Yields P :=
  fun tree x hrange hdecode => h.read _ tree x hrange hdecode

end Json

end Seismicity
