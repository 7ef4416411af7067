import Mathlib.Data.List.Nodup
import Seismicity.Binning

/-!
# Filling Cells

What the loop over the keys of points leaves behind: one cell for each key that
occurs, in the order of the first occurrences, holding the positions of that
key in increasing order.

The loop keeps two structures in step, a table from keys to the places of their
cells and the cells themselves. `Filling.Holds` says what both are once some
entries have been added. Adding an entry preserves it, so the fold over all
entries establishes it, and the cells can be read off. Nothing below mentions
the table again.

## Main definitions

* `Binning.indicesOf`: The indices that are entered under a key.
* `Binning.Filling.Holds`: A filling is what some entries lead to.

## Theorems

* `nodup_eraseDups`: Erasing repetitions leaves none.
* `eraseDups_concat_of_mem`, `eraseDups_concat_of_notMem`: A further entry is
  erased or kept.
* `modify_map`: Changing one image of a list without repetitions.
* `Filling.add_holds`: Adding an entry preserves the invariant.
* `Filling.foldl_holds`: A loop over entries establishes it.
* `groupPositions_eq`: The cells of a list of keys.
* `filterMap_indicesOf`: The entries at the positions of a key.
* `flatMap_filter_perm`: Sorting entries into shares by key loses none.
* `groupPositions_flatten_perm`: The cells hold each position once.
-/

namespace Seismicity

namespace Binning

variable {κ : Type} [BEq κ] [LawfulBEq κ]

theorem nodup_eraseDups (keys : List κ) : keys.eraseDups.Nodup := by
  -- The rest is filtered before it is searched, so the recursion is on the
  -- length and not on the list.
  induction hn : keys.length using Nat.strongRecOn generalizing keys with
  | ind n ih =>
      cases keys with
      | nil => exact List.nodup_nil
      | cons key rest =>
          rw [List.eraseDups_cons, List.nodup_cons]
          refine ⟨fun hmem => ?_, ih _ ?_ _ rfl⟩
          · rw [List.mem_eraseDups, List.mem_filter] at hmem
            simp only [BEq.rfl, Bool.not_true, Bool.false_eq_true, and_false] at hmem
          · have hle := List.length_filter_le (fun k => !k == key) rest
            rw [List.length_cons] at hn
            omega

theorem eraseDups_concat_of_mem (keys : List κ) (key : κ) (h : key ∈ keys) :
    (keys ++ [key]).eraseDups = keys.eraseDups := by
  have hnone : [key].removeAll keys = [] := by
    simp only [List.removeAll, List.filter_cons, List.filter_nil, List.elem_eq_mem, h,
      decide_true, Bool.not_true, Bool.false_eq_true, if_false]
  rw [List.eraseDups_append, hnone, List.eraseDups_nil, List.append_nil]

theorem eraseDups_concat_of_notMem (keys : List κ) (key : κ) (h : key ∉ keys) :
    (keys ++ [key]).eraseDups = keys.eraseDups ++ [key] := by
  have hkept : [key].removeAll keys = [key] := by
    simp only [List.removeAll, List.filter_cons, List.filter_nil, List.elem_eq_mem, h,
      decide_false, Bool.not_false, if_true]
  rw [List.eraseDups_append, hkept, List.eraseDups_cons, List.filter_nil, List.eraseDups_nil]

omit [BEq κ] [LawfulBEq κ] in
/-- Changing the image of one entry of a list that does not repeat it. -/
theorem modify_map {γ : Type} (keys : List κ) (hnodup : keys.Nodup) (f f' : κ → γ) (g : γ → γ)
    (key : κ) (place : Nat) (hplace : keys[place]? = some key)
    (hkey : f' key = g (f key)) (hother : ∀ k, k ≠ key → f' k = f k) :
    (keys.map f).modify place g = keys.map f' := by
  apply List.ext_getElem?
  intro i
  rw [List.getElem?_modify, List.getElem?_map, List.getElem?_map]
  by_cases hi : place = i
  · subst hi
    rw [hplace]
    simp only [Option.map_some, Option.map_eq_map, if_true, hkey]
  · simp only [if_neg hi, Option.map_eq_map]
    cases hk : keys[i]? with
    | none => rfl
    | some k =>
        have hne : k ≠ key := by
          intro heq
          rw [heq, ← hplace] at hk
          have hlt : i < keys.length := by
            by_contra hge
            rw [List.getElem?_eq_none (by omega), hplace] at hk
            exact absurd hk (by simp only [reduceCtorEq, not_false_eq_true])
          exact hi ((List.getElem?_inj hlt hnodup).mp hk).symm
        simp only [Option.map_some, hother k hne]

/-- The indices that are entered under a key, in order. -/
def indicesOf (key : κ) (entries : List (κ × Nat)) : List Nat :=
  (entries.filter fun entry => entry.1 == key).map Prod.snd

theorem indicesOf_concat_self (key : κ) (index : Nat) (entries : List (κ × Nat)) :
    indicesOf key (entries ++ [(key, index)]) = indicesOf key entries ++ [index] := by
  simp only [indicesOf, List.filter_append, List.filter_cons, BEq.rfl, if_true, List.filter_nil,
    List.map_append, List.map_cons, List.map_nil]

theorem indicesOf_concat_other (key k : κ) (index : Nat) (entries : List (κ × Nat))
    (h : k ≠ key) : indicesOf k (entries ++ [(key, index)]) = indicesOf k entries := by
  have hne : (key == k) = false := beq_eq_false_iff_ne.mpr (Ne.symm h)
  simp only [indicesOf, List.filter_append, List.filter_cons, hne, Bool.false_eq_true, if_false,
    List.filter_nil, List.append_nil]

theorem indicesOf_eq_nil (key : κ) (entries : List (κ × Nat))
    (h : key ∉ entries.map Prod.fst) : indicesOf key entries = [] := by
  rw [indicesOf, List.map_eq_nil_iff, List.filter_eq_nil_iff]
  intro entry hmem hkey
  exact h (List.mem_map.mpr ⟨entry, hmem, eq_of_beq hkey⟩)

/-- The filling that entries lead to: a cell for each key in the order of the
    first occurrences, and a table that finds the cell of each key. -/
structure Filling.Holds (entries : List (κ × Nat)) (f : Filling κ) : Prop where
  cells : f.cells =
    (entries.map Prod.fst).eraseDups.map fun key => indicesOf key entries
  places : ∀ key place, f.places.lookup key = some place ↔
    (entries.map Prod.fst).eraseDups[place]? = some key

/-- The table has no place for exactly the keys that have not been entered. -/
theorem Filling.Holds.lookup_eq_none {entries : List (κ × Nat)} {f : Filling κ}
    (h : Filling.Holds entries f) {key : κ} (hnone : f.places.lookup key = none) :
    key ∉ entries.map Prod.fst := by
  intro hmem
  rcases List.mem_iff_getElem?.mp (List.mem_eraseDups.mpr hmem) with ⟨place, hplace⟩
  rw [(h.places key place).mpr hplace] at hnone
  exact absurd hnone (by simp only [reduceCtorEq, not_false_eq_true])

/-- An entry under a key that has a cell goes into that cell. -/
theorem Filling.add_holds_of_some (entries : List (κ × Nat)) (f : Filling κ)
    (h : Filling.Holds entries f) (key : κ) (index place : Nat)
    (hplace : f.places.lookup key = some place) :
    Filling.Holds (entries ++ [(key, index)]) (f.add key index) := by
  have hget := (h.places key place).mp hplace
  have hmem : key ∈ entries.map Prod.fst :=
    List.mem_eraseDups.mp (List.mem_of_getElem? hget)
  have hkeys : ((entries ++ [(key, index)]).map Prod.fst).eraseDups
      = (entries.map Prod.fst).eraseDups := by
    rw [List.map_append, List.map_cons, List.map_nil]
    exact eraseDups_concat_of_mem _ _ hmem
  refine ⟨?_, fun k p => ?_⟩
  · rw [hkeys]
    simp only [Filling.add, hplace, h.cells]
    exact modify_map _ (nodup_eraseDups _) _ _ _ key place hget
      (indicesOf_concat_self key index entries)
      (fun k hne => indicesOf_concat_other key k index entries hne)
  · rw [hkeys]
    simp only [Filling.add, hplace]
    exact h.places k p

/-- An entry under a new key opens a cell at the end. -/
theorem Filling.add_holds_of_none (entries : List (κ × Nat)) (f : Filling κ)
    (h : Filling.Holds entries f) (key : κ) (index : Nat)
    (hnone : f.places.lookup key = none) :
    Filling.Holds (entries ++ [(key, index)]) (f.add key index) := by
  have hnew := h.lookup_eq_none hnone
  have hkeys : ((entries ++ [(key, index)]).map Prod.fst).eraseDups
      = (entries.map Prod.fst).eraseDups ++ [key] := by
    rw [List.map_append, List.map_cons, List.map_nil]
    exact eraseDups_concat_of_notMem _ _ hnew
  have hlen : f.cells.length = (entries.map Prod.fst).eraseDups.length := by
    rw [h.cells, List.length_map]
  refine ⟨?_, fun k p => ?_⟩
  · rw [hkeys, List.map_append, List.map_cons, List.map_nil, indicesOf_concat_self,
      indicesOf_eq_nil key entries hnew]
    simp only [Filling.add, hnone, h.cells, List.nil_append]
    congr 1
    refine List.map_congr_left fun k hk => ?_
    have hne : k ≠ key := fun heq => hnew (heq ▸ List.mem_eraseDups.mp hk)
    exact (indicesOf_concat_other key k index entries hne).symm
  · rw [hkeys]
    simp only [Filling.add, hnone, List.lookup_cons, hlen]
    by_cases hk : k = key
    · subst hk
      simp only [BEq.rfl, Option.some.injEq]
      constructor
      · intro hp
        rw [← hp, List.getElem?_concat_length]
      · intro hp
        -- The new key is not among the old ones, so its place is the last.
        have hnotold : ¬ p < (entries.map Prod.fst).eraseDups.length := by
          intro hlt
          rw [List.getElem?_append_left hlt] at hp
          exact hnew (List.mem_eraseDups.mp (List.mem_of_getElem? hp))
        have hbound := (List.getElem?_eq_some_iff.mp hp).1
        rw [List.length_append, List.length_cons, List.length_nil] at hbound
        omega
    · have hkb : (k == key) = false := beq_eq_false_iff_ne.mpr hk
      simp only [hkb]
      rw [h.places k p]
      by_cases hlt : p < (entries.map Prod.fst).eraseDups.length
      · rw [List.getElem?_append_left hlt]
      · rw [List.getElem?_append_right (by omega), List.getElem?_eq_none (by omega)]
        simp only [reduceCtorEq, false_iff]
        intro hp
        have hmem := List.mem_of_getElem? hp
        rw [List.mem_singleton] at hmem
        exact hk hmem

/-- Adding an entry preserves the invariant. -/
theorem Filling.add_holds (entries : List (κ × Nat)) (f : Filling κ)
    (h : Filling.Holds entries f) (key : κ) (index : Nat) :
    Filling.Holds (entries ++ [(key, index)]) (f.add key index) := by
  cases hplace : f.places.lookup key with
  | none => exact Filling.add_holds_of_none entries f h key index hplace
  | some place => exact Filling.add_holds_of_some entries f h key index place hplace

/-- A loop over entries establishes the invariant for all of them. -/
theorem Filling.foldl_holds (more : List (κ × Nat)) : ∀ (entries : List (κ × Nat)) (f : Filling κ),
    Filling.Holds entries f →
    Filling.Holds (entries ++ more) (more.foldl (fun f (key, index) => f.add key index) f) := by
  induction more with
  | nil =>
      intro entries f h
      rw [List.append_nil]
      exact h
  | cons entry rest ih =>
      intro entries f h
      have hnext := ih _ _ (Filling.add_holds entries f h entry.1 entry.2)
      rw [List.append_assoc, List.singleton_append] at hnext
      exact hnext

/-- The cells of a list of keys: one for each key that occurs, in the order of
    the first occurrences, with the positions of that key. -/
theorem groupPositions_eq (keys : List κ) :
    groupPositions keys = keys.eraseDups.map fun key => indicesOf key keys.zipIdx := by
  have hstart : Filling.Holds ([] : List (κ × Nat)) { places := [], cells := [] } := by
    refine ⟨rfl, fun key place => ?_⟩
    simp only [List.lookup_nil, List.map_nil, List.eraseDups_nil, List.getElem?_nil, reduceCtorEq]
  have hend := (Filling.foldl_holds keys.zipIdx [] _ hstart).cells
  rw [List.nil_append, List.zipIdx_map_fst] at hend
  exact hend

omit [LawfulBEq κ] in
/-- Looking up the positions of a key in what the keys were computed from gives
    the entries that have the key. -/
theorem filterMap_indicesOf {γ : Type} (xs : List γ) (f : γ → κ) (key : κ) :
    (indicesOf key (xs.map f).zipIdx).filterMap (fun i => xs[i]?)
      = xs.filter fun x => f x == key := by
  -- Entries that carry their positions are found again at them.
  have hback : ∀ p ∈ xs.zipIdx.filter (fun p => f p.1 == key), xs[p.2]? = some p.1 := by
    intro p hp
    exact List.mem_zipIdx_iff_getElem?.mp (List.mem_filter.mp hp).1
  calc (indicesOf key (xs.map f).zipIdx).filterMap (fun i => xs[i]?)
      = (xs.zipIdx.filter fun p => f p.1 == key).filterMap (fun p => xs[p.2]?) := by
        simp only [indicesOf, List.zipIdx_map, List.filter_map, List.map_map, List.filterMap_map]
        rfl
    _ = (xs.zipIdx.filter fun p => f p.1 == key).filterMap (fun p => some p.1) :=
        List.filterMap_congr hback
    _ = (xs.zipIdx.filter fun p => f p.1 == key).map Prod.fst := by
        rw [← List.filterMap_eq_map]
        rfl
    _ = (xs.zipIdx.map Prod.fst).filter (fun x => f x == key) := by
        rw [List.filter_map]
        rfl
    _ = xs.filter fun x => f x == key := by rw [List.zipIdx_map_fst]

/-- One more entry for one of the keys, put in front of its share. -/
theorem flatMap_cons_perm {γ : Type} (keys : List κ) (hnodup : keys.Nodup) (key : κ)
    (hmem : key ∈ keys) (share : κ → List γ) (x : γ) :
    (keys.flatMap fun k => if key == k then x :: share k else share k).Perm
      (x :: keys.flatMap share) := by
  induction keys with
  | nil => exact absurd hmem List.not_mem_nil
  | cons k rest ih =>
      rw [List.flatMap_cons, List.flatMap_cons]
      rw [List.nodup_cons] at hnodup
      by_cases hk : key = k
      · subst hk
        -- Keys are not repeated, so the other shares stay as they are.
        have hrest : (rest.flatMap fun k => if key == k then x :: share k else share k)
            = rest.flatMap share := by
          refine List.flatMap_congr fun k hkm => ?_
          have hne : (key == k) = false :=
            beq_eq_false_iff_ne.mpr fun heq => hnodup.1 (heq ▸ hkm)
          rw [if_neg (by rw [hne]; exact Bool.false_ne_true)]
        rw [hrest, if_pos BEq.rfl, List.cons_append]
      · have hne : ¬ (key == k) = true := fun heq => hk (eq_of_beq heq)
        have htail := ih hnodup.2 ((List.mem_cons.mp hmem).resolve_left hk)
        rw [if_neg hne]
        exact (htail.append_left (share k)).trans List.perm_middle

/-- Entries sorted into shares by key are the entries. -/
theorem flatMap_filter_perm {γ : Type} (xs : List γ) (f : γ → κ) (keys : List κ)
    (hnodup : keys.Nodup) (hcover : ∀ x ∈ xs, f x ∈ keys) :
    (keys.flatMap fun key => xs.filter fun x => f x == key).Perm xs := by
  induction xs with
  | nil =>
      have hnil : (keys.flatMap fun key => ([] : List γ).filter fun x => f x == key) = [] := by
        rw [List.flatMap_eq_nil_iff]
        intro key _
        exact List.filter_nil
      rw [hnil]
  | cons x rest ih =>
      have hx : f x ∈ keys := hcover x List.mem_cons_self
      have hrest := ih fun y hy => hcover y (List.mem_cons_of_mem x hy)
      simp only [List.filter_cons]
      exact (flatMap_cons_perm keys hnodup (f x) hx _ x).trans (hrest.cons x)

/-- The cells hold each position once. -/
theorem groupPositions_flatten_perm (keys : List κ) :
    (groupPositions keys).flatten.Perm (List.range keys.length) := by
  have hshares : (groupPositions keys).flatten
      = (keys.eraseDups.flatMap fun key =>
          keys.zipIdx.filter fun entry => entry.1 == key).map Prod.snd := by
    rw [groupPositions_eq, List.map_flatMap]
    rfl
  have hcover : ∀ entry ∈ keys.zipIdx, entry.1 ∈ keys.eraseDups := by
    intro entry hmem
    rw [List.mem_eraseDups]
    exact List.mem_of_getElem? (List.mem_zipIdx_iff_getElem?.mp hmem)
  rw [hshares, List.range_eq_range', ← List.zipIdx_map_snd 0 keys]
  exact (flatMap_filter_perm _ Prod.fst _ (nodup_eraseDups keys) hcover).map Prod.snd

end Binning

end Seismicity
