import Mathlib.Data.List.Nodup
import Seismicity.Json.Tagged
import Seismicity.Proofs.Json.Scanning

/-!
# What Is Written Is Read

Codecs are put together from codecs, and so are the reasons why they read what they
write.

A value is *faithful* to a codec if it is written as a readable value, whose tree is
read as the value again. For the fields of a record this takes more: the members that
are written have to find their way into the slots they belong to, although every field
is asked for every member, and the members of other fields stand in between. That is
why the fields say under which names they write, and leave all other names alone.

## Main definitions

* `Codec.Faithful`, `Fields.Faithful`, `Variant.Faithful`, `TaggedVariant.Faithful`: A
  value is read back from what it is written as.
* `Codec.Restores`: A value is read back from its text.

## Theorems

* `Codec.Faithful.restores`: Trees and texts.
* `Fields.Faithful.both`: The fields of two records.
* `Codec.Faithful.variants`, `Codec.Faithful.tagged`: Alternatives.
-/

namespace Seismicity

namespace Json

/-- A value of a codec is written as a readable value, and read back from it. -/
structure Codec.Faithful {β : Type} (codec : Codec β) (n : Nat) (x : β) : Prop where
  readable : Readable n (codec.encode x)
  decode : codec.decode (tree (codec.encode x)) = .ok x

/-- The fields of a record write under the given names, take no member of another name,
    and put the record together again from the members that they write, as long as no two
    of them share a name. -/
structure Fields.Faithful {β : Type} (fields : Fields β) (names : List String) (n : Nat)
    (x : β) : Prop where
  ignores : ∀ key ∉ names, ∀ value slots, fields.accept key value slots = none
  named : ∀ m ∈ fields.write x, m.1 ∈ names
  readable : ∀ m ∈ fields.write x, Readable n m.2
  reads : names.Nodup → ∃ slots,
    fields.readMembers fields.blank (memberTrees (fields.write x)) = .ok slots ∧
      fields.finish slots = .ok x

/-- A value is read back from its text, be it on one line or on many. -/
def Codec.Restores {β : Type} (codec : Codec β) (x : β) : Prop :=
  codec.parse (render (codec.encode x)) = .ok x ∧ codec.parse (text (codec.encode x)) = .ok x

/-- The texts of a faithful value are read as the value. -/
theorem Codec.Faithful.restores {β : Type} {codec : Codec β} {n : Nat} {x : β}
    (h : codec.Faithful n x) (hn : n ≤ depthLimit) : codec.Restores x := by
  have hparse : ∀ written, scan written = (tree (codec.encode x), some []) →
      codec.parse written = .ok x := by
    intro written hscan
    simp only [Codec.parse, hscan, h.decode]
    rfl
  exact ⟨hparse _ (scan_render h.readable hn), hparse _ (scan_text h.readable hn)⟩

section Trees

theorem memberTrees_append (members more : List (String × Json)) :
    memberTrees (members ++ more) = memberTrees members ++ memberTrees more := by
  induction members with
  | nil => rfl
  | cons m members ih => rw [List.cons_append, memberTrees, memberTrees, ih, List.cons_append]

/-- Trees of values can be read as values of any kind. -/
theorem keep_tree (j : Json) : (tree j).keep = .ok () := by
  induction j using induct with
  | null => rfl
  | bool b => rfl
  | number n => rfl
  | string s => rfl
  | array items ih =>
      have hitems : Scanned.keepItems (itemTrees items) = .ok () := by
        induction items with
        | nil => rfl
        | cons item items ihitems =>
            rw [itemTrees, Scanned.keepItems, ih item List.mem_cons_self]
            exact ihitems fun j hj => ih j (List.mem_cons_of_mem item hj)
      rw [tree, Scanned.keep, hitems]
      rfl
  | object members ih =>
      have hmembers : Scanned.keepMembers (memberTrees members) = .ok () := by
        induction members with
        | nil => rfl
        | cons m members ihmembers =>
            rw [memberTrees, Scanned.keepMembers, ih m List.mem_cons_self]
            exact ihmembers fun j hj => ih j (List.mem_cons_of_mem m hj)
      rw [tree, Scanned.keep, hmembers]
      rfl

end Trees

namespace Codec

variable {β γ : Type} {n : Nat}

theorem encode_real {x : Float} (h : x.isFinite = true) :
    real.encode x = .number (.real x) := if_pos h

theorem faithful_real (n : Nat) (x : Float) (hfinite : x.isFinite = true)
    (h : Legible (.real x)) : real.Faithful n x := by
  constructor
  · exact encode_real hfinite ▸ .number h
  · rw [encode_real hfinite]
    rfl

theorem faithful_count (n k : Nat) (h : k < twoTo 64) : count.Faithful n k :=
  ⟨.number (legible_natural k h), rfl⟩

theorem faithful_string (n : Nat) (s : String) : string.Faithful n s := ⟨.string s, rfl⟩

theorem faithful_none (codec : Codec β) (n : Nat) : codec.option.Faithful n none := ⟨.null, rfl⟩

/-- A value that is there is told from one that is not if it is not written as null. -/
theorem Faithful.option {codec : Codec β} {x : β} (h : codec.Faithful n x)
    (hnull : codec.encode x ≠ .null) : codec.option.Faithful n (some x) := by
  have hdecode : codec.option.decode (tree (codec.encode x))
      = (codec.decode (tree (codec.encode x))).map some := by
    cases hencode : codec.encode x with
    | null => exact absurd hencode hnull
    | _ => rfl
  exact ⟨h.readable, hdecode.trans (by rw [h.decode]; rfl)⟩

theorem Faithful.list {codec : Codec β} {xs : List β} (h : ∀ x ∈ xs, codec.Faithful n x) :
    codec.list.Faithful (n + 1) xs := by
  have hitems : codec.decodeItems (itemTrees (xs.map codec.encode)) = .ok xs := by
    induction xs with
    | nil => rfl
    | cons x xs ih =>
        rw [List.map_cons, itemTrees, decodeItems, (h x List.mem_cons_self).decode,
          ih fun y hy => h y (List.mem_cons_of_mem x hy)]
        rfl
  constructor
  · refine .array fun item hitem => ?_
    rcases List.mem_map.mp hitem with ⟨x, hx, rfl⟩
    exact (h x hx).readable
  · change codec.list.decode (.array (itemTrees (xs.map codec.encode)) .closed) = _
    simp only [Codec.list, hitems]
    rfl

theorem Faithful.pair {first : Codec β} {second : Codec γ} {x : β} {y : γ}
    (hx : first.Faithful n x) (hy : second.Faithful n y) :
    (first.pair second).Faithful (n + 1) (x, y) := by
  constructor
  · refine .array fun item hitem => ?_
    rcases List.mem_cons.mp hitem with rfl | hitem
    · exact hx.readable
    · exact List.mem_singleton.mp hitem ▸ hy.readable
  · change (first.pair second).decode
      (.array [tree (first.encode x), tree (second.encode y)] .closed) = _
    simp only [Codec.pair, nextItem, hx.decode, hy.decode, Except.map]
    rfl

end Codec

namespace Fields

variable {β γ : Type} {n : Nat} {names : List String}

/-- Reads one member of an object into its slot. -/
def take (fields : Fields β) (slots : fields.Slots) :
    Except Fault String × Scanned → Except Error fields.Slots
  | (.error fault, _) => .error (.fault fault)
  | (.ok key, value) =>
    match fields.accept key value slots with
    | some result => result
    | none => (orFault value.skip).map fun _ => slots

/-- Members are read one after the other. -/
theorem readMembers_eq_foldlM (fields : Fields β)
    (members : List (Except Fault String × Scanned)) :
    ∀ slots, fields.readMembers slots members = members.foldlM fields.take slots := by
  induction members with
  | nil => exact fun slots => rfl
  | cons m members ih =>
      intro slots
      obtain ⟨key, value⟩ := m
      rw [List.foldlM_cons]
      cases key with
      | error fault => rfl
      | ok key =>
          rw [readMembers, take]
          cases fields.accept key value slots with
          | none =>
              cases orFault value.skip with
              | error e => rfl
              | ok _ => exact ih slots
          | some result =>
              cases result with
              | error e => rfl
              | ok slots => exact ih slots

section Both

variable (first : Fields β) (second : Fields γ) (m : Except Fault String × Scanned)

/-- A member that the second fields ignore is read by the first. -/
theorem take_both_first (b : second.Slots)
    (hignore : ∀ key, m.1 = .ok key → ∀ value slots, second.accept key value slots = none)
    (a : first.Slots) :
    (first.both second).take (a, b) m = (first.take a m).map fun a => (a, b) := by
  obtain ⟨key, value⟩ := m
  cases key with
  | error fault => rfl
  | ok key =>
      simp only [take, both, hignore key rfl]
      cases first.accept key value a with
      | none => cases orFault value.skip <;> rfl
      | some result => rfl

/-- A member that the first fields ignore is read by the second. -/
theorem take_both_second (a : first.Slots)
    (hignore : ∀ key, m.1 = .ok key → ∀ value slots, first.accept key value slots = none)
    (b : second.Slots) :
    (first.both second).take (a, b) m = (second.take b m).map fun b => (a, b) := by
  obtain ⟨key, value⟩ := m
  cases key with
  | error fault => rfl
  | ok key =>
      simp only [take, both, hignore key rfl]
      cases second.accept key value b with
      | none => cases orFault value.skip <;> rfl
      | some result => rfl

end Both

/-- A fold goes on inside of a part of its state that alone changes. -/
theorem foldlM_map {ε σ τ μ : Type} (whole : τ → μ → Except ε τ) (part : σ → μ → Except ε σ)
    (embed : σ → τ) (ms : List μ)
    (h : ∀ m ∈ ms, ∀ s, whole (embed s) m = (part s m).map embed) :
    ∀ s, ms.foldlM whole (embed s) = (ms.foldlM part s).map embed := by
  induction ms with
  | nil => exact fun s => rfl
  | cons m ms ih =>
      intro s
      rw [List.foldlM_cons, List.foldlM_cons, h m List.mem_cons_self]
      cases part s m with
      | error e => rfl
      | ok s => exact ih (fun m hm => h m (List.mem_cons_of_mem _ hm)) s

theorem mem_memberTrees {members : List (String × Json)} {t : Except Fault String × Scanned}
    (h : t ∈ memberTrees members) : ∃ m ∈ members, t = (.ok m.1, tree m.2) := by
  induction members with
  | nil => exact absurd h List.not_mem_nil
  | cons m members ih =>
      rw [memberTrees, List.mem_cons] at h
      rcases h with rfl | h
      · exact ⟨m, List.mem_cons_self, rfl⟩
      · rcases ih h with ⟨m', hm', ht⟩
        exact ⟨m', List.mem_cons_of_mem m hm', ht⟩

/-- A field writes one member at most, under its name. -/
theorem mem_write_field {name : String} {codec : Codec β} {presence : Presence β} {x : β}
    {m : String × Json} (h : m ∈ (field name codec presence).write x) :
    presence.written x = true ∧ m = (name, codec.encode x) := by
  by_cases hwritten : presence.written x = true
  · simp only [field, hwritten, if_true, List.mem_singleton] at h
    exact ⟨hwritten, h⟩
  · simp only [field, hwritten, Bool.false_eq_true, if_false, List.not_mem_nil] at h

/-- A field is read back if what is not written is what stands in for it. -/
theorem Faithful.field {name : String} {codec : Codec β} {presence : Presence β} {x : β}
    (hwritten : presence.written x = true → codec.Faithful n x)
    (habsent : presence.written x = false → presence.absent = some x) :
    (Fields.field name codec presence).Faithful [name] n x := by
  constructor
  · intro key hkey value slots
    exact if_neg fun h => hkey (List.mem_singleton.mpr h)
  · intro m hm
    rw [(mem_write_field hm).2]
    exact List.mem_singleton.mpr rfl
  · intro m hm
    obtain ⟨hw, rfl⟩ := mem_write_field hm
    exact (hwritten hw).readable
  · intro _
    by_cases hw : presence.written x = true
    · refine ⟨some x, ?_, rfl⟩
      have hwrite : (Fields.field name codec presence).write x = [(name, codec.encode x)] :=
        if_pos hw
      have htake : (Fields.field name codec presence).take none
          (.ok name, tree (codec.encode x)) = .ok (some x) := by
        simp only [take, Fields.field, if_true, (hwritten hw).decode]
        rfl
      rw [hwrite, readMembers_eq_foldlM, memberTrees, memberTrees, List.foldlM_cons]
      exact congrArg (fun result => result >>= fun s => List.foldlM _ s []) htake
    · refine ⟨none, ?_, ?_⟩
      · have hwrite : (Fields.field name codec presence).write x = [] := if_neg hw
        rw [hwrite]
        rfl
      · simp only [Fields.field, habsent (Bool.not_eq_true _ ▸ hw)]

/-- A field that is always written. -/
theorem Faithful.written {name : String} {codec : Codec β} {presence : Presence β} {x : β}
    (h : codec.Faithful n x) (hwritten : presence.written x = true) :
    (Fields.field name codec presence).Faithful [name] n x :=
  .field (fun _ => h) fun hw => absurd (hwritten.symm.trans hw) Bool.true_eq_false.mp

/-- A field that is only written when it is there. -/
theorem Faithful.sparse {name : String} {codec : Codec (Option β)} {x : Option β}
    (h : codec.Faithful n x) : (Fields.field name codec Fields.sparse).Faithful [name] n x :=
  .field (fun _ => h) fun hw => by
    rw [Option.not_isSome_iff_eq_none.mp (ne_true_of_eq_false hw)]
    rfl

/-- The fields of two records. -/
theorem Faithful.both {first : Fields β} {second : Fields γ} {more : List String} {x : β} {y : γ}
    (hx : first.Faithful names n x) (hy : second.Faithful more n y) :
    (first.both second).Faithful (names ++ more) n (x, y) := by
  constructor
  · intro key hkey value slots
    rw [List.mem_append, not_or] at hkey
    simp only [Fields.both, hx.ignores key hkey.1, hy.ignores key hkey.2, Option.map_none]
  · intro m hm
    rw [List.mem_append]
    exact (List.mem_append.mp hm).imp (hx.named m) (hy.named m)
  · exact fun m hm => (List.mem_append.mp hm).elim (hx.readable m) (hy.readable m)
  · intro hnodup
    rw [List.nodup_append'] at hnodup
    obtain ⟨hnames, hmore, hdisjoint⟩ := hnodup
    obtain ⟨a, hreadx, hfinishx⟩ := hx.reads hnames
    obtain ⟨b, hready, hfinishy⟩ := hy.reads hmore
    refine ⟨(a, b), ?_, ?_⟩
    · -- The members of the first record fill its slots and pass the others by, which are
      -- still blank when those of the second record come.
      have hfirst := foldlM_map (first.both second).take first.take (fun a => (a, second.blank))
        (memberTrees (first.write x)) fun t ht => by
          rcases mem_memberTrees ht with ⟨m, hm, rfl⟩
          refine take_both_first first second _ _ fun key hkey => hy.ignores key ?_
          rw [← Except.ok.inj hkey]
          exact hdisjoint (hx.named m hm)
      have hsecond := foldlM_map (first.both second).take second.take (fun b => (a, b))
        (memberTrees (second.write y)) fun t ht => by
          rcases mem_memberTrees ht with ⟨m, hm, rfl⟩
          refine take_both_second first second _ _ fun key hkey => hx.ignores key ?_
          rw [← Except.ok.inj hkey]
          exact fun hnames => hdisjoint hnames (hy.named m hm)
      rw [readMembers_eq_foldlM] at hreadx hready ⊢
      have hstart := (hfirst first.blank).trans (congrArg (Except.map _) hreadx)
      have hend := (hsecond second.blank).trans (congrArg (Except.map _) hready)
      have hwrite : (first.both second).write (x, y) = first.write x ++ second.write y := rfl
      rw [hwrite, memberTrees_append, List.foldlM_append]
      exact (congrArg (fun result => result >>= fun s => List.foldlM _ s _) hstart).trans hend
    · simp only [Fields.both, hfinishx, hfinishy]
      rfl

/-- The fields of a type that corresponds to another one. -/
theorem Faithful.via {fields : Fields β} {make : β → γ} {view : γ → β} {x : γ}
    (h : fields.Faithful names n (view x)) (hmake : make (view x) = x) :
    (fields.via make view).Faithful names n x := by
  refine ⟨h.ignores, h.named, h.readable, fun hnodup => ?_⟩
  obtain ⟨slots, hread, hfinish⟩ := h.reads hnodup
  refine ⟨slots, ?_, ?_⟩
  · have htake : (fields.via make view).take = fields.take := by
      funext slots m
      obtain ⟨key, value⟩ := m
      cases key with
      | error fault => rfl
      | ok key =>
          simp only [take, Fields.via]
          cases fields.accept key value slots <;> rfl
    rw [readMembers_eq_foldlM] at hread ⊢
    rw [htake]
    exact hread
  · simp only [Fields.via, hfinish]
    exact congrArg Except.ok hmake

/-- The members of an object are put together to the record. -/
theorem Faithful.readObject {fields : Fields β} {x : β} (h : fields.Faithful names n x)
    (hnodup : names.Nodup) :
    fields.readObject (memberTrees (fields.write x)) .closed = .ok x := by
  obtain ⟨slots, hread, hfinish⟩ := h.reads hnodup
  simp only [Fields.readObject, hread]
  exact hfinish

end Fields

theorem Codec.Faithful.record {β : Type} {name : String} {fields : Fields β}
    {names : List String} {n : Nat} {x : β} (h : fields.Faithful names n x)
    (hnodup : names.Nodup) : (Codec.record name fields).Faithful (n + 1) x :=
  ⟨.object h.readable, h.readObject hnodup⟩

section Alternatives

variable {β γ : Type} {n : Nat}

/-- An alternative is written as a readable value, and read back from it. -/
structure Variant.Faithful (variant : Variant β) (n : Nat) (x : β) : Prop where
  writes : ∃ j, variant.write x = some j ∧ Readable n j ∧ variant.read (tree j) = .ok x ∧
    (variant.holding = .unit → j = .null)

theorem Variant.Faithful.unit {name : String} {x : β} {holds : β → Bool} (h : holds x = true) :
    (Variant.unit name x holds).Faithful n x :=
  ⟨.null, if_pos h, .null, rfl, fun _ => rfl⟩

theorem Variant.Faithful.value {name : String} {codec : Codec γ} {make : γ → β}
    {view? : β → Option γ} {x : γ} (h : codec.Faithful n x) (hview : view? (make x) = some x) :
    (Variant.value name codec make view?).Faithful n (make x) := by
  refine ⟨codec.encode x, ?_, h.readable, ?_, fun hunit => absurd hunit Holding.noConfusion⟩
  · simp only [Variant.value, hview, Option.map_some]
  · simp only [Variant.value, h.decode]
    rfl

theorem Variant.Faithful.fields {type name : String} {fields : Fields γ} {names : List String}
    {make : γ → β} {view? : β → Option γ} {x : γ} (h : fields.Faithful names n x)
    (hnodup : names.Nodup) (hview : view? (make x) = some x) :
    (Variant.fields type name fields make view?).Faithful (n + 1) (make x) := by
  refine ⟨.object (fields.write x), ?_, .object h.readable, ?_,
    fun hunit => absurd hunit Holding.noConfusion⟩
  · simp only [Variant.fields, hview, Option.map_some]
  · simp only [Variant.fields, tree, Fields.read, h.readObject hnodup]
    rfl

/-- A value is written by the first alternative that writes it. -/
theorem Variant.encode_eq {variants : List (Variant β)} {variant : Variant β} {x : β} {j : Json}
    (hwrites : variants.find? (fun v => (v.write x).isSome) = some variant)
    (hwrite : variant.write x = some j) :
    Variant.encode x variants =
      if variant.holding = .unit then .string variant.name else .object [(variant.name, j)] := by
  induction variants with
  | nil => exact absurd hwrites (Option.some_ne_none _).symm
  | cons v rest ih =>
      rw [Variant.encode]
      cases hv : v.write x with
      | none =>
          simp only [List.find?_cons, hv, Option.isSome_none] at hwrites
          exact ih hwrites
      | some value =>
          simp only [List.find?_cons, hv, Option.isSome_some, Option.some.injEq] at hwrites
          rw [hwrites, hwrite, Option.some.injEq] at hv
          rw [hwrites, hv]
          cases variant.holding <;> rfl

/-- Alternatives are read back if the one that writes a value is the one that its name
    stands for. -/
theorem Codec.Faithful.variants {variants : List (Variant β)} {variant : Variant β} {x : β}
    (hwrites : variants.find? (fun v => (v.write x).isSome) = some variant)
    (hname : variants.find? (fun v => v.name == variant.name) = some variant)
    (h : variant.Faithful n x) :
    (Codec.variants variants).Faithful (n + 1) x := by
  obtain ⟨j, hwrite, hreadable, hread, hunit⟩ := h.writes
  have hencode := Variant.encode_eq hwrites hwrite
  have hnamed : Variant.named variants variant.name = .ok variant := by
    simp only [Variant.named, hname]
  -- An alternative that holds nothing is written as its name alone.
  by_cases hholding : variant.holding = .unit
  · have hstring : (Codec.variants variants).encode x = .string variant.name := by
      simp only [Codec.variants, hencode, if_pos hholding]
    refine ⟨hstring ▸ .string _, ?_⟩
    rw [hunit hholding] at hread
    rw [hstring]
    simp only [Codec.variants, tree, hnamed, Variant.fromName, hholding]
    exact hread
  · have hobject : (Codec.variants variants).encode x = .object [(variant.name, j)] := by
      simp only [Codec.variants, hencode, if_neg hholding]
    constructor
    · rw [hobject]
      exact .object fun m hm => List.mem_singleton.mp hm ▸ hreadable
    · rw [hobject]
      simp only [Codec.variants, tree, memberTrees, Variant.fromMembers, hnamed, hread]
      rfl

/-- A tagged alternative is written without its tag, and read back from its members and
    the tag. -/
structure TaggedVariant.Faithful (tag : String) (variant : TaggedVariant β) (n : Nat) (x : β) :
    Prop where
  writes : ∃ members, variant.write x = some members ∧
    (∀ m ∈ members, m.1 ≠ tag ∧ Readable n m.2) ∧
    ∀ name, variant.readMembers ((.ok tag, .string (.ok name)) :: memberTrees members) = .ok x

theorem TaggedVariant.Faithful.fields {tag type label name : String} {fields : Fields γ}
    {names : List String} {make : γ → β} {view? : β → Option γ} {x : γ}
    (h : fields.Faithful names n x) (hnodup : (tag :: names).Nodup)
    (hview : view? (make x) = some x) :
    (TaggedVariant.fields type label name fields make view?).Faithful tag n (make x) := by
  obtain ⟨htag, hnames⟩ := List.nodup_cons.mp hnodup
  obtain ⟨slots, hread, hfinish⟩ := h.reads hnames
  refine ⟨fields.write x, ?_, fun m hm => ⟨?_, h.readable m hm⟩, fun name => ?_⟩
  · simp only [TaggedVariant.fields, hview, Option.map_some]
  · rintro rfl
    exact htag (h.named m hm)
  · simp only [TaggedVariant.fields, Fields.readObject, Fields.readMembers,
      h.ignores tag htag, Scanned.skip, orFault, hread]
    rw [show check (Ending.memberFault? .closed) = .ok () from rfl]
    simp only [hfinish]
    rfl

theorem TaggedVariant.encode_eq {tag : String} {variants : List (TaggedVariant β)}
    {variant : TaggedVariant β} {x : β} {members : List (String × Json)}
    (hwrites : variants.find? (fun v => (v.write x).isSome) = some variant)
    (hwrite : variant.write x = some members) :
    TaggedVariant.encode tag x variants = .object ((tag, .string variant.name) :: members) := by
  induction variants with
  | nil => exact absurd hwrites (Option.some_ne_none _).symm
  | cons v rest ih =>
      rw [TaggedVariant.encode]
      cases hv : v.write x with
      | none =>
          simp only [List.find?_cons, hv, Option.isSome_none] at hwrites
          exact ih hwrites
      | some written =>
          simp only [List.find?_cons, hv, Option.isSome_some, Option.some.injEq] at hwrites
          rw [hwrites, hwrite, Option.some.injEq] at hv
          rw [hwrites, hv]

/-- Members with other keys do not change which alternative was found. -/
theorem TaggedVariant.findTag_members {tag : String} (variants : List (TaggedVariant β))
    (found : Option (TaggedVariant β)) {members : List (String × Json)}
    (h : ∀ m ∈ members, m.1 ≠ tag) :
    TaggedVariant.findTag tag variants found (memberTrees members) = .ok found := by
  induction members with
  | nil => rfl
  | cons m members ih =>
      rw [memberTrees, TaggedVariant.findTag, if_neg (h m List.mem_cons_self), keep_tree]
      exact ih fun m hm => h m (List.mem_cons_of_mem _ hm)

/-- Tagged alternatives are read back if the one that writes a value is the one that its
    name stands for. -/
theorem Codec.Faithful.tagged {type tag : String} {variants : List (TaggedVariant β)}
    {variant : TaggedVariant β} {x : β}
    (hwrites : variants.find? (fun v => (v.write x).isSome) = some variant)
    (hname : variants.find? (fun v => v.name == variant.name) = some variant)
    (h : variant.Faithful tag n x) :
    (Codec.tagged type tag variants).Faithful (n + 1) x := by
  obtain ⟨members, hwrite, hmembers, hread⟩ := h.writes
  have hencoded : (Codec.tagged type tag variants).encode x =
      .object ((tag, .string variant.name) :: members) :=
    TaggedVariant.encode_eq hwrites hwrite
  have hfind := fun found => TaggedVariant.findTag_members variants found fun m hm =>
    (hmembers m hm).1
  constructor
  · rw [hencoded]
    refine .object fun m hm => ?_
    rcases List.mem_cons.mp hm with rfl | hm
    · exact .string _
    · exact (hmembers m hm).2
  · rw [hencoded]
    simp only [Codec.tagged, tree, memberTrees, TaggedVariant.findTag, if_true,
      TaggedVariant.named, hname, Option.isSome_none, Bool.false_eq_true, if_false, hfind]
    exact hread variant.name

end Alternatives

end Json

end Seismicity
