import Mathlib.Data.List.DropRight
import Seismicity.Proofs.Json.Layout
import Seismicity.Proofs.Json.Numerals
import Seismicity.Proofs.Json.Strings

/-!
# Scanning What Was Written

The text of a value is scanned as the value, in whatever layout it is written.

The scan is given fuel and counts the brackets it is in. Both are taken care of by the
text: it needs two steps for each character at most, and a value is `Readable` if its
numbers are legible and its brackets do not nest too deeply. What follows the text only
has to stop a numeral, which commas, blanks and brackets do.

## Main definitions

* `Json.tree`: The tree that a value is scanned as.
* `Json.Readable`: Numbers are legible, and brackets nest at most so deep.
* `Layout.Scans`: A value is scanned wherever it is written.

## Theorems

* `Layout.scans_array`, `Layout.scans_object`: Brackets around values that are scanned.
* `Layout.scanValue_write`: The text of a value inside of other text.
* `scan_render`, `scan_text`: The two texts of a value.
* `read?_text`: The value of its text.
-/

namespace Seismicity

namespace Json

mutual

/-- The tree that a value is scanned as. -/
def tree : Json → Scanned
  | .null => .null
  | .bool b => .bool b
  | .number n => .number (.ok n)
  | .string s => .string (.ok s)
  | .array items => .array (itemTrees items) .closed
  | .object members => .object (memberTrees members) .closed

/-- The trees of the items of an array. -/
def itemTrees : List Json → List Scanned
  | [] => []
  | item :: rest => tree item :: itemTrees rest

/-- The trees of the members of an object. -/
def memberTrees : List (String × Json) → List (Except Fault String × Scanned)
  | [] => []
  | (key, value) :: rest => (.ok key, tree value) :: memberTrees rest

end

/-- A value whose numbers are legible, and whose brackets nest at most `n` deep. -/
inductive Readable : Nat → Json → Prop where
  | null {n : Nat} : Readable n .null
  | bool {n : Nat} (b : Bool) : Readable n (.bool b)
  | number {n : Nat} {x : Number} (h : Legible x) : Readable n (.number x)
  | string {n : Nat} (s : String) : Readable n (.string s)
  | array {n : Nat} {items : List Json} (h : ∀ item ∈ items, Readable n item) :
      Readable (n + 1) (.array items)
  | object {n : Nat} {members : List (String × Json)} (h : ∀ m ∈ members, Readable n m.2) :
      Readable (n + 1) (.object members)

section Blanks

theorem skipBlank_append {blanks : List Char} (h : ∀ c ∈ blanks, isBlank c = true)
    (rest : List Char) : skipBlank (blanks ++ rest) = skipBlank rest := by
  rw [skipBlank, List.dropWhile_append, List.dropWhile_eq_nil_iff.mpr h]
  rfl

theorem skipBlank_skipBlank (cs : List Char) : skipBlank (skipBlank cs) = skipBlank cs :=
  List.dropWhile_idempotent isBlank cs

theorem scanValue_skipBlank (fuel depth : Nat) (cs : List Char) :
    scanValue fuel depth (skipBlank cs) = scanValue fuel depth cs := by
  cases fuel with
  | zero => rw [scanValue, scanValue]
  | succ fuel => rw [scanValue, scanValue, skipBlank_skipBlank]

/-- Commas, closing brackets and blanks stop a numeral. -/
theorem stops_cons (c : Char) (h : c = ',' ∨ c = ']' ∨ c = '\x7d' ∨ isBlank c = true)
    (rest : List Char) : Stops (c :: rest) := by
  intro d hd
  rw [List.head?_cons, Option.mem_some_iff] at hd
  subst hd
  simp only [isBlank, Bool.or_eq_true, decide_eq_true_eq, or_assoc] at h
  rcases h with rfl | rfl | rfl | rfl | rfl | rfl | rfl <;> decide

theorem stops_blanks {blanks : List Char} (h : ∀ c ∈ blanks, isBlank c = true) (c : Char)
    (hc : c = ',' ∨ c = ']' ∨ c = '\x7d') (rest : List Char) :
    Stops (blanks ++ c :: rest) := by
  cases blanks with
  | nil => exact stops_cons c (by rcases hc with h | h | h <;> simp only [h, true_or, or_true]) rest
  | cons b blanks =>
      exact stops_cons b (.inr (.inr (.inr (h b List.mem_cons_self)))) _

/-- Where a value is scanned without a fault, the text does not start with a bracket
    that closes. -/
theorem exists_skipBlank_eq (fuel depth : Nat) (cs after : List Char) (value : Scanned)
    (h : scanValue fuel depth cs = (value, some after)) :
    ∃ c rest, skipBlank cs = c :: rest ∧ c ≠ ']' := by
  cases fuel with
  | zero => exact absurd h (by simp only [scanValue, faulty, Prod.mk.injEq, reduceCtorEq, and_false,
      not_false_eq_true])
  | succ fuel =>
      rw [scanValue] at h
      cases htext : skipBlank cs with
      | nil =>
          rw [htext] at h
          exact absurd h (by simp only [faulty, Prod.mk.injEq, reduceCtorEq, and_false,
            not_false_eq_true])
      | cons c rest =>
          refine ⟨c, rest, rfl, ?_⟩
          rintro rfl
          rw [htext] at h
          exact absurd (congrArg Prod.snd h) (Option.some_ne_none after).symm

end Blanks

section Steps

variable (fuel depth : Nat) (cs : List Char)

theorem scanItems_skipBlank : scanItems fuel depth (skipBlank cs) = scanItems fuel depth cs := by
  cases fuel with
  | zero => rw [scanItems, scanItems]
  | succ fuel => rw [scanItems, scanItems, scanValue_skipBlank]

theorem scanMembers_skipBlank (atEnd : Ending) :
    scanMembers fuel depth atEnd (skipBlank cs) = scanMembers fuel depth atEnd cs := by
  cases fuel with
  | zero => rw [scanMembers, scanMembers]
  | succ fuel => rw [scanMembers, scanMembers, skipBlank_skipBlank]

/-- The inside of an array, after blanks. -/
def scanArray : List Char → Scan
  | [] => (.array [] .cut, none)
  | ']' :: rest => (.array [] .closed, some rest)
  | rest =>
    (.array (scanItems fuel depth rest).1 (scanItems fuel depth rest).2.1,
      (scanItems fuel depth rest).2.2)

/-- The inside of an object, after blanks. -/
def scanObject : List Char → Scan
  | '\x7d' :: rest => (.object [] .closed, some rest)
  | rest =>
    (.object (scanMembers fuel depth .cut rest).1 (scanMembers fuel depth .cut rest).2.1,
      (scanMembers fuel depth .cut rest).2.2)

/-- The items after a comma and blanks. -/
def scanMoreItems (item : Scanned) : List Char → List Scanned × Ending × Option (List Char)
  | [] => ([item], .cutAfterComma, none)
  | ']' :: _ => ([item], .trailingComma, none)
  | rest => (item :: (scanItems fuel depth rest).1, (scanItems fuel depth rest).2)

/-- The members after a comma and blanks. -/
def scanMoreMembers (member : Except Fault String × Scanned) :
    List Char → List (Except Fault String × Scanned) × Ending × Option (List Char)
  | '\x7d' :: _ => ([member], .trailingComma, none)
  | rest =>
    (member :: (scanMembers fuel depth .cutAfterComma rest).1,
      (scanMembers fuel depth .cutAfterComma rest).2)

theorem scanValue_array (text : List Char) (hdepth : depth < depthLimit)
    (hcs : skipBlank cs = '[' :: text) :
    scanValue (fuel + 1) depth cs = scanArray fuel (depth + 1) (skipBlank text) := by
  rw [scanValue, hcs]
  exact if_neg hdepth.ne

theorem scanValue_object (text : List Char) (hdepth : depth < depthLimit)
    (hcs : skipBlank cs = '\x7b' :: text) :
    scanValue (fuel + 1) depth cs = scanObject fuel (depth + 1) (skipBlank text) := by
  rw [scanValue, hcs]
  exact if_neg hdepth.ne

section Items

variable (k : Nat) (value : Scanned) (after : List Char)
  (hvalue : scanValue k depth cs = (value, some after))

include hvalue

/-- Where a value is scanned, an array goes on with its items. -/
theorem scanArray_eq :
    scanArray fuel depth (skipBlank cs) =
      (.array (scanItems fuel depth cs).1 (scanItems fuel depth cs).2.1,
        (scanItems fuel depth cs).2.2) := by
  rcases exists_skipBlank_eq _ _ _ _ _ hvalue with ⟨c, rest, htext, hc⟩
  rw [← scanItems_skipBlank, htext, scanArray]
  · exact List.cons_ne_nil _ _
  · exact fun _ h => hc (List.cons.inj h).1

theorem scanMoreItems_eq (item : Scanned) :
    scanMoreItems fuel depth item (skipBlank cs) =
      (item :: (scanItems fuel depth cs).1, (scanItems fuel depth cs).2) := by
  rcases exists_skipBlank_eq _ _ _ _ _ hvalue with ⟨c, rest, htext, hc⟩
  rw [← scanItems_skipBlank, htext, scanMoreItems]
  · exact List.cons_ne_nil _ _
  · exact fun _ h => hc (List.cons.inj h).1

end Items

section Item

variable (item : Scanned) (after rest : List Char)
  (hitem : scanValue fuel depth cs = (item, some after))

include hitem

theorem scanItems_last (hafter : skipBlank after = ']' :: rest) :
    scanItems (fuel + 1) depth cs = ([item], .closed, some rest) := by
  rw [scanItems, hitem]
  dsimp only
  rw [hafter]
  rfl

theorem scanItems_more (hafter : skipBlank after = ',' :: rest) :
    scanItems (fuel + 1) depth cs = scanMoreItems fuel depth item (skipBlank rest) := by
  rw [scanItems, hitem]
  dsimp only
  rw [hafter]
  rfl

end Item

theorem quote_append (key : String) (text : List Char) :
    (quote key).toList ++ text = '"' :: (key.toList.flatMap escape ++ '"' :: text) := by
  rw [quote, String.toList_ofList, List.append_assoc]
  rfl

theorem skipBlank_quote (key : String) (text : List Char) :
    skipBlank ((quote key).toList ++ text) = (quote key).toList ++ text := by
  rw [quote_append]
  rfl

section Member

variable (key : String) (text after rest : List Char) (value : Scanned) (atEnd : Ending)
  (hkey : skipBlank cs = (quote key).toList ++ ':' :: text)
  (hvalue : scanValue fuel depth text = (value, some after))

include hkey hvalue

theorem scanMembers_last (hafter : skipBlank after = '\x7d' :: rest) :
    scanMembers (fuel + 1) depth atEnd cs = ([(.ok key, value)], .closed, some rest) := by
  have hcolon : skipBlank (':' :: text) = ':' :: text := rfl
  rw [scanMembers, hkey, quote_append]
  simp only [scanString_quoted, readPieces_quoted, hcolon, hvalue, hafter]

theorem scanMembers_more (hafter : skipBlank after = ',' :: rest) :
    scanMembers (fuel + 1) depth atEnd cs =
      scanMoreMembers fuel depth (.ok key, value) (skipBlank rest) := by
  have hcolon : skipBlank (':' :: text) = ':' :: text := rfl
  rw [scanMembers, hkey, quote_append]
  simp only [scanString_quoted, readPieces_quoted, hcolon, hvalue, hafter]
  rfl

end Member

section Members

variable (key : String) (text : List Char) (hkey : skipBlank cs = (quote key).toList ++ text)

include hkey

/-- Where a key is quoted, an object goes on with its members. -/
theorem scanObject_eq :
    scanObject fuel depth (skipBlank cs) =
      (.object (scanMembers fuel depth .cut cs).1 (scanMembers fuel depth .cut cs).2.1,
        (scanMembers fuel depth .cut cs).2.2) := by
  rw [← scanMembers_skipBlank, hkey, quote_append, scanObject]
  exact fun _ h => absurd (List.cons.inj h).1 (by decide)

theorem scanMoreMembers_eq (member : Except Fault String × Scanned) :
    scanMoreMembers fuel depth member (skipBlank cs) =
      (member :: (scanMembers fuel depth .cutAfterComma cs).1,
        (scanMembers fuel depth .cutAfterComma cs).2) := by
  rw [← scanMembers_skipBlank, hkey, quote_append, scanMoreMembers]
  exact fun _ h => absurd (List.cons.inj h).1 (by decide)

end Members

end Steps

namespace Layout

variable (layout : Layout)

/-- A value is scanned as its tree wherever it is written inside of `depth` brackets. -/
def Scans (depth level : Nat) (j : Json) : Prop :=
  ∀ fuel rest, 2 * (layout.write level j).length + 1 ≤ fuel → Stops rest →
    scanValue fuel depth (layout.write level j ++ rest) = (tree j, some rest)

variable (depth level : Nat) (blanks rest : List Char)

/-- What follows the first item of an array stops a numeral. -/
theorem stops_items (hblanks : ∀ c ∈ blanks, isBlank c = true) (items : List Json) :
    Stops (layout.writeItems level items ++ (blanks ++ ']' :: rest)) := by
  cases items with
  | nil => exact stops_blanks hblanks ']' (.inr (.inl rfl)) rest
  | cons item items => exact stops_cons ',' (.inl rfl) _

theorem stops_members (hblanks : ∀ c ∈ blanks, isBlank c = true)
    (members : List (String × Json)) :
    Stops (layout.writeMembers level members ++ (blanks ++ '\x7d' :: rest)) := by
  cases members with
  | nil => exact stops_blanks hblanks '\x7d' (.inr (.inr rfl)) rest
  | cons m members => exact stops_cons ',' (.inl rfl) _

/-- The items of an array are scanned one after the other. -/
theorem scanItems_write (hblanks : ∀ c ∈ blanks, isBlank c = true) (items : List Json) :
    ∀ item fuel, (∀ j ∈ item :: items, layout.Scans depth level j) →
      2 * (layout.write level item ++ layout.writeItems level items).length + 2 ≤ fuel →
      scanItems fuel depth (layout.write level item
        ++ (layout.writeItems level items ++ (blanks ++ ']' :: rest))) =
        (itemTrees (item :: items), .closed, some rest) := by
  induction items with
  | nil =>
      intro item fuel hscans hfuel
      obtain ⟨fuel, rfl⟩ := Nat.exists_eq_add_one_of_ne_zero (show fuel ≠ 0 by omega)
      rw [List.length_append] at hfuel
      have hitem := hscans item List.mem_cons_self fuel _ (by omega)
        (layout.stops_items level blanks rest hblanks [])
      refine scanItems_last fuel depth _ _ _ rest hitem ?_
      rw [writeItems, List.nil_append, skipBlank_append hblanks]
      rfl
  | cons next items ih =>
      intro item fuel hscans hfuel
      obtain ⟨fuel, rfl⟩ := Nat.exists_eq_add_one_of_ne_zero (show fuel ≠ 0 by omega)
      simp only [writeItems, List.length_append, List.length_cons] at hfuel
      have hrest := ih next fuel (fun j hj => hscans j (List.mem_cons_of_mem item hj))
        (by rw [List.length_append]; omega)
      have hnext := hscans next (List.mem_cons_of_mem item List.mem_cons_self) fuel _ (by omega)
        (layout.stops_items level blanks rest hblanks items)
      have hitem := hscans item List.mem_cons_self fuel _ (by omega)
        (layout.stops_items level blanks rest hblanks (next :: items))
      -- The blanks behind the comma are skipped before the next item is looked at.
      have hmore := scanItems_more fuel depth _ _ _ (layout.newline level
        ++ (layout.write level next
          ++ (layout.writeItems level items ++ (blanks ++ ']' :: rest)))) hitem
      rw [skipBlank_append (layout.blank_newline level),
        scanMoreItems_eq fuel depth _ _ _ _ hnext, hrest] at hmore
      refine hmore ?_
      simp only [writeItems, List.append_assoc, List.cons_append]
      rfl

/-- The members of an object are scanned one after the other. -/
theorem scanMembers_write (hblanks : ∀ c ∈ blanks, isBlank c = true)
    (members : List (String × Json)) :
    ∀ key value fuel atEnd, (∀ m ∈ (key, value) :: members, layout.Scans depth level m.2) →
      2 * (layout.write level value ++ layout.writeMembers level members).length + 2 ≤ fuel →
      scanMembers fuel depth atEnd ((quote key).toList ++ ':' :: (layout.gap
        ++ (layout.write level value
          ++ (layout.writeMembers level members ++ (blanks ++ '\x7d' :: rest))))) =
        (memberTrees ((key, value) :: members), .closed, some rest) := by
  have hgap : ∀ fuel text,
      scanValue fuel depth (layout.gap ++ text) = scanValue fuel depth text := by
    intro fuel text
    rw [← scanValue_skipBlank, skipBlank_append layout.blank_gap, scanValue_skipBlank]
  induction members with
  | nil =>
      intro key value fuel atEnd hscans hfuel
      obtain ⟨fuel, rfl⟩ := Nat.exists_eq_add_one_of_ne_zero (show fuel ≠ 0 by omega)
      rw [List.length_append] at hfuel
      have hvalue := hscans (key, value) List.mem_cons_self fuel _ (by dsimp only; omega)
        (layout.stops_members level blanks rest hblanks [])
      refine scanMembers_last fuel depth _ key _ _ rest _ atEnd (skipBlank_quote key _)
        ((hgap fuel _).trans hvalue) ?_
      rw [writeMembers, List.nil_append, skipBlank_append hblanks]
      rfl
  | cons next members ih =>
      intro key value fuel atEnd hscans hfuel
      obtain ⟨fuel, rfl⟩ := Nat.exists_eq_add_one_of_ne_zero (show fuel ≠ 0 by omega)
      obtain ⟨nextKey, nextValue⟩ := next
      simp only [writeMembers, List.length_append, List.length_cons] at hfuel
      have hrest := ih nextKey nextValue fuel .cutAfterComma
        (fun m hm => hscans m (List.mem_cons_of_mem _ hm)) (by rw [List.length_append]; omega)
      have hvalue := hscans (key, value) List.mem_cons_self fuel _ (by dsimp only; omega)
        (layout.stops_members level blanks rest hblanks ((nextKey, nextValue) :: members))
      have hmore := scanMembers_more fuel depth _ key _ _ (layout.newline level
        ++ ((quote nextKey).toList ++ ':' :: (layout.gap ++ (layout.write level nextValue
          ++ (layout.writeMembers level members ++ (blanks ++ '\x7d' :: rest)))))) _ atEnd
        (skipBlank_quote key _) ((hgap fuel _).trans hvalue)
      rw [skipBlank_append (layout.blank_newline level),
        scanMoreMembers_eq fuel depth _ _ _ (skipBlank_quote nextKey _), hrest] at hmore
      refine hmore ?_
      simp only [writeMembers, List.append_assoc, List.cons_append]
      rfl

theorem scans_string (s : String) : layout.Scans depth level (.string s) := by
  intro fuel rest hfuel _
  obtain ⟨fuel, rfl⟩ := Nat.exists_eq_add_one_of_ne_zero (show fuel ≠ 0 by omega)
  have htext : layout.write level (.string s) ++ rest
      = '"' :: (s.toList.flatMap escape ++ '"' :: rest) := quote_append s rest
  rw [htext, scanValue]
  change scanText _ = _
  simp only [scanText, scanString_quoted, readPieces_quoted]
  rfl

/-- An array is scanned if its items are, one bracket further inside. -/
theorem scans_array (hlimit : depth < depthLimit) (items : List Json)
    (hscans : ∀ j ∈ items, layout.Scans (depth + 1) (level + 1) j) :
    layout.Scans depth level (.array items) := by
  intro fuel rest hfuel _
  obtain ⟨fuel, rfl⟩ := Nat.exists_eq_add_one_of_ne_zero (show fuel ≠ 0 by omega)
  cases items with
  | nil => exact (scanValue_array fuel depth _ _ hlimit rfl).trans rfl
  | cons item items =>
      simp only [write, List.length_append, List.length_cons] at hfuel
      have hitems := layout.scanItems_write (depth + 1) (level + 1) (layout.newline level) rest
        (layout.blank_newline level) items item fuel hscans
        (by rw [List.length_append]; omega)
      have hitem := hscans item List.mem_cons_self fuel _ (by omega)
        (layout.stops_items (level + 1) (layout.newline level) rest
          (layout.blank_newline level) items)
      have harray := scanValue_array fuel depth
        ('[' :: (layout.newline (level + 1) ++ (layout.write (level + 1) item
          ++ (layout.writeItems (level + 1) items ++ (layout.newline level ++ ']' :: rest)))))
        _ hlimit rfl
      rw [skipBlank_append (layout.blank_newline (level + 1)),
        scanArray_eq fuel (depth + 1) _ _ _ _ hitem, hitems] at harray
      refine Eq.trans ?_ harray
      simp only [write, List.append_assoc, List.cons_append]
      rfl

/-- An object is scanned if the values of its members are, one bracket further inside. -/
theorem scans_object (hlimit : depth < depthLimit) (members : List (String × Json))
    (hscans : ∀ m ∈ members, layout.Scans (depth + 1) (level + 1) m.2) :
    layout.Scans depth level (.object members) := by
  intro fuel rest hfuel _
  obtain ⟨fuel, rfl⟩ := Nat.exists_eq_add_one_of_ne_zero (show fuel ≠ 0 by omega)
  cases members with
  | nil => exact (scanValue_object fuel depth _ _ hlimit rfl).trans rfl
  | cons m members =>
      obtain ⟨key, value⟩ := m
      simp only [write, List.length_append, List.length_cons] at hfuel
      have hmembers := layout.scanMembers_write (depth + 1) (level + 1) (layout.newline level)
        rest (layout.blank_newline level) members key value fuel .cut hscans
        (by rw [List.length_append]; omega)
      have hobject := scanValue_object fuel depth
        ('\x7b' :: (layout.newline (level + 1) ++ ((quote key).toList ++ ':' :: (layout.gap
          ++ (layout.write (level + 1) value ++ (layout.writeMembers (level + 1) members
            ++ (layout.newline level ++ '\x7d' :: rest))))))) _ hlimit rfl
      rw [skipBlank_append (layout.blank_newline (level + 1)),
        scanObject_eq fuel (depth + 1) _ key _ (skipBlank_quote key _), hmembers] at hobject
      refine Eq.trans ?_ hobject
      simp only [write, List.append_assoc, List.cons_append]
      rfl

/-- The text of a readable value is scanned as its tree, inside of other text. -/
theorem scanValue_write {n : Nat} {j : Json} (h : Readable n j) :
    ∀ depth level, depth + n ≤ depthLimit → layout.Scans depth level j := by
  induction h with
  | null =>
      intro depth level _ fuel rest hfuel _
      obtain ⟨fuel, rfl⟩ := Nat.exists_eq_add_one_of_ne_zero (show fuel ≠ 0 by omega)
      rw [scanValue]
      rfl
  | bool b =>
      intro depth level _ fuel rest hfuel _
      obtain ⟨fuel, rfl⟩ := Nat.exists_eq_add_one_of_ne_zero (show fuel ≠ 0 by omega)
      rw [scanValue]
      cases b <;> rfl
  | number hlegible =>
      intro depth level _ fuel rest hfuel hstop
      obtain ⟨fuel, rfl⟩ := Nat.exists_eq_add_one_of_ne_zero (show fuel ≠ 0 by omega)
      exact hlegible.scanValue_eq fuel depth rest hstop
  | string s => exact fun depth level _ => layout.scans_string depth level s
  | array _ ih =>
      intro depth level hdepth
      exact layout.scans_array depth level (by omega) _ fun item hitem =>
        ih item hitem (depth + 1) (level + 1) (by omega)
  | object _ ih =>
      intro depth level hdepth
      exact layout.scans_object depth level (by omega) _ fun member hmember =>
        ih member hmember (depth + 1) (level + 1) (by omega)

/-- The text of a readable value is scanned as its tree, and nothing follows. -/
theorem scan_of_toList {n : Nat} {j : Json} (h : Readable n j) (hn : n ≤ depthLimit)
    (text : String) (htext : text.toList = layout.write 0 j) :
    scan text = (tree j, some []) := by
  have hscan := layout.scanValue_write h 0 0 (by omega) (2 * text.toList.length + 2) []
    (by rw [htext]; omega) fun c hc => absurd hc (Option.not_mem_none c)
  rw [List.append_nil, ← htext] at hscan
  exact hscan

end Layout

/-- The text of a readable value on one line is scanned as its tree. -/
theorem scan_render {n : Nat} {j : Json} (h : Readable n j) (hn : n ≤ depthLimit) :
    scan (render j) = (tree j, some []) :=
  Layout.compact.scan_of_toList h hn _ (toList_render j 0)

/-- The text of a readable value on many lines is scanned as its tree. -/
theorem scan_text {n : Nat} {j : Json} (h : Readable n j) (hn : n ≤ depthLimit) :
    scan (text j) = (tree j, some []) :=
  Layout.pretty.scan_of_toList h hn _ (toList_text j)

/-- The tree of a value stands for the value. -/
theorem toJson?_tree (j : Json) : (tree j).toJson? = some j := by
  induction j using Json.induct with
  | null => rw [tree, Scanned.toJson?]
  | bool b => rw [tree, Scanned.toJson?]
  | number n => rw [tree, Scanned.toJson?]
  | string s => rw [tree, Scanned.toJson?]
  | array items ih =>
      have hitems : Scanned.itemsToJson? (itemTrees items) = some items := by
        induction items with
        | nil => rw [itemTrees, Scanned.itemsToJson?]
        | cons item rest ihrest =>
            rw [List.forall_mem_cons] at ih
            rw [itemTrees, Scanned.itemsToJson?, ih.1, ihrest ih.2]
      rw [tree, Scanned.toJson?, hitems, Option.map_some]
  | object members ih =>
      have hmembers : Scanned.membersToJson? (memberTrees members) = some members := by
        induction members with
        | nil => rw [memberTrees, Scanned.membersToJson?]
        | cons member rest ihrest =>
            rw [List.forall_mem_cons] at ih
            rw [memberTrees, Scanned.membersToJson?, ih.1, ihrest ih.2]
      rw [tree, Scanned.toJson?, hmembers, Option.map_some]

/-- The text of a readable value on many lines is read as the value. -/
theorem read?_text {n : Nat} {j : Json} (h : Readable n j) (hn : n ≤ depthLimit) :
    read? (text j) = some j := by
  rw [read?, scan_text h hn]
  exact toJson?_tree j

end Json

end Seismicity
