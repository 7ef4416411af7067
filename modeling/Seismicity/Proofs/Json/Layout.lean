import Mathlib.Data.List.Basic
import Mathlib.Data.String.Basic
import Seismicity.Json.Scanned
import Seismicity.Json.Value

/-!
# Layouts of Text

The two texts of a value, on one line and on many, as one text with blanks in different
places.

A layout says what stands before each entry of an array or an object, before its last
bracket, and after each colon. `write` puts these in, and both printers are `write` with
a layout: with no blanks at all, or with line breaks and two places for each bracket
around an entry.

The printer of many lines moves lines to the right again and again, once for each
bracket. What becomes of its lines in the end is said by `hang`, which joins them at a
given depth: moving them to the right is hanging them deeper (`hang_indent`).

## Main definitions

* `Json.Layout`: Where the blanks are.
* `Json.Layout.write`: The text of a value in a layout.
* `Json.Layout.compact`, `Json.Layout.pretty`: The two layouts.
* `Json.text`: The text on many lines.

## Theorems

* `induct`: Induction over values.
* `toList_render`: The text on one line.
* `toList_text`: The text on many lines.
-/

namespace Seismicity

namespace Json

/-- Induction over values: of arrays and objects, all entries are smaller. -/
theorem induct {P : Json → Prop} (null : P .null) (bool : ∀ b, P (.bool b))
    (number : ∀ n, P (.number n)) (string : ∀ s, P (.string s))
    (array : ∀ items, (∀ item ∈ items, P item) → P (.array items))
    (object : ∀ members, (∀ m ∈ members, P m.2) → P (.object members)) (j : Json) : P j :=
  @Json.rec P (fun items => ∀ item ∈ items, P item) (fun members => ∀ m ∈ members, P m.2)
    (fun m => P m.2) null bool number string array object
    (fun _ h => absurd h List.not_mem_nil)
    (fun _ _ hitem hrest _ h => (List.mem_cons.mp h).elim (· ▸ hitem) (hrest _))
    (fun _ h => absurd h List.not_mem_nil)
    (fun _ _ hmember hrest _ h => (List.mem_cons.mp h).elim (· ▸ hmember) (hrest _))
    (fun _ _ hvalue => hvalue) j

/-- Where a text has blanks. -/
structure Layout where
  /-- Before each entry inside of `depth` brackets, and before a bracket that closes
      inside of `depth` others. -/
  newline (depth : Nat) : List Char
  /-- After each colon. -/
  gap : List Char
  blank_newline : ∀ depth, ∀ c ∈ newline depth, isBlank c = true
  blank_gap : ∀ c ∈ gap, isBlank c = true

namespace Layout

/-- No blanks at all. -/
def compact : Layout where
  newline _ := []
  gap := []
  blank_newline _ _ h := absurd h List.not_mem_nil
  blank_gap _ h := absurd h List.not_mem_nil

@[simp]
theorem compact_newline (depth : Nat) : compact.newline depth = [] := rfl

@[simp]
theorem compact_gap : compact.gap = [] := rfl

/-- Every entry on a line of its own, two places further to the right for each bracket
    around it. -/
def pretty : Layout where
  newline depth := '\n' :: List.replicate (2 * depth) ' '
  gap := [' ']
  blank_newline depth c h := by
    rcases List.mem_cons.mp h with rfl | hc
    · rfl
    · rw [List.eq_of_mem_replicate hc]
      rfl
  blank_gap c h := by
    rw [List.mem_singleton.mp h]
    rfl

mutual

/-- The text of a value inside of `depth` brackets. -/
def write (layout : Layout) (depth : Nat) : Json → List Char
  | .array [] => ['[', ']']
  | .array (item :: rest) =>
    '[' :: layout.newline (depth + 1) ++ write layout (depth + 1) item
      ++ writeItems layout (depth + 1) rest ++ layout.newline depth ++ [']']
  | .object [] => ['\x7b', '\x7d']
  | .object ((key, value) :: rest) =>
    '\x7b' :: layout.newline (depth + 1) ++ (quote key).toList ++ ':' :: layout.gap
      ++ write layout (depth + 1) value ++ writeMembers layout (depth + 1) rest
      ++ layout.newline depth ++ ['\x7d']
  | .null => ['n', 'u', 'l', 'l']
  | .bool true => ['t', 'r', 'u', 'e']
  | .bool false => ['f', 'a', 'l', 's', 'e']
  | .number n => (renderNumber n).toList
  | .string s => (quote s).toList

/-- The texts of the items of an array after the first. -/
def writeItems (layout : Layout) (depth : Nat) : List Json → List Char
  | [] => []
  | item :: rest =>
    ',' :: layout.newline depth ++ write layout depth item ++ writeItems layout depth rest

/-- The texts of the members of an object after the first. -/
def writeMembers (layout : Layout) (depth : Nat) : List (String × Json) → List Char
  | [] => []
  | (key, value) :: rest =>
    ',' :: layout.newline depth ++ (quote key).toList ++ ':' :: layout.gap
      ++ write layout depth value ++ writeMembers layout depth rest

end

end Layout

/-- The text of a value on many lines. -/
def text (j : Json) : String := "\n".intercalate (renderLines j)

section OneLine

open Layout

theorem toList_renderItems (depth : Nat) (rest : List Json) :
    ∀ item, (∀ j ∈ item :: rest, (render j).toList = compact.write depth j) →
      (",".intercalate (renderItems (item :: rest))).toList =
        compact.write depth item ++ compact.writeItems depth rest := by
  induction rest with
  | nil =>
      intro item h
      rw [renderItems, renderItems, String.intercalate_singleton, h item List.mem_cons_self,
        writeItems, List.append_nil]
  | cons next rest ih =>
      intro item h
      have hrest := ih next fun j hj => h j (List.mem_cons_of_mem item hj)
      rw [renderItems] at hrest
      rw [renderItems, renderItems, String.intercalate_cons_cons, String.toList_append,
        String.toList_append, hrest, h item List.mem_cons_self, writeItems, List.append_assoc]
      rfl

theorem toList_renderMembers (depth : Nat) (rest : List (String × Json)) :
    ∀ key value, (∀ m ∈ (key, value) :: rest, (render m.2).toList = compact.write depth m.2) →
      (",".intercalate (renderMembers ((key, value) :: rest))).toList =
        (quote key).toList ++ ':' :: compact.write depth value
          ++ compact.writeMembers depth rest := by
  have hmember : ∀ key value, (quote key ++ ":" ++ render value).toList
      = (quote key).toList ++ ':' :: (render value).toList := by
    intro key value
    rw [String.toList_append, String.toList_append, List.append_assoc]
    rfl
  induction rest with
  | nil =>
      intro key value h
      rw [renderMembers, renderMembers, String.intercalate_singleton, hmember,
        h (key, value) List.mem_cons_self, writeMembers, List.append_nil]
  | cons next rest ih =>
      intro key value h
      have hrest := ih next.1 next.2 fun m hm => h m (List.mem_cons_of_mem _ hm)
      rw [renderMembers] at hrest
      rw [renderMembers, renderMembers, String.intercalate_cons_cons, String.toList_append,
        String.toList_append, hrest, hmember, h (key, value) List.mem_cons_self, writeMembers]
      simp only [List.append_assoc, List.cons_append]
      rfl

/-- The text on one line has no blanks. -/
theorem toList_render (j : Json) : ∀ depth, (render j).toList = compact.write depth j := by
  have hbrackets : ∀ (first last : Char) (inner : String),
      (String.singleton first ++ inner ++ String.singleton last).toList
        = first :: inner.toList ++ [last] := by
    intro first last inner
    rw [String.toList_append, String.toList_append, String.toList_singleton,
      String.toList_singleton]
    rfl
  induction j using induct with
  | null => exact fun _ => rfl
  | bool b => cases b <;> exact fun _ => rfl
  | number n => exact fun _ => rfl
  | string s => exact fun _ => rfl
  | array items ih =>
      intro depth
      cases items with
      | nil => rfl
      | cons item rest =>
          refine (hbrackets '[' ']' _).trans ?_
          rw [toList_renderItems (depth + 1) rest item fun j hj => ih j hj (depth + 1), write]
          simp only [compact_newline, List.nil_append, List.append_nil, List.cons_append]
  | object members ih =>
      intro depth
      cases members with
      | nil => rfl
      | cons m rest =>
          refine (hbrackets '\x7b' '\x7d' _).trans ?_
          rw [toList_renderMembers (depth + 1) rest m.1 m.2 fun m hm => ih m hm (depth + 1),
            write]
          simp only [compact_newline, compact_gap, List.append_nil, List.cons_append,
            List.append_assoc, List.nil_append]

end OneLine

section ManyLines

open Layout

/-- Lines below each other, inside of `depth` brackets. -/
def hang (depth : Nat) (lines : List String) : List Char :=
  lines.flatMap fun line => pretty.newline depth ++ line.toList

/-- Lines that are moved to the right hang inside of one more bracket. -/
theorem hang_indent (depth : Nat) (lines : List String) :
    hang depth (indent lines) = hang (depth + 1) lines := by
  rw [hang, hang, indent, List.flatMap_map]
  refine List.flatMap_congr fun line _ => ?_
  have hplaces : 2 * (depth + 1) = 2 * depth + 2 := rfl
  rw [String.toList_append, ← List.append_assoc]
  simp only [pretty, hplaces, List.replicate_add, List.cons_append]
  rfl

theorem hang_append (depth : Nat) (lines more : List String) :
    hang depth (lines ++ more) = hang depth lines ++ hang depth more := List.flatMap_append

theorem hang_cons (depth : Nat) (line : String) (lines : List String) :
    hang depth (line :: lines) = pretty.newline depth ++ line.toList ++ hang depth lines :=
  List.flatMap_cons

theorem hang_postpend (depth : Nat) (suffix : String) (lines : List String) (h : lines ≠ []) :
    hang depth (postpend suffix lines) = hang depth lines ++ suffix.toList := by
  induction lines with
  | nil => exact absurd rfl h
  | cons line rest ih =>
      cases rest with
      | nil =>
          rw [postpend, hang_cons, hang_cons, String.toList_append]
          simp only [hang, List.flatMap_nil, List.append_nil, List.append_assoc]
      | cons next rest =>
          have hpostpend : postpend suffix (line :: next :: rest)
              = line :: postpend suffix (next :: rest) := rfl
          rw [hpostpend, hang_cons, hang_cons, ih (List.cons_ne_nil _ _), List.append_assoc,
            List.append_assoc, List.append_assoc]

/-- What stands in front of the first line follows its blanks. -/
theorem hang_prepend (depth : Nat) (label : String) (lines : List String) (cs : List Char)
    (hne : lines ≠ []) (h : hang depth lines = pretty.newline depth ++ cs) :
    hang depth (prepend label lines) = pretty.newline depth ++ label.toList ++ cs := by
  cases lines with
  | nil => exact absurd rfl hne
  | cons line rest =>
      rw [hang_cons, List.append_assoc, List.append_cancel_left_eq] at h
      rw [prepend, hang_cons, String.toList_append, ← h]
      simp only [List.append_assoc]

theorem renderLines_ne_nil (j : Json) : renderLines j ≠ [] := by
  cases j with
  | array items => cases items <;> exact List.cons_ne_nil _ _
  | object members => cases members <;> exact List.cons_ne_nil _ _
  | _ => exact List.cons_ne_nil _ _

theorem hang_itemLines (depth : Nat) (rest : List Json) :
    ∀ item, (∀ j ∈ item :: rest,
        hang depth (renderLines j) = pretty.newline depth ++ pretty.write depth j) →
      hang depth (itemLines (item :: rest)) =
        pretty.newline depth ++ pretty.write depth item ++ pretty.writeItems depth rest := by
  induction rest with
  | nil =>
      intro item h
      rw [itemLines, h item List.mem_cons_self, writeItems, List.append_nil]
  | cons next rest ih =>
      intro item h
      have hlines : itemLines (item :: next :: rest)
          = postpend "," (renderLines item) ++ itemLines (next :: rest) := rfl
      rw [hlines, hang_append, hang_postpend depth "," _ (renderLines_ne_nil item),
        h item List.mem_cons_self, ih next fun j hj => h j (List.mem_cons_of_mem item hj),
        writeItems]
      simp only [List.append_assoc, List.cons_append]
      rfl

theorem hang_memberLines (depth : Nat) (rest : List (String × Json)) :
    ∀ key value, (∀ m ∈ (key, value) :: rest,
        hang depth (renderLines m.2) = pretty.newline depth ++ pretty.write depth m.2) →
      hang depth (memberLines ((key, value) :: rest)) =
        pretty.newline depth ++ (quote key).toList ++ ':' :: pretty.gap
          ++ pretty.write depth value ++ pretty.writeMembers depth rest := by
  have hlabel : ∀ key value,
      hang depth (renderLines value) = pretty.newline depth ++ pretty.write depth value →
        hang depth (prepend (quote key ++ ": ") (renderLines value)) =
          pretty.newline depth ++ (quote key).toList ++ ':' :: pretty.gap
            ++ pretty.write depth value := by
    intro key value h
    rw [hang_prepend depth _ _ _ (renderLines_ne_nil value) h, String.toList_append]
    simp only [List.append_assoc, List.cons_append]
    rfl
  induction rest with
  | nil =>
      intro key value h
      rw [memberLines, hlabel key value (h (key, value) List.mem_cons_self), writeMembers,
        List.append_nil]
  | cons next rest ih =>
      intro key value h
      have hlines : memberLines ((key, value) :: next :: rest)
          = postpend "," (prepend (quote key ++ ": ") (renderLines value))
            ++ memberLines (next :: rest) := rfl
      have hne : prepend (quote key ++ ": ") (renderLines value) ≠ [] := by
        cases renderLines value <;> exact List.cons_ne_nil _ _
      have hrest := ih next.1 next.2 fun m hm => h m (List.mem_cons_of_mem _ hm)
      rw [hlines, hang_append, hang_postpend depth "," _ hne,
        hlabel key value (h (key, value) List.mem_cons_self), hrest, writeMembers]
      simp only [List.append_assoc, List.cons_append]
      rfl

/-- The lines of a value, below each other. -/
theorem hang_renderLines (j : Json) : ∀ depth,
    hang depth (renderLines j) = pretty.newline depth ++ pretty.write depth j := by
  have hline : ∀ depth (line : String), hang depth [line] = pretty.newline depth ++ line.toList :=
    fun depth line => (hang_cons depth line []).trans (List.append_nil _)
  have hbrackets : ∀ depth (first last : String) (inner : List String),
      hang depth (first :: indent inner ++ [last]) = pretty.newline depth ++
        (first.toList ++ hang (depth + 1) inner ++ pretty.newline depth ++ last.toList) := by
    intro depth first last inner
    rw [hang_append, hang_cons, hang_indent, hline]
    simp only [List.append_assoc]
  induction j using induct with
  | null => exact fun depth => hline depth "null"
  | bool b => cases b <;> exact fun depth => hline depth _
  | number n => exact fun depth => hline depth (renderNumber n)
  | string s => exact fun depth => hline depth (quote s)
  | array items ih =>
      intro depth
      cases items with
      | nil => exact hline depth "[]"
      | cons item rest =>
          change hang depth ("[" :: indent (itemLines (item :: rest)) ++ ["]"]) = _
          rw [hbrackets,
            hang_itemLines (depth + 1) rest item fun j hj => ih j hj (depth + 1), write]
          simp only [List.append_assoc]
          rfl
  | object members ih =>
      intro depth
      cases members with
      | nil => exact hline depth "\x7b\x7d"
      | cons m rest =>
          change hang depth ("\x7b" :: indent (memberLines (m :: rest)) ++ ["\x7d"]) = _
          rw [hbrackets,
            hang_memberLines (depth + 1) rest m.1 m.2 fun m hm => ih m hm (depth + 1), write]
          simp only [List.append_assoc]
          rfl

/-- The text on many lines has line breaks. -/
theorem toList_text (j : Json) : (text j).toList = pretty.write 0 j := by
  -- With one more line break, in front of the first line, all lines hang alike.
  have hjoin : ∀ lines : List String, lines ≠ [] →
      '\n' :: ("\n".intercalate lines).toList = hang 0 lines := by
    intro lines
    induction lines with
    | nil => exact fun hne => absurd rfl hne
    | cons line rest ih =>
        intro _
        cases rest with
        | nil =>
            rw [String.intercalate_singleton, hang_cons]
            exact (List.append_nil _).symm
        | cons next rest =>
            rw [String.intercalate_cons_cons, hang_cons, ← ih (List.cons_ne_nil _ _),
              String.toList_append, String.toList_append, List.append_assoc]
            rfl
  have hlines := hjoin (renderLines j) (renderLines_ne_nil j)
  rw [hang_renderLines j 0] at hlines
  exact (List.cons.inj hlines).2

end ManyLines

end Json

end Seismicity
