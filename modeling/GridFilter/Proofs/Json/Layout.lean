import GridFilter.Json.Print
import GridFilter.Json.Scan
import Mathlib.Data.List.Basic

/-!
# Layouts of a value

A layout of a value is a text of it: its parts in order, with blanks at will between them.  What is
written without blanks is one (`compactChars_layout`), and so is what is written over several lines
(`prettyChars_layout`), so a fact about all layouts holds of both.

Not every value has a layout.  A number with a fraction has none, nor has an integer past sixty-four
bits: their texts may read as another number.  The values that have one are the `Exact` ones.
-/

namespace GridFilter.Json

/-! ## Exact values -/

/-- The integers that fit sixty-four bits, signed or not. -/
def FitsInteger (n : Int) : Prop :=
  -9223372036854775808 ≤ n ∧ n ≤ 18446744073709551615

/-- A value that its text determines: all its numbers are integers that fit. -/
inductive Exact : Json → Prop where
  | null : Exact .null
  | bool (value : Bool) : Exact (.bool value)
  | integer {value : Int} (h : FitsInteger value) : Exact (.integer value)
  | string (value : String) : Exact (.string value)
  | array {items : List Json} (h : ∀ item ∈ items, Exact item) : Exact (.array items)
  | object {members : Members} (h : ∀ member ∈ members, Exact member.2) : Exact (.object members)

namespace Exact

@[simp] lemma null_iff : Exact .null ↔ True :=
  iff_true_intro .null

@[simp] lemma bool_iff {value : Bool} : Exact (.bool value) ↔ True :=
  iff_true_intro (.bool value)

@[simp] lemma string_iff {value : String} : Exact (.string value) ↔ True :=
  iff_true_intro (.string value)

@[simp] lemma integer_iff {value : Int} : Exact (.integer value) ↔ FitsInteger value :=
  ⟨fun | .integer h => h, .integer⟩

@[simp] lemma array_iff {items : List Json} : Exact (.array items) ↔ ∀ item ∈ items, Exact item :=
  ⟨fun | .array h => h, .array⟩

@[simp] lemma object_iff {members : Members} :
    Exact (.object members) ↔ ∀ member ∈ members, Exact member.2 :=
  ⟨fun | .object h => h, .object⟩

end Exact

/-! ## How deep containers nest -/

mutual

/-- The number of containers that lie inside each other, the value itself counted. -/
def nesting : Json → Nat
  | .array items => itemsNesting items + 1
  | .object members => membersNesting members + 1
  | .null => 0
  | .bool _ => 0
  | .integer _ => 0
  | .real _ => 0
  | .string _ => 0

/-- The deepest nesting of the items. -/
def itemsNesting : List Json → Nat
  | [] => 0
  | item :: rest => max (nesting item) (itemsNesting rest)

/-- The deepest nesting of the members' values. -/
def membersNesting : List (String × Json) → Nat
  | [] => 0
  | (_, value) :: rest => max (nesting value) (membersNesting rest)

end

lemma itemsNesting_le_iff {items : List Json} {depth : Nat} :
    itemsNesting items ≤ depth ↔ ∀ item ∈ items, nesting item ≤ depth := by
  induction items with
  | nil => simp [itemsNesting]
  | cons item rest ih => rw [itemsNesting, Nat.max_le, ih, List.forall_mem_cons]

lemma membersNesting_le_iff {members : Members} {depth : Nat} :
    membersNesting members ≤ depth ↔ ∀ member ∈ members, nesting member.2 ≤ depth := by
  induction members with
  | nil => simp [membersNesting]
  | cons member rest ih => rw [membersNesting, Nat.max_le, ih, List.forall_mem_cons]

lemma nesting_array_le {items : List Json} {depth : Nat}
    (h : ∀ item ∈ items, item.nesting ≤ depth) : (array items).nesting ≤ depth + 1 :=
  Nat.succ_le_succ (itemsNesting_le_iff.mpr h)

lemma nesting_object_le {members : Members} {depth : Nat}
    (h : ∀ member ∈ members, member.2.nesting ≤ depth) : (object members).nesting ≤ depth + 1 :=
  Nat.succ_le_succ (membersNesting_le_iff.mpr h)

lemma nesting_lt_array {items : List Json} {item : Json} (h : item ∈ items) :
    item.nesting < (array items).nesting :=
  Nat.lt_succ_of_le (itemsNesting_le_iff.mp (Nat.le_refl _) item h)

lemma nesting_lt_object {members : Members} {member : String × Json} (h : member ∈ members) :
    member.2.nesting < (object members).nesting :=
  Nat.lt_succ_of_le (membersNesting_le_iff.mp (Nat.le_refl _) member h)

/-! ## Layouts -/

/-- A run of blanks. -/
structure Gap where
  chars : List Char
  blank : ∀ c ∈ chars, isBlank c = true

namespace Gap

/-- No blanks at all. -/
def none : Gap :=
  ⟨[], by simp⟩

/-- A single space. -/
def space : Gap :=
  ⟨[' '], by simp [isBlank]⟩

/-- The start of a line at a level of indent. -/
def newLine (level : Nat) : Gap where
  chars := Json.newLine level
  blank := by
    intro c hc
    rcases List.mem_cons.mp hc with rfl | hspace
    · rfl
    · rw [List.eq_of_mem_replicate hspace]
      rfl

@[simp] lemma chars_none : none.chars = [] := rfl

@[simp] lemma chars_space : space.chars = [' '] := rfl

@[simp] lemma chars_newLine (level : Nat) : (newLine level).chars = Json.newLine level := rfl

end Gap

mutual

/-- `Layout value s` says that `s` is a text of the value. -/
inductive Layout : Json → List Char → Prop where
  | null : Layout .null (scalarText .null)
  | bool (value : Bool) : Layout (.bool value) (scalarText (.bool value))
  | integer {value : Int} (h : FitsInteger value) :
      Layout (.integer value) (scalarText (.integer value))
  | string (value : String) : Layout (.string value) (scalarText (.string value))
  | emptyArray (gap : Gap) : Layout (.array []) ('[' :: (gap.chars ++ [']']))
  | array {items : List Json} {s : List Char} (h : ItemsLayout items s) :
      Layout (.array items) ('[' :: s)
  | emptyObject (gap : Gap) : Layout (.object []) ('{' :: (gap.chars ++ ['}']))
  | object {members : Members} {s : List Char} (h : MembersLayout members s) :
      Layout (.object members) ('{' :: s)

/-- The text of items, at least one, up to the closing bracket. -/
inductive ItemsLayout : List Json → List Char → Prop where
  | last {item : Json} {s : List Char} (before : Gap) (h : Layout item s) (after : Gap) :
      ItemsLayout [item] (before.chars ++ (s ++ (after.chars ++ [']'])))
  | more {item : Json} {items : List Json} {s t : List Char} (before : Gap) (h : Layout item s)
      (after : Gap) (hmore : ItemsLayout items t) :
      ItemsLayout (item :: items) (before.chars ++ (s ++ (after.chars ++ ',' :: t)))

/-- The text of members, at least one, up to the closing brace. -/
inductive MembersLayout : Members → List Char → Prop where
  | last {name : String} {value : Json} {s : List Char} (before colon within : Gap)
      (h : Layout value s) (after : Gap) :
      MembersLayout [(name, value)]
        (before.chars ++ (quoted name ++ (colon.chars ++
          ':' :: (within.chars ++ (s ++ (after.chars ++ ['}']))))))
  | more {name : String} {value : Json} {members : Members} {s t : List Char}
      (before colon within : Gap) (h : Layout value s) (after : Gap)
      (hmore : MembersLayout members t) :
      MembersLayout ((name, value) :: members)
        (before.chars ++ (quoted name ++ (colon.chars ++
          ':' :: (within.chars ++ (s ++ (after.chars ++ ',' :: t))))))

end

/-! ## Text without blanks -/

lemma compactItems_layout {item : Json} {items : List Json}
    (h : Layout item (compactChars item)) (hall : ∀ next ∈ items, Layout next (compactChars next)) :
    ItemsLayout (item :: items) (compactChars item ++ compactMoreItems items) := by
  induction items generalizing item with
  | nil => simpa [compactMoreItems] using ItemsLayout.last .none h .none
  | cons next rest ih =>
      have hrest := ih (hall next List.mem_cons_self) fun value hmem =>
        hall value (List.mem_cons_of_mem _ hmem)
      simpa [compactMoreItems] using ItemsLayout.more .none h .none hrest

lemma compactMembers_layout {name : String} {value : Json} {members : Members}
    (h : Layout value (compactChars value))
    (hall : ∀ next ∈ members, Layout next.2 (compactChars next.2)) :
    MembersLayout ((name, value) :: members)
      (quoted name ++ ':' :: compactChars value ++ compactMoreMembers members) := by
  induction members generalizing name value with
  | nil => simpa [compactMoreMembers] using MembersLayout.last .none .none .none h .none
  | cons next rest ih =>
      obtain ⟨nextName, nextValue⟩ := next
      have hrest : MembersLayout ((nextName, nextValue) :: rest) _ :=
        ih (hall _ List.mem_cons_self) fun member hmem =>
          hall member (List.mem_cons_of_mem _ hmem)
      simpa [compactMoreMembers] using MembersLayout.more .none .none .none h .none hrest

/-- The text without blanks is a layout. -/
theorem compactChars_layout {value : Json} (h : Exact value) :
    Layout value (compactChars value) := by
  induction h with
  | null => exact .null
  | bool value => exact .bool value
  | integer hfits => exact .integer hfits
  | string value => exact .string value
  | @array items _ ih =>
      cases items with
      | nil => exact .emptyArray .none
      | cons item rest =>
          exact .array <| compactItems_layout (ih item List.mem_cons_self) fun next hmem =>
            ih next (List.mem_cons_of_mem _ hmem)
  | @object members _ ih =>
      cases members with
      | nil => exact .emptyObject .none
      | cons member rest =>
          exact .object <| compactMembers_layout (ih member List.mem_cons_self) fun next hmem =>
            ih next (List.mem_cons_of_mem _ hmem)

/-! ## Text over several lines -/

lemma prettyItems_layout {level : Nat} {item : Json} {items : List Json}
    (h : Layout item (prettyChars (level + 1) item))
    (hall : ∀ next ∈ items, Layout next (prettyChars (level + 1) next)) :
    ItemsLayout (item :: items)
      (newLine (level + 1) ++ prettyChars (level + 1) item ++ prettyMoreItems level items) := by
  induction items generalizing item with
  | nil =>
      simpa [prettyMoreItems] using ItemsLayout.last (.newLine (level + 1)) h (.newLine level)
  | cons next rest ih =>
      have hrest := ih (hall next List.mem_cons_self) fun value hmem =>
        hall value (List.mem_cons_of_mem _ hmem)
      simpa [prettyMoreItems] using ItemsLayout.more (.newLine (level + 1)) h .none hrest

lemma prettyMembers_layout {level : Nat} {name : String} {value : Json} {members : Members}
    (h : Layout value (prettyChars (level + 1) value))
    (hall : ∀ next ∈ members, Layout next.2 (prettyChars (level + 1) next.2)) :
    MembersLayout ((name, value) :: members)
      (newLine (level + 1) ++ quoted name ++ ':' :: ' ' :: prettyChars (level + 1) value ++
        prettyMoreMembers level members) := by
  induction members generalizing name value with
  | nil =>
      simpa [prettyMoreMembers] using
        MembersLayout.last (.newLine (level + 1)) .none .space h (.newLine level)
  | cons next rest ih =>
      obtain ⟨nextName, nextValue⟩ := next
      have hrest : MembersLayout ((nextName, nextValue) :: rest) _ :=
        ih (hall _ List.mem_cons_self) fun member hmem =>
          hall member (List.mem_cons_of_mem _ hmem)
      simpa [prettyMoreMembers] using
        MembersLayout.more (.newLine (level + 1)) .none .space h .none hrest

/-- The text over several lines is a layout, whatever level it starts at. -/
theorem prettyChars_layout {value : Json} (h : Exact value) (level : Nat) :
    Layout value (prettyChars level value) := by
  induction h generalizing level with
  | null => exact .null
  | bool value => exact .bool value
  | integer hfits => exact .integer hfits
  | string value => exact .string value
  | @array items _ ih =>
      cases items with
      | nil => exact .emptyArray .none
      | cons item rest =>
          exact .array <| prettyItems_layout (ih item List.mem_cons_self _) fun next hmem =>
            ih next (List.mem_cons_of_mem _ hmem) _
  | @object members _ ih =>
      cases members with
      | nil => exact .emptyObject .none
      | cons member rest =>
          exact .object <| prettyMembers_layout (ih member List.mem_cons_self _) fun next hmem =>
            ih next (List.mem_cons_of_mem _ hmem) _

end GridFilter.Json
