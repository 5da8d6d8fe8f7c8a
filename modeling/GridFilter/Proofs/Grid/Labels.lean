import GridFilter.Proofs.Grid.Hydration
import GridFilter.Proofs.Text.Numeral
import Mathlib.Data.List.Nodup

/-!
# Labels that tell items apart

A label that was given before is given again with a number behind it.  When all labels have one
length, what is given is given once (`nodup_map_fst_labelled`): a label with a number is longer than
every label without one, and of two labels with numbers the one determines the label and the number
of the other (`numbered_inj`).  Nothing else is asked of the labels, and they may coincide as often
as they like.

What an item is given depends on the items before it alone, and on these only by how many of them
have its label (`labelled_append_cons`).
-/

namespace GridFilter

/-! ## Numbers behind labels -/

/-- The text that stands behind a label. -/
def numberText (before : Nat) : String :=
  if before = 0 then "" else "-" ++ Text.natText before

lemma numbered_eq_append (label : String) (before : Nat) :
    numbered label before = label ++ numberText before := by
  rw [numbered, numberText]
  split
  · exact String.append_empty.symm
  · exact String.append_assoc

lemma numberText_inj {before other : Nat} (h : numberText before = numberText other) :
    before = other := by
  have hchars := congrArg String.toList h
  -- The digits behind the hyphen are those of the number.
  by_cases hzero : before = 0 <;> by_cases hotherZero : other = 0
  · rw [hzero, hotherZero]
  · simp [numberText, hzero, hotherZero] at hchars
  · simp [numberText, hzero, hotherZero] at hchars
  · simp only [numberText, hzero, hotherZero, if_false, String.toList_append, Text.natText,
      String.toList_ofList, List.append_cancel_left_eq] at hchars
    rw [← Text.digitsValue_digits before, hchars, Text.digitsValue_digits]

/-- Labels of one length with numbers behind them are the same only for the same label and the same
number. -/
lemma numbered_inj {label other : String} (hlength : label.length = other.length)
    {before otherBefore : Nat} (h : numbered label before = numbered other otherBefore) :
    label = other ∧ before = otherBefore := by
  rw [numbered_eq_append, numbered_eq_append] at h
  have hchars := congrArg String.toList h
  rw [String.toList_append, String.toList_append] at hchars
  obtain ⟨hlabel, hnumber⟩ :=
    List.append_inj hchars (by rwa [String.length_toList, String.length_toList])
  exact ⟨String.toList_inj.mp hlabel, numberText_inj (String.toList_inj.mp hnumber)⟩

/-! ## What items are given -/

section Labelled

variable {α : Type} (label : α → String)

/-- An item is given its label with at least the number of times that the label was given before. -/
lemma exists_le_of_mem_labelledAfter {earlier : List String} {items : List α}
    {given : String × α} (h : given ∈ labelledAfter label earlier items) :
    ∃ before, earlier.count (label given.2) ≤ before ∧
      given.1 = numbered (label given.2) before := by
  induction items generalizing earlier with
  | nil => exact absurd h List.not_mem_nil
  | cons item rest ih =>
      rcases List.mem_cons.mp h with rfl | hrest
      · exact ⟨_, Nat.le_refl _, rfl⟩
      · obtain ⟨before, hle, hgiven⟩ := ih hrest
        refine ⟨before, ?_, hgiven⟩
        rw [List.count_cons] at hle
        omega

lemma nodup_map_fst_labelledAfter {length : Nat} (hlabel : ∀ item, (label item).length = length)
    (earlier : List String) (items : List α) :
    ((labelledAfter label earlier items).map Prod.fst).Nodup := by
  induction items generalizing earlier with
  | nil => exact List.nodup_nil
  | cons item rest ih =>
      rw [labelledAfter, List.map_cons, List.nodup_cons]
      refine ⟨fun hagain => ?_, ih _⟩
      obtain ⟨given, hmem, hsame⟩ := List.mem_map.mp hagain
      obtain ⟨before, hle, hgiven⟩ := exists_le_of_mem_labelledAfter label hmem
      rw [hgiven] at hsame
      obtain ⟨hlabels, hbefore⟩ := numbered_inj ((hlabel _).trans (hlabel _).symm) hsame
      -- The item itself counts among the earlier ones by now.
      rw [hlabels, List.count_cons_self] at hle
      omega

/-- No two items are given the same. -/
theorem nodup_map_fst_labelled {length : Nat} (hlabel : ∀ item, (label item).length = length)
    (items : List α) : ((labelled label items).map Prod.fst).Nodup :=
  nodup_map_fst_labelledAfter label hlabel [] items

lemma labelledAfter_append (earlier : List String) (before items : List α) :
    labelledAfter label earlier (before ++ items) =
      labelledAfter label earlier before ++
        labelledAfter label ((before.map label).reverse ++ earlier) items := by
  induction before generalizing earlier with
  | nil => rfl
  | cons item rest ih =>
      rw [List.cons_append, labelledAfter, ih, labelledAfter, List.cons_append, List.map_cons,
        List.reverse_cons, List.append_assoc, List.singleton_append]

/-- An item is given its label with the number of items before it that have the same. -/
lemma labelled_append_cons (before : List α) (item : α) (after : List α) :
    ∃ rest, labelled label (before ++ item :: after) =
      labelled label before ++
        (numbered (label item) ((before.map label).count (label item)), item) :: rest := by
  rw [labelled, labelledAfter_append, labelledAfter, List.append_nil, List.count_reverse]
  exact ⟨_, rfl⟩

end Labelled

end GridFilter
