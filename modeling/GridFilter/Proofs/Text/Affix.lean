import GridFilter.Text.Affix
import Mathlib.Data.List.Basic

/-!
# Laws of prefixes, suffixes and marks

`Text.withoutLead?` and `Text.withoutTail?` invert concatenation, and are characterised by that.
`Text.splitAtFirst?` cuts a text at the first mark, and leaves a text without one alone.  Texts
without a mark can be told from the text in which the mark joins them (`joined_inj`).
-/

namespace GridFilter.Text

variable {lead tail text rest base : String}

/-! ## Affixes -/

lemma withoutLead?_eq_some_iff : withoutLead? lead text = some rest ↔ text = lead ++ rest := by
  rw [withoutLead?, Option.map_eq_some_iff, ← String.toList_inj, String.toList_append]
  constructor
  · rintro ⟨chars, hchars, rfl⟩
    rw [String.toList_ofList]
    exact (List.isPrefixOf?_eq_some_iff_append_eq.mp hchars).symm
  · intro htext
    refine ⟨rest.toList, ?_, String.ofList_toList⟩
    exact List.isPrefixOf?_eq_some_iff_append_eq.mpr htext.symm

lemma withoutTail?_eq_some_iff : withoutTail? tail text = some base ↔ text = base ++ tail := by
  rw [withoutTail?, Option.map_eq_some_iff, ← String.toList_inj, String.toList_append]
  constructor
  · rintro ⟨chars, hchars, rfl⟩
    rw [String.toList_ofList]
    exact (List.isSuffixOf?_eq_some_iff_append_eq.mp hchars).symm
  · intro htext
    refine ⟨base.toList, ?_, String.ofList_toList⟩
    exact List.isSuffixOf?_eq_some_iff_append_eq.mpr htext.symm

@[simp] lemma dropLead_append (lead rest : String) : dropLead lead (lead ++ rest) = rest := by
  rw [dropLead, withoutLead?_eq_some_iff.mpr rfl, Option.getD_some]

@[simp] lemma dropTail_append (base tail : String) : dropTail tail (base ++ tail) = base := by
  rw [dropTail, withoutTail?_eq_some_iff.mpr rfl, Option.getD_some]

/-! ## The first mark -/

lemma splitAtFirst?_append {mark : Char} {before : List Char} (after : List Char)
    (h : mark ∉ before) : splitAtFirst? mark (before ++ mark :: after) = some (before, after) := by
  induction before with
  | nil => rw [List.nil_append, splitAtFirst?, if_pos rfl]
  | cons c inner ih =>
    rw [List.mem_cons, not_or] at h
    rw [List.cons_append, splitAtFirst?, if_neg (Ne.symm h.1), ih h.2, Option.map_some]

lemma splitAtFirst?_eq_none {mark : Char} {s : List Char} (h : mark ∉ s) :
    splitAtFirst? mark s = none := by
  induction s with
  | nil => rfl
  | cons c rest ih =>
    rw [List.mem_cons, not_or] at h
    rw [splitAtFirst?, if_neg (Ne.symm h.1), ih h.2, Option.map_none]

/-! ## Marks between texts -/

/-- Texts without a mark can be told from the text in which it joins them, but for a single empty
text, which is joined like none. -/
lemma joined_inj {mark : Char} {texts others : List String}
    (htexts : ∀ text ∈ texts, mark ∉ text.toList) (hothers : ∀ text ∈ others, mark ∉ text.toList)
    (hblank : texts ≠ [""]) (hotherBlank : others ≠ [""])
    (h : [mark].intercalate (texts.map String.toList) =
      [mark].intercalate (others.map String.toList)) : texts = others := by
  have hsplit : ∀ parts : List String, (∀ part ∈ parts, mark ∉ part.toList) → parts ≠ [] →
      ([mark].intercalate (parts.map String.toList)).splitOn mark = parts.map String.toList := by
    intro parts hparts hne
    refine List.splitOn_intercalate mark ?_ (by simpa using hne)
    simpa using hparts
  -- A list that joins to nothing has no text, or the empty one.
  have hnothing : ∀ parts : List String, (∀ part ∈ parts, mark ∉ part.toList) → parts ≠ [""] →
      [mark].intercalate (parts.map String.toList) = [] → parts = [] := by
    intro parts hparts hnotBlank hjoined
    by_contra hne
    have hsingle := hsplit parts hparts hne
    rw [hjoined, List.splitOn_nil] at hsingle
    have hblankText : parts.map String.toList = [""].map String.toList := hsingle.symm
    exact hnotBlank (List.map_injective_iff.mpr (fun _ _ => String.toList_inj.mp) hblankText)
  by_cases hnil : texts = []
  · rw [hnil] at h ⊢
    exact (hnothing others hothers hotherBlank h.symm).symm
  · by_cases hotherNil : others = []
    · rw [hotherNil] at h
      exact absurd (hnothing texts htexts hblank h) hnil
    · have hmap : texts.map String.toList = others.map String.toList := by
        rw [← hsplit texts htexts hnil, h, hsplit others hothers hotherNil]
      exact List.map_injective_iff.mpr (fun _ _ => String.toList_inj.mp) hmap

end GridFilter.Text
