import GridFilter.Text.Blank
import Mathlib.Data.List.DropRight

/-!
# Laws of cutting the ends off

Two functions cut one sort of characters off the front of a text and another, or the same, off its
end: blanks come off the texts that are compared, braces off the ids of records.  What is left
begins and ends with nothing that was cut (`dropWhile_dropEnd`, `dropEnd_dropEnd`), so cutting again
changes nothing.  Of the blanks nothing is left exactly of a text that is blank throughout
(`trim_eq_empty_iff`).
-/

namespace GridFilter.Text

/-! ## Cutting both ends of a list -/

variable {α : Type} {p q : α → Bool}

lemma dropEnd_eq_rdropWhile (q : α → Bool) (s : List α) : dropEnd q s = s.rdropWhile q := rfl

/-- What is left after a cut at the front begins with nothing that would be cut. -/
lemma head_dropWhile {s rest : List α} {c : α} (h : s.dropWhile p = c :: rest) : p c = false := by
  have hhead := List.head_dropWhile_not (l := s) p (by simp [h])
  simpa [h] using hhead

/-- A cut at the end lets nothing come to the front that was cut there. -/
lemma dropWhile_dropEnd (p q : α → Bool) (s : List α) :
    (dropEnd q (s.dropWhile p)).dropWhile p = dropEnd q (s.dropWhile p) := by
  cases hleft : dropEnd q (s.dropWhile p) with
  | nil => rfl
  | cons c rest =>
      have hprefix : (c :: rest) <+: s.dropWhile p := by
        rw [← hleft, dropEnd_eq_rdropWhile]
        exact List.rdropWhile_prefix q (s.dropWhile p)
      obtain ⟨tail, htail⟩ := hprefix
      have hhead : p c = false := head_dropWhile htail.symm
      simp [hhead]

lemma dropEnd_dropEnd (q : α → Bool) (s : List α) : dropEnd q (dropEnd q s) = dropEnd q s := by
  rw [dropEnd_eq_rdropWhile, dropEnd_eq_rdropWhile]
  exact List.rdropWhile_idempotent q s

lemma dropEnd_eq_self {s : List α} (h : ∀ c ∈ s, q c = false) : dropEnd q s = s := by
  unfold dropEnd
  cases hreverse : s.reverse with
  | nil => simp [List.reverse_eq_nil_iff.mp hreverse]
  | cons last before =>
      have hmem : last ∈ s := by
        rw [← List.mem_reverse, hreverse]
        exact List.mem_cons_self
      rw [List.dropWhile_cons_of_neg (by simp [h last hmem]), ← hreverse, List.reverse_reverse]

lemma dropWhile_eq_self {s : List α} (h : ∀ c ∈ s, p c = false) : s.dropWhile p = s := by
  cases s with
  | nil => rfl
  | cons c rest => exact List.dropWhile_cons_of_neg (by simp [h c List.mem_cons_self])

/-! ## Blanks -/

/-- No visible ASCII character is blank. -/
lemma isBlank_of_visible {c : Char} (hlow : 33 ≤ c.toNat) (hhigh : c.toNat ≤ 126) :
    isBlank c = false := by
  simp only [isBlank, blankRanges, List.any_cons, List.any_nil, Bool.or_false,
    Bool.or_eq_false_iff, Bool.and_eq_false_iff, decide_eq_false_iff_not]
  omega

@[simp] lemma trimEnds_trimEnds (s : List Char) : trimEnds (trimEnds s) = trimEnds s := by
  unfold trimEnds trimStart
  rw [dropWhile_dropEnd, dropEnd_dropEnd]

/-- A text without blanks has no blank ends. -/
lemma trimEnds_eq_self {s : List Char} (h : ∀ c ∈ s, isBlank c = false) : trimEnds s = s := by
  unfold trimEnds trimStart
  rw [dropWhile_eq_self h, dropEnd_eq_self h]

@[simp] lemma trimEnds_toList_trim (s : String) : trimEnds (trim s).toList = trimEnds s.toList := by
  rw [trim, String.toList_ofList, trimEnds_trimEnds]

lemma trimEnds_eq_nil_iff {s : List Char} : trimEnds s = [] ↔ s.all isBlank = true := by
  unfold trimEnds trimStart
  rw [dropEnd_eq_rdropWhile, List.rdropWhile_eq_nil_iff, List.all_eq_true]
  constructor
  · intro hall
    cases hleft : s.dropWhile isBlank with
    | nil => exact List.dropWhile_eq_nil_iff.mp hleft
    | cons c rest =>
        -- The first character that is left is no blank, and it would have to be one.
        have hblank := hall c (by simp [hleft])
        simp [head_dropWhile hleft] at hblank
  · intro hall c hmem
    exact hall c ((List.dropWhile_suffix isBlank).mem hmem)

/-- Nothing is left exactly of a text that is blank throughout. -/
lemma trim_eq_empty_iff {s : String} : trim s = "" ↔ isAllBlank s = true := by
  rw [isAllBlank, ← trimEnds_eq_nil_iff, trim, ← String.toList_inj, String.toList_ofList]
  rfl

end GridFilter.Text
