import GridFilter.Proofs.ValueShape.Rewriting

/-!
# Writing a rejected value anew

`ValueShape.exists_own_of_passes` says that a value in order stays in order when it is read and
written anew.  This module is about the other direction: what the value must have been when the one
that is written for it is in order.

For texts, numbers and days it was in order itself (`ValueShape.passes_of_rewritten`), because a
text that cannot be read is kept as it was typed and rejected again.  A list of choices keeps no such
text: the entries that are no integer are dropped (`ValueShape.passes_options_iff`).  A list of
references keeps every entry, but under an id from which braces and blanks were taken
(`ValueShape.passes_references_iff`).  So a value that is written anew is in order if it was, or if it
is a list from which everything that is wrong falls away (`ValueShape.passes_anew_iff`).
-/

namespace GridFilter.ValueShape

variable {column : Column} {shape : ValueShape} {wire : WireValue} {text : String}

/-! ## What passes, form by form -/

/-- Of a value that is no list and no range the first text counts. -/
lemma passes_iff_of_values (hlist : shape.isList = false) (hrange : shape.isRange = false)
    {rest : List String} (hvalues : wire.values = text :: rest) :
    shape.Passes column wire ↔ Text.isAllBlank text = false ∧ shape.Admits column text := by
  unfold Passes SlotPasses
  rw [hlist, hrange, if_neg Bool.false_ne_true, if_neg Bool.false_ne_true, hvalues]
  simp

/-- Of a range two slots count. -/
lemma passes_iff_of_isRange (hrange : shape.isRange = true) :
    shape.Passes column wire ↔
      shape.SlotPasses column wire.lower ∧ shape.SlotPasses column wire.upper := by
  unfold Passes
  rw [isList_of_isRange hrange, if_neg Bool.false_ne_true, if_pos hrange]

/-- Of a list every text counts, and there has to be one. -/
lemma passes_ofTexts_iff (hlist : shape.isList = true) {texts : List String} :
    shape.Passes column (.ofTexts texts) ↔
      texts ≠ [] ∧ ∀ text ∈ texts, shape.Admits column text := by
  constructor
  · intro hpasses
    obtain ⟨hsome, hadmits⟩ := hpasses.listed hlist
    have hvalues := WireValue.values_ne_nil hsome
    rw [WireValue.values_ofTexts] at hadmits hvalues
    exact ⟨hvalues, hadmits⟩
  · rintro ⟨hsome, hadmits⟩
    exact Filled.passes (.list hlist texts (List.length_pos_iff.mpr hsome) hadmits)

/-! ## One text -/

/-- A number that is in order as it is written was in order as it was read. -/
lemma admits_number_of_wireText {found : Number} (hread : Number.read? text = some found)
    (h : number.Admits column found.wireText) : number.Admits column text := by
  obtain ⟨again, hagain, hwhole⟩ := h
  rw [Number.read?_wireText, Option.some_inj] at hagain
  refine ⟨found, hread, fun hkind => ?_⟩
  rw [← Number.isWhole_forgetZeroSign, hagain]
  exact hwhole hkind

lemma admits_count_of_wireText {found : Number} (hread : Number.read? text = some found)
    (h : count.Admits column found.wireText) : count.Admits column text := by
  obtain ⟨again, hagain, hwhole, hsign⟩ := h
  rw [Number.read?_wireText, Option.some_inj] at hagain
  refine ⟨found, hread, ?_, ?_⟩
  · rw [← Number.isWhole_forgetZeroSign, hagain]
    exact hwhole
  · rw [← Number.isBelowZero_forgetZeroSign, hagain]
    exact hsign

/-- A text that has to be read to be in order is no better without its blank ends. -/
lemma admits_of_trim (hshape : shape = number ∨ shape = count ∨ shape = date)
    (h : shape.Admits column (Text.trim text)) : shape.Admits column text := by
  rcases hshape with rfl | rfl | rfl
  · obtain ⟨found, hread, hwhole⟩ := h
    rw [Number.read?_trim] at hread
    exact ⟨found, hread, hwhole⟩
  · obtain ⟨found, hread, hcount⟩ := h
    rw [Number.read?_trim] at hread
    exact ⟨found, hread, hcount⟩
  · obtain ⟨found, hread⟩ := h
    rw [Date.read?_trim] at hread
    exact ⟨found, hread⟩

/-! ## Slots of a range -/

lemma slotPasses_number_of_rewritten {slot : Option String}
    (h : numberRange.SlotPasses column ((slot.bind Number.read?).map Number.wireText)) :
    numberRange.SlotPasses column slot := by
  obtain ⟨written, hwritten, -, hadmits⟩ := h
  obtain ⟨found, hfound, rfl⟩ := Option.map_eq_some_iff.mp hwritten
  obtain ⟨text, rfl, hread⟩ := Option.bind_eq_some_iff.mp hfound
  have hbefore : numberRange.Admits column text := admits_number_of_wireText hread hadmits
  exact ⟨text, rfl, hbefore.not_blank (by simp), hbefore⟩

lemma slotPasses_date_of_rewritten {slot : Option String}
    (h : dateRange.SlotPasses column ((slot.bind Date.read?).map Date.text)) :
    dateRange.SlotPasses column slot := by
  obtain ⟨written, hwritten, -, -⟩ := h
  obtain ⟨found, hfound, -⟩ := Option.map_eq_some_iff.mp hwritten
  obtain ⟨text, rfl, hread⟩ := Option.bind_eq_some_iff.mp hfound
  have hbefore : dateRange.Admits column text := ⟨found, hread⟩
  exact ⟨text, rfl, hbefore.not_blank (by simp), hbefore⟩

/-! ## Whole values -/

/-- A value whose first text has to be read is in order if that text is. -/
lemma passes_of_admits (hshape : shape = number ∨ shape = count ∨ shape = date)
    {rest : List String} (hvalues : wire.values = text :: rest) (h : shape.Admits column text) :
    shape.Passes column wire := by
  have hblank : Text.isAllBlank text = false := by
    refine h.not_blank ⟨?_, ?_, ?_⟩ <;> rintro rfl <;> simp at hshape
  rcases hshape with rfl | rfl | rfl <;>
    exact (passes_iff_of_values rfl rfl hvalues).mpr ⟨hblank, h⟩

/-- What is written for the first text, read as a number, passes only if the text is in order. -/
lemma admits_of_decodeNumber (hshape : shape = number ∨ shape = count) {rest : List String}
    (hvalues : wire.values = text :: rest)
    (h : shape.Passes column (shape.encode (decodeNumber wire))) : shape.Admits column text := by
  cases hread : Number.read? text with
  | none =>
      have hdecode : decodeNumber wire = .text text := by simp [decodeNumber, hvalues, hread]
      rw [hdecode] at h
      rcases hshape with rfl | rfl
      · exact admits_of_trim (.inl rfl) ((passes_iff_of_values rfl rfl rfl).mp h).2
      · exact admits_of_trim (.inr (.inl rfl)) ((passes_iff_of_values rfl rfl rfl).mp h).2
  | some found =>
      have hdecode : decodeNumber wire = .number found := by simp [decodeNumber, hvalues, hread]
      rw [hdecode] at h
      rcases hshape with rfl | rfl
      · exact admits_number_of_wireText hread ((passes_iff_of_values rfl rfl rfl).mp h).2
      · exact admits_count_of_wireText hread ((passes_iff_of_values rfl rfl rfl).mp h).2

/-- What is written for the first text, read as a day, passes only if the text is a day. -/
lemma admits_of_decodeDate {rest : List String} (hvalues : wire.values = text :: rest)
    (h : date.Passes column (date.encode (decodeDate wire))) : date.Admits column text := by
  cases hread : Date.read? text with
  | none =>
      have hdecode : decodeDate wire = .text text := by simp [decodeDate, hvalues, hread]
      rw [hdecode] at h
      exact admits_of_trim (.inr (.inr rfl)) ((passes_iff_of_values rfl rfl rfl).mp h).2
  | some found => exact ⟨found, hread⟩

/-- A value of which something is read begins with a text. -/
lemma exists_values
    (hshape : shape = ValueShape.text ∨ shape = number ∨ shape = count ∨ shape = date)
    (hpresent : (shape.decode wire).isNull = false) : ∃ text rest, wire.values = text :: rest := by
  apply List.exists_cons_of_ne_nil
  intro hnone
  rcases hshape with rfl | rfl | rfl | rfl <;>
    simp [decode, decodeNumber, decodeDate, hnone, ControlValue.ofText?, ControlValue.isNull]
      at hpresent

/-- A value that is no list was in order if what is written for it is. -/
theorem passes_of_rewritten (hlist : shape.isList = false)
    (hpresent : (shape.decode wire).isNull = false)
    (h : shape.Passes column (shape.encode (shape.decode wire))) : shape.Passes column wire := by
  cases shape with
  | nothing => exact absurd hpresent (by simp [decode, ControlValue.isNull])
  | text =>
      obtain ⟨text, rest, hvalues⟩ := exists_values (.inl rfl) hpresent
      have hdecode : ValueShape.text.decode wire = .text text := by
        simp [decode, hvalues, ControlValue.ofText?]
      rw [hdecode] at h
      rw [passes_iff_of_values rfl rfl hvalues]
      exact (passes_iff_of_values rfl rfl rfl).mp h
  | search =>
      cases wire with
      | scalar text => exact h
      | null | list items =>
          simp [decode, WireValue.scalar?, ControlValue.ofText?, ControlValue.isNull] at hpresent
  | number =>
      obtain ⟨text, rest, hvalues⟩ := exists_values (.inr (.inl rfl)) hpresent
      exact passes_of_admits (.inl rfl) hvalues (admits_of_decodeNumber (.inl rfl) hvalues h)
  | count =>
      obtain ⟨text, rest, hvalues⟩ := exists_values (.inr (.inr (.inl rfl))) hpresent
      exact passes_of_admits (.inr (.inl rfl)) hvalues
        (admits_of_decodeNumber (.inr rfl) hvalues h)
  | date =>
      obtain ⟨text, rest, hvalues⟩ := exists_values (.inr (.inr (.inr rfl))) hpresent
      exact passes_of_admits (.inr (.inr rfl)) hvalues (admits_of_decodeDate hvalues h)
  | numberRange =>
      obtain ⟨hlower, hupper⟩ := (passes_iff_of_isRange rfl).mp h
      exact (passes_iff_of_isRange rfl).mpr
        ⟨slotPasses_number_of_rewritten hlower, slotPasses_number_of_rewritten hupper⟩
  | dateRange =>
      obtain ⟨hlower, hupper⟩ := (passes_iff_of_isRange rfl).mp h
      exact (passes_iff_of_isRange rfl).mpr
        ⟨slotPasses_date_of_rewritten hlower, slotPasses_date_of_rewritten hupper⟩
  | options | references => exact absurd hlist (by decide)

/-- A choice that was read and is in order as it is written was in order. -/
lemma admits_option_iff {choice : Int} (hread : readOption? text = some choice) :
    options.Admits column (optionText choice) ↔ options.Admits column text := by
  have hwritten := readOption?_optionText (Text.fitsInt32_of_readInt32? hread)
  unfold Admits
  rw [hwritten, hread]

/-- Of choices those that can be read are written, and all of these have to be choices of the
column. -/
theorem passes_options_iff :
    options.Passes column (options.encode (.options (wire.values.filterMap readOption?))) ↔
      (∃ text ∈ wire.values, (readOption? text).isSome = true) ∧
        ∀ text ∈ wire.values, (readOption? text).isSome = true → options.Admits column text := by
  have hsome : (wire.values.filterMap readOption?).map optionText ≠ [] ↔
      ∃ text ∈ wire.values, (readOption? text).isSome = true := by
    rw [Ne, List.map_eq_nil_iff, List.filterMap_eq_nil_iff]
    simp [Option.isSome_iff_ne_none]
  show options.Passes column (.ofTexts ((wire.values.filterMap readOption?).map optionText)) ↔ _
  rw [passes_ofTexts_iff rfl, hsome]
  refine and_congr_right fun _ => ⟨fun hadmits text hmem hread => ?_, fun hadmits text hmem => ?_⟩
  · obtain ⟨choice, hchoice⟩ := Option.isSome_iff_exists.mp hread
    rw [← admits_option_iff hchoice]
    exact hadmits _ (List.mem_map_of_mem (List.mem_filterMap.mpr ⟨text, hmem, hchoice⟩))
  · obtain ⟨choice, hchoice, rfl⟩ := List.mem_map.mp hmem
    obtain ⟨before, hbefore, hread⟩ := List.mem_filterMap.mp hchoice
    rw [admits_option_iff hread]
    exact hadmits before hbefore (by rw [hread]; rfl)

/-- Of references all are written, each under its id in normal form. -/
theorem passes_references_iff {found : List Reference} :
    references.Passes column (references.encode (.references found)) ↔
      found ≠ [] ∧ ∀ reference ∈ found, references.Admits column reference.sentId := by
  by_cases hnone : found = []
  · subst hnone
    refine iff_of_false (fun hpasses => ?_) fun h => h.1 rfl
    exact absurd (hpasses.listed rfl).1 (by decide)
  · show references.Passes column (encodeReferences (.references found)) ↔ _
    rw [encodeReferences_of_ne_nil hnone, passes_ofTexts_iff rfl]
    simp [hnone]

/-- What is left of a rejected list is in order: of choices the texts that can be read, and there is
one; of references the ids that are sent for what is shown. -/
def Cleansed (column : Column) (wire : WireValue) (shown : ControlValue) : ValueShape → Prop
  | options =>
    (∃ text ∈ wire.values, (readOption? text).isSome = true) ∧
      ∀ text ∈ wire.values, (readOption? text).isSome = true → options.Admits column text
  | references =>
    ∃ found, shown = .references found ∧
      ∀ reference ∈ found, references.Admits column reference.sentId
  | _ => False

/-- Whatever is remembered, what is written for a rejected value is in order exactly when it is a
list of which what is left is in order. -/
theorem passes_anew_iff {remembered : Option ControlValue} (hfilled : wire.isEmpty = false)
    (hpresent : (shape.decode wire).isNull = false) (hrejected : ¬ shape.Passes column wire) :
    shape.Passes column (shape.encode ((shape.decode wire).filledFrom remembered)) ↔
      shape.Cleansed column wire ((shape.decode wire).filledFrom remembered) := by
  have hsingle (hlist : shape.isList = false) :
      ¬ shape.Passes column (shape.encode ((shape.decode wire).filledFrom remembered)) := by
    have hplain : shape ≠ references := by
      rintro rfl
      exact absurd hlist (by decide)
    rw [ControlValue.filledFrom_of_not_references (decode_ne_references hplain wire)]
    exact fun hpasses => hrejected (passes_of_rewritten hlist hpresent hpasses)
  cases shape with
  | options =>
      have hdecode : (options.decode wire).filledFrom remembered =
          .options (wire.values.filterMap readOption?) := by
        simp [decode, decodeOptions, isNull_of_isEmpty hfilled, ControlValue.filledFrom]
      rw [hdecode]
      exact passes_options_iff
  | references =>
      obtain ⟨known, hshown⟩ := exists_known hfilled remembered
      have hsome : wire.values.map (fun id =>
          ControlValue.fromKnown known (.bare (RecordId.normal id))) ≠ [] :=
        mt List.map_eq_nil_iff.mp (WireValue.values_ne_nil hfilled)
      have hdecode : (references.decode wire).filledFrom remembered = .references _ := hshown
      rw [hdecode, passes_references_iff]
      constructor
      · rintro ⟨-, hadmits⟩
        exact ⟨_, rfl, hadmits⟩
      · rintro ⟨found, hfound, hadmits⟩
        rw [← ControlValue.references.inj hfound] at hadmits
        exact ⟨hsome, hadmits⟩
  | _ => exact iff_of_false (hsingle rfl) not_false

end GridFilter.ValueShape
