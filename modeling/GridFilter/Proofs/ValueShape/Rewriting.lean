import GridFilter.Proofs.ValueShape.RoundTrip

/-!
# Writing a value anew

When the operator of a condition changes, its value is read and written anew.  For a value that is
in order nothing is lost that way: what is read is a control value of the shape's own, and what is
written for that is in order again (`ValueShape.exists_own_of_passes`).

The texts may well change.  Blank ends go, a number gets its shortest form, an id its normal form.
The reason why none of this matters to validation differs from shape to shape; for references it is
that the normal form of a GUID is a GUID (`RecordId.isGuid_normal`).
-/

namespace GridFilter

/-! ## Texts that are not blank -/

namespace Text

lemma trimEnds_of_isAllBlank {text : String} (h : isAllBlank text = true) :
    trimEnds text.toList = [] :=
  trimEnds_eq_nil_iff.mpr h

end Text

lemma WireValue.values_ne_nil {wire : WireValue} (h : wire.isEmpty = false) : wire.values ≠ [] := by
  cases wire with
  | null => simp [isEmpty] at h
  | scalar text => simp [values]
  | list items =>
      intro hnone
      have hblank : items.all isBlankItem = true := by
        rw [List.all_eq_true]
        intro item hmem
        have hitem : item = none := List.filterMap_eq_nil_iff.mp hnone item hmem
        rw [hitem]
        rfl
      rw [isEmpty, hblank] at h
      exact absurd h.symm Bool.false_ne_true

namespace ValueShape

variable {column : Column} {shape : ValueShape} {wire : WireValue} {text : String}

/-- A text that has to be a number, a day, a choice or a GUID is not blank. -/
lemma Admits.not_blank (h : shape.Admits column text)
    (hshape : shape ≠ .nothing ∧ shape ≠ .text ∧ shape ≠ .search) :
    Text.isAllBlank text = false := by
  by_contra hblank
  have hnothing := Text.trimEnds_of_isAllBlank ((Bool.not_eq_false _).mp hblank)
  have hnumber : Number.read? text = none := by
    rw [Number.read?, hnothing]
    rfl
  have hdate : Date.read? text = none := by
    rw [Date.read?, hnothing]
    rfl
  have hoption : readOption? text = none := by
    rw [readOption?, hnothing]
    rfl
  cases shape with
  | nothing => exact hshape.1 rfl
  | text => exact hshape.2.1 rfl
  | search => exact hshape.2.2 rfl
  | number | numberRange | count =>
      obtain ⟨found, hread, -⟩ := h
      rw [hnumber] at hread
      exact absurd hread.symm (Option.some_ne_none found)
  | date | dateRange =>
      obtain ⟨found, hread⟩ := h
      rw [hdate] at hread
      exact absurd hread.symm (Option.some_ne_none found)
  | options =>
      obtain ⟨found, hread, -⟩ := h
      rw [hoption] at hread
      exact absurd hread.symm (Option.some_ne_none found)
  | references =>
      have hguid : RecordId.isGuid (Text.trimEnds text.toList) = true := h
      rw [hnothing] at hguid
      exact absurd hguid (by decide)

/-- A value whose texts are all in order is in order as it is seen. -/
lemma Filled.passes (h : shape.Filled column wire) : shape.Passes column wire := by
  unfold Passes
  cases h with
  | list hlist texts hcount hadmits =>
      rw [if_pos hlist, WireValue.values_ofTexts]
      refine ⟨?_, hadmits⟩
      cases texts with
      | nil => simp at hcount
      | cons first rest =>
          have hfirst : Text.isAllBlank first = false := by
            refine (hadmits first List.mem_cons_self).not_blank ?_
            refine ⟨?_, ?_, ?_⟩ <;> rintro rfl <;> exact absurd hlist (by decide)
          have hne : first ≠ "" := by
            rintro rfl
            exact absurd hfirst (by decide)
          simp [WireValue.ofTexts, WireValue.isEmpty, WireValue.isBlankItem, hne]
  | range hrange lower upper hlower hupper =>
      have hshape : shape ≠ .nothing ∧ shape ≠ .text ∧ shape ≠ .search := by
        refine ⟨?_, ?_, ?_⟩ <;> rintro rfl <;> exact absurd hrange (by decide)
      rw [isList_of_isRange hrange, if_neg Bool.false_ne_true, if_pos hrange]
      exact ⟨⟨lower, rfl, hlower.not_blank hshape, hlower⟩,
        ⟨upper, rfl, hupper.not_blank hshape, hupper⟩⟩
  | single hlist hrange text hblank hadmits =>
      rw [hlist, hrange, if_neg Bool.false_ne_true, if_neg Bool.false_ne_true]
      exact ⟨text, rfl, hblank, hadmits⟩

/-! ## What is read of a value that is in order -/

variable {remembered : Option ControlValue}

/-- A number that is admitted is admitted as it is written. -/
lemma Admits.exists_number (h : number.Admits column text) :
    ∃ found, Number.read? text = some found ∧ number.Admits column found.wireText := by
  obtain ⟨found, hread, hwhole⟩ := h
  exact ⟨found, hread, found.forgetZeroSign, Number.read?_wireText found, by simpa using hwhole⟩

lemma Admits.exists_count (h : count.Admits column text) :
    ∃ found, Number.read? text = some found ∧ count.Admits column found.wireText := by
  obtain ⟨found, hread, hwhole, hsign⟩ := h
  refine ⟨found, hread, found.forgetZeroSign, Number.read?_wireText found, ?_, ?_⟩
  · simpa using hwhole
  · simpa using hsign

lemma filled_single (hlist : shape.isList = false) (hrange : shape.isRange = false)
    (hshape : shape ≠ .nothing ∧ shape ≠ .text ∧ shape ≠ .search)
    (hadmits : shape.Admits column text) : shape.Filled column (.scalar text) :=
  .single hlist hrange text (hadmits.not_blank hshape) hadmits

lemma isNull_of_isEmpty (h : wire.isEmpty = false) : wire.isNull = false := by
  cases wire with
  | null => simp [WireValue.isEmpty] at h
  | _ => rfl

/-- The references that a remembered value has for filling in others. -/
def known : Option ControlValue → List Reference
  | some (.references found) => found
  | _ => []

/-- What is remembered fills in references, one for each id. -/
lemma decodeReferences_known (hpresent : wire.isNull = false) (remembered : Option ControlValue) :
    (decodeReferences wire).filledFrom remembered = .references
      (wire.values.map fun id =>
        ControlValue.fromKnown (known remembered) (.bare (RecordId.normal id))) := by
  rw [decodeReferences, hpresent, if_neg Bool.false_ne_true]
  cases remembered with
  | none => rfl
  | some earlier =>
      cases earlier with
      | references found =>
          show ControlValue.references _ = _
          rw [List.map_map]
          rfl
      | _ => rfl

lemma exists_known (hpresent : wire.isEmpty = false) (remembered : Option ControlValue) :
    ∃ known, (decodeReferences wire).filledFrom remembered = .references
      (wire.values.map fun id => ControlValue.fromKnown known (.bare (RecordId.normal id))) :=
  ⟨known remembered, decodeReferences_known (isNull_of_isEmpty hpresent) remembered⟩

lemma sentId_fromKnown_bare {id : String} (h : RecordId.Settles id) (known : List Reference) :
    (ControlValue.fromKnown known (.bare (RecordId.normal id))).sentId = RecordId.normal id := by
  have hnormal : RecordId.normal (Reference.bare (RecordId.normal id)).id =
      (Reference.bare (RecordId.normal id)).id := h
  exact ControlValue.sentId_fromKnown hnormal known

/-- References that were filled in for ids that settle can be told by their ids. -/
lemma coherent_fromKnown {ids : List String} (h : ∀ id ∈ ids, RecordId.Settles id)
    (known : List Reference) :
    Reference.Coherent
      (ids.map fun id => ControlValue.fromKnown known (.bare (RecordId.normal id))) where
  settles := by
    intro reference hmem
    obtain ⟨id, hid, rfl⟩ := List.mem_map.mp hmem
    have hsent := sentId_fromKnown_bare (h id hid) known
    rw [Reference.sentId] at hsent
    rw [RecordId.Settles, hsent, h id hid]
  known := by
    intro reference hmem
    obtain ⟨id, hid, rfl⟩ := List.mem_map.mp hmem
    rw [sentId_fromKnown_bare (h id hid)]
    rcases ControlValue.fromKnown_cases known (.bare (RecordId.normal id)) with
      ⟨hsame, -⟩ | ⟨-, hresolved, -⟩
    · exact .inr hsame
    · exact .inl hresolved
  unique := by
    intro reference hmem other hother hids
    obtain ⟨id, hid, rfl⟩ := List.mem_map.mp hmem
    obtain ⟨otherId, hotherId, rfl⟩ := List.mem_map.mp hother
    rw [sentId_fromKnown_bare (h id hid), sentId_fromKnown_bare (h otherId hotherId)] at hids
    rw [hids]

/-- The choices that are read of texts in order are choices of the column. -/
lemma own_filled_options (h : options.Passes column wire) :
    options.Own Reference.Coherent (.options (wire.values.filterMap readOption?)) ∧
      options.Filled column (options.encode (.options (wire.values.filterMap readOption?))) := by
  obtain ⟨hsome, hadmits⟩ := h.listed rfl
  have hread : ∀ n ∈ wire.values.filterMap readOption?, Text.fitsInt32 n = true ∧
      (column.details.options = [] ∨ column.hasOption n = true) := by
    intro n hmem
    obtain ⟨text, htext, hn⟩ := List.mem_filterMap.mp hmem
    obtain ⟨found, hfound, hallowed⟩ := hadmits text htext
    obtain rfl : found = n := Option.some_inj.mp (hfound.symm.trans hn)
    exact ⟨Text.fitsInt32_of_readInt32? hn, hallowed⟩
  refine ⟨.options _ fun n hmem => (hread n hmem).1, .list rfl _ ?_ ?_⟩
  · obtain ⟨text, rest, hvalues⟩ := List.exists_cons_of_ne_nil (WireValue.values_ne_nil hsome)
    obtain ⟨found, hfound, -⟩ := hadmits text (by simp [hvalues])
    simp [hvalues, hfound]
  · intro text hmem
    obtain ⟨n, hn, rfl⟩ := List.mem_map.mp hmem
    obtain ⟨hfits, hallowed⟩ := hread n hn
    exact ⟨n, readOption?_optionText hfits, hallowed⟩

/-- Whatever is known of the records, GUIDs are written for the references that are read of GUIDs. -/
lemma own_filled_references (h : references.Passes column wire) (known : List Reference) :
    let found := wire.values.map fun id => ControlValue.fromKnown known (.bare (RecordId.normal id))
    references.Own Reference.Coherent (.references found) ∧
      references.Filled column (references.encode (.references found)) := by
  intro found
  obtain ⟨hsome, hadmits⟩ := h.listed rfl
  have hsettles : ∀ id ∈ wire.values, RecordId.Settles id :=
    fun id hmem => RecordId.settles_of_isGuid (hadmits id hmem)
  have hids : wire.values ≠ [] := WireValue.values_ne_nil hsome
  have hne : found ≠ [] := mt List.map_eq_nil_iff.mp hids
  have hsent : found.map Reference.sentId = wire.values.map RecordId.normal := by
    rw [List.map_map]
    exact List.map_congr_left fun id hmem => sentId_fromKnown_bare (hsettles id hmem) known
  refine ⟨.references _ hne (coherent_fromKnown hsettles known), ?_⟩
  show Filled column references (encodeReferences (.references found))
  rw [encodeReferences_of_ne_nil hne, hsent]
  refine .list rfl _ ?_ fun text hmem => ?_
  · rw [List.length_map]
    exact List.length_pos_iff.mpr hids
  · obtain ⟨id, hid, rfl⟩ := List.mem_map.mp hmem
    exact RecordId.isGuid_normal (hadmits id hid)

/-- A value that is in order is read as a control value of the shape's own, and what is written for
that is in order. -/
theorem exists_own_of_passes (h : shape.Passes column wire)
    (hpresent : ((shape.decode wire).filledFrom remembered).isNull = false) :
    ∃ value, (shape.decode wire).filledFrom remembered = value ∧
      shape.Own Reference.Coherent value ∧ shape.Filled column (shape.encode value) := by
  cases shape with
  | nothing => exact absurd hpresent (by simp [decode, ControlValue.filledFrom, ControlValue.isNull])
  | text =>
      obtain ⟨text, rest, hvalues, hblank, hadmits⟩ := h.single rfl rfl
      refine ⟨.text text, ?_, .text text, .single rfl rfl text hblank hadmits⟩
      simp [decode, hvalues, ControlValue.ofText?, ControlValue.filledFrom]
  | search =>
      obtain ⟨text, rest, hvalues, hblank, hadmits⟩ := h.single rfl rfl
      -- A list would be read as no value at all.
      cases wire with
      | null => simp [WireValue.values] at hvalues
      | list items => simp [decode, WireValue.scalar?, ControlValue.ofText?,
          ControlValue.filledFrom, ControlValue.isNull] at hpresent
      | scalar single =>
          have hsingle : single = text := (List.cons.inj hvalues).1
          refine ⟨.text text, ?_, .search text, .single rfl rfl text hblank hadmits⟩
          rw [hsingle]
          rfl
  | number =>
      obtain ⟨text, rest, hvalues, -, hadmits⟩ := h.single rfl rfl
      obtain ⟨found, hread, hwritten⟩ := hadmits.exists_number
      refine ⟨.number found, ?_, .number found, filled_single rfl rfl (by simp) hwritten⟩
      simp [decode, decodeNumber, hvalues, hread, ControlValue.filledFrom]
  | count =>
      obtain ⟨text, rest, hvalues, -, hadmits⟩ := h.single rfl rfl
      obtain ⟨found, hread, hwritten⟩ := hadmits.exists_count
      refine ⟨.number found, ?_, .count found, filled_single rfl rfl (by simp) hwritten⟩
      simp [decode, decodeNumber, hvalues, hread, ControlValue.filledFrom]
  | numberRange =>
      obtain ⟨lower, upper, rest, rfl, hlower, hupper⟩ := h.bounds rfl
      obtain ⟨first, hfirst, hfirstWritten⟩ := Admits.exists_number hlower
      obtain ⟨second, hsecond, hsecondWritten⟩ := Admits.exists_number hupper
      refine ⟨.numberRange (some first) (some second), ?_, .numberRange _ _,
        .range rfl _ _ hfirstWritten hsecondWritten⟩
      simp [decode, WireValue.lower, WireValue.upper, hfirst, hsecond, ControlValue.filledFrom]
  | date =>
      obtain ⟨text, rest, hvalues, -, found, hread⟩ := h.single rfl rfl
      have hwritten : date.Admits column found.text := ⟨found, Date.read?_text found⟩
      refine ⟨.date found, ?_, .date found, filled_single rfl rfl (by simp) hwritten⟩
      simp [decode, decodeDate, hvalues, hread, ControlValue.filledFrom]
  | dateRange =>
      obtain ⟨lower, upper, rest, rfl, ⟨first, hfirst⟩, second, hsecond⟩ := h.bounds rfl
      have hwritten : ∀ day : Date, dateRange.Admits column day.text :=
        fun day => ⟨day, Date.read?_text day⟩
      refine ⟨.dateRange (some first) (some second), ?_, .dateRange _ _,
        .range rfl _ _ (hwritten first) (hwritten second)⟩
      simp [decode, WireValue.lower, WireValue.upper, hfirst, hsecond, ControlValue.filledFrom]
  | options =>
      obtain ⟨hsome, -⟩ := h.listed rfl
      refine ⟨.options (wire.values.filterMap readOption?), ?_, own_filled_options h⟩
      simp [decode, decodeOptions, isNull_of_isEmpty hsome, ControlValue.filledFrom]
  | references =>
      obtain ⟨hsome, -⟩ := h.listed rfl
      obtain ⟨known, hfilled⟩ := exists_known hsome remembered
      exact ⟨_, hfilled, own_filled_references h known⟩

end ValueShape

end GridFilter
