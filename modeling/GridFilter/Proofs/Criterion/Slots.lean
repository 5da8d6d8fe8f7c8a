import GridFilter.Proofs.Criterion.WellFormed

/-!
# One result for each slot

An editor puts the results of a condition beside its input fields, so there have to be as many
results as fields, and a result must not speak of another field.  `ColumnKind.SlotBySlot` says both
for a kind, a column and an operator.

Two facts carry it.  An operator that a kind offers is judged as a range exactly when it is one, so
the number of results is that of the operator in all three ways of looking at a value.  And no check
of a text ever asks for a value (`ValueShape.complaint?_ne_missing`), so that complaint is left to
the slots in which there is nothing to check.
-/

namespace GridFilter

variable {kind : ColumnKind} {column : Column} {operator : Operator} {wire : WireValue}

/-! ## What is asked for -/

lemma numberComplaint?_ne_missing (whole : Bool) (text : String) :
    numberComplaint? whole text ≠ some .missing := by
  unfold numberComplaint?
  cases Number.read? text with
  | none => simp
  | some found => dsimp only; split <;> simp

lemma countComplaint?_ne_missing (text : String) : countComplaint? text ≠ some .missing := by
  unfold countComplaint?
  rw [Ne, Option.or_eq_some_iff, not_or, not_and_or]
  refine ⟨numberComplaint?_ne_missing true text, .inr ?_⟩
  cases Number.read? text with
  | none => simp
  | some found => dsimp only; split <;> simp

lemma optionComplaint?_ne_missing (column : Column) (text : String) :
    optionComplaint? column text ≠ some .missing := by
  unfold optionComplaint?
  cases Text.readInt32? text.toList with
  | none => simp
  | some found => dsimp only; split <;> simp

lemma dateComplaint?_ne_missing (text : String) : dateComplaint? text ≠ some .missing := by
  unfold dateComplaint?
  split <;> simp

lemma referenceComplaint?_ne_missing (text : String) :
    referenceComplaint? text ≠ some .missing := by
  unfold referenceComplaint?
  split <;> simp

/-- A text that is there may be wrong, but it is not missing. -/
lemma ValueShape.complaint?_ne_missing (shape : ValueShape) (column : Column) (text : String) :
    shape.complaint? column text ≠ some .missing := by
  cases shape with
  | nothing | text | search => simp [complaint?]
  | number | numberRange => exact numberComplaint?_ne_missing column.dataType.isWholeNumber text
  | count => exact countComplaint?_ne_missing text
  | date | dateRange => exact dateComplaint?_ne_missing text
  | options => exact optionComplaint?_ne_missing column text
  | references => exact referenceComplaint?_ne_missing text

/-- A value is asked for exactly where a slot has no text or one of blanks. -/
lemma slotResult_eq_missing_iff {check : String → Option Complaint}
    (hcheck : ∀ text, check text ≠ some .missing) {slot : Option String} :
    slotResult check slot = some .missing ↔ slot.all Text.isAllBlank = true := by
  unfold slotResult
  cases slot with
  | none => simp
  | some text =>
      rw [Option.all_some, ← Text.trim_eq_empty_iff]
      by_cases hnothing : Text.trim text = ""
      · simp [hnothing]
      · simp [hnothing, hcheck]

/-! ## The results of a range -/

/-- The slots of a range: the lower bound and the upper one. -/
def WireValue.slot (wire : WireValue) : Fin 2 → Option String
  | 0 => wire.lower
  | 1 => wire.upper

lemma Operator.isValueless_of_isRange (hrange : operator.isRange = true) :
    operator.isValueless = false := by
  have hcategory : operator.category = .range := by simpa [isRange] using hrange
  rw [isValueless, hcategory]

namespace ColumnKind

/-- A range is judged by its two slots, each by itself. -/
lemma validate_of_isRange (hsupports : kind.supports operator = true)
    (hrange : operator.isRange = true) (column : Column) (wire : WireValue) :
    kind.validate column operator wire =
      [slotResult ((ValueShape.of kind operator).complaint? column) (wire.slot 0),
        slotResult ((ValueShape.of kind operator).complaint? column) (wire.slot 1)] := by
  have hshape : (ValueShape.of kind operator).isRange = true := by
    rw [ValueShape.isRange_of_supports hsupports, hrange]
  rw [validate_of_value hsupports (Operator.isValueless_of_isRange hrange), validateValue,
    ValueShape.isList_of_isRange hshape, if_neg Bool.false_ne_true, if_pos hshape]
  rfl

/-- What an operator that is no range is judged by is one result, for a list as for a text. -/
lemma length_validateValue_of_not_isRange (hsupports : kind.supports operator = true)
    (hrange : operator.isRange = false) :
    (kind.validateValue column operator wire).length = 1 := by
  have hshape : (ValueShape.of kind operator).isRange = false := by
    rw [ValueShape.isRange_of_supports hsupports, hrange]
  unfold validateValue
  dsimp only
  rw [hshape, if_neg Bool.false_ne_true]
  split <;> rfl

/-- There are as many results as slots, also when the operator is not offered. -/
lemma length_validate : (kind.validate column operator wire).length = operator.slotCount := by
  cases hsupports : kind.supports operator with
  | false => rw [validate_of_not_supports hsupports, List.length_replicate]
  | true =>
      unfold Operator.slotCount
      cases hrange : operator.isRange with
      | true => rw [validate_of_isRange hsupports hrange]; rfl
      | false =>
          cases hvalueless : operator.isValueless with
          | true => rw [validate_of_isValueless hsupports hvalueless]; rfl
          | false =>
              rw [validate_of_value hsupports hvalueless,
                length_validateValue_of_not_isRange hsupports hrange]
              rfl

/-- The result of a slot of a range. -/
lemma getElem?_validate (hsupports : kind.supports operator = true)
    (hrange : operator.isRange = true) (i : Fin 2) :
    (kind.validate column operator wire)[i.val]? =
      some (slotResult ((ValueShape.of kind operator).complaint? column) (wire.slot i)) := by
  rw [validate_of_isRange hsupports hrange]
  match i with
  | 0 => rfl
  | 1 => rfl

/-- The results of an operator go with the slots of the value. -/
structure SlotBySlot (kind : ColumnKind) (column : Column) (operator : Operator) : Prop where
  /-- A range has two results and everything else one, whatever the value, and whether the kind
  offers the operator or not. -/
  complete : ∀ wire,
    (kind.validate column operator wire).length = if operator.isRange then 2 else 1
  /-- Values that agree in a slot of a range have the same result there. -/
  independent : kind.supports operator = true → operator.isRange = true →
    ∀ (i : Fin 2) (wire other : WireValue), wire.slot i = other.slot i →
      (kind.validate column operator wire)[i.val]? = (kind.validate column operator other)[i.val]?
  /-- A slot of a range is reported as required exactly when it is missing or blank. -/
  required_iff : kind.supports operator = true → operator.isRange = true →
    ∀ (i : Fin 2) (wire : WireValue),
      (kind.validate column operator wire)[i.val]? = some (some .missing) ↔
        (wire.slot i).all Text.isAllBlank = true

/-- Every operator is judged slot by slot, for every kind and every column. -/
theorem slotBySlot (kind : ColumnKind) (column : Column) (operator : Operator) :
    kind.SlotBySlot column operator where
  complete wire := length_validate
  independent hsupports hrange i wire other hagree := by
    rw [getElem?_validate hsupports hrange, getElem?_validate hsupports hrange, hagree]
  required_iff hsupports hrange i wire := by
    rw [getElem?_validate hsupports hrange, Option.some_inj]
    exact slotResult_eq_missing_iff
      (ValueShape.complaint?_ne_missing (ValueShape.of kind operator) column)

/-- A lower bound that is not there is asked for, and the complaint about the upper one is the same
with a lower bound and with more than two items. -/
theorem slotBySlot_between :
    let column : Column := ⟨"revenue", .decimal, {}⟩
    let half : WireValue := .list [none, some "ten"]
    let longer : WireValue := .list [some "1", some "ten", some "3"]
    number.supports .between = true ∧ Operator.between.isRange = true ∧
      half.slot 1 = longer.slot 1 ∧
      (number.validate column .between half)[0]? = some (some .missing) ∧
      (number.validate column .between half)[1]? =
        (number.validate column .between longer)[1]? := by
  intro column half longer
  have hslots := slotBySlot .number column .between
  exact ⟨rfl, rfl, rfl, (hslots.required_iff rfl rfl 0 half).mpr rfl,
    hslots.independent rfl rfl 1 half longer rfl⟩

end ColumnKind

end GridFilter
