import GridFilter.Proofs.Calendar.Reading
import GridFilter.Proofs.Condition.SameIds
import GridFilter.Proofs.Criterion.WellFormed
import GridFilter.Proofs.Number.Literal
import Mathlib.Data.List.Nodup

/-!
# From a control to the wire and back

Each shape has control values of its own (`ValueShape.Own`): texts, numbers, days, pairs of these,
choices, references.  Such a value is written on the wire and read back as it was
(`ValueShape.decode_encode`), whatever it is: the empty text, a range that is open on both sides, a
day of a year with a sign, no choice at all.

Two things do not survive on the wire alone.  Of a zero the sign is lost, so values are compared up
to it.  Of a reference the id in normal form is all that is sent; entity and name come back from
what the condition remembers, and they come back right when no other remembered reference is sent
under the same id (`Reference.Coherent`).
-/

namespace GridFilter

/-! ## Zeros of either sign -/

namespace Number

lemma forgetZeroSign_of_isZero {x : Number} (h : x.isZero = true) : x.forgetZeroSign = zero :=
  if_pos h

lemma forgetZeroSign_of_not_isZero {x : Number} (h : x.isZero = false) : x.forgetZeroSign = x := by
  rw [forgetZeroSign, h]
  rfl

/-- What does not tell the zeros apart does not notice that the sign of a zero is forgotten. -/
lemma apply_forgetZeroSign {α : Type} {f : Number → α}
    (h : ∀ x : Number, x.isZero = true → f zero = f x) (x : Number) :
    f x.forgetZeroSign = f x := by
  cases hzero : x.isZero with
  | true => rw [forgetZeroSign_of_isZero hzero, h x hzero]
  | false => rw [forgetZeroSign_of_not_isZero hzero]

lemma units_of_isZero {x : Number} (h : x.isZero = true) : x.units = zero.units :=
  beq_iff_eq.mp h

@[simp] lemma forgetZeroSign_forgetZeroSign (x : Number) :
    x.forgetZeroSign.forgetZeroSign = x.forgetZeroSign :=
  apply_forgetZeroSign (fun _ h => (forgetZeroSign_of_isZero h).symm) x

@[simp] lemma wireText_forgetZeroSign (x : Number) : x.forgetZeroSign.wireText = x.wireText := by
  refine apply_forgetZeroSign (fun x h => ?_) x
  have hzero : zero.isZero = true := rfl
  rw [wireText, wireText, if_pos hzero, if_pos h]

@[simp] lemma isWhole_forgetZeroSign (x : Number) : x.forgetZeroSign.isWhole = x.isWhole := by
  refine apply_forgetZeroSign (fun x h => ?_) x
  rw [isWhole, isWhole, units_of_isZero h]

@[simp] lemma isBelowZero_forgetZeroSign (x : Number) :
    x.forgetZeroSign.isBelowZero = x.isBelowZero := by
  refine apply_forgetZeroSign (fun x h => ?_) x
  simp [isBelowZero, units_of_isZero h, zero]

@[simp] lemma toInt32_forgetZeroSign (x : Number) : x.forgetZeroSign.toInt32 = x.toInt32 := by
  refine apply_forgetZeroSign (fun x h => ?_) x
  simp [toInt32, truncated, units_of_isZero h, zero]

end Number

namespace ControlValue

/-- The control value with zeros of either sign made one. -/
def forgetZeroSign : ControlValue → ControlValue
  | .number value => .number value.forgetZeroSign
  | .numberRange lower upper =>
    .numberRange (lower.map Number.forgetZeroSign) (upper.map Number.forgetZeroSign)
  | value => value

@[simp] lemma forgetZeroSign_forgetZeroSign (value : ControlValue) :
    value.forgetZeroSign.forgetZeroSign = value.forgetZeroSign := by
  have hbound : ∀ bound : Option Number, (bound.map Number.forgetZeroSign).map
      Number.forgetZeroSign = bound.map Number.forgetZeroSign := by
    intro bound
    cases bound <;> simp
  cases value <;> simp [forgetZeroSign, hbound]

end ControlValue

/-- Nothing of what is sent depends on the sign of a zero. -/
@[simp] lemma ValueShape.encode_forgetZeroSign (shape : ValueShape) (value : ControlValue) :
    shape.encode value.forgetZeroSign = shape.encode value := by
  have hbound : ∀ bound : Option Number,
      (bound.map Number.forgetZeroSign).map Number.wireText = bound.map Number.wireText := by
    intro bound
    cases bound <;> simp
  cases value with
  | number value =>
      cases shape with
      | text => simp [encode, encodeText, ControlValue.forgetZeroSign]
      | number => simp [encode, encodeNumber, ControlValue.forgetZeroSign]
      | numberRange => simp [encode, encodeNumberRange, ControlValue.forgetZeroSign]
      | count => simp [encode, encodeCount, ControlValue.forgetZeroSign]
      | options => simp [encode, encodeOptions, ControlValue.forgetZeroSign]
      | _ => rfl
  | numberRange lower upper =>
      cases shape with
      | number => cases lower <;> simp [encode, encodeNumber, ControlValue.forgetZeroSign]
      | numberRange => simp [encode, encodeNumberRange, ControlValue.forgetZeroSign, hbound]
      | _ => rfl
  | _ => rfl

/-! ## References with their names -/

namespace Reference

/-- References that can be told by the ids that are sent for them, each known by that id alone or
with its entity. -/
structure Coherent (references : List Reference) : Prop where
  settles : ∀ reference ∈ references, RecordId.Settles reference.id
  known : ∀ reference ∈ references,
    reference.isResolved = true ∨ reference = .bare reference.sentId
  unique : ∀ reference ∈ references, ∀ other ∈ references,
    reference.sentId = other.sentId → reference = other

/-- References as an editor hands them over: ids in normal form, pairwise different, each reference
known by its id alone or with its entity. -/
structure Plain (references : List Reference) : Prop where
  normal : ∀ reference ∈ references, RecordId.normal reference.id = reference.id
  different : (references.map Reference.id).Nodup
  known : ∀ reference ∈ references, reference.isResolved = true ∨ reference = .bare reference.id

variable {references : List Reference}

lemma Plain.coherent (h : Plain references) : Coherent references where
  settles := by
    intro reference hmem
    rw [RecordId.Settles, h.normal reference hmem, h.normal reference hmem]
  known := by
    intro reference hmem
    rw [sentId, h.normal reference hmem]
    exact h.known reference hmem
  unique := by
    intro reference hmem other hother hids
    rw [sentId, sentId, h.normal reference hmem, h.normal other hother] at hids
    exact List.inj_on_of_nodup_map h.different hmem hother hids

/-- Among coherent references the one that is sent under an id is found by that id. -/
lemma Coherent.fromKnown (h : Coherent references) {reference : Reference}
    (hmem : reference ∈ references) :
    ControlValue.fromKnown references (.bare reference.sentId) = reference := by
  rcases ControlValue.fromKnown_cases references (.bare reference.sentId) with
    ⟨hsame, hnone⟩ | ⟨hknown, -, hid⟩
  · rw [hsame]
    rcases h.known reference hmem with hresolved | hbare
    · exact absurd rfl (hnone reference hmem hresolved)
    · exact hbare.symm
  · exact h.unique _ hknown reference hmem hid

end Reference

namespace ValueShape

/-! ## Values of a shape's own -/

/-- The control values that belong to a shape, with a condition on lists of references. -/
inductive Own (allowed : List Reference → Prop) : ValueShape → ControlValue → Prop where
  | text (value : String) : Own allowed .text (.text value)
  | number (value : Number) : Own allowed .number (.number value)
  | numberRange (lower upper : Option Number) : Own allowed .numberRange (.numberRange lower upper)
  | count (value : Number) : Own allowed .count (.number value)
  | date (value : Date) : Own allowed .date (.date value)
  | dateRange (lower upper : Option Date) : Own allowed .dateRange (.dateRange lower upper)
  | options (values : List Int) (hfits : ∀ value ∈ values, Text.fitsInt32 value = true) :
      Own allowed .options (.options values)
  | references (found : List Reference) (hne : found ≠ []) (hallowed : allowed found) :
      Own allowed .references (.references found)
  | search (value : String) : Own allowed .search (.text value)

variable {shape : ValueShape} {value : ControlValue} {allowed other : List Reference → Prop}

lemma Own.mono (h : shape.Own allowed value) (himp : ∀ found, allowed found → other found) :
    shape.Own other value := by
  cases h with
  | references found hne hallowed => exact .references found hne (himp found hallowed)
  | text value => exact .text value
  | number value => exact .number value
  | numberRange lower upper => exact .numberRange lower upper
  | count value => exact .count value
  | date value => exact .date value
  | dateRange lower upper => exact .dateRange lower upper
  | options values hfits => exact .options values hfits
  | search value => exact .search value

lemma Own.ne_nothing (h : shape.Own allowed value) : shape ≠ .nothing := by
  rintro rfl
  cases h

lemma Own.isNull (h : shape.Own allowed value) : value.isNull = false := by
  cases h <;> rfl

lemma Own.forgetZeroSign (h : shape.Own allowed value) :
    shape.Own allowed value.forgetZeroSign := by
  cases h with
  | number value => exact .number value.forgetZeroSign
  | numberRange lower upper =>
      exact .numberRange (lower.map Number.forgetZeroSign) (upper.map Number.forgetZeroSign)
  | count value => exact .count value.forgetZeroSign
  | text value => exact .text value
  | date value => exact .date value
  | dateRange lower upper => exact .dateRange lower upper
  | options values hfits => exact .options values hfits
  | references found hne hallowed => exact .references found hne hallowed
  | search value => exact .search value

/-! ## Reading what was written -/

lemma decodeNumber_wireText (x : Number) :
    decodeNumber (.scalar x.wireText) = .number x.forgetZeroSign := by
  simp [decodeNumber, WireValue.values, Number.read?_wireText]

lemma decodeDate_text (d : Date) : decodeDate (.scalar d.text) = .date d := by
  simp [decodeDate, WireValue.values]

lemma readOption?_optionText {n : Int} (h : Text.fitsInt32 n = true) :
    readOption? (optionText n) = some n := by
  rw [readOption?, optionText, Text.trimEnds_eq_self fun c hmem => Text.isBlank_of_mem_intText hmem,
    Text.readInt32?_intText h]

lemma decodeOptions_ofTexts {values : List Int} (h : ∀ n ∈ values, Text.fitsInt32 n = true) :
    decodeOptions (.ofTexts (values.map optionText)) = .options values := by
  have hread : ∀ n ∈ values, (readOption? ∘ optionText) n = some n :=
    fun n hmem => readOption?_optionText (h n hmem)
  have hall : (values.map optionText).filterMap readOption? = values := by
    rw [List.filterMap_map, List.filterMap_congr hread, List.filterMap_some]
  rw [decodeOptions, WireValue.values_ofTexts, hall]
  rfl

lemma encodeReferences_of_ne_nil {found : List Reference} (hne : found ≠ []) :
    encodeReferences (.references found) = .ofTexts (found.map Reference.sentId) := by
  cases found with
  | nil => exact absurd rfl hne
  | cons first rest => rfl

/-- References lose their names on the wire, and have them back from what is remembered. -/
lemma decodeReferences_filledFrom {found : List Reference} (hne : found ≠ [])
    (h : Reference.Coherent found) :
    (decodeReferences (encodeReferences (.references found))).filledFrom
      (some (.references found)) = .references found := by
  have hread : decodeReferences (encodeReferences (.references found)) =
      .references (found.map fun reference => .bare (RecordId.normal reference.sentId)) := by
    rw [encodeReferences_of_ne_nil hne, decodeReferences, WireValue.values_ofTexts, List.map_map]
    rfl
  have hback : ∀ reference ∈ found,
      ControlValue.fromKnown found (.bare (RecordId.normal reference.sentId)) = reference := by
    intro reference hmem
    have hsettles : RecordId.normal reference.sentId = reference.sentId :=
      h.settles reference hmem
    rw [hsettles, h.fromKnown hmem]
  rw [hread]
  show ControlValue.references _ = _
  rw [List.map_map, ControlValue.references.injEq]
  exact (List.map_congr_left hback).trans (List.map_id' found)

/-- A value of the shape's own reads back from the wire as it was, the sign of zero apart. -/
theorem decode_encode (h : shape.Own Reference.Coherent value) {remembered : Option ControlValue}
    (hremembered : shape = .references → remembered = some value) :
    (shape.decode (shape.encode value)).filledFrom remembered = value.forgetZeroSign := by
  have hbound : ∀ bound : Option Number,
      (bound.map Number.wireText).bind Number.read? = bound.map Number.forgetZeroSign := by
    intro bound
    cases bound <;> simp [Number.read?_wireText]
  have hday : ∀ bound : Option Date, (bound.map Date.text).bind Date.read? = bound := by
    intro bound
    cases bound <;> simp
  cases h with
  | text value => rfl
  | search value => rfl
  | number value =>
      show (decodeNumber (.scalar value.wireText)).filledFrom remembered = _
      rw [decodeNumber_wireText]
      rfl
  | count value =>
      show (decodeNumber (.scalar value.wireText)).filledFrom remembered = _
      rw [decodeNumber_wireText]
      rfl
  | numberRange lower upper =>
      show ControlValue.numberRange ((lower.map Number.wireText).bind Number.read?)
        ((upper.map Number.wireText).bind Number.read?) = _
      rw [hbound, hbound]
      rfl
  | date value =>
      show (decodeDate (.scalar value.text)).filledFrom remembered = _
      rw [decodeDate_text]
      rfl
  | dateRange lower upper =>
      show ControlValue.dateRange ((lower.map Date.text).bind Date.read?)
        ((upper.map Date.text).bind Date.read?) = _
      rw [hday, hday]
      rfl
  | options values hfits =>
      show (decodeOptions (.ofTexts (values.map optionText))).filledFrom remembered = _
      rw [decodeOptions_ofTexts hfits]
      rfl
  | references found hne hcoherent =>
      rw [hremembered rfl]
      exact decodeReferences_filledFrom hne hcoherent

end ValueShape

end GridFilter
