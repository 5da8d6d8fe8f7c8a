import GridFilter.Proofs.Condition.Step
import GridFilter.Proofs.Text.RecordId

/-!
# Control values that are sent alike

A reference may be known with its name or by its id alone, and its id may be written in more than
one way.  What is sent for it is the id in normal form.  Two control values that are equal but for
this (`ControlValue.Alike`) are sent alike under every shape.

The names that a condition remembers go into decoding: a reference that was resolved before takes
the place of the bare id.  Bare id and resolved reference are alike as long as the ids on the wire
settle (`RecordId.Settles`), as those of records do.
-/

namespace GridFilter

/-- The id that is sent for a reference. -/
def Reference.sentId (reference : Reference) : String :=
  RecordId.normal reference.id

namespace ControlValue

/-- Equal control values, or references with the same ids. -/
inductive Alike : ControlValue → ControlValue → Prop where
  | refl (value : ControlValue) : Alike value value
  | references (found other : List Reference)
      (hids : found.map Reference.sentId = other.map Reference.sentId) :
      Alike (.references found) (.references other)

/-- What is sent for the references of a control value settles. -/
def Settles (value : ControlValue) : Prop :=
  ∀ references, value = .references references →
    ∀ reference ∈ references, RecordId.Settles reference.sentId

variable {value other : ControlValue}

lemma Alike.isNull_eq (h : Alike value other) : other.isNull = value.isNull := by
  cases h <;> rfl

lemma Alike.settles (h : Alike value other) (hsettles : value.Settles) : other.Settles := by
  cases h with
  | refl => exact hsettles
  | references found other hids =>
      intro references hreferences reference hmem
      obtain rfl := ControlValue.references.inj hreferences
      have hid : reference.sentId ∈ found.map Reference.sentId := by
        rw [hids]
        exact List.mem_map_of_mem hmem
      obtain ⟨earlier, hearlier, heq⟩ := List.mem_map.mp hid
      rw [← heq]
      exact hsettles found rfl earlier hearlier

lemma settles_of_not_references (h : ∀ references, value ≠ .references references) :
    value.Settles :=
  fun references hvalue => absurd hvalue (h references)

/-- A reference is left as it is if none that is resolved is sent under its id, and else it is one of
these. -/
lemma fromKnown_cases (known : List Reference) (reference : Reference) :
    fromKnown known reference = reference ∧
        (∀ other ∈ known, other.isResolved = true → other.sentId ≠ reference.id) ∨
      fromKnown known reference ∈ known ∧ (fromKnown known reference).isResolved = true ∧
        (fromKnown known reference).sentId = reference.id := by
  unfold fromKnown
  cases hfound : known.find? fun candidate =>
      candidate.isResolved && RecordId.normal candidate.id == reference.id with
  | none =>
      refine .inl ⟨rfl, fun other hmem hresolved hid => ?_⟩
      have hmiss := List.find?_eq_none.mp hfound other hmem
      rw [hresolved, Bool.true_and, beq_iff_eq] at hmiss
      exact hmiss hid
  | some candidate =>
      have hcandidate := List.find?_some hfound
      simp only [Bool.and_eq_true, beq_iff_eq] at hcandidate
      exact .inr ⟨List.mem_of_find?_eq_some hfound, hcandidate⟩

/-- Being resolved or not, a reference that settles is filled with one of the same id. -/
lemma sentId_fromKnown {reference : Reference}
    (hnormal : RecordId.normal reference.id = reference.id) (known : List Reference) :
    (fromKnown known reference).sentId = reference.id := by
  rcases fromKnown_cases known reference with ⟨hsame, -⟩ | ⟨-, -, hid⟩
  · rw [hsame]
    exact hnormal
  · exact hid

lemma isNull_filledFrom (remembered : Option ControlValue) :
    (value.filledFrom remembered).isNull = value.isNull := by
  unfold filledFrom
  split <;> rfl

lemma filledFrom_of_not_references (h : ∀ references, value ≠ .references references)
    (remembered : Option ControlValue) : value.filledFrom remembered = value := by
  unfold filledFrom
  split
  · next found known => exact absurd rfl (h found)
  · rfl

/-- Filling replaces references that settle by references of the same ids. -/
lemma alike_filledFrom {found : List Reference}
    (hnormal : ∀ reference ∈ found, RecordId.normal reference.id = reference.id)
    (remembered : Option ControlValue) :
    ∃ filled, (ControlValue.references found).filledFrom remembered = .references filled ∧
      filled.map Reference.sentId = found.map Reference.id := by
  have hself : found.map Reference.sentId = found.map Reference.id :=
    List.map_congr_left fun reference hmem => hnormal reference hmem
  cases remembered with
  | none => exact ⟨found, rfl, hself⟩
  | some earlier =>
      cases earlier with
      | references known =>
          refine ⟨found.map (fromKnown known), rfl, ?_⟩
          rw [List.map_map]
          exact List.map_congr_left fun reference hmem =>
            sentId_fromKnown (hnormal reference hmem) known
      | _ => exact ⟨found, rfl, hself⟩

end ControlValue

namespace ValueShape

variable {shape : ValueShape} {wire : WireValue}

/-- Control values that are alike are written alike. -/
lemma encode_alike {value other : ControlValue} (h : ControlValue.Alike value other) :
    shape.encode other = shape.encode value := by
  cases h with
  | refl => rfl
  | references found other hids =>
      cases shape with
      | references =>
          -- An empty list is no value; of any other the ids are written and nothing else.
          cases found with
          | nil =>
              have hempty : other = [] := by simpa using hids
              rw [hempty]
          | cons first rest =>
              cases other with
              | nil => simp at hids
              | cons head tail => exact congrArg WireValue.ofTexts hids.symm
      | _ => rfl

/-- What is written for a control value that settles settles. -/
lemma settles_encode {value : ControlValue} (h : value.Settles) :
    ∀ text ∈ (references.encode value).values, RecordId.Settles text := by
  intro text hmem
  cases value with
  | references found =>
      cases found with
      | nil => simp [encode, encodeReferences, WireValue.values] at hmem
      | cons first rest =>
          have hids : text ∈ (first :: rest).map Reference.sentId := by
            simpa [encode, encodeReferences, WireValue.ofTexts, WireValue.values,
              Reference.sentId] using hmem
          obtain ⟨reference, hreference, rfl⟩ := List.mem_map.mp hids
          exact h _ rfl reference hreference
  | _ => simp [encode, encodeReferences, WireValue.values] at hmem

lemma decode_ne_references (h : shape ≠ references) (wire : WireValue) (found : List Reference) :
    shape.decode wire ≠ .references found := by
  have htext : ∀ text, ControlValue.ofText? text ≠ .references found := by
    intro text
    cases text <;> simp [ControlValue.ofText?]
  have hnumber : decodeNumber wire ≠ .references found := by
    unfold decodeNumber
    split
    · split <;> simp
    · simp
  have hdate : decodeDate wire ≠ .references found := by
    unfold decodeDate
    split
    · split <;> simp
    · simp
  have hoptions : decodeOptions wire ≠ .references found := by
    unfold decodeOptions
    split <;> simp
  cases shape with
  | references => exact absurd rfl h
  | text | search => exact htext _
  | number | count => exact hnumber
  | date => exact hdate
  | options => exact hoptions
  | nothing | numberRange | dateRange => simp [decode]

/-- What is read from ids that settle are references to the normal forms of these ids, whatever
names were filled in. -/
lemma decode_references (hwire : ∀ text ∈ wire.values, RecordId.Settles text)
    (remembered : Option ControlValue) :
    (references.decode wire).filledFrom remembered = .null ∨
      ∃ filled, (references.decode wire).filledFrom remembered = .references filled ∧
        filled.map Reference.sentId = wire.values.map RecordId.normal := by
  have hdecode : references.decode wire = decodeReferences wire := rfl
  rw [hdecode, decodeReferences]
  split
  · exact .inl (ControlValue.filledFrom_of_not_references (by simp) remembered)
  · have hnormal : ∀ reference ∈ wire.values.map fun id => Reference.bare (RecordId.normal id),
        RecordId.normal reference.id = reference.id := by
      intro reference hmem
      obtain ⟨id, hid, rfl⟩ := List.mem_map.mp hmem
      exact hwire id hid
    obtain ⟨filled, hfilled, hids⟩ := ControlValue.alike_filledFrom hnormal remembered
    refine .inr ⟨filled, hfilled, ?_⟩
    rw [hids, List.map_map]
    rfl

/-- Reading a value twice gives control values that are alike, whatever is remembered. -/
lemma decode_alike (hwire : shape = references → ∀ text ∈ wire.values, RecordId.Settles text)
    (remembered other : Option ControlValue) :
    ControlValue.Alike ((shape.decode wire).filledFrom remembered)
      ((shape.decode wire).filledFrom other) := by
  by_cases hshape : shape = references
  · subst hshape
    have hnull : ∀ last, ((references.decode wire).filledFrom last).isNull =
        (references.decode wire).isNull := fun last => ControlValue.isNull_filledFrom last
    rcases decode_references (hwire rfl) remembered with hleft | ⟨filled, hleft, hids⟩ <;>
      rcases decode_references (hwire rfl) other with hright | ⟨refilled, hright, hother⟩
    · rw [hleft, hright]
      exact .refl .null
    · have hboth := (hnull remembered).trans (hnull other).symm
      rw [hleft, hright] at hboth
      simp [ControlValue.isNull] at hboth
    · have hboth := (hnull remembered).trans (hnull other).symm
      rw [hleft, hright] at hboth
      simp [ControlValue.isNull] at hboth
    · rw [hleft, hright]
      exact .references filled refilled (hids.trans hother.symm)
  · have hplain := decode_ne_references hshape wire
    rw [ControlValue.filledFrom_of_not_references hplain,
      ControlValue.filledFrom_of_not_references hplain]
    exact .refl _

/-- What is read from a value that settles settles. -/
lemma settles_decode (hwire : shape = references → ∀ text ∈ wire.values, RecordId.Settles text)
    (remembered : Option ControlValue) : ((shape.decode wire).filledFrom remembered).Settles := by
  by_cases hshape : shape = references
  · subst hshape
    rcases decode_references (hwire rfl) remembered with hnull | ⟨filled, hfilled, hids⟩
    · rw [hnull]
      exact ControlValue.settles_of_not_references (by simp)
    · rw [hfilled]
      intro found hfound reference hmem
      obtain rfl := ControlValue.references.inj hfound
      have hid : reference.sentId ∈ wire.values.map RecordId.normal := by
        rw [← hids]
        exact List.mem_map_of_mem hmem
      obtain ⟨text, htext, heq⟩ := List.mem_map.mp hid
      rw [← heq]
      exact (hwire rfl text htext).normal
  · have hplain := decode_ne_references hshape wire
    rw [ControlValue.filledFrom_of_not_references hplain]
    exact ControlValue.settles_of_not_references hplain

end ValueShape

/-! ## Results of a load -/

/-- A map of references in which each is found under its own id. -/
def Keyed (map : Association String Reference) : Prop :=
  ∀ id reference, map.get? id = some reference → reference.id = id

lemma Keyed.put {map : Association String Reference} (h : Keyed map) (found : Reference) :
    Keyed (map.put found.id found) := by
  intro id reference hget
  rw [Association.get?_put] at hget
  by_cases hsame : found.id = id
  · rw [if_pos hsame] at hget
    rw [← Option.some.inj hget, hsame]
  · rw [if_neg hsame] at hget
    exact h id reference hget

/-- What is found for an id has that id. -/
lemma Batch.keyed_found (batch : Batch) (results : List (Option Reference)) :
    Keyed (batch.found results) := by
  unfold Batch.found
  refine List.foldlRecOn (motive := Keyed) _ _ (by simp [Keyed]) ?_
  rintro map hmap ⟨pending, result⟩ -
  cases result with
  | none => exact hmap
  | some found => exact hmap.put found

/-- The names that a load found change no id. -/
lemma Condition.alike_withFound (batch : Batch) (results : List (Option Reference))
    (value : ControlValue) : ControlValue.Alike value (withFound (batch.found results) value) := by
  cases value with
  | references found =>
      refine .references _ _ ?_
      rw [List.map_map]
      refine List.map_congr_left fun reference _ => ?_
      show reference.sentId =
        Reference.sentId (((batch.found results).get? reference.id).getD reference)
      cases hget : (batch.found results).get? reference.id with
      | none => rfl
      | some resolved =>
          unfold Reference.sentId
          rw [Option.getD_some, batch.keyed_found results _ _ hget]
  | _ => exact .refl _

/-! ## What is remembered -/

namespace FamilyMemory

variable {memory : FamilyMemory} {operator : Operator} {family : Operator.Family}
  {value : ControlValue}

lemma get_keep : (memory.keep operator value).get family =
    if operator.family? = some family then some value else memory.get family := by
  unfold keep
  cases operator.family? with
  | none => simp
  | some own => simp

lemma get_keepPresent : (memory.keepPresent operator value).get family =
    if operator.family? = some family ∧ value.isNull = false then some value
    else memory.get family := by
  unfold keepPresent
  cases value.isNull with
  | true => simp
  | false => simp [get_keep]

end FamilyMemory

end GridFilter
