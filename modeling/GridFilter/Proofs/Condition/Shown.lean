import GridFilter.Codec.Condition
import GridFilter.Proofs.Condition.Memo
import GridFilter.Proofs.Condition.SameIds
import Mathlib.Data.List.Forall2

/-!
# What a condition shows

A condition shows its control value in two places: an editor reads it, and a snapshot carries it.
Both go through the memo.  `Condition.ShowsAfresh` says that neither gives it away: what they show
is what the operator, the value on the wire and the references that are remembered give when they
are decoded now.

It also says what that is for references.  There is one for each id on the wire and in its place,
either the bare id or a reference whose name was learned before (`Reference.ShownFor`).  So a name
that a load found can be shown for an id, but it can neither add an id, nor drop one, nor put it
elsewhere.
-/

namespace GridFilter

/-! ## References that are shown for ids -/

/-- What is shown for an id on the wire, given what is remembered for exact values. -/
inductive Reference.ShownFor (remembered : Option ControlValue) (id : String) :
    Reference → Prop where
  /-- The bare id in normal form, if no resolved reference is remembered under it. -/
  | bare (hnone : ∀ known, remembered = some (.references known) →
        ∀ other ∈ known, other.isResolved = true → other.sentId ≠ RecordId.normal id) :
      ShownFor remembered id (.bare (RecordId.normal id))
  /-- A resolved reference that is remembered under the id. -/
  | named (known : List Reference) (reference : Reference)
      (hremembered : remembered = some (.references known)) (hmem : reference ∈ known)
      (hresolved : reference.isResolved = true) (hid : reference.sentId = RecordId.normal id) :
      ShownFor remembered id reference

lemma Reference.shownFor_fromKnown (known : List Reference) (id : String) :
    ShownFor (some (.references known)) id
      (ControlValue.fromKnown known (.bare (RecordId.normal id))) := by
  rcases ControlValue.fromKnown_cases known (.bare (RecordId.normal id)) with
    ⟨hsame, hnone⟩ | ⟨hmem, hresolved, hid⟩
  · rw [hsame]
    refine .bare fun others hothers => ?_
    obtain rfl : known = others := by simpa using hothers
    exact hnone
  · exact .named known _ rfl hmem hresolved hid

/-- Filling goes through the references one by one. -/
lemma ControlValue.forall₂_filledFrom (ids : List String) (remembered : Option ControlValue) :
    ∃ found, (ControlValue.references
        (ids.map fun id => .bare (RecordId.normal id))).filledFrom remembered =
          .references found ∧
      List.Forall₂ (Reference.ShownFor remembered) ids found := by
  by_cases hknown : ∃ known, remembered = some (.references known)
  · obtain ⟨known, rfl⟩ := hknown
    refine ⟨_, rfl, ?_⟩
    rw [List.map_map, List.forall₂_map_right_iff, List.forall₂_same]
    exact fun id _ => Reference.shownFor_fromKnown known id
  · refine ⟨ids.map fun id => .bare (RecordId.normal id), ?_, ?_⟩
    · unfold filledFrom
      split
      · next known _ => exact absurd ⟨known, rfl⟩ hknown
      · rfl
    · rw [List.forall₂_map_right_iff, List.forall₂_same]
      exact fun id _ => .bare fun known hsome => absurd ⟨known, hsome⟩ hknown

namespace ValueShape

variable {shape : ValueShape} {wire : WireValue}

/-- A value on the wire is read as one reference for each id that is present. -/
lemma forall₂_decode_references (hwire : wire.isNull = false) (remembered : Option ControlValue) :
    ∃ found, (references.decode wire).filledFrom remembered = .references found ∧
      List.Forall₂ (Reference.ShownFor remembered) wire.values found := by
  have hdecode : references.decode wire =
      .references (wire.values.map fun id => .bare (RecordId.normal id)) := by
    show decodeReferences wire = _
    rw [decodeReferences, hwire, if_neg Bool.false_ne_true]
  rw [hdecode]
  exact ControlValue.forall₂_filledFrom wire.values remembered

/-- References are read in their own shape only, and from a value that is there. -/
lemma eq_references_of_decode {remembered : Option ControlValue} {found : List Reference}
    (h : (shape.decode wire).filledFrom remembered = .references found) :
    shape = references ∧ wire.isNull = false := by
  by_cases hshape : shape = references
  · refine ⟨hshape, ?_⟩
    subst hshape
    cases hwire : wire.isNull with
    | false => rfl
    | true =>
        have hnull : references.decode wire = .null := by
          show decodeReferences wire = .null
          rw [decodeReferences, hwire, if_pos rfl]
        rw [hnull, ControlValue.filledFrom_of_not_references (by simp)] at h
        exact absurd h (by simp)
  · have hplain := decode_ne_references hshape wire
    rw [ControlValue.filledFrom_of_not_references hplain] at h
    exact absurd h (hplain found)

lemma of_lookup {operator : Operator} (hvalue : operator.isValueless = false)
    (hpattern : operator.isPattern = false) : of .lookup operator = references := by
  simp [of, hvalue, hpattern]

end ValueShape

/-! ## The control value of a condition -/

namespace Condition

variable {condition : Condition}

/-- A condition shows what it would decode now. -/
structure ShowsAfresh (condition : Condition) : Prop where
  /-- What is read is what the operator and the value on the wire give, with the names of the
  references that are remembered for exact values. -/
  read : condition.current.1 =
    (condition.column.decodeValue condition.operator condition.wire).filledFrom
      (condition.remembered.get .exact)
  /-- So is the value in a snapshot. -/
  snapshot : condition.snapshot.lookup "value" =
    some ((condition.column.decodeValue condition.operator condition.wire).filledFrom
      (condition.remembered.get .exact)).toJson
  /-- The references that are shown are those of the ids on the wire, one by one. -/
  references : ∀ found, condition.current.1 = .references found →
    List.Forall₂ (Reference.ShownFor (condition.remembered.get .exact)) condition.wire.values
      found
  /-- A lookup shows references for every value that is not searched for. -/
  hasReferences : condition.column.kind = .lookup → condition.operator.isValueless = false →
    condition.operator.isPattern = false → condition.wire.isNull = false →
      ∃ found, condition.current.1 = .references found

lemma MemoSound.showsAfresh (h : condition.MemoSound) : condition.ShowsAfresh where
  read := h.fst_current
  snapshot := by
    show condition.snapshot.lookup "value" = some condition.decode.toJson
    rw [← h.fst_current]
    rfl
  references found hfound := by
    rw [h.fst_current] at hfound
    obtain ⟨hshape, hwire⟩ := ValueShape.eq_references_of_decode hfound
    obtain ⟨others, hothers, hshown⟩ :=
      ValueShape.forall₂_decode_references hwire condition.remembered.exact
    rw [decode, Column.decodeValue, hshape, hothers] at hfound
    obtain rfl : others = found := by simpa using hfound
    exact hshown
  hasReferences hkind hvalue hpattern hwire := by
    have hshape : condition.column.valueShape condition.operator = .references := by
      rw [Column.valueShape, hkind, ValueShape.of_lookup hvalue hpattern]
    obtain ⟨found, hfound, -⟩ :=
      ValueShape.forall₂_decode_references hwire condition.remembered.exact
    refine ⟨found, ?_⟩
    rw [h.fst_current, decode, Column.decodeValue, hshape, hfound]

/-- After any edits, reads, and starts and ends of loads, in any order, a condition shows what it
would decode now.  The end of a load and the read that follows it are steps of their own, so that
anything may come between them. -/
theorem showsAfresh_of_steps {born : Condition} (hnew : born.IsNew)
    (hsteps : Relation.ReflTransGen Step born condition) : condition.ShowsAfresh :=
  (memoSound_of_steps hsteps hnew.memoSound).showsAfresh

/-- A name that a load found is shown in the place of its id, and the id that no record was found
for stays bare. -/
theorem showsAfresh_found_one :
    let column : Column := ⟨"ownerid", .owner, { targets := ["contact"] }⟩
    let ann : Reference := ⟨"a1", some "contact", some "Ann"⟩
    let born : Condition := .hydrated 0 "owner" column ⟨.isIn, .ofTexts ["\x7bA1\x7d", "b2"]⟩
    let batch : Batch := ⟨0, ["a1", "b2"]⟩
    let condition := (born.beginLoad.2.2.finishLoad batch [some ann, none]).2
    born.IsNew ∧ born.beginLoad.1 = some batch ∧ Relation.ReflTransGen Step born condition ∧
      condition.current.1 = .references [ann, .bare "b2"] ∧ condition.ShowsAfresh := by
  intro column ann born batch condition
  have hnew : born.IsNew := .hydrated _ _ _ _
  have hsteps : Relation.ReflTransGen Step born condition :=
    (Relation.ReflTransGen.single .beginLoad).tail (.finishLoad batch [some ann, none])
  exact ⟨hnew, by decide +kernel, hsteps, by decide +kernel, showsAfresh_of_steps hnew hsteps⟩

end Condition

end GridFilter
