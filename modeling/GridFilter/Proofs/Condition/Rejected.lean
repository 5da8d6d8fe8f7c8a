import GridFilter.Proofs.Condition.Cleared
import GridFilter.Proofs.Condition.Cosmetic
import GridFilter.Proofs.ValueShape.Rejection

/-!
# What is rejected stays rejected

A change between two operators of one family writes the value anew.  A value that was rejected
should be rejected again.  `Condition.isValid_setOperator_iff` says exactly when it is not: when what
is left of a list of choices or references is in order (`Condition.Cleansed`).  Texts, numbers, days
and ranges are never accepted for having been written anew.

## The argument

The value that is shown is the one that is written, since it is remembered for the family before the
new operator is set (`Condition.wire_withOperator_of_family`).  What it takes for that to be in order
is the matter of `GridFilter.Proofs.ValueShape.Rejection`.

A list under a search operator is the odd case: no value is shown for it, so what is written is what
is remembered for the family.  Such a list was read from a document and not edited since, and then
nothing is remembered that is not shown (`Condition.RemembersShown`).
-/

namespace GridFilter

/-- What is kept for an operator that takes a value is the last one of its family. -/
lemma FamilyMemory.lastFor_keep {memory : FamilyMemory} {operator : Operator}
    {value : ControlValue} (hvalue : operator.isValueless = false) :
    (memory.keep operator value).lastFor operator = some value := by
  obtain ⟨family, hfamily⟩ := Operator.exists_family? hvalue
  rw [lastFor, hfamily, Option.bind_some, get_keep, if_pos hfamily]

namespace Condition

variable {condition next : Condition} {other : Operator}

/-- An operator that the column offers and that takes a value is in order with it exactly when what
is seen of it is. -/
lemma isValid_iff_passes (hsupports : condition.column.supports condition.operator = true)
    (hvalue : condition.operator.isValueless = false) :
    condition.isValid = true ↔ (condition.column.valueShape condition.operator).Passes
      condition.column condition.wire := by
  rw [ColumnFilter.isValid_eq_accepts, Column.accepts_iff]
  constructor
  · rintro ⟨-, hvalueless | hpasses⟩
    · rw [criterion, hvalue] at hvalueless
      exact absurd hvalueless Bool.false_ne_true
    · exact hpasses
  · intro hpasses
    exact ⟨hsupports, .inr hpasses⟩

/-- An operator that the column offers and that is out of order takes a value. -/
lemma isValueless_of_not_isValid (hsupports : condition.column.supports condition.operator = true)
    (hinvalid : condition.isValid = false) : condition.operator.isValueless = false := by
  rw [← Bool.not_eq_true]
  intro hvalueless
  rw [ColumnFilter.isValid_eq_accepts, ← Bool.not_eq_true] at hinvalid
  exact hinvalid (Column.accepts_iff.mpr ⟨hsupports, .inl hvalueless⟩)

/-- A value that is shown is written anew for another operator of its family. -/
lemma wire_withOperator_of_family (hfamily : other.family? = condition.operator.family?)
    (hvalue : condition.operator.isValueless = false)
    (hpresent : condition.current.1.isNull = false) :
    (condition.withOperator other).wire =
      (condition.column.valueShape other).encode condition.current.1 := by
  have hlast := condition.lastFor_keepPresent hfamily hvalue condition.remembered hpresent
  rw [withOperator]
  exact rewritten_of_last hlast (.inl rfl)

/-! ## Lists that are searched for -/

/-- Nothing is remembered for the family of the operator but what decoding gives. -/
def RemembersShown (condition : Condition) : Prop :=
  ∀ earlier, condition.remembered.lastFor condition.operator = some earlier →
    earlier = condition.decode

/-- The value was written by an edit, or, where it is searched for, nothing else is remembered. -/
def WrittenOrShown (condition : Condition) : Prop :=
  condition.IsWritten ∨
    (condition.column.valueShape condition.operator = .search → condition.RemembersShown)

lemma IsNew.writtenOrShown (h : condition.IsNew) : condition.WrittenOrShown := by
  refine .inr fun _ earlier hlast => ?_
  obtain ⟨family, -, hget⟩ := Option.bind_eq_some_iff.mp hlast
  rw [h.get_remembered] at hget
  exact absurd hget.symm (Option.some_ne_none earlier)

/-- Names are found for references only. -/
lemma withFound_of_not_references {found : Association String Reference} {value : ControlValue}
    (h : ∀ references, value ≠ .references references) : withFound found value = value := by
  cases value with
  | references references => exact absurd rfl (h references)
  | _ => rfl

/-- A load that finds names keeps for a search what decoding gives. -/
lemma RemembersShown.finishLoad (h : condition.RemembersShown) (hmemo : condition.MemoSound)
    (hsearch : condition.column.valueShape condition.operator = .search) (batch : Batch)
    (results : List (Option Reference)) : (condition.finishLoad batch results).2.RemembersShown := by
  by_cases hcurrent : condition.revision = batch.revision
  · obtain ⟨missed, heq⟩ := snd_finishLoad_of_current hcurrent results
    have hplain : ∀ found, condition.column.decodeValue condition.operator condition.wire ≠
        .references found := by
      rw [Column.decodeValue, hsearch]
      exact ValueShape.decode_ne_references (by decide) condition.wire
    have hdecode : condition.decode =
        condition.column.decodeValue condition.operator condition.wire :=
      ControlValue.filledFrom_of_not_references hplain _
    have hsome : ValueShape.of condition.column.kind condition.operator ≠ .nothing := by
      rw [← Column.valueShape, hsearch]
      decide
    have hvalue := ValueShape.isValueless_of_ne_nothing hsome
    rw [heq]
    intro earlier hlast
    dsimp only at hlast
    rw [FamilyMemory.lastFor_keep hvalue, hmemo.fst_current, hdecode,
      withFound_of_not_references hplain, Option.some_inj] at hlast
    rw [← hlast]
    exact (ControlValue.filledFrom_of_not_references hplain _).symm
  · obtain ⟨missed, heq⟩ := finishLoad_of_stale hcurrent results
    rw [heq]
    exact h

/-- No step makes a search remember what it does not show, unless it writes the value. -/
lemma Step.writtenOrShown (hstep : Step condition next) (hmemo : condition.MemoSound)
    (h : condition.WrittenOrShown) : next.WrittenOrShown := by
  cases hstep with
  | setOperator operator =>
      by_cases hsame : condition.operator = operator
      · rwa [← hsame, setOperator_self]
      · rw [setOperator_of_ne hsame]
        exact .inl (isWritten_withOperator condition operator)
  | setValue value => exact .inl (isWritten_setValue condition value)
  | read =>
      rw [snd_current]
      exact h
  | beginLoad =>
      rcases beginLoad_eq condition with heq | ⟨-, pending, heq⟩ <;> rw [heq, snd_current] <;>
        exact h
  | finishLoad batch results =>
      have hsame : condition.SameIdentity _ := (Step.finishLoad batch results).identity
      have hcriterion := (finishLoad_spec condition batch results).1
      rcases h with hwritten | hshown
      · exact .inl (hwritten.congr hsame.column hcriterion)
      · refine .inr fun hsearch => ?_
        have hoperator : (condition.finishLoad batch results).2.operator = condition.operator :=
          congrArg Criterion.operator hcriterion
        rw [hsame.column, hoperator] at hsearch
        exact (hshown hsearch).finishLoad hmemo hsearch batch results

lemma Reachable.writtenOrShown (h : condition.Reachable) : condition.WrittenOrShown := by
  obtain ⟨born, moves, hnew, rfl⟩ := h
  have hboth : ∀ {last : Condition}, Relation.ReflTransGen Step born last →
      last.MemoSound ∧ last.WrittenOrShown := by
    intro last hsteps
    induction hsteps with
    | refl => exact ⟨hnew.memoSound, hnew.writtenOrShown⟩
    | tail _ hstep ih => exact ⟨hstep.memoSound ih.1, hstep.writtenOrShown ih.1 ih.2⟩
  exact (hboth (Activity.steps_run { condition := born } moves)).2

/-- A list that is searched for was not written by an edit. -/
lemma WrittenOrShown.remembersShown (h : condition.WrittenOrShown)
    (hsearch : condition.column.valueShape condition.operator = .search)
    {items : List (Option String)} (hwire : condition.wire = .list items) :
    condition.RemembersShown := by
  rcases h with hwritten | hshown
  · rw [IsWritten, hsearch, hwire] at hwritten
    simp [ValueShape.IsEncoded, ValueShape.isList, ValueShape.isRange] at hwritten
  · exact hshown hsearch

/-- Nothing is written anew for a list that is searched for. -/
lemma isEmpty_withOperator_of_search (h : condition.Reachable)
    (hfamily : other.family? = condition.operator.family?)
    (hsearch : condition.column.valueShape condition.operator = .search)
    {items : List (Option String)} (hwire : condition.wire = .list items) :
    (condition.withOperator other).wire.isEmpty = true := by
  have hshown := h.writtenOrShown.remembersShown hsearch hwire
  have hdecode : condition.decode = .null := by
    rw [decode, Column.decodeValue, hsearch, hwire]
    rfl
  have hnothing : (condition.column.encodeValue other .null).isEmpty = true := by
    rw [Column.encodeValue, ValueShape.encode_null]
    rfl
  refine isEmpty_withOperator ?_ fun earlier hlast => ?_
  · rwa [h.memoSound.fst_current, hdecode]
  · rw [h.memoSound.fst_current, hdecode] at hlast
    have hearlier : condition.remembered.lastFor condition.operator = some earlier := by
      rw [← FamilyMemory.lastFor_congr hfamily]
      exact hlast
    rwa [hshown earlier hearlier, hdecode]

/-! ## One change of operator -/

/-- What is left of a list that was rejected is in order. -/
def Cleansed (condition : Condition) : Prop :=
  (condition.column.valueShape condition.operator).Cleansed condition.column condition.wire
    condition.current.1

/-- A value that is not empty and was rejected is accepted after a change to another operator of its
family exactly when it is a list of choices or references of which what is left is in order. -/
theorem isValid_setOperator_iff (h : condition.Reachable)
    (hsupports : condition.column.supports condition.operator = true)
    (hother : condition.column.supports other = true)
    (hfamily : other.family? = condition.operator.family?)
    (hfilled : condition.wire.isEmpty = false) (hinvalid : condition.isValid = false) :
    (condition.setOperator other).2.isValid = true ↔
      other ≠ condition.operator ∧ condition.Cleansed := by
  have hvalue := isValueless_of_not_isValid hsupports hinvalid
  by_cases hsame : other = condition.operator
  · subst hsame
    rw [setOperator_self, hinvalid]
    exact iff_of_false Bool.false_ne_true fun hboth => hboth.1 rfl
  have hshape : condition.column.valueShape other = condition.column.valueShape condition.operator :=
    ValueShape.of_eq_of_family? hother hsupports hfamily
  have hrejected : ¬ (condition.column.valueShape condition.operator).Passes condition.column
      condition.wire := by
    rw [← isValid_iff_passes hsupports hvalue, hinvalid]
    exact Bool.false_ne_true
  have haccepted : (condition.withOperator other).isValid = true ↔
      (condition.column.valueShape condition.operator).Passes condition.column
        (condition.withOperator other).wire := by
    have hnext : (condition.withOperator other).column.supports
        (condition.withOperator other).operator = true := hother
    rw [← hshape]
    exact isValid_iff_passes hnext (Operator.isValueless_of_family? hfamily hvalue)
  rw [setOperator_of_ne (Ne.symm hsame), haccepted, and_iff_right hsame]
  cases hnull : ((condition.column.valueShape condition.operator).decode condition.wire).isNull with
  | true =>
      rcases (ValueShape.isNull_decode_iff hfilled).mp hnull with hnothing | ⟨hsearch, items, hwire⟩
      · exact absurd hnothing (ValueShape.ne_nothing_of_supports hsupports hvalue)
      · have hempty := isEmpty_withOperator_of_search h hfamily hsearch hwire
        refine iff_of_false (fun hpasses => ?_) ?_
        · exact absurd (hempty.symm.trans hpasses.not_isEmpty) (by decide)
        · rw [Cleansed, hsearch]
          exact not_false
  | false =>
      have hpresent : condition.current.1.isNull = false := by
        rw [h.memoSound.fst_current, decode, ControlValue.isNull_filledFrom]
        exact hnull
      rw [wire_withOperator_of_family hfamily hvalue hpresent, hshape, Cleansed,
        h.memoSound.fst_current]
      exact ValueShape.passes_anew_iff hfilled hnull hrejected

/-- A text that is no number is rejected by another comparison as well. -/
theorem isValid_setOperator_iff_typed :
    let column : Column := ⟨"amount", .decimal, {}⟩
    let condition := (Activity.run { condition := fresh 0 "amount" column }
      [.setValue (.text "12 or so")]).condition
    condition.wire = .scalar "12 or so" ∧ condition.isValid = false ∧
      ((condition.setOperator .greaterThan).2.isValid = true ↔
        .greaterThan ≠ condition.operator ∧ condition.Cleansed) ∧ ¬ condition.Cleansed := by
  intro column condition
  have hreachable : condition.Reachable :=
    ⟨fresh 0 "amount" column, _, .fresh 0 "amount" column, rfl⟩
  have hwire : condition.wire = .scalar "12 or so" := by decide +kernel
  have hinvalid : condition.isValid = false := by decide +kernel
  have hoperator : condition.operator = .equal := by decide +kernel
  have hnumber : condition.column.kind = .number := by decide +kernel
  -- Nothing else of the condition is needed.
  clear_value condition
  have hsupports : condition.column.supports condition.operator = true := by
    rw [Column.supports, hnumber, hoperator]
    decide
  have hother : condition.column.supports .greaterThan = true := by
    rw [Column.supports, hnumber]
    decide
  have hfilled : condition.wire.isEmpty = false := by
    rw [hwire]
    decide
  have hkept : ¬ condition.Cleansed := by
    have hshape : condition.column.valueShape condition.operator = .number := by
      rw [Column.valueShape, hnumber, hoperator]
      decide
    rw [Cleansed, hshape]
    exact not_false
  exact ⟨hwire, hinvalid, isValid_setOperator_iff hreachable hsupports hother
    (by rw [hoperator]; rfl) hfilled hinvalid, hkept⟩

/-- A choice that cannot be read is dropped, and the list is accepted without it. -/
theorem accepted_without_choice :
    let column : Column := ⟨"statuscode", .optionSet, {}⟩
    let condition := hydrated 0 "status" column ⟨.equal, .ofTexts ["1", "abc"]⟩
    condition.Reachable ∧ column.supports .equal = true ∧ column.supports .doesNotEqual = true ∧
      Operator.doesNotEqual.family? = Operator.equal.family? ∧ condition.wire.isEmpty = false ∧
      condition.isValid = false ∧ (condition.setOperator .doesNotEqual).2.isValid = true ∧
      (condition.setOperator .doesNotEqual).2.wire = .ofTexts ["1"] := by
  intro column condition
  have hreachable : condition.Reachable := ⟨condition, [], .hydrated _ _ _ _, rfl⟩
  exact ⟨hreachable, by decide +kernel⟩

/-- So is the id of a record in too many braces. -/
example :
    let column : Column := ⟨"ownerid", .owner, { targets := ["contact"] }⟩
    let condition := hydrated 0 "owner" column
      ⟨.equal, .ofTexts ["\x7b\x7ba0f61d2c-7b7d-4d5a-9d5e-0a1b2c3d4e5f\x7d\x7d"]⟩
    condition.isValid = false ∧ (condition.setOperator .doesNotEqual).2.isValid = true := by
  decide +kernel

end Condition

end GridFilter
