import GridFilter.Condition.Editing
import GridFilter.Condition.Loading
import GridFilter.Proofs.Criterion.Canonical
import Mathlib.Logic.Relation

/-!
# The steps of a condition

Five operations touch a condition: an edit of its operator or its value, a read of its control
value, and the two ends of a load.  This module says once what each of them does, as one equation
or one case distinction, so that nothing after it unfolds them.

A read only fills the memo of the control value (`snd_current`), and the memo is never observed
(`fst_current_snd`).  An edit begins a new revision.  The end of a load leaves the criterion alone;
it touches what is remembered only when the revision is still the one it began with
(`finishLoad_of_stale`).

`Condition.Step` collects the five.  Along a step the condition stays the same one
(`Step.identity`) and its criterion stays canonical (`Step.isCanonical`).
-/

namespace GridFilter.Condition

variable {condition : Condition}

/-! ## Reading the control value -/

lemma decoded?_eq_some_iff {value : ControlValue} :
    condition.decoded? = some value ↔ condition.decoded = some (condition.revision, value) := by
  rw [decoded?, Option.bind_eq_some_iff]
  constructor
  · rintro ⟨⟨revision, found⟩, hdecoded, hfound⟩
    dsimp only at hfound
    by_cases hrevision : revision = condition.revision
    · rw [if_pos hrevision, Option.some_inj] at hfound
      rw [hdecoded, hrevision, hfound]
    · rw [if_neg hrevision] at hfound
      exact absurd hfound.symm (Option.some_ne_none value)
  · intro hdecoded
    exact ⟨(condition.revision, value), hdecoded, if_pos rfl⟩

lemma fst_current (condition : Condition) :
    condition.current.1 = condition.decoded?.getD condition.decode := by
  rw [current]
  cases condition.decoded? <;> rfl

/-- A read does nothing but fill the memo. -/
lemma snd_current (condition : Condition) :
    condition.current.2 =
      { condition with decoded := some (condition.revision, condition.current.1) } := by
  rw [fst_current, current]
  cases hmemo : condition.decoded? with
  | none => rfl
  | some value =>
      -- The memo that is found is the one that the read would have left.
      show condition = { condition with decoded := some (condition.revision, value) }
      rw [← decoded?_eq_some_iff.mp hmemo]

/-- What is read after a read is what was read. -/
@[simp] lemma fst_current_snd (condition : Condition) :
    condition.current.2.current.1 = condition.current.1 := by
  have hmemo : condition.current.2.decoded? = some condition.current.1 := by
    rw [decoded?_eq_some_iff, snd_current]
  rw [fst_current condition.current.2, hmemo, Option.getD_some]

@[simp] lemma criterion_snd_current (condition : Condition) :
    condition.current.2.criterion = condition.criterion := by
  rw [snd_current]
  rfl

@[simp] lemma resolving_snd_current (condition : Condition) :
    condition.current.2.resolving = condition.resolving := by
  rw [snd_current]

@[simp] lemma revision_snd_current (condition : Condition) :
    condition.current.2.revision = condition.revision := by
  rw [snd_current]

@[simp] lemma decode_snd_current (condition : Condition) :
    condition.current.2.decode = condition.decode := by
  rw [Condition.snd_current]
  rfl

/-! ## Editing -/

/-- Setting the operator that is set already does nothing at all. -/
lemma setOperator_self (condition : Condition) :
    condition.setOperator condition.operator = ([], condition) :=
  if_pos rfl

/-- The condition after its operator was changed. -/
def withOperator (condition : Condition) (operator : Operator) : Condition :=
  let remembered := condition.remembered.keepPresent condition.operator condition.current.1
  { condition with
    operator := operator
    wire := { condition with remembered := remembered }.rewritten operator condition.current.1
    remembered := remembered
    revision := condition.revision + 1
    decoded := none }

lemma setOperator_of_ne {operator : Operator} (h : condition.operator ≠ operator) :
    condition.setOperator operator =
      ([.operatorChanged operator, .valueChanged (condition.withOperator operator).wire],
        condition.withOperator operator) := by
  rw [setOperator, if_neg h]
  dsimp only
  rw [snd_current]
  rfl

/-- A value that is written anew is the current one or one that is remembered. -/
lemma rewritten_source (condition : Condition) (operator : Operator) (value : ControlValue) :
    ∃ encoded, condition.rewritten operator value =
        condition.column.encodeValue operator encoded ∧
      (encoded = value ∨ ∃ family, condition.remembered.get family = some encoded) := by
  unfold rewritten
  dsimp only
  split
  · cases hlast : condition.remembered.lastFor operator with
    | none => exact ⟨value, rfl, .inl rfl⟩
    | some earlier =>
        obtain ⟨family, -, hget⟩ := Option.bind_eq_some_iff.mp hlast
        exact ⟨earlier, rfl, .inr ⟨family, hget⟩⟩
  · exact ⟨value, rfl, .inl rfl⟩

/-- A value that is written anew is one that the column encoded. -/
lemma rewritten_eq_encodeValue (condition : Condition) (operator : Operator)
    (value : ControlValue) :
    ∃ encoded, condition.rewritten operator value =
      condition.column.encodeValue operator encoded := by
  obtain ⟨encoded, hencoded, -⟩ := rewritten_source condition operator value
  exact ⟨encoded, hencoded⟩

/-! ## Loading -/

/-- A load begins when none is under way and some reference of a lookup column has to be looked
up. -/
lemma beginLoad_eq (condition : Condition) :
    condition.beginLoad = (none, [], condition.current.2) ∨
      condition.resolving = false ∧ ∃ pending,
        condition.beginLoad = (some ⟨condition.revision, pending⟩, [.loadingChanged true],
          { condition.current.2 with resolving := true }) := by
  rw [beginLoad]
  dsimp only
  rw [resolving_snd_current, revision_snd_current]
  by_cases hidle : (condition.resolving || condition.current.2.column.kind != .lookup) = true
  · exact .inl (if_pos hidle)
  · rw [if_neg hidle]
    split
    · exact .inl rfl
    · rw [Bool.or_eq_true, not_or] at hidle
      exact .inr ⟨Bool.not_eq_true _ ▸ hidle.1, _, rfl⟩

/-- The load that begins looks up what the control value leaves open, as of the current revision. -/
lemma beginLoad_eq_some_iff {batch : Batch} : condition.beginLoad.1 = some batch ↔
    condition.resolving = false ∧ condition.column.kind = .lookup ∧
      condition.pendingIds condition.current.1 ≠ [] ∧
        batch = ⟨condition.revision, condition.pendingIds condition.current.1⟩ := by
  have hpending : condition.current.2.pendingIds condition.current.1 =
      condition.pendingIds condition.current.1 := by
    rw [snd_current]
    rfl
  have hcolumn : condition.current.2.column = condition.column := by
    rw [snd_current]
  rw [beginLoad]
  dsimp only
  rw [resolving_snd_current, revision_snd_current, hcolumn, hpending]
  by_cases hidle : (condition.resolving || condition.column.kind != .lookup) = true
  · rw [if_pos hidle]
    refine iff_of_false (Option.some_ne_none batch).symm ?_
    rintro ⟨hresolving, hlookup, -⟩
    simp [hresolving, hlookup] at hidle
  · rw [if_neg hidle]
    simp only [Bool.or_eq_true, bne_iff_ne, not_or, not_not, Bool.not_eq_true] at hidle
    by_cases hnone : condition.pendingIds condition.current.1 = []
    · simp [hnone]
    · rw [if_neg (by rwa [List.isEmpty_iff])]
      constructor
      · intro hbatch
        exact ⟨hidle.1, hidle.2, hnone, (Option.some.inj hbatch).symm⟩
      · rintro ⟨-, -, -, rfl⟩
        rfl

/-- No load begins for a control value that is not there. -/
lemma beginLoad_of_isNull (h : condition.current.1.isNull = true) :
    condition.beginLoad = (none, [], condition.current.2) := by
  have hvalue : condition.current.1 = .null := by
    cases hcurrent : condition.current.1 <;> simp [hcurrent, ControlValue.isNull] at h ⊢
  unfold Condition.beginLoad
  dsimp only
  rw [hvalue]
  simp [pendingIds, ControlValue.unresolved]

/-- While a load is under way no other begins. -/
lemma beginLoad_of_resolving (h : condition.resolving = true) :
    condition.beginLoad = (none, [], condition.current.2) := by
  rcases beginLoad_eq condition with hnone | ⟨hidle, -⟩
  · exact hnone
  · rw [h] at hidle
    exact absurd hidle.symm Bool.false_ne_true

/-- The end of a load whose revision is past leaves a mark on the ids that were not found, and
nothing else. -/
lemma finishLoad_of_stale {batch : Batch} (h : condition.revision ≠ batch.revision)
    (results : List (Option Reference)) :
    ∃ missed, condition.finishLoad batch results =
      ([.loadingChanged false],
        { condition with resolving := false, unresolvable := condition.unresolvable ++ missed }) :=
  ⟨_, if_neg h⟩

/-- Keeping what was found begins a new revision, and the ids on the wire stay. -/
lemma keepFound_eq (condition : Condition) (found : Association String Reference) :
    condition.keepFound found =
      { condition with
        remembered :=
          condition.remembered.keep condition.operator (withFound found condition.current.1)
        revision := condition.revision + 1
        decoded := none } := by
  rw [keepFound]
  dsimp only
  rw [snd_current]

/-- The end of a load whose revision is still the current one keeps what was found. -/
lemma finishLoad_of_current {batch : Batch} (h : condition.revision = batch.revision)
    (results : List (Option Reference)) :
    ∃ missed, condition.finishLoad batch results =
      ([.valueChanged condition.wire, .loadingChanged false],
        { condition with
          resolving := false
          unresolvable := condition.unresolvable ++ missed }.keepFound (batch.found results)) := by
  refine ⟨batch.pending.filter fun id => !(batch.found results).has id, ?_⟩
  rw [finishLoad]
  dsimp only
  rw [if_pos h, keepFound_eq]

/-- The end of a load that was not overtaken writes what was found for the family of the operator,
and begins a new revision. -/
lemma snd_finishLoad_of_current {batch : Batch} (h : condition.revision = batch.revision)
    (results : List (Option Reference)) :
    ∃ missed, (condition.finishLoad batch results).2 =
      { condition with
        resolving := false
        unresolvable := condition.unresolvable ++ missed
        remembered := condition.remembered.keep condition.operator
          (withFound (batch.found results) condition.current.1)
        revision := condition.revision + 1
        decoded := none } := by
  obtain ⟨missed, heq⟩ := finishLoad_of_current h results
  have hread : (Condition.current { condition with
      resolving := false
      unresolvable := condition.unresolvable ++ missed }).1 = condition.current.1 := by
    rw [fst_current, fst_current]
    rfl
  refine ⟨missed, ?_⟩
  rw [heq, keepFound_eq, hread]

/-- The ids of the batch that nothing was found for are marked, whether the load is stale or not. -/
lemma unresolvable_finishLoad (condition : Condition) (batch : Batch)
    (results : List (Option Reference)) :
    (condition.finishLoad batch results).2.unresolvable =
      condition.unresolvable ++ batch.pending.filter fun id => !(batch.found results).has id := by
  rw [finishLoad]
  dsimp only
  split
  · rw [keepFound_eq]
  · rfl

/-- No end of a load changes the criterion, and the revision never goes back. -/
lemma finishLoad_spec (condition : Condition) (batch : Batch) (results : List (Option Reference)) :
    (condition.finishLoad batch results).2.criterion = condition.criterion ∧
      (condition.finishLoad batch results).2.resolving = false := by
  by_cases h : condition.revision = batch.revision
  · obtain ⟨missed, heq⟩ := finishLoad_of_current h results
    rw [heq, keepFound_eq]
    exact ⟨rfl, rfl⟩
  · obtain ⟨missed, heq⟩ := finishLoad_of_stale h results
    rw [heq]
    exact ⟨rfl, rfl⟩

/-! ## Coming into being -/

/-- The two ways in which a condition comes into being. -/
inductive IsNew : Condition → Prop where
  | fresh (handle : Nat) (id : String) (column : Column) :
      IsNew (fresh handle id column)
  | hydrated (handle : Nat) (id : String) (column : Column) (criterion : Criterion) :
      IsNew (hydrated handle id column criterion)

/-- Nothing is looked up yet for a new condition. -/
lemma IsNew.resolving (h : condition.IsNew) : condition.resolving = false := by
  cases h <;> rfl

/-! ## The five together -/

/-- One operation on a condition. -/
inductive Step (condition : Condition) : Condition → Prop where
  | setOperator (operator : Operator) : Step condition (condition.setOperator operator).2
  | setValue (value : ControlValue) : Step condition (condition.setValue value).2
  | read : Step condition condition.current.2
  | beginLoad : Step condition condition.beginLoad.2.2
  | finishLoad (batch : Batch) (results : List (Option Reference)) :
      Step condition (condition.finishLoad batch results).2

/-- Two states of one condition: what names it and where it stands agree. -/
structure SameIdentity (condition other : Condition) : Prop where
  handle : other.handle = condition.handle
  id : other.id = condition.id
  column : other.column = condition.column
  origin : other.origin = condition.origin

lemma SameIdentity.trans {other last : Condition} (h : condition.SameIdentity other)
    (hlast : other.SameIdentity last) : condition.SameIdentity last where
  handle := hlast.handle.trans h.handle
  id := hlast.id.trans h.id
  column := hlast.column.trans h.column
  origin := hlast.origin.trans h.origin

/-- No operation makes another condition of it. -/
lemma Step.identity {other : Condition} (h : Step condition other) :
    condition.SameIdentity other := by
  cases h with
  | setOperator operator =>
      by_cases hsame : condition.operator = operator
      · rw [← hsame, setOperator_self]
        exact ⟨rfl, rfl, rfl, rfl⟩
      · rw [setOperator_of_ne hsame]
        exact ⟨rfl, rfl, rfl, rfl⟩
  | setValue value => exact ⟨rfl, rfl, rfl, rfl⟩
  | read =>
      rw [snd_current]
      exact ⟨rfl, rfl, rfl, rfl⟩
  | beginLoad =>
      rcases beginLoad_eq condition with heq | ⟨-, pending, heq⟩ <;> rw [heq, snd_current] <;>
        exact ⟨rfl, rfl, rfl, rfl⟩
  | finishLoad batch results =>
      by_cases hcurrent : condition.revision = batch.revision
      · obtain ⟨missed, heq⟩ := finishLoad_of_current hcurrent results
        rw [heq, keepFound_eq]
        exact ⟨rfl, rfl, rfl, rfl⟩
      · obtain ⟨missed, heq⟩ := finishLoad_of_stale hcurrent results
        rw [heq]
        exact ⟨rfl, rfl, rfl, rfl⟩

/-- Whatever is done to a condition, its criterion stays canonical: an edit writes a value that the
column encoded, and nothing else writes one. -/
lemma Step.isCanonical {other : Condition} (h : Step condition other)
    (hcanonical : condition.criterion.IsCanonical condition.column.kind) :
    other.criterion.IsCanonical other.column.kind := by
  cases h with
  | setOperator operator =>
      by_cases hsame : condition.operator = operator
      · rwa [← hsame, setOperator_self]
      · rw [setOperator_of_ne hsame]
        obtain ⟨encoded, hencoded⟩ := rewritten_eq_encodeValue
          { condition with
            remembered := condition.remembered.keepPresent condition.operator condition.current.1 }
          operator condition.current.1
        rw [criterion, withOperator, hencoded]
        exact Criterion.isCanonical_encodeValue condition.column operator encoded
  | setValue value =>
      exact Criterion.isCanonical_encodeValue condition.column condition.operator value
  | read =>
      rw [criterion_snd_current, snd_current]
      exact hcanonical
  | beginLoad =>
      rcases beginLoad_eq condition with heq | ⟨-, pending, heq⟩ <;> rw [heq, snd_current] <;>
        exact hcanonical
  | finishLoad batch results =>
      have hsame : condition.SameIdentity _ := (Step.finishLoad batch results).identity
      rw [(finishLoad_spec condition batch results).1, hsame.column]
      exact hcanonical

/-! ## Any number of steps -/

lemma identity_of_steps {other : Condition} (h : Relation.ReflTransGen Step condition other) :
    condition.SameIdentity other := by
  induction h with
  | refl => exact ⟨rfl, rfl, rfl, rfl⟩
  | tail _ hstep ih => exact ih.trans hstep.identity

lemma isCanonical_of_steps {other : Condition} (h : Relation.ReflTransGen Step condition other)
    (hcanonical : condition.criterion.IsCanonical condition.column.kind) :
    other.criterion.IsCanonical other.column.kind := by
  induction h with
  | refl => exact hcanonical
  | tail _ hstep ih => exact hstep.isCanonical ih

end GridFilter.Condition
