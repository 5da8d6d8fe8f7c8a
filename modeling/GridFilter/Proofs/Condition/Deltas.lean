import GridFilter.Proofs.Condition.Step

/-!
# Changes tell all

Subscribers of a condition never see the condition.  They hear of its changes, and what they show is
what these changes leave of the state they started from.  An `Observation` is that state: operator,
value on the wire, and whether a load is under way.

An operation on a condition *tells all* (`Condition.TellsAll`) when it is one step and the changes
that it returns carry the observation before it to the one after it.  Setting the operator, setting
the value and the two ends of a load do.  Since following one list of changes and then another is
following both (`Observation.follow_append`), whoever hears every change of a condition knows where
it stands, however the loads lie between the edits.

A load that is overtaken is no exception.  It tells no value, and it changes none; one that is not
overtaken tells the value on the wire although it leaves that as it is.
-/

namespace GridFilter

/-! ## Observations -/

/-- What a subscriber can tell of a condition. -/
structure Observation where
  operator : Operator
  wire : WireValue
  loading : Bool
  deriving DecidableEq, Repr

namespace Observation

/-- What is known once a change was heard. -/
def hear (known : Observation) : Change → Observation
  | .operatorChanged operator => { known with operator := operator }
  | .valueChanged wire => { known with wire := wire }
  | .loadingChanged loading => { known with loading := loading }

/-- What is known once a list of changes was heard, in order. -/
def follow (known : Observation) (changes : List Change) : Observation :=
  changes.foldl hear known

@[simp] lemma follow_nil (known : Observation) : known.follow [] = known := rfl

@[simp] lemma follow_cons (known : Observation) (change : Change) (rest : List Change) :
    known.follow (change :: rest) = (known.hear change).follow rest := rfl

lemma follow_append (known : Observation) (changes later : List Change) :
    known.follow (changes ++ later) = (known.follow changes).follow later :=
  List.foldl_append

end Observation

/-! ## One operation -/

namespace Condition

variable {condition : Condition}

/-- What there is to be known of a condition. -/
def observation (condition : Condition) : Observation :=
  ⟨condition.operator, condition.wire, condition.resolving⟩

/-- A read cannot be observed. -/
@[simp] lemma observation_snd_current (condition : Condition) :
    condition.current.2.observation = condition.observation := by
  rw [snd_current]
  rfl

lemma follow_setOperator (condition : Condition) (operator : Operator) :
    condition.observation.follow (condition.setOperator operator).1 =
      (condition.setOperator operator).2.observation := by
  by_cases hsame : condition.operator = operator
  · rw [← hsame, setOperator_self]
    rfl
  · rw [setOperator_of_ne hsame]
    rfl

lemma follow_setValue (condition : Condition) (value : ControlValue) :
    condition.observation.follow (condition.setValue value).1 =
      (condition.setValue value).2.observation := rfl

lemma follow_beginLoad (condition : Condition) :
    condition.observation.follow condition.beginLoad.2.1 =
      condition.beginLoad.2.2.observation := by
  rcases beginLoad_eq condition with hnone | ⟨-, pending, hbegun⟩
  · rw [hnone]
    exact (observation_snd_current condition).symm
  · have hread := observation_snd_current condition
    rw [observation, observation, Observation.mk.injEq] at hread
    obtain ⟨hoperator, hwire, -⟩ := hread
    rw [hbegun]
    simp [observation, Observation.hear, hoperator, hwire]

/-- The end of a load tells that nothing is under way any more; the value that it may tell is the
one on the wire already. -/
lemma follow_finishLoad (condition : Condition) (batch : Batch)
    (results : List (Option Reference)) :
    condition.observation.follow (condition.finishLoad batch results).1 =
      (condition.finishLoad batch results).2.observation := by
  by_cases hcurrent : condition.revision = batch.revision
  · obtain ⟨missed, heq⟩ := finishLoad_of_current hcurrent results
    rw [heq, keepFound_eq]
    rfl
  · obtain ⟨missed, heq⟩ := finishLoad_of_stale hcurrent results
    rw [heq]
    rfl

/-! ## Operations that tell all -/

/-- An operation is one step, and its changes carry the observation before it to the one after
it. -/
structure TellsAll (change : Condition → List Change × Condition) : Prop where
  step : ∀ condition, Step condition (change condition).2
  follow : ∀ condition, condition.observation.follow (change condition).1 =
    (change condition).2.observation

namespace TellsAll

lemma setOperator (operator : Operator) : TellsAll (·.setOperator operator) :=
  ⟨fun _ => .setOperator operator, fun condition => condition.follow_setOperator operator⟩

lemma setValue (value : ControlValue) : TellsAll (·.setValue value) :=
  ⟨fun _ => .setValue value, fun condition => condition.follow_setValue value⟩

lemma beginLoad : TellsAll (·.beginLoad.2) :=
  ⟨fun _ => .beginLoad, follow_beginLoad⟩

lemma finishLoad (batch : Batch) (results : List (Option Reference)) :
    TellsAll (·.finishLoad batch results) :=
  ⟨fun _ => .finishLoad batch results, fun condition => condition.follow_finishLoad batch results⟩

end TellsAll

end Condition

end GridFilter
