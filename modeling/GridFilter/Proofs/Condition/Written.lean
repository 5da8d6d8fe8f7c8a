import GridFilter.Proofs.Condition.SingleFlight
import GridFilter.Proofs.Criterion.WellFormed

/-!
# Values that an editor wrote

A condition comes with the value that its document had, and keeps it until an edit: its value is
set, or its operator is set to another one, which writes the value anew.  `Activity.edits` tells
whether a list of moves has such an edit.  Without one the criterion stays what it was
(`Activity.criterion_run`).  After one the value is what the column encodes for the operator that is
set, whatever else was done (`Activity.isWritten_run`), and so a condition that is in order is sent
in the form that the query layer expects (`Activity.wellFormed_run`).
-/

namespace GridFilter

namespace Condition

/-- The value is of the form that the column writes for the operator that is set. -/
def IsWritten (condition : Condition) : Prop :=
  (condition.column.valueShape condition.operator).IsEncoded condition.wire

lemma isWritten_setValue (condition : Condition) (value : ControlValue) :
    (condition.setValue value).2.IsWritten :=
  (condition.column.valueShape condition.operator).isEncoded_encode value

lemma isWritten_withOperator (condition : Condition) (operator : Operator) :
    (condition.withOperator operator).IsWritten := by
  unfold IsWritten withOperator
  dsimp only
  obtain ⟨value, hvalue⟩ := rewritten_eq_encodeValue
    { condition with
      remembered := condition.remembered.keepPresent condition.operator condition.current.1 }
    operator condition.current.1
  rw [hvalue]
  exact ValueShape.isEncoded_encode _ value

/-- Whether a value was written by the column depends on the column and the criterion only. -/
lemma IsWritten.congr {condition other : Condition} (h : condition.IsWritten)
    (hcolumn : other.column = condition.column)
    (hcriterion : other.criterion = condition.criterion) : other.IsWritten := by
  have hoperator : other.operator = condition.operator := congrArg Criterion.operator hcriterion
  have hwire : other.wire = condition.wire := congrArg Criterion.wire hcriterion
  unfold IsWritten
  rwa [hcolumn, hoperator, hwire]

end Condition

namespace Activity

variable {activity : Activity} {moves : List Move} {move : Move}

/-! ## Moves and steps -/

lemma steps_act (activity : Activity) (move : Move) :
    Relation.ReflTransGen Condition.Step activity.condition (activity.act move).condition := by
  cases move with
  | setOperator operator => exact .single (.setOperator operator)
  | setValue value => exact .single (.setValue value)
  | read => exact .single .read
  | startLoad => exact .single .beginLoad
  | finishLoad index results =>
      rw [act]
      cases activity.underWay[index]? with
      | none => exact .refl
      | some resolution =>
          exact (Relation.ReflTransGen.single (.finishLoad resolution.batch results)).tail .read

lemma steps_run (activity : Activity) (moves : List Move) :
    Relation.ReflTransGen Condition.Step activity.condition (activity.run moves).condition := by
  induction moves generalizing activity with
  | nil => exact .refl
  | cons move rest ih => exact (activity.steps_act move).trans (ih (activity.act move))

@[simp] lemma column_act (activity : Activity) (move : Move) :
    (activity.act move).condition.column = activity.condition.column :=
  (Condition.identity_of_steps (activity.steps_act move)).column

@[simp] lemma column_run (activity : Activity) (moves : List Move) :
    (activity.run moves).condition.column = activity.condition.column :=
  (Condition.identity_of_steps (activity.steps_run moves)).column

/-! ## Edits -/

/-- The move writes the value on the wire. -/
def writes (activity : Activity) : Move → Bool
  | .setOperator operator => activity.condition.operator != operator
  | .setValue _ => true
  | .read | .startLoad | .finishLoad .. => false

/-- Some move of the list writes the value on the wire. -/
def edits (activity : Activity) : List Move → Bool
  | [] => false
  | move :: rest => activity.writes move || (activity.act move).edits rest

lemma criterion_act (h : activity.writes move = false) :
    (activity.act move).condition.criterion = activity.condition.criterion := by
  cases move with
  | setOperator operator =>
      have hsame : activity.condition.operator = operator := by simpa [writes] using h
      rw [act, ← hsame, Condition.setOperator_self]
  | setValue value => simp [writes] at h
  | read => exact Condition.criterion_snd_current activity.condition
  | startLoad =>
      rw [act]
      have hread := Condition.criterion_snd_current activity.condition
      rcases Condition.beginLoad_eq activity.condition with heq | ⟨-, pending, heq⟩ <;> rw [heq] <;>
        exact hread
  | finishLoad index results => exact criterion_finishLoad activity index results

/-- Without an edit the criterion stays what it was. -/
lemma criterion_run (h : activity.edits moves = false) :
    (activity.run moves).condition.criterion = activity.condition.criterion := by
  induction moves generalizing activity with
  | nil => rfl
  | cons move rest ih =>
      rw [edits, Bool.or_eq_false_iff] at h
      have hrest := ih h.2
      rwa [criterion_act h.1] at hrest

lemma isWritten_act (h : activity.condition.IsWritten ∨ activity.writes move = true) :
    (activity.act move).condition.IsWritten := by
  cases hwrites : activity.writes move with
  | false =>
      have hbefore : activity.condition.IsWritten := by simpa [hwrites] using h
      exact hbefore.congr (activity.column_act move) (criterion_act hwrites)
  | true =>
      cases move with
      | setOperator operator =>
          have hother : activity.condition.operator ≠ operator := by simpa [writes] using hwrites
          rw [act, Condition.setOperator_of_ne hother]
          exact Condition.isWritten_withOperator activity.condition operator
      | setValue value => exact Condition.isWritten_setValue activity.condition value
      | read | startLoad | finishLoad => simp [writes] at hwrites

/-- After an edit the value is one that the column encodes for the operator that is set. -/
lemma isWritten_run (h : activity.condition.IsWritten ∨ activity.edits moves = true) :
    (activity.run moves).condition.IsWritten := by
  induction moves generalizing activity with
  | nil => simpa [edits, run] using h
  | cons move rest ih =>
      apply ih
      rw [edits, Bool.or_eq_true, ← or_assoc] at h
      rcases h with hnow | hlater
      · exact .inl (isWritten_act hnow)
      · exact .inr hlater

/-! ## What is sent -/

/-- Whatever a condition was when it was edited and whatever is done with it, once its value was
written by an edit and the condition is in order, it is sent in the form that the query layer
expects, and every text in it is in order for the column. -/
theorem wellFormed_run (activity : Activity) (moves : List Move) (settings : FilterSettings)
    (hedits : activity.edits moves = true)
    (hvalid : (activity.run moves).condition.isValid = true) :
    ((activity.run moves).condition.sent settings).WellFormed activity.condition.column
      settings.wildcard := by
  have hwritten : (activity.run moves).condition.IsWritten := isWritten_run (.inr hedits)
  rw [ColumnFilter.isValid_eq_accepts] at hvalid
  have hsent := Column.wellFormed_decorate hvalid hwritten settings.wildcard
  rw [column_run] at hsent
  unfold Condition.sent
  rwa [column_run]

/-- Two owners are chosen, given up for a text, and come back with the operator. -/
theorem wellFormed_run_owners :
    let ada := "a0f61d2c-7b7d-4d5a-9d5e-0a1b2c3d4e5f"
    let bob := "b0f61d2c-7b7d-4d5a-9d5e-0a1b2c3d4e5f"
    let activity : Activity := { condition := .fresh 0 "owner" ⟨"ownerid", .owner, {}⟩ }
    let moves : List Move :=
      [.setValue (.references [.bare ada, .bare bob]), .startLoad, .setOperator .like,
        .setValue (.text "Ada"), .finishLoad 0 [none, none], .setOperator .doesNotEqual]
    activity.edits moves = true ∧ (activity.run moves).condition.isValid = true ∧
      (activity.run moves).condition.sent {} = ⟨.notIn, .ofTexts [ada, bob]⟩ ∧
      ((activity.run moves).condition.sent {}).WellFormed activity.condition.column "%" := by
  intro ada bob activity moves
  have hedits : activity.edits moves = true := by decide +kernel
  have hvalid : (activity.run moves).condition.isValid = true := by decide +kernel
  exact ⟨hedits, hvalid, by decide +kernel, wellFormed_run activity moves {} hedits hvalid⟩

end Activity

end GridFilter
