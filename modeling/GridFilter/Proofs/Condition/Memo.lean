import GridFilter.Proofs.Condition.Step

/-!
# The memo of the control value

A condition decodes its value once and keeps the result until the next revision.  That is an
optimisation only if the result that is kept is the one that decoding again would give.  What is
remembered goes into decoding too, so it may change only where a new revision begins.  It does:
`Condition.MemoSound` holds of every new condition and is kept by every step.
-/

namespace GridFilter.Condition

variable {condition other : Condition}

/-- A memo for the current revision holds what decoding gives. -/
def MemoSound (condition : Condition) : Prop :=
  ∀ value, condition.decoded = some (condition.revision, value) → value = condition.decode

lemma MemoSound.fst_current (h : condition.MemoSound) :
    condition.current.1 = condition.decode := by
  rw [Condition.fst_current]
  cases hmemo : condition.decoded? with
  | none => rfl
  | some value => exact h value (decoded?_eq_some_iff.mp hmemo)

lemma memoSound_of_decoded (h : condition.decoded = none) : condition.MemoSound := by
  intro value hvalue
  simp [h] at hvalue

lemma IsNew.memoSound (h : condition.IsNew) : condition.MemoSound := by
  cases h <;> exact memoSound_of_decoded rfl

lemma MemoSound.snd_current (h : condition.MemoSound) : condition.current.2.MemoSound := by
  rw [Condition.snd_current, h.fst_current]
  intro value hvalue
  have hpair : (condition.revision, condition.decode) = (condition.revision, value) := by
    simpa using hvalue
  exact (Prod.mk.inj hpair).2.symm

lemma MemoSound.beginLoad (h : condition.MemoSound) : condition.beginLoad.2.2.MemoSound := by
  rcases beginLoad_eq condition with heq | ⟨-, pending, heq⟩
  · rw [heq]
    exact h.snd_current
  · rw [heq]
    -- The flag of a load under way goes into nothing that is decoded.
    exact h.snd_current

lemma MemoSound.finishLoad (h : condition.MemoSound) (batch : Batch)
    (results : List (Option Reference)) : (condition.finishLoad batch results).2.MemoSound := by
  by_cases hcurrent : condition.revision = batch.revision
  · obtain ⟨missed, heq⟩ := finishLoad_of_current hcurrent results
    rw [heq, keepFound_eq]
    exact memoSound_of_decoded rfl
  · obtain ⟨missed, heq⟩ := finishLoad_of_stale hcurrent results
    rw [heq]
    exact h

/-- Whatever is done to a condition, its memo stays sound. -/
theorem Step.memoSound (hstep : Step condition other) (h : condition.MemoSound) :
    other.MemoSound := by
  cases hstep with
  | setOperator operator =>
      by_cases hsame : condition.operator = operator
      · rwa [← hsame, setOperator_self]
      · rw [setOperator_of_ne hsame]
        exact memoSound_of_decoded rfl
  | setValue value => exact memoSound_of_decoded rfl
  | read => exact h.snd_current
  | beginLoad => exact h.beginLoad
  | finishLoad batch results => exact h.finishLoad batch results

lemma memoSound_of_steps (hsteps : Relation.ReflTransGen Step condition other)
    (h : condition.MemoSound) : other.MemoSound := by
  induction hsteps with
  | refl => exact h
  | tail _ hstep ih => exact hstep.memoSound ih

end GridFilter.Condition
