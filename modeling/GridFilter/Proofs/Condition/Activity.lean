import GridFilter.Proofs.Condition.Step

/-!
# A condition in use

An editor sets the operator or the value of a condition, reads its control value, and loads names
for its references.  A load is cut where it waits for the metadata service, and only there, so what
happens to a condition is a list of moves, each of which runs to its end before the next one begins.
An `Activity` is a condition together with the resolutions under way for it and with all that was
published so far.

## What the service does

Nothing is said about the service.  A finish names any of the resolutions that are under way and
brings any results, so a statement about all lists of moves is one about every service and every
order in which its answers arrive.

## Edits under a resolution

Each resolution carries a mark that says whether the condition was edited since the resolution
began: its value was set, or its operator was set to another one.  The mark is read by no move.  It
is there for the statements only; the condition itself has nothing but its revision to go by, and
must reach the same verdict.
-/

namespace GridFilter

/-- A resolution of references that waits for the metadata service. -/
structure Resolution where
  batch : Batch
  /-- The condition was edited since the resolution began. -/
  edited : Bool := false
  deriving DecidableEq, Repr

/-- A condition in use. -/
structure Activity where
  condition : Condition
  /-- The resolutions under way, in the order in which they began. -/
  underWay : List Resolution := []
  /-- Every change that was published, in order. -/
  published : List Change := []

/-- The state of loading that a change announces. -/
def Change.loading? : Change → Option Bool
  | loadingChanged loading => some loading
  | _ => none

namespace Activity

/-! ## Moves -/

/-- One move. -/
inductive Move where
  | setOperator (operator : Operator)
  | setValue (value : ControlValue)
  | read
  | startLoad
  /-- The resolution at a place in the order goes on with the results for its ids. -/
  | finishLoad (index : Nat) (results : List (Option Reference))

/-- The resolutions under way, marked if there was an edit. -/
def marked (activity : Activity) (edit : Bool) : List Resolution :=
  activity.underWay.map fun resolution => { resolution with edited := resolution.edited || edit }

/-- What a move does.  A load that finishes reads the control value at its end. -/
def act (activity : Activity) : Move → Activity
  | .setOperator operator =>
    let (changes, condition) := activity.condition.setOperator operator
    { condition := condition
      underWay := activity.marked (activity.condition.operator != operator)
      published := activity.published ++ changes }
  | .setValue value =>
    let (changes, condition) := activity.condition.setValue value
    { condition := condition
      underWay := activity.marked true
      published := activity.published ++ changes }
  | .read => { activity with condition := activity.condition.current.2 }
  | .startLoad =>
    let (batch?, changes, condition) := activity.condition.beginLoad
    { condition := condition
      underWay := activity.underWay ++ batch?.toList.map ({ batch := · })
      published := activity.published ++ changes }
  | .finishLoad index results =>
    match activity.underWay[index]? with
    | none => activity
    | some resolution =>
      let (changes, condition) := activity.condition.finishLoad resolution.batch results
      { condition := condition.current.2
        underWay := activity.underWay.eraseIdx index
        published := activity.published ++ changes }

/-- What a list of moves does. -/
def run (activity : Activity) (moves : List Move) : Activity :=
  moves.foldl act activity

/-! ## What was announced -/

/-- The states of loading that were announced, in order. -/
def loadings (activity : Activity) : List Bool :=
  activity.published.filterMap Change.loading?

/-- `true` and `false` in turn, starting with `true`. -/
def alternation (count : Nat) : List Bool :=
  (List.range count).map fun index => index % 2 == 0

lemma alternation_succ (count : Nat) :
    alternation (count + 1) = alternation count ++ [count % 2 == 0] := by
  rw [alternation, List.range_succ, List.map_append]
  rfl

/-! ## The two phases

Either nothing is under way, or exactly one resolution is.  The revision at which it began is not
ahead of the condition's, and behind it as soon as there was an edit. -/

/-- A condition is idle, or one resolution is under way for it. -/
inductive Phase (activity : Activity) : Prop where
  | idle (count : Nat) (hresolving : activity.condition.resolving = false)
      (hunderWay : activity.underWay = [])
      (hloadings : activity.loadings = alternation (2 * count))
  | loading (count : Nat) (resolution : Resolution)
      (hresolving : activity.condition.resolving = true)
      (hunderWay : activity.underWay = [resolution])
      (hloadings : activity.loadings = alternation (2 * count + 1))
      (hbegun : resolution.batch.revision ≤ activity.condition.revision)
      (hedited : resolution.edited = true →
        resolution.batch.revision < activity.condition.revision)

variable {activity next : Activity}

lemma marked_false (activity : Activity) : activity.marked false = activity.underWay := by
  rw [marked]
  simp only [Bool.or_false, List.map_id']

/-- Setting the operator that is set already is no edit. -/
lemma act_setOperator_self (activity : Activity) :
    activity.act (.setOperator activity.condition.operator) = activity := by
  rw [act, Condition.setOperator_self, bne_self_eq_false, marked_false]
  dsimp only
  rw [List.append_nil]

lemma loadings_append {changes : List Change} (h : changes.filterMap Change.loading? = [])
    (hpublished : next.published = activity.published ++ changes) :
    next.loadings = activity.loadings := by
  rw [loadings, hpublished, List.filterMap_append, h, List.append_nil, loadings]

/-- A move that neither begins nor ends a resolution keeps the phase, provided that it begins a new
revision when it is an edit. -/
lemma Phase.edit (h : activity.Phase) (edit : Bool)
    (hresolving : next.condition.resolving = activity.condition.resolving)
    (hunderWay : next.underWay = activity.marked edit)
    (hloadings : next.loadings = activity.loadings)
    (hrevision : activity.condition.revision ≤ next.condition.revision)
    (hedit : edit = true → activity.condition.revision < next.condition.revision) :
    next.Phase := by
  cases h with
  | idle count hidle hnone hcount =>
      refine .idle count (hresolving.trans hidle) ?_ (hloadings.trans hcount)
      rw [hunderWay, marked, hnone, List.map_nil]
  | loading count resolution hbusy hone hcount hbegun hedited =>
      refine .loading count { resolution with edited := resolution.edited || edit }
        (hresolving.trans hbusy) ?_ (hloadings.trans hcount) (Nat.le_trans hbegun hrevision) ?_
      · rw [hunderWay, marked, hone, List.map_singleton]
      · intro hmark
        rcases (Bool.or_eq_true _ _).mp hmark with hbefore | hnow
        · exact Nat.lt_of_lt_of_le (hedited hbefore) hrevision
        · exact Nat.lt_of_le_of_lt hbegun (hedit hnow)

/-- Starting a load keeps to the phases: one begins only when none is under way. -/
lemma Phase.startLoad (h : activity.Phase) : (activity.act .startLoad).Phase := by
  rcases Condition.beginLoad_eq activity.condition with heq | ⟨hidle, pending, heq⟩
  · have hnext : activity.act .startLoad = { activity with
        condition := activity.condition.current.2 } := by
      rw [act, heq]
      simp only [Option.toList_none, List.map_nil, List.append_nil]
    rw [hnext]
    refine h.edit false ?_ (marked_false activity).symm rfl ?_ nofun
    · exact Condition.resolving_snd_current activity.condition
    · exact Nat.le_of_eq (Condition.revision_snd_current activity.condition).symm
  · cases h with
    | loading count resolution hbusy =>
        rw [hidle] at hbusy
        exact absurd hbusy Bool.false_ne_true
    | idle count _ hnone hcount =>
        have hnext : activity.act .startLoad =
            { condition := { activity.condition.current.2 with resolving := true }
              underWay := [{ batch := ⟨activity.condition.revision, pending⟩ }]
              published := activity.published ++ [.loadingChanged true] } := by
          rw [act, heq, hnone]
          rfl
        rw [hnext]
        refine .loading count _ rfl rfl ?_ ?_ nofun
        · rw [alternation_succ, Nat.mul_mod_right, ← hcount, loadings, List.filterMap_append]
          rfl
        · exact Nat.le_of_eq (Condition.revision_snd_current activity.condition).symm

/-- When a resolution goes on with its results, none is under way any more. -/
lemma Phase.finishLoad (h : activity.Phase) (index : Nat) (results : List (Option Reference)) :
    (activity.act (.finishLoad index results)).Phase := by
  rw [act]
  cases hfound : activity.underWay[index]? with
  | none => exact h
  | some resolution =>
      cases h with
      | idle count _ hnone =>
          rw [hnone, List.getElem?_nil] at hfound
          exact absurd hfound.symm (Option.some_ne_none resolution)
      | loading count only _ hone hcount =>
          -- With one resolution under way, the place that was named is the first.
          obtain ⟨hindex, -⟩ := List.getElem?_eq_some_iff.mp hfound
          have hfirst : index = 0 := by
            rw [hone, List.length_singleton] at hindex
            omega
          -- Stale or not, the end of loading is announced once, and last.
          have hlast : (activity.condition.finishLoad resolution.batch results).1.filterMap
              Change.loading? = [false] := by
            by_cases hrevision : activity.condition.revision = resolution.batch.revision
            · obtain ⟨missed, heq⟩ := Condition.finishLoad_of_current hrevision results
              rw [heq]
              rfl
            · obtain ⟨missed, heq⟩ := Condition.finishLoad_of_stale hrevision results
              rw [heq]
              rfl
          refine .idle (count + 1) ?_ ?_ ?_
          · rw [Condition.resolving_snd_current]
            exact (Condition.finishLoad_spec _ _ _).2
          · rw [hone, hfirst]
            rfl
          · have hodd : ((2 * count + 1) % 2 == 0) = false := by
              rw [beq_eq_false_iff_ne]
              omega
            rw [loadings, List.filterMap_append, hlast, ← loadings, hcount, Nat.mul_succ,
              alternation_succ (2 * count + 1), hodd]

/-- Every move keeps to the two phases. -/
lemma Phase.act (h : activity.Phase) (move : Move) : (activity.act move).Phase := by
  cases move with
  | setOperator operator =>
      by_cases hsame : activity.condition.operator = operator
      · rw [← hsame, act_setOperator_self]
        exact h
      · have hnext : activity.act (.setOperator operator) =
            { condition := activity.condition.withOperator operator
              underWay := activity.marked true
              published := activity.published ++ [.operatorChanged operator,
                .valueChanged (activity.condition.withOperator operator).wire] } := by
          rw [Activity.act, Condition.setOperator_of_ne hsame, bne_iff_ne.mpr hsame]
        rw [hnext]
        exact h.edit true rfl rfl (loadings_append rfl rfl) (Nat.le_succ _)
          fun _ => Nat.lt_succ_self _
  | setValue value =>
      exact h.edit true rfl rfl (loadings_append rfl rfl) (Nat.le_succ _)
        fun _ => Nat.lt_succ_self _
  | read =>
      refine h.edit false ?_ (marked_false activity).symm rfl ?_ nofun
      · exact Condition.resolving_snd_current activity.condition
      · exact Nat.le_of_eq (Condition.revision_snd_current activity.condition).symm
  | startLoad => exact h.startLoad
  | finishLoad index results => exact h.finishLoad index results

/-- Every list of moves keeps to the two phases. -/
lemma Phase.run (h : activity.Phase) (moves : List Move) : (activity.run moves).Phase := by
  induction moves generalizing activity with
  | nil => exact h
  | cons move rest ih => exact ih (h.act move)

end Activity

end GridFilter
