import GridFilter.Proofs.Condition.SingleFlight
import GridFilter.Proofs.Session.Workspace

/-!
# Following one condition through a session

`Activity.SingleFlight` is about one condition by itself.  In a session many conditions are edited
and loaded side by side, they come and go with the grid's columns, and the loads that wait stand in
one list.  This module follows a single condition through all of that: what became of it is what the
moves on it alone would have made of it, and the loads that wait for it are the resolutions under
way of these moves (`Tracked`, `tracked_run`).

So everything that holds of a condition in use holds of every condition of a session.
`singleFlight_session` states it for the flag and the number of loads.

## The argument

An action touches one condition.  For that one it is a move; for the others neither the condition
nor the list of its loads changes.  A condition that appears has a handle that was never given out
before, so no load waits for it.
-/

namespace GridFilter

/-! ## Traces of a condition -/

/-- The condition came about by moves on a new one, after which these batches are under way. -/
def Condition.Traced (condition : Condition) (batches : List Batch) : Prop :=
  ∃ (born : Condition) (moves : List Activity.Move), born.IsNew ∧
    (Activity.run { condition := born } moves).condition = condition ∧
      (Activity.run { condition := born } moves).underWay.map Resolution.batch = batches

namespace Condition

variable {condition : Condition} {batches : List Batch}

lemma IsNew.traced (h : condition.IsNew) : condition.Traced [] :=
  ⟨condition, [], h, rfl, rfl⟩

lemma Traced.singleFlight (h : condition.Traced batches) :
    batches.length ≤ 1 ∧ (condition.resolving = true ↔ batches ≠ []) := by
  obtain ⟨born, moves, hnew, rfl, rfl⟩ := h
  have hflight := (Activity.phase_run hnew moves).singleFlight
  rw [List.length_map, ne_eq, List.map_eq_nil_iff]
  exact ⟨hflight.at_most_one, hflight.loading_iff⟩

/-- One more move. -/
lemma Traced.act (h : condition.Traced batches) (move : Activity.Move) :
    ∃ activity : Activity, activity.condition = condition ∧
      activity.underWay.map Resolution.batch = batches ∧
        (activity.act move).condition.Traced
          ((activity.act move).underWay.map Resolution.batch) := by
  obtain ⟨born, moves, hnew, hcondition, hbatches⟩ := h
  refine ⟨_, hcondition, hbatches, born, moves ++ [move], hnew, ?_, ?_⟩ <;>
    rw [Activity.run, List.foldl_append] <;> rfl

lemma map_batch_marked (activity : Activity) (edit : Bool) :
    (activity.marked edit).map Resolution.batch = activity.underWay.map Resolution.batch := by
  rw [Activity.marked, List.map_map]
  rfl

lemma Traced.setOperator (h : condition.Traced batches) (operator : Operator) :
    (condition.setOperator operator).2.Traced batches := by
  obtain ⟨activity, rfl, rfl, hact⟩ := h.act (.setOperator operator)
  rwa [Activity.act, map_batch_marked] at hact

lemma Traced.setValue (h : condition.Traced batches) (value : ControlValue) :
    (condition.setValue value).2.Traced batches := by
  obtain ⟨activity, rfl, rfl, hact⟩ := h.act (.setValue value)
  rwa [Activity.act, map_batch_marked] at hact

lemma Traced.read (h : condition.Traced batches) : condition.current.2.Traced batches := by
  obtain ⟨activity, rfl, rfl, hact⟩ := h.act .read
  exact hact

lemma Traced.startLoad (h : condition.Traced batches) :
    condition.beginLoad.2.2.Traced (batches ++ condition.beginLoad.1.toList) := by
  obtain ⟨activity, rfl, rfl, hact⟩ := h.act .startLoad
  rw [Activity.act, List.map_append, List.map_map] at hact
  have hbatch : (activity.condition.beginLoad.1.toList.map
      (Resolution.batch ∘ fun batch => { batch := batch })) =
        activity.condition.beginLoad.1.toList := List.map_id _
  rwa [hbatch] at hact

lemma Traced.finishLoad {batch : Batch} (h : condition.Traced [batch])
    (results : List (Option Reference)) :
    (condition.finishLoad batch results).2.current.2.Traced [] := by
  obtain ⟨activity, rfl, hbatches, hact⟩ := h.act (.finishLoad 0 results)
  obtain ⟨resolution, hone, rfl⟩ := List.map_eq_singleton_iff.mp hbatches
  rw [Activity.act, hone] at hact
  exact hact

end Condition

namespace Workspace

variable {workspace next : Workspace} {settings : FilterSettings}

/-! ## The loads of one condition -/

/-- The batches that wait for the condition of a handle, in order. -/
def waiting (workspace : Workspace) (handle : Nat) : List Batch :=
  (workspace.underWay.filter fun load => load.1 = handle).map Prod.snd

lemma waiting_eq_nil {handle : Nat} (h : ∀ load ∈ workspace.underWay, load.1 ≠ handle) :
    workspace.waiting handle = [] := by
  rw [waiting, List.map_eq_nil_iff, List.filter_eq_nil_iff]
  intro load hmem
  rw [decide_eq_true_eq]
  exact h load hmem

/-- Taking a load off the list, seen from any handle. -/
lemma filter_eraseIdx {α : Type} {items : List α} {index : Nat} {item : α}
    (h : items[index]? = some item) (keeps : α → Bool) :
    ∃ before after, items.filter keeps = before ++ (if keeps item then [item] else []) ++ after ∧
      (items.eraseIdx index).filter keeps = before ++ after := by
  obtain ⟨hindex, hitem⟩ := List.getElem?_eq_some_iff.mp h
  refine ⟨(items.take index).filter keeps, (items.drop (index + 1)).filter keeps, ?_, ?_⟩
  · have hsplit : items = items.take index ++ [item] ++ items.drop (index + 1) := by
      rw [← hitem, List.append_assoc, List.singleton_append, List.getElem_cons_drop,
        List.take_append_drop]
    have hsingle : [item].filter keeps = if keeps item then [item] else [] := by
      rw [List.filter_cons, List.filter_nil]
    rw [← hsingle, ← List.filter_append, ← List.filter_append, ← hsplit]
  · rw [List.eraseIdx_eq_take_drop_succ, List.filter_append]

/-- When a load begins, its condition waits for one batch more, and no other is affected. -/
lemma waiting_startLoad (workspace : Workspace) (handle other : Nat) :
    (workspace.act (.startLoad handle)).waiting other =
      workspace.waiting other ++
        if handle = other then (batch? workspace.session handle).toList else [] := by
  rw [waiting, act, List.filter_append, List.map_append, ← waiting]
  congr 1
  by_cases hsame : handle = other
  · rw [if_pos hsame]
    cases batch? workspace.session handle with
    | none => rfl
    | some batch => simp [hsame]
  · rw [if_neg hsame]
    cases batch? workspace.session handle with
    | none => rfl
    | some batch => simp [hsame]

/-- When a load goes on, its condition waits for one batch less, and no other is affected. -/
lemma waiting_eraseIdx {index handle : Nat} {batch : Batch} (session : Session)
    (h : workspace.underWay[index]? = some (handle, batch)) (other : Nat) :
    ∃ before after,
      workspace.waiting other = before ++ (if handle = other then [batch] else []) ++ after ∧
        waiting { session := session, underWay := workspace.underWay.eraseIdx index } other =
          before ++ after := by
  obtain ⟨before, after, hbefore, hafter⟩ := filter_eraseIdx h fun load => load.1 = other
  refine ⟨before.map Prod.snd, after.map Prod.snd, ?_, ?_⟩
  · rw [waiting, hbefore, List.map_append, List.map_append]
    by_cases hsame : handle = other
    · rw [if_pos hsame, if_pos (decide_eq_true hsame), List.map_singleton]
    · rw [if_neg hsame, if_neg (by rwa [decide_eq_true_eq]), List.map_nil]
  · rw [waiting, hafter, List.map_append]

/-! ## The invariant -/

/-- Every condition in stock is what moves made of it, with the loads that wait for it under way,
and no load waits for a handle that was not given out. -/
structure Tracked (workspace : Workspace) : Prop where
  traced : ∀ condition ∈ workspace.session.stock,
    condition.Traced (workspace.waiting condition.handle)
  handle_lt : ∀ load ∈ workspace.underWay, load.1 < workspace.session.grid.nextHandle

/-- A condition that appears has a handle for which no load waits. -/
lemma Tracked.withGrid (h : workspace.Tracked) (hsound : workspace.session.Sound settings)
    {grid : Grid} (hstep : workspace.session.grid.Step grid) :
    (workspace.withGrid grid).Tracked := by
  obtain ⟨-, new, hnumbered, hconditions⟩ := hstep.grows hsound.orderly
  constructor
  · intro condition hmem
    rcases Session.mem_stock_withGrid hconditions hmem with hold | hnew
    · exact h.traced condition hold
    · have hnone : workspace.waiting condition.handle = [] := by
        refine waiting_eq_nil fun load hload => Nat.ne_of_lt ?_
        exact Nat.lt_of_lt_of_le (h.handle_lt load hload) (hnumbered.lower condition hnew)
      show condition.Traced (workspace.waiting condition.handle)
      rw [hnone]
      exact (hnumbered.isNew condition hnew).traced
  · intro load hload
    exact Nat.lt_of_lt_of_le (h.handle_lt load hload) hnumbered.le

/-- An action that touches a condition is a move for it and nothing for the others. -/
lemma Tracked.touch (h : workspace.Tracked) {handle : Nat} {change : Condition → Condition}
    (hrevises : workspace.session.Revises (Session.touch handle change) next.session)
    (hhandle : ∀ condition, (change condition).handle = condition.handle)
    (hothers : ∀ other, other ≠ handle → next.waiting other = workspace.waiting other)
    (hmove : ∀ condition ∈ workspace.session.stock, condition.handle = handle →
      condition.Traced (workspace.waiting handle) →
        (change condition).Traced (next.waiting handle))
    (hloads : ∀ load ∈ next.underWay, load.1 < workspace.session.grid.nextHandle) :
    next.Tracked := by
  constructor
  · intro condition hmem
    rw [hrevises.stock] at hmem
    obtain ⟨before, hbefore, rfl⟩ := List.mem_map.mp hmem
    have htraced := h.traced before hbefore
    by_cases hsame : before.handle = handle
    · rw [Session.touch_of_handle_eq hsame, hhandle before, hsame]
      rw [hsame] at htraced
      exact hmove before hbefore hsame htraced
    · rw [Session.touch_of_handle_ne hsame, hothers before.handle hsame]
      exact htraced
  · rw [hrevises.grid]
    exact hloads

/-- A load that begins waits for the condition that it was started for. -/
lemma Tracked.startLoad (h : workspace.Tracked) (hsound : workspace.session.Sound settings)
    (handle : Nat) : (workspace.act (.startLoad handle)).Tracked := by
  have htouched : workspace.touched? (.startLoad handle) = some (handle, _) := rfl
  refine h.touch (revises_of_touched? hsound htouched) ?_ ?_ ?_ ?_
  · exact fun _ => Condition.Step.beginLoad.identity.handle
  · intro other hne
    rw [waiting_startLoad, if_neg hne.symm, List.append_nil]
  · intro condition hmem hhandle htraced
    rw [waiting_startLoad, if_pos rfl, batch?, ← hhandle, hsound.condition?_eq_some hmem, hhandle]
    exact htraced.startLoad
  · intro load hload
    rcases List.mem_append.mp hload with hold | hnew
    · exact h.handle_lt load hold
    · obtain ⟨batch, hbatch, rfl⟩ := List.mem_map.mp hnew
      obtain ⟨condition, hcondition, -⟩ :=
        Option.bind_eq_some_iff.mp (Option.mem_toList.mp hbatch)
      obtain ⟨hmem, rfl⟩ := Session.mem_stock_of_condition? hcondition
      exact hsound.handle_lt condition hmem

/-- A load that goes on is the only one that waits for its condition. -/
lemma Tracked.finishLoad (h : workspace.Tracked) (hsound : workspace.session.Sound settings)
    {index handle : Nat} {batch : Batch}
    (hfound : workspace.underWay[index]? = some (handle, batch))
    (results : List (Option Reference)) :
    (workspace.act (.finishLoad index results)).Tracked := by
  have htouched : workspace.touched? (.finishLoad index results) =
      some (handle, fun condition => (condition.finishLoad batch results).2.current.2) := by
    rw [touched?, hfound]
    rfl
  have hact : workspace.act (.finishLoad index results) =
      { session := (workspace.act (.finishLoad index results)).session
        underWay := workspace.underWay.eraseIdx index } := by
    rw [Workspace.act, hfound]
  refine h.touch (revises_of_touched? hsound htouched) ?_ ?_ ?_ ?_
  · intro condition
    exact (Condition.identity_of_steps (steps_of_touched? htouched condition)).handle
  · intro other hne
    obtain ⟨before, after, hbefore, hafter⟩ :=
      waiting_eraseIdx (workspace.act (.finishLoad index results)).session hfound other
    rw [if_neg hne.symm, List.append_nil] at hbefore
    rw [hact, hafter, hbefore]
  · intro condition _ _ htraced
    obtain ⟨before, after, hbefore, hafter⟩ :=
      waiting_eraseIdx (workspace.act (.finishLoad index results)).session hfound handle
    rw [if_pos rfl] at hbefore
    -- At most one load waits for a condition, so nothing stands beside this one.
    have hlength := htraced.singleFlight.1
    rw [hbefore, List.length_append, List.length_append, List.length_singleton] at hlength
    have hbeforeNil : before = [] := List.length_eq_zero_iff.mp (by omega)
    have hafterNil : after = [] := List.length_eq_zero_iff.mp (by omega)
    rw [hbefore, hbeforeNil, hafterNil] at htraced
    rw [hact, hafter, hbeforeNil, hafterNil]
    exact htraced.finishLoad results
  · intro load hload
    rw [hact] at hload
    exact h.handle_lt load (List.mem_of_mem_eraseIdx hload)

/-- Every action keeps track of every condition. -/
lemma Tracked.act (h : workspace.Tracked) (hsound : workspace.session.Sound settings)
    (action : Action) : (workspace.act action).Tracked := by
  rcases act_cases workspace action with ⟨grid, hstep, heq⟩ | ⟨handle, change, htouched⟩ | hsame
  · rw [heq]
    exact h.withGrid hsound hstep
  · have hrevises := revises_of_touched? hsound htouched
    have hhandle : ∀ condition, (change condition).handle = condition.handle :=
      fun condition => (Condition.identity_of_steps (steps_of_touched? htouched condition)).handle
    cases action with
    | setOperator other operator =>
        obtain ⟨rfl, rfl⟩ := Prod.mk.inj (Option.some.inj htouched)
        exact h.touch hrevises hhandle (fun _ _ => rfl)
          (fun _ _ _ htraced => htraced.setOperator operator) h.handle_lt
    | setValue other value =>
        obtain ⟨rfl, rfl⟩ := Prod.mk.inj (Option.some.inj htouched)
        exact h.touch hrevises hhandle (fun _ _ => rfl)
          (fun _ _ _ htraced => htraced.setValue value) h.handle_lt
    | controlValue other =>
        obtain ⟨rfl, rfl⟩ := Prod.mk.inj (Option.some.inj htouched)
        exact h.touch hrevises hhandle (fun _ _ => rfl) (fun _ _ _ htraced => htraced.read)
          h.handle_lt
    | startLoad other => exact h.startLoad hsound other
    | finishLoad index results =>
        obtain ⟨⟨other, batch⟩, hfound, -⟩ := Option.map_eq_some_iff.mp htouched
        exact h.finishLoad hsound hfound results
    | _ => exact absurd htouched.symm (Option.some_ne_none _)
  · rw [hsame]
    exact h

/-- In every reachable session every condition is what moves made of it. -/
theorem tracked_run (settings : FilterSettings) (actions : List Action) :
    ((start settings).run actions).Tracked := by
  have hrun : ∀ (actions : List Action) (workspace : Workspace),
      workspace.session.Sound settings → workspace.Tracked → (workspace.run actions).Tracked := by
    intro actions
    induction actions with
    | nil => exact fun _ _ htracked => htracked
    | cons action rest ih =>
        intro workspace hsound htracked
        exact ih (workspace.act action) (sound_act hsound action) (htracked.act hsound action)
  refine hrun actions (start settings) (sound_start settings) ⟨?_, ?_⟩
  · exact fun condition hmem => absurd hmem List.not_mem_nil
  · exact fun load hmem => absurd hmem List.not_mem_nil

/-- In every reachable session, however many conditions are loaded side by side, at most one load
waits for each, and a condition says that it is loading exactly while one does. -/
theorem singleFlight_session (settings : FilterSettings) (actions : List Action) :
    ∀ condition ∈ ((start settings).run actions).session.stock,
      (((start settings).run actions).waiting condition.handle).length ≤ 1 ∧
        (condition.resolving = true ↔
          ((start settings).run actions).waiting condition.handle ≠ []) :=
  fun condition hmem => ((tracked_run settings actions).traced condition hmem).singleFlight

end Workspace

end GridFilter
