import GridFilter.Proofs.Grid.Outline
import GridFilter.Proofs.Session.Workspace

/-!
# What a history leaves behind

Two things about a grid can be told from the list of actions alone, without looking at any
condition: which columns are open, in the order in which they were opened, and what the dataset
reported last.  `columns_run` and `dataset_run` say that the grid holds just these.

A third one can be told as long as nobody edits.  After a report, columns may be opened and closed,
control values may be read and names may be loaded; every open column still holds the criteria that
it reads from that report, whether it was opened before the report or after it
(`unedited_run`).
-/

namespace GridFilter

/-! ## Frames -/

namespace Session

variable (session : Session) (handle : Nat) (change : Condition → List Change × Condition)

lemma columns_replace (condition : Condition) :
    (session.replace condition).grid.columns = session.grid.columns := by
  rw [replace, Grid.replace, Grid.columns, List.map_map]
  rfl

lemma columns_edit : (session.edit handle change).2.grid.columns = session.grid.columns := by
  rw [edit]
  cases session.condition? handle with
  | none => rfl
  | some condition => exact columns_replace session (change condition).2

lemma dataset_edit : (session.edit handle change).2.grid.dataset = session.grid.dataset := by
  rw [edit]
  cases session.condition? handle <;> rfl

lemma columns_controlValue :
    (session.controlValue handle).2.grid.columns = session.grid.columns := by
  rw [controlValue]
  cases session.condition? handle with
  | none => rfl
  | some condition => exact columns_replace session condition.current.2

lemma dataset_controlValue :
    (session.controlValue handle).2.grid.dataset = session.grid.dataset := by
  rw [controlValue]
  cases session.condition? handle <;> rfl

end Session

namespace Grid

variable {grid : Grid}

lemma columns_openColumn (grid : Grid) (column : Column) :
    (grid.openColumn column).columns =
      if grid.columns.any (·.name == column.name) then grid.columns
      else grid.columns ++ [column] := by
  by_cases hopen : grid.filter? column.name = none
  · have hnone : ¬ (grid.columns.any (·.name == column.name)) = true := by
      rw [List.any_eq_true]
      rintro ⟨other, hmem, hname⟩
      exact filter?_eq_none_iff.mp hopen other hmem (eq_of_beq hname)
    obtain ⟨filter, rfl, -, -, -, heq⟩ := openColumn_of_filter?_eq_none hopen
    rw [heq, if_neg hnone, columns, List.map_append, columns]
    rfl
  · have hsome : (grid.columns.any (·.name == column.name)) = true := by
      by_contra hnone
      refine hopen (filter?_eq_none_iff.mpr fun other hmem hname => hnone ?_)
      exact List.any_eq_true.mpr ⟨other, hmem, beq_iff_eq.mpr hname⟩
    rw [openColumn_of_mem hopen, if_pos hsome]

lemma columns_rebuildColumn (h : grid.Orderly) (name : String) (expression : FilterExpression) :
    (grid.rebuildColumn name expression).columns = grid.columns := by
  rw [rebuildColumn]
  cases hfound : grid.filter? name with
  | none => rfl
  | some filter =>
      refine columns_update fun old hold hname => ?_
      have hsame := h.filter?_eq_some hold
      rw [hname, hfound, Option.some_inj] at hsame
      rw [hsame, ColumnFilter.column_ofExpression]

lemma dataset_openColumn (grid : Grid) (column : Column) :
    (grid.openColumn column).dataset = grid.dataset := by
  rw [openColumn]
  split <;> rfl

lemma dataset_rebuildColumn (grid : Grid) (name : String) (expression : FilterExpression) :
    (grid.rebuildColumn name expression).dataset = grid.dataset := by
  rw [rebuildColumn]
  split <;> rfl

end Grid

namespace Workspace

/-! ## Open columns and the last report -/

/-- The columns that are open after one more action. -/
def Action.columnsAfter (columns : List Column) : Action → List Column
  | openColumn column =>
    if columns.any (·.name == column.name) then columns else columns ++ [column]
  | clear => []
  | _ => columns

/-- The columns that actions leave open, in the order in which they were opened. -/
def openColumns (actions : List Action) : List Column :=
  actions.foldl Action.columnsAfter []

/-- What the dataset reported last, after one more action. -/
def Action.reportAfter (report : Option FilterExpression) : Action → Option FilterExpression
  | datasetChanged expression => some expression
  | _ => report

/-- What the dataset reported last. -/
def lastReport (actions : List Action) : Option FilterExpression :=
  actions.foldl Action.reportAfter none

variable {workspace : Workspace} {settings : FilterSettings} {action : Action}

lemma columns_act (h : workspace.session.grid.Orderly) (action : Action) :
    (workspace.act action).session.grid.columns =
      action.columnsAfter workspace.session.grid.columns := by
  cases action with
  | openColumn column => exact Grid.columns_openColumn _ column
  | datasetChanged expression => exact Grid.columns_datasetChanged _ expression
  | rebuildColumn name expression => exact Grid.columns_rebuildColumn h name expression
  | addCondition name id =>
      exact Grid.columns_update fun _ _ _ => rfl
  | removeCondition name id => exact Grid.columns_update fun _ _ _ => rfl
  | clearColumn name => exact Grid.columns_update fun _ _ _ => rfl
  | clear => rfl
  | setOperator handle operator => exact Session.columns_edit _ handle _
  | setValue handle value => exact Session.columns_edit _ handle _
  | controlValue handle => exact Session.columns_controlValue _ handle
  | startLoad handle => exact Session.columns_edit _ handle _
  | finishLoad index results =>
      rw [act]
      cases workspace.underWay[index]? with
      | none => rfl
      | some load => exact (Session.columns_controlValue _ _).trans (Session.columns_edit _ _ _)

lemma dataset_act (workspace : Workspace) (action : Action) :
    (workspace.act action).session.grid.dataset =
      action.reportAfter workspace.session.grid.dataset := by
  cases action with
  | openColumn column => exact Grid.dataset_openColumn _ column
  | rebuildColumn name expression => exact Grid.dataset_rebuildColumn _ name expression
  | setOperator handle operator => exact Session.dataset_edit _ handle _
  | setValue handle value => exact Session.dataset_edit _ handle _
  | controlValue handle => exact Session.dataset_controlValue _ handle
  | startLoad handle => exact Session.dataset_edit _ handle _
  | finishLoad index results =>
      rw [act]
      cases workspace.underWay[index]? with
      | none => rfl
      | some load => exact (Session.dataset_controlValue _ _).trans (Session.dataset_edit _ _ _)
  | _ => rfl

/-- The open columns are those that the history leaves open. -/
theorem columns_run (settings : FilterSettings) (actions : List Action) :
    ((start settings).run actions).session.grid.columns = openColumns actions := by
  have hrun : ∀ (actions : List Action) (workspace : Workspace),
      workspace.session.Sound settings →
        (workspace.run actions).session.grid.columns =
          actions.foldl Action.columnsAfter workspace.session.grid.columns := by
    intro actions
    induction actions with
    | nil => exact fun _ _ => rfl
    | cons action rest ih =>
        intro workspace hsound
        rw [run_cons, ih _ (sound_act hsound action), columns_act hsound.orderly, List.foldl_cons]
  exact hrun actions (start settings) (sound_start settings)

/-- The dataset's expression is the one that was reported last. -/
theorem dataset_run (settings : FilterSettings) (actions : List Action) :
    ((start settings).run actions).session.grid.dataset = lastReport actions := by
  have hrun : ∀ (actions : List Action) (workspace : Workspace),
      (workspace.run actions).session.grid.dataset =
        actions.foldl Action.reportAfter workspace.session.grid.dataset := by
    intro actions
    induction actions with
    | nil => exact fun _ => rfl
    | cons action rest ih =>
        intro workspace
        rw [run_cons, ih, dataset_act, List.foldl_cons]
  exact hrun actions (start settings)

end Workspace

/-! ## Without an edit -/

namespace Grid

variable {grid : Grid} {expression : FilterExpression}

/-- Every open column holds what it reads from the dataset's expression. -/
structure Unedited (grid : Grid) (expression : FilterExpression) : Prop where
  dataset : grid.dataset = some expression
  criteria : ∀ filter ∈ grid.filters,
    filter.criteria = filter.column.criteria grid.settings expression

lemma unedited_datasetChanged (grid : Grid) (expression : FilterExpression) :
    (grid.datasetChanged expression).Unedited expression where
  dataset := rfl
  criteria := fun _ hmem => criteria_of_mem_hydrateAll hmem

/-- A column that is opened after the report reads the same as one that was open before. -/
lemma Unedited.openColumn (h : grid.Unedited expression) (column : Column) :
    (grid.openColumn column).Unedited expression := by
  by_cases hopen : grid.filter? column.name = none
  · obtain ⟨filter, -, -, hread, -, heq⟩ := openColumn_of_filter?_eq_none hopen
    rw [heq]
    refine ⟨h.dataset, fun other hmem => ?_⟩
    rcases List.mem_append.mp hmem with hold | hnew
    · exact h.criteria other hold
    · rw [List.mem_singleton.mp hnew, hread expression h.dataset,
        ColumnFilter.criteria_ofExpression, ColumnFilter.column_ofExpression]
  · rw [openColumn_of_mem hopen]
    exact h

/-- A revision that changes no criterion leaves every column what it reads. -/
lemma Unedited.of_revises {session next : Session} {revise : Condition → Condition}
    (h : session.grid.Unedited expression) (hrevises : session.Revises revise next)
    (hsame : ∀ condition : Condition, (revise condition).criterion = condition.criterion) :
    next.grid.Unedited expression := by
  rw [hrevises.grid]
  refine ⟨h.dataset, fun filter hmem => ?_⟩
  obtain ⟨old, hold, rfl⟩ := List.mem_map.mp hmem
  have hcriteria : (old.mapConditions revise).criteria = old.criteria := by
    rw [ColumnFilter.criteria, ColumnFilter.mapConditions, List.map_map, ColumnFilter.criteria]
    exact List.map_congr_left fun condition _ => hsame condition
  rw [hcriteria]
  exact h.criteria old hold

end Grid

namespace Workspace

variable {workspace : Workspace} {settings : FilterSettings} {action : Action}

/-- The actions that edit nothing: columns are opened and closed, control values are read, names are
loaded. -/
inductive Action.Keeps : Action → Prop where
  | openColumn (column : Column) : Keeps (.openColumn column)
  | clear : Keeps .clear
  | controlValue (handle : Nat) : Keeps (.controlValue handle)
  | startLoad (handle : Nat) : Keeps (.startLoad handle)
  | finishLoad (index : Nat) (results : List (Option Reference)) :
      Keeps (.finishLoad index results)

/-- What an action that edits nothing does to the condition that it touches leaves the criterion
alone. -/
lemma Action.Keeps.criterion_eq (haction : action.Keeps) {handle : Nat}
    {change : Condition → Condition} (h : workspace.touched? action = some (handle, change))
    (condition : Condition) : (change condition).criterion = condition.criterion := by
  cases haction with
  | controlValue other =>
      obtain ⟨rfl, rfl⟩ := Prod.mk.inj (Option.some.inj h)
      exact Condition.criterion_snd_current condition
  | startLoad other =>
      obtain ⟨rfl, rfl⟩ := Prod.mk.inj (Option.some.inj h)
      dsimp only
      rcases Condition.beginLoad_eq condition with heq | ⟨-, pending, heq⟩ <;> rw [heq]
      · exact Condition.criterion_snd_current condition
      · exact Condition.criterion_snd_current condition
  | finishLoad index results =>
      obtain ⟨load, -, hload⟩ := Option.map_eq_some_iff.mp h
      obtain ⟨rfl, rfl⟩ := Prod.mk.inj hload
      dsimp only
      rw [Condition.criterion_snd_current]
      exact (Condition.finishLoad_spec condition load.2 results).1
  | _ => exact absurd h.symm (Option.some_ne_none _)

lemma unedited_act {expression : FilterExpression}
    (h : workspace.session.grid.Unedited expression) (hsound : workspace.session.Sound settings)
    (haction : action.Keeps) : (workspace.act action).session.grid.Unedited expression := by
  cases htouched : workspace.touched? action with
  | some touched =>
      obtain ⟨handle, change⟩ := touched
      refine h.of_revises (revises_of_touched? hsound htouched) fun condition => ?_
      exact Session.related_touch (fun before after => after.criterion = before.criterion)
        (fun _ => rfl) (haction.criterion_eq htouched) condition
  | none =>
      cases haction with
      | openColumn column => exact h.openColumn column
      | clear => exact ⟨h.dataset, fun _ hmem => absurd hmem List.not_mem_nil⟩
      | finishLoad index results =>
          rw [act, Option.map_eq_none_iff.mp htouched]
          exact h
      | _ => exact absurd htouched (Option.some_ne_none _)

/-- After a report and no edit since, every open column holds what it reads from the report. -/
theorem unedited_run (settings : FilterSettings) (before after : List Action)
    (expression : FilterExpression) (hafter : ∀ action ∈ after, action.Keeps) :
    ((start settings).run
      (before ++ .datasetChanged expression :: after)).session.grid.Unedited expression := by
  have hrun : ∀ (actions : List Action) (workspace : Workspace),
      workspace.session.Sound settings → workspace.session.grid.Unedited expression →
        (∀ action ∈ actions, action.Keeps) →
          (workspace.run actions).session.grid.Unedited expression := by
    intro actions
    induction actions with
    | nil => exact fun _ _ hunedited _ => hunedited
    | cons action rest ih =>
        intro workspace hsound hunedited hkeeps
        refine ih (workspace.act action) (sound_act hsound action) ?_ ?_
        · exact unedited_act hunedited hsound (hkeeps action List.mem_cons_self)
        · exact fun other hmem => hkeeps other (List.mem_cons_of_mem action hmem)
  have hsound := sound_run settings before
  rw [run_append, run_cons]
  exact hrun after _ (sound_act hsound _) (Grid.unedited_datasetChanged _ expression) hafter

end Workspace

end GridFilter
