import GridFilter.Proofs.Session.Workspace

/-!
# Conditions that left the grid

An editor may hold a condition that the grid has given up: it was removed, its column was cleared or
read anew, the dataset reported another expression, or all columns were closed.  The editor may go
on with it, and a load of its names may still be waiting.  `orphan_isolated` says that the grid
takes no notice: whatever is done through the handle of such a condition, at whatever time, leaves
the grid as it is, and with it every condition, the expression and the list of invalid ids.

That is not a matter of ids.  A report makes conditions with the ids of those they replace, so a
condition that left the grid and one that is in it may have the same id.  It is a matter of handles,
which are given out once.

## The argument

Two things are needed beside `Session.Sound`.  What takes a condition out of the grid leaves none of
its handle behind, for which the handles of one filter have to differ place by place
(`Grid.Tidy`, `Session.orphaned_of_discards`).  And a handle that is not in the grid never comes
back, since new conditions have new handles (`Session.Orphaned`, `orphaned_run`).
-/

namespace GridFilter

/-! ## Handles of one filter -/

/-- The handles of a filter's conditions, in order. -/
def ColumnFilter.handles (filter : ColumnFilter) : List Nat :=
  filter.conditions.map Condition.handle

lemma ColumnFilter.handles_ofExpression (settings : FilterSettings) (column : Column)
    (expression : FilterExpression) (first : Nat) :
    (ofExpression settings column expression first).handles =
      List.range' first (column.criteria settings expression).length := by
  have hlength := congrArg List.length
    (map_snd_labelled (Criterion.id column.name) (column.criteria settings expression))
  rw [List.length_map] at hlength
  rw [handles, ofExpression, List.map_map, ← hlength]
  exact List.zipIdx_map_snd first _

namespace Grid

variable {grid next : Grid} {name : String}

/-- No filter has two conditions of one handle. -/
def Tidy (grid : Grid) : Prop :=
  ∀ filter ∈ grid.filters, filter.handles.Nodup

lemma nodup_handles_ofExpression (settings : FilterSettings) (column : Column)
    (expression : FilterExpression) (first : Nat) :
    (ColumnFilter.ofExpression settings column expression first).handles.Nodup := by
  rw [ColumnFilter.handles_ofExpression]
  exact List.nodup_range'

lemma Tidy.update (h : grid.Tidy) {change : ColumnFilter → ColumnFilter}
    (hchange : ∀ filter ∈ grid.filters, filter.column.name = name →
      (change filter).handles.Nodup) : (grid.update name change).Tidy := by
  intro filter hmem
  obtain ⟨old, hold, rfl⟩ := mem_filters_update.mp hmem
  by_cases hname : old.column.name = name
  · rw [if_pos (beq_iff_eq.mpr hname)]
    exact hchange old hold hname
  · rw [if_neg (by rwa [beq_iff_eq])]
    exact h old hold

/-- Every operation keeps a grid tidy, as long as its handles are below the next free one. -/
lemma Step.tidy (h : grid.Step next) (htidy : grid.Tidy)
    (hbelow : ∀ condition ∈ grid.conditions, condition.handle < grid.nextHandle) : next.Tidy := by
  cases h with
  | openColumn column =>
      rw [Grid.openColumn]
      split
      · exact htidy
      · intro filter hmem
        rcases List.mem_append.mp hmem with hold | hnew
        · exact htidy filter hold
        · rw [List.mem_singleton.mp hnew]
          cases grid.dataset with
          | none => exact List.nodup_nil
          | some expression => exact nodup_handles_ofExpression _ _ _ _
  | datasetChanged expression =>
      intro filter hmem
      obtain ⟨first, hread⟩ := mem_hydrateAll hmem
      rw [hread]
      exact nodup_handles_ofExpression _ _ _ _
  | rebuildColumn name expression =>
      rw [Grid.rebuildColumn]
      cases hfound : grid.filter? name with
      | none => exact htidy
      | some filter =>
          exact htidy.update fun _ _ _ => nodup_handles_ofExpression _ _ _ _
  | addCondition name id =>
      refine Tidy.update htidy fun filter hmem _ => ?_
      rw [ColumnFilter.handles, ColumnFilter.add, List.map_append]
      refine List.nodup_append.mpr ⟨htidy filter hmem, List.nodup_singleton _, ?_⟩
      intro handle hhandle other hother
      obtain ⟨condition, hcondition, rfl⟩ := List.mem_map.mp hhandle
      rw [List.mem_singleton.mp hother]
      exact Nat.ne_of_lt (hbelow condition (mem_conditions.mpr ⟨filter, hmem, hcondition⟩))
  | removeCondition name id =>
      refine Tidy.update htidy fun filter hmem _ => ?_
      exact (htidy filter hmem).sublist (List.eraseP_sublist.map _)
  | clearColumn name => exact Tidy.update htidy fun _ _ _ => List.nodup_nil
  | clear => exact fun _ hmem => absurd hmem List.not_mem_nil

/-- Writing back a condition whose handle the grid does not have changes nothing. -/
lemma replace_eq_self {handle : Nat} (h : ∀ other ∈ grid.conditions, other.handle ≠ handle)
    {condition : Condition} (hhandle : condition.handle = handle) :
    grid.replace condition = grid := by
  have hfilter : ∀ filter ∈ grid.filters, filter.replace condition = filter := by
    intro filter hmem
    have hconditions : (filter.conditions.map fun other =>
        if other.handle = condition.handle then condition else other) = filter.conditions := by
      refine (List.map_congr_left fun other hother => ?_).trans (List.map_id _)
      rw [hhandle]
      exact if_neg (h other (mem_conditions.mpr ⟨filter, hmem, hother⟩))
    rw [ColumnFilter.replace, hconditions]
  rw [replace, List.map_congr_left hfilter, List.map_id']

end Grid

/-! ## Orphans -/

namespace Session

variable {session next : Session} {settings : FilterSettings} {handle : Nat}

/-- The handle was given out, and no condition of the grid goes by it any more. -/
structure Orphaned (session : Session) (handle : Nat) : Prop where
  given_out : handle < session.grid.nextHandle
  gone : ∀ condition ∈ session.grid.conditions, condition.handle ≠ handle

/-- New conditions have new handles, so an orphan stays one. -/
lemma Orphaned.withGrid (h : session.Orphaned handle) (hsound : session.Sound settings)
    {grid : Grid} (hstep : session.grid.Step grid) : (session.withGrid grid).Orphaned handle := by
  obtain ⟨-, new, hnumbered, hconditions⟩ := hstep.grows hsound.orderly
  refine ⟨Nat.lt_of_lt_of_le h.given_out hnumbered.le, fun condition hmem => ?_⟩
  rcases hconditions condition hmem with hold | hnew
  · exact h.gone condition hold
  · have hlow := hnumbered.lower condition hnew
    have hbelow := h.given_out
    omega

lemma Orphaned.of_revises {revise : Condition → Condition} (h : session.Orphaned handle)
    (hrevises : session.Revises revise next)
    (hhandle : ∀ condition, (revise condition).handle = condition.handle) :
    next.Orphaned handle := by
  refine ⟨hrevises.grid ▸ h.given_out, fun condition hmem => ?_⟩
  rw [hrevises.grid, Grid.conditions_mapConditions] at hmem
  obtain ⟨old, hold, rfl⟩ := List.mem_map.mp hmem
  rw [hhandle]
  exact h.gone old hold

/-! ### What is done through the handle of an orphan -/

section

variable (h : ∀ condition ∈ session.grid.conditions, condition.handle ≠ handle)

include h

/-- An edit of a condition that the grid does not have leaves the grid as it is. -/
lemma grid_edit_of_gone (change : Condition → List Change × Condition)
    (hhandle : ∀ condition, (change condition).2.handle = condition.handle) :
    (session.edit handle change).2.grid = session.grid := by
  rw [edit]
  cases hfound : session.condition? handle with
  | none => rfl
  | some condition =>
      have hsame := (mem_stock_of_condition? hfound).2
      exact Grid.replace_eq_self h ((hhandle condition).trans hsame)

lemma grid_controlValue_of_gone : (session.controlValue handle).2.grid = session.grid := by
  rw [controlValue]
  cases hfound : session.condition? handle with
  | none => rfl
  | some condition =>
      have hsame := (mem_stock_of_condition? hfound).2
      exact Grid.replace_eq_self h (Condition.Step.read.identity.handle.trans hsame)

/-- A load that ends leaves the grid as it is, and so does one that waits once more. -/
lemma grid_settle_of_gone (batch : Batch) (searches : List (Progress (Option Reference))) :
    (session.settle handle batch searches).2.grid = session.grid := by
  rw [settle]
  split
  · have hedit := grid_edit_of_gone h (·.finishLoad batch (searches.filterMap Progress.value?))
      fun _ => (Condition.Step.finishLoad batch _).identity.handle
    refine (grid_controlValue_of_gone ?_).trans hedit
    rwa [hedit]
  · rfl

lemma grid_startLoad_of_gone : (session.startLoad handle).2.grid = session.grid := by
  rw [startLoad]
  split
  · next connection condition _ hfound =>
      have hsame := (mem_stock_of_condition? hfound).2
      split
      · next batch changes begun hbegin =>
          have hbegun : begun.handle = condition.handle := by
            have hstep : condition.beginLoad.2.2.handle = condition.handle :=
              Condition.Step.beginLoad.identity.handle
            rwa [hbegin] at hstep
          have hgrid := Grid.replace_eq_self h (hbegun.trans hsame)
          refine (grid_settle_of_gone ?_ _ _).trans hgrid
          show ∀ other ∈ (session.grid.replace begun).conditions, other.handle ≠ handle
          rwa [hgrid]
      · exact grid_controlValue_of_gone h
  · exact grid_controlValue_of_gone h

lemma grid_finishLoad_of_gone (batch : Batch) (searches : List (Progress (Option Reference))) :
    (session.finishLoad (.underWay handle batch searches)).2.grid = session.grid := by
  rw [finishLoad]
  cases hconnection : session.connection with
  | none => rfl
  | some connection =>
      have hgone : ∀ other ∈ ({ session with connection := some (connection.resumeAll searches).2 :
          Session }).grid.conditions, other.handle ≠ handle := h
      exact grid_settle_of_gone hgone batch _

end

/-! ### Becoming an orphan -/

/-- When one filter is changed and keeps no condition of a handle that one of its conditions had,
none is left in the grid. -/
lemma Sound.gone_update (hsound : session.Sound settings) {filter : ColumnFilter}
    {condition : Condition} (hfilter : filter ∈ session.grid.filters)
    (hcondition : condition ∈ filter.conditions) {change : ColumnFilter → ColumnFilter}
    (hchange : ∀ other ∈ (change filter).conditions, other.handle ≠ condition.handle) :
    ∀ other ∈ (session.grid.update filter.column.name change).conditions,
      other.handle ≠ condition.handle := by
  have hstock : ∀ filter ∈ session.grid.filters, ∀ condition ∈ filter.conditions,
      condition ∈ session.stock := fun filter hmem condition hin =>
    List.mem_append_left _ (Grid.mem_conditions.mpr ⟨filter, hmem, hin⟩)
  intro other hother
  obtain ⟨changed, hchanged, hin⟩ := Grid.mem_conditions.mp hother
  obtain ⟨old, hold, rfl⟩ := Grid.mem_filters_update.mp hchanged
  by_cases hname : old.column.name = filter.column.name
  · have hsame : old = filter := by
      have hfound := hsound.orderly.filter?_eq_some hold
      rw [hname, hsound.orderly.filter?_eq_some hfilter] at hfound
      exact (Option.some_inj.mp hfound).symm
    rw [if_pos (beq_iff_eq.mpr hname), hsame] at hin
    exact hchange other hin
  · rw [if_neg (by rwa [beq_iff_eq])] at hin
    intro hhandle
    -- The same condition would be on two columns.
    have hsame := hsound.handle_unique other (hstock old hold other hin) condition
      (hstock filter hfilter condition hcondition) hhandle
    have hcolumn := hsound.orderly.coherent old hold other hin
    rw [hsame, hsound.orderly.coherent filter hfilter condition hcondition] at hcolumn
    exact hname (congrArg Column.name hcolumn.symm)

end Session

/-- Removing the first condition of an id leaves none of its handle. -/
lemma ColumnFilter.gone_remove {filter : ColumnFilter} {condition : Condition}
    (hnodup : filter.handles.Nodup) (h : filter.condition? condition.id = some condition) :
    ∀ other ∈ (filter.remove condition.id).conditions, other.handle ≠ condition.handle := by
  obtain ⟨hid, before, after, hsplit, hbefore⟩ := List.find?_eq_some_iff_append.mp h
  have herase : (filter.remove condition.id).conditions = before ++ after := by
    rw [remove, hsplit]
    dsimp only
    rw [List.eraseP_append_right _ (by simpa using hbefore)]
    simp only [List.eraseP_cons, hid, cond_true]
  rw [handles, hsplit, List.map_append, List.map_cons, List.nodup_middle, ← List.map_append,
    List.nodup_cons] at hnodup
  intro other hmem hhandle
  rw [herase] at hmem
  exact hnodup.1 (hhandle ▸ List.mem_map_of_mem hmem)

namespace Workspace

variable {workspace : Workspace} {settings : FilterSettings} {action : Action}

/-! ## Actions -/

/-- The action takes a condition of an open column out of the grid. -/
inductive Action.Discards (filter : ColumnFilter) (condition : Condition) : Action → Prop where
  /-- It is the first condition of its id that is removed. -/
  | removeCondition (h : filter.condition? condition.id = some condition) :
      Discards filter condition (.removeCondition filter.column.name condition.id)
  | clearColumn : Discards filter condition (.clearColumn filter.column.name)
  | rebuildColumn (expression : FilterExpression) :
      Discards filter condition (.rebuildColumn filter.column.name expression)
  | datasetChanged (expression : FilterExpression) :
      Discards filter condition (.datasetChanged expression)
  | clear : Discards filter condition .clear

/-- The action is done through the handle of a condition: an editor edits it or reads it, starts a
load of it, or a load of it that waits goes on. -/
inductive Action.Through (workspace : Workspace) (handle : Nat) : Action → Prop where
  | setOperator (operator : Operator) : Through workspace handle (.setOperator handle operator)
  | setValue (value : ControlValue) : Through workspace handle (.setValue handle value)
  | controlValue : Through workspace handle (.controlValue handle)
  | startLoad : Through workspace handle (.startLoad handle)
  | finishLoad {index : Nat} {batch : Batch} (h : workspace.underWay[index]? = some (handle, batch))
      (results : List (Option Reference)) :
      Through workspace handle (.finishLoad index results)

/-- An action through the handle of an orphan leaves the grid as it is. -/
lemma grid_act_of_through {handle : Nat} (h : workspace.session.Orphaned handle)
    (haction : action.Through workspace handle) :
    (workspace.act action).session.grid = workspace.session.grid := by
  cases haction with
  | setOperator operator =>
      exact Session.grid_edit_of_gone h.gone _ fun _ =>
        (Condition.Step.setOperator operator).identity.handle
  | setValue value =>
      exact Session.grid_edit_of_gone h.gone _ fun _ =>
        (Condition.Step.setValue value).identity.handle
  | controlValue => exact Session.grid_controlValue_of_gone h.gone
  | startLoad =>
      exact Session.grid_edit_of_gone h.gone _ fun _ => Condition.Step.beginLoad.identity.handle
  | @finishLoad index batch hwaits results =>
      have hedit := Session.grid_edit_of_gone h.gone (·.finishLoad batch results)
        fun _ => (Condition.Step.finishLoad batch results).identity.handle
      rw [act, hwaits]
      refine (Session.grid_controlValue_of_gone ?_).trans hedit
      rw [hedit]
      exact h.gone

/-- What takes a condition out of the grid makes it an orphan. -/
lemma orphaned_of_discards (hsound : workspace.session.Sound settings)
    (htidy : workspace.session.grid.Tidy) {filter : ColumnFilter} {condition : Condition}
    (hfilter : filter ∈ workspace.session.grid.filters) (hcondition : condition ∈ filter.conditions)
    (haction : action.Discards filter condition) :
    (workspace.act action).session.Orphaned condition.handle := by
  have hin : condition ∈ workspace.session.grid.conditions :=
    Grid.mem_conditions.mpr ⟨filter, hfilter, hcondition⟩
  have hbelow : condition.handle < workspace.session.grid.nextHandle :=
    hsound.handle_lt condition (List.mem_append_left _ hin)
  -- Conditions read from an expression have new handles.
  have hnew : ∀ {bound : Nat} {conditions : List Condition},
      Numbered workspace.session.grid.nextHandle bound conditions →
        ∀ other ∈ conditions, other.handle ≠ condition.handle := by
    intro bound conditions hnumbered other hmem
    have hlow := hnumbered.lower other hmem
    omega
  cases haction with
  | removeCondition h =>
      exact ⟨hbelow, hsound.gone_update hfilter hcondition
        (ColumnFilter.gone_remove (htidy filter hfilter) h)⟩
  | clearColumn =>
      refine ⟨hbelow, hsound.gone_update hfilter hcondition ?_⟩
      exact fun _ hmem => absurd hmem List.not_mem_nil
  | rebuildColumn expression =>
      have hnumbered := Numbered.ofExpression workspace.session.grid.settings filter.column
        expression workspace.session.grid.nextHandle
      have hgrid : (workspace.act (.rebuildColumn filter.column.name expression)).session.grid =
          workspace.session.grid.rebuildColumn filter.column.name expression := rfl
      have hle := hnumbered.le
      refine ⟨?_, ?_⟩
      · rw [hgrid, Grid.rebuildColumn, hsound.orderly.filter?_eq_some hfilter]
        exact Nat.lt_of_lt_of_le hbelow hle
      · rw [hgrid, Grid.rebuildColumn, hsound.orderly.filter?_eq_some hfilter]
        exact hsound.gone_update hfilter hcondition (hnew hnumbered)
  | datasetChanged expression =>
      have hnumbered := @Grid.numbered_hydrateAll workspace.session.grid.settings expression
        workspace.session.grid.columns workspace.session.grid.nextHandle
      exact ⟨Nat.lt_of_lt_of_le hbelow hnumbered.le, hnew hnumbered⟩
  | clear => exact ⟨hbelow, fun _ hmem => absurd hmem List.not_mem_nil⟩

/-! ## Every run -/

/-- An action on one condition leaves it its handle. -/
lemma handle_touch {touched : Nat} {change : Condition → Condition}
    (h : workspace.touched? action = some (touched, change)) (condition : Condition) :
    (Session.touch touched change condition).handle = condition.handle := by
  refine Session.related_touch (fun before after => after.handle = before.handle)
    (fun _ => rfl) (fun edited => ?_) condition
  exact (Condition.identity_of_steps (steps_of_touched? h edited)).handle

lemma orphaned_act {handle : Nat} (h : workspace.session.Orphaned handle)
    (hsound : workspace.session.Sound settings) (action : Action) :
    (workspace.act action).session.Orphaned handle := by
  rcases act_cases workspace action with ⟨grid, hstep, heq⟩ | ⟨touched, change, htouched⟩ | hsame
  · rw [heq]
    exact h.withGrid hsound hstep
  · exact h.of_revises (revises_of_touched? hsound htouched) (handle_touch htouched)
  · rwa [hsame]

lemma tidy_act (h : workspace.session.grid.Tidy) (hsound : workspace.session.Sound settings)
    (action : Action) : (workspace.act action).session.grid.Tidy := by
  rcases act_cases workspace action with ⟨grid, hstep, heq⟩ | ⟨touched, change, htouched⟩ | hsame
  · rw [heq]
    refine hstep.tidy h fun condition hmem => ?_
    exact hsound.handle_lt condition (List.mem_append_left _ hmem)
  · intro filter hmem
    rw [(revises_of_touched? hsound htouched).grid] at hmem
    obtain ⟨old, hold, rfl⟩ := List.mem_map.mp hmem
    have hhandles : (old.mapConditions (Session.touch touched change)).handles = old.handles := by
      rw [ColumnFilter.handles, ColumnFilter.mapConditions, List.map_map]
      exact List.map_congr_left fun condition _ => handle_touch htouched condition
    rw [hhandles]
    exact h old hold
  · rwa [hsame]

lemma tidy_run_of_tidy (h : workspace.session.grid.Tidy)
    (hsound : workspace.session.Sound settings) (actions : List Action) :
    (workspace.run actions).session.grid.Tidy := by
  induction actions generalizing workspace with
  | nil => exact h
  | cons action rest ih => exact ih (tidy_act h hsound action) (sound_act hsound action)

lemma tidy_run (settings : FilterSettings) (actions : List Action) :
    ((start settings).run actions).session.grid.Tidy := by
  refine tidy_run_of_tidy ?_ (sound_start settings) actions
  exact fun _ hmem => absurd hmem List.not_mem_nil

lemma orphaned_run {handle : Nat} (h : workspace.session.Orphaned handle)
    (hsound : workspace.session.Sound settings) (actions : List Action) :
    (workspace.run actions).session.Orphaned handle := by
  induction actions generalizing workspace with
  | nil => exact h
  | cons action rest ih => exact ih (orphaned_act h hsound action) (sound_act hsound action)

/-- Once a condition was taken out of the grid, nothing that is done through its handle changes the
grid, whatever else happens in between: no edit, no load that is started, and no load that goes on,
one that was under way before included.  The session's own loads, on whatever connection, are among
them. -/
theorem orphan_isolated (settings : FilterSettings) (before later : List Action)
    {discard : Action} {filter : ColumnFilter} {condition : Condition}
    (hfilter : filter ∈ ((start settings).run before).session.grid.filters)
    (hcondition : condition ∈ filter.conditions) (hdiscard : discard.Discards filter condition) :
    let workspace := (start settings).run (before ++ discard :: later)
    (∀ action, Action.Through workspace condition.handle action →
      (workspace.act action).session.grid = workspace.session.grid) ∧
      ∀ connection,
        ((onConnection workspace.session connection).startLoad condition.handle).2.grid =
            workspace.session.grid ∧
          ∀ batch searches,
            ((onConnection workspace.session connection).finishLoad
              (.underWay condition.handle batch searches)).2.grid = workspace.session.grid := by
  intro workspace
  have hsound := sound_run settings before
  have horphaned : workspace.session.Orphaned condition.handle := by
    have hdiscarded :=
      orphaned_of_discards hsound (tidy_run settings before) hfilter hcondition hdiscard
    have hrun := orphaned_run hdiscarded (sound_act hsound discard) later
    rwa [← run_cons, ← run_append] at hrun
  refine ⟨fun action hthrough => grid_act_of_through horphaned hthrough, fun connection => ⟨?_, ?_⟩⟩
  · exact Session.grid_startLoad_of_gone horphaned.gone
  · exact Session.grid_finishLoad_of_gone horphaned.gone

/-- While the names of a reference are loaded, the dataset reports its expression once more.  The
condition made anew has the id of the one that it replaces, and the load does not reach it. -/
theorem orphan_isolated_same_id :
    let owner : Column := ⟨"owner", .owner, { targets := ["contact"] }⟩
    let report : FilterExpression := { conditions := [⟨"owner", none, .equal, .scalar "g"⟩] }
    let before : List Action := [.openColumn owner, .datasetChanged report, .startLoad 0]
    let criterion : Criterion := ⟨.equal, .list [some "g"]⟩
    let made : Condition := Condition.hydrated 0 (criterion.id "owner") owner criterion
    let old : Condition :=
      { made with resolving := true, decoded := some (0, .references [.bare "g"]) }
    let workspace := (start {}).run (before ++ [.datasetChanged report])
    ((start {}).run before).session.grid.filters = [⟨owner, [old]⟩] ∧
      workspace.session.grid.filters = [⟨owner, [{ made with handle := 1 }]⟩] ∧
      workspace.underWay = [(0, ⟨0, ["g"]⟩)] ∧
      (workspace.act (.finishLoad 0 [some ⟨"g", some "contact", some "Ada"⟩])).session.grid =
        workspace.session.grid := by
  intro owner report before criterion made old workspace
  have hfilters : ((start {}).run before).session.grid.filters = [⟨owner, [old]⟩] := by
    dsimp only [owner, report, before, criterion, made, old]
    rfl
  have hagain : workspace.session.grid.filters = [⟨owner, [{ made with handle := 1 }]⟩] := by
    dsimp only [owner, report, before, criterion, made, workspace]
    rfl
  have hwaits : workspace.underWay = [(0, ⟨0, ["g"]⟩)] := by
    dsimp only [owner, report, before, workspace]
    rfl
  have hfilter : ⟨owner, [old]⟩ ∈ ((start {}).run before).session.grid.filters := by
    rw [hfilters]
    exact List.mem_singleton_self _
  obtain ⟨hisolated, -⟩ := orphan_isolated {} before [] hfilter (List.mem_singleton_self old)
    (.datasetChanged report)
  have hrun : (start {}).run (before ++ [.datasetChanged report]) = workspace := rfl
  rw [hrun] at hisolated
  have hwait : workspace.underWay[0]? = some (old.handle, ⟨0, ["g"]⟩) := by
    rw [hwaits]
    rfl
  exact ⟨hfilters, hagain, hwaits, hisolated _ (.finishLoad hwait _)⟩

end Workspace

end GridFilter
