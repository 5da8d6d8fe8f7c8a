import GridFilter.Proofs.Session.Accounting

/-!
# The order of opening

A column may be opened before the dataset reports its expression or after it.  Before, the report
makes the column's conditions anew; after, opening the column reads the expression that is already
there.  These are two ways through the code, and which handles the conditions get depends on the way
and on the order of the columns.  `rearranged_opening` says that nothing else does: whatever way the
same columns are opened, each has the same conditions, and the expressions given out differ in the
order of the columns only.

## The argument

After either way a column's filter is what the column reads from the report (`Grid.AsReported`).
What it reads depends on the column and the report alone, handles apart
(`ColumnFilter.map_content_ofExpression`), so two grids as reported with the same columns in some
order are rearrangements of each other (`Grid.AsReported.rearranged`).
-/

namespace GridFilter

/-! ## Handles apart -/

/-- What a condition holds, whichever handle it goes by. -/
def Condition.content (condition : Condition) : Condition :=
  { condition with handle := 0 }

namespace ColumnFilter

variable {settings : FilterSettings} {column : Column} {expression : FilterExpression}

/-- What a column reads from an expression does not depend on the handles it is given. -/
lemma map_content_ofExpression (first : Nat) :
    (ofExpression settings column expression first).conditions.map Condition.content =
      (labelled (Criterion.id column.name) (column.criteria settings expression)).map
        fun item => Condition.hydrated 0 item.1 column item.2 := by
  have hitems := List.zipIdx_map_fst first
    (labelled (Criterion.id column.name) (column.criteria settings expression))
  rw [ofExpression, List.map_map]
  conv_rhs => rw [← hitems, List.map_map]
  rfl

end ColumnFilter

/-! ## Grids as reported -/

namespace Grid

variable {grid other : Grid} {expression : FilterExpression} {combinator : Combinator}

/-- Every open column is as the dataset's expression gives it. -/
structure AsReported (grid : Grid) (expression : FilterExpression) : Prop where
  dataset : grid.dataset = some expression
  filters : ∀ filter ∈ grid.filters, ∃ first,
    filter = ColumnFilter.ofExpression grid.settings filter.column expression first

/-- The columns that are open are made anew by a report. -/
lemma asReported_datasetChanged (grid : Grid) (expression : FilterExpression) :
    (grid.datasetChanged expression).AsReported expression where
  dataset := rfl
  filters := fun _ hmem => mem_hydrateAll hmem

/-- A column that is opened after a report is made from it. -/
lemma AsReported.openColumn (h : grid.AsReported expression) (column : Column) :
    (grid.openColumn column).AsReported expression := by
  by_cases hopen : grid.filter? column.name = none
  · obtain ⟨filter, rfl, -, hread, -, heq⟩ := openColumn_of_filter?_eq_none hopen
    rw [heq]
    refine ⟨h.dataset, fun other hmem => ?_⟩
    rcases List.mem_append.mp hmem with hold | hnew
    · exact h.filters other hold
    · rw [List.mem_singleton.mp hnew]
      exact ⟨grid.nextHandle, hread expression h.dataset⟩
  · rwa [openColumn_of_mem hopen]

lemma AsReported.unedited (h : grid.AsReported expression) : grid.Unedited expression where
  dataset := h.dataset
  criteria := by
    intro filter hmem
    obtain ⟨first, hread⟩ := h.filters filter hmem
    rw [hread, ColumnFilter.criteria_ofExpression, ColumnFilter.column_ofExpression]

/-- Two grids that differ in the order of their columns only. -/
structure Rearranged (grid other : Grid) (combinator : Combinator) : Prop where
  columns : grid.columns.Perm other.columns
  /-- A column has the same conditions in both, in the same order, handles apart. -/
  conditions : ∀ filter ∈ grid.filters, ∀ again ∈ other.filters, filter.column = again.column →
    filter.conditions.map Condition.content = again.conditions.map Condition.content
  /-- A column sends the same entries in both, in the same order. -/
  entries : ∀ filter ∈ grid.filters, ∀ again ∈ other.filters, filter.column = again.column →
    filter.entries grid.settings = again.entries other.settings
  /-- An expression is given out by both grids or by none. -/
  given_iff : (∃ sent, grid.expression combinator = .ok sent) ↔
    ∃ sent, other.expression combinator = .ok sent
  /-- The two expressions are the entries of the columns, then the same entries carried over. -/
  sent : ∀ sent again, grid.expression combinator = .ok sent →
    other.expression combinator = .ok again →
      sent.conditions = grid.filters.flatMap (·.entries grid.settings) ++ grid.unclaimed ∧
        again.conditions = other.filters.flatMap (·.entries other.settings) ++ grid.unclaimed ∧
        sent.conditions.Perm again.conditions ∧ sent.groups = again.groups

/-- What a grid without an edit shows of each column. -/
lemma Unedited.outline (h : grid.Unedited expression) :
    grid.outline = grid.columns.map fun column =>
      (column, column.criteria grid.settings expression) := by
  rw [Grid.outline, columns, List.map_map]
  refine List.map_congr_left fun filter hmem => ?_
  rw [h.criteria filter hmem]
  rfl

/-- Which columns are open decides what is carried over, not their order. -/
lemma unclaimed_eq_of_perm (h : grid.AsReported expression) (hother : other.AsReported expression)
    (hsettings : grid.settings = other.settings) (hcolumns : grid.columns.Perm other.columns) :
    grid.unclaimed = other.unclaimed := by
  rw [unclaimed, unclaimed, h.dataset, hother.dataset]
  refine List.filter_congr fun entry _ => ?_
  rw [claims_eq_any_columns, claims_eq_any_columns, hsettings, hcolumns.any_eq]

/-- Grids as reported that have the same columns open are rearrangements of each other. -/
lemma AsReported.rearranged (h : grid.AsReported expression) (hother : other.AsReported expression)
    (horderly : grid.Orderly) (hotherOrderly : other.Orderly)
    (hsettings : grid.settings = other.settings) (hcolumns : grid.columns.Perm other.columns)
    (combinator : Combinator) : grid.Rearranged other combinator := by
  have houtline : grid.outline.Perm other.outline := by
    rw [h.unedited.outline, hother.unedited.outline, hsettings]
    exact hcolumns.map _
  have hunclaimed := unclaimed_eq_of_perm h hother hsettings hcolumns
  refine ⟨hcolumns, ?_, ?_, ?_, ?_⟩
  · intro filter hmem again hagain hcolumn
    obtain ⟨first, hread⟩ := h.filters filter hmem
    obtain ⟨start, hreadAgain⟩ := hother.filters again hagain
    rw [hread, hreadAgain, ColumnFilter.map_content_ofExpression,
      ColumnFilter.map_content_ofExpression, hcolumn, hsettings]
  · intro filter hmem again hagain hcolumn
    rw [h.unedited.entries horderly hmem, hother.unedited.entries hotherOrderly hagain, hcolumn,
      hsettings]
  -- Whether there is a complaint can be told from the criteria, in any order.
  · simp only [expression_eq_ok_iff, forall_isValid_iff_outline horderly,
      forall_isValid_iff_outline hotherOrderly, exists_and_left, exists_eq, and_true]
    simp only [houtline.mem_iff]
  · intro sent again hsent hagain
    have hconditions := conditions_of_expression horderly hsent
    have hconditionsAgain := conditions_of_expression hotherOrderly hagain
    refine ⟨?_, ?_, ?_, ?_⟩
    · rw [hconditions, flatMap_entries horderly]
    · rw [hconditionsAgain, flatMap_entries hotherOrderly, hunclaimed]
    · rw [hconditions, hconditionsAgain, hunclaimed, ← hsettings]
      exact (houtline.flatMap_right _).append_right _
    · rw [(expression_eq_ok_iff.mp hsent).2, (expression_eq_ok_iff.mp hagain).2, groups, groups,
        h.dataset, hother.dataset]

end Grid

/-! ## Two ways of opening -/

namespace Workspace

variable {workspace : Workspace} {expression : FilterExpression}

/-- Some columns are opened, the dataset reports its expression, and more columns are opened. -/
def opening (early late : List Column) (expression : FilterExpression) : List Action :=
  early.map .openColumn ++ .datasetChanged expression :: late.map .openColumn

/-- Columns of different names are opened one after another. -/
lemma columnsAfter_map_openColumn {columns more : List Column}
    (h : ((columns ++ more).map Column.name).Nodup) :
    (more.map Action.openColumn).foldl Action.columnsAfter columns = columns ++ more := by
  induction more generalizing columns with
  | nil => simp
  | cons column rest ih =>
      have hfresh : columns.any (·.name == column.name) = false := by
        rw [List.any_eq_false]
        intro other hmem hname
        rw [List.map_append, List.map_cons] at h
        have hdisjoint := (List.nodup_append.mp h).2.2
        exact hdisjoint other.name (List.mem_map_of_mem hmem) column.name List.mem_cons_self
          (eq_of_beq hname)
      rw [List.map_cons, List.foldl_cons, Action.columnsAfter, hfresh, if_neg Bool.false_ne_true,
        ih (by simpa using h), List.append_assoc, List.singleton_append]

lemma openColumns_opening {early late : List Column}
    (h : ((early ++ late).map Column.name).Nodup) :
    openColumns (opening early late expression) = early ++ late := by
  have hearly : ((([] : List Column) ++ early).map Column.name).Nodup := by
    rw [List.map_append] at h
    exact (List.nodup_append.mp h).1
  rw [openColumns, opening, List.foldl_append, List.foldl_cons,
    columnsAfter_map_openColumn hearly, List.nil_append]
  exact columnsAfter_map_openColumn h

lemma asReported_run_openColumn (h : workspace.session.grid.AsReported expression)
    (columns : List Column) :
    (workspace.run (columns.map .openColumn)).session.grid.AsReported expression := by
  induction columns generalizing workspace with
  | nil => exact h
  | cons column rest ih =>
      rw [List.map_cons, run_cons]
      exact ih (h.openColumn column)

lemma asReported_opening (settings : FilterSettings) (early late : List Column)
    (expression : FilterExpression) :
    (gridAfter settings (opening early late expression)).AsReported expression := by
  rw [gridAfter, opening, run_append, run_cons]
  exact asReported_run_openColumn (Grid.asReported_datasetChanged _ expression) late

/-- The same columns, opened before the report or after it and in any order, have the same
conditions, and what the grid sends differs in the order of the columns only. -/
theorem rearranged_opening (settings : FilterSettings) (expression : FilterExpression)
    (combinator : Combinator) {columns early late earlier later : List Column}
    (hnames : (columns.map Column.name).Nodup) (h : (early ++ late).Perm columns)
    (hother : (earlier ++ later).Perm columns) :
    (gridAfter settings (opening early late expression)).columns = early ++ late ∧
      (gridAfter settings (opening earlier later expression)).columns = earlier ++ later ∧
      (gridAfter settings (opening early late expression)).Rearranged
        (gridAfter settings (opening earlier later expression)) combinator := by
  have hopen : ∀ early late : List Column, (early ++ late).Perm columns →
      (gridAfter settings (opening early late expression)).columns = early ++ late := by
    intro early late hperm
    have hnodup : ((early ++ late).map Column.name).Nodup :=
      (hperm.map Column.name).nodup_iff.mpr hnames
    rw [gridAfter, columns_run, openColumns_opening hnodup]
  have hsound := sound_run settings (opening early late expression)
  have hsoundOther := sound_run settings (opening earlier later expression)
  have hsettings : (gridAfter settings (opening early late expression)).settings =
      (gridAfter settings (opening earlier later expression)).settings :=
    hsound.settings.trans hsoundOther.settings.symm
  refine ⟨hopen early late h, hopen earlier later hother, ?_⟩
  refine (asReported_opening settings early late expression).rearranged
    (asReported_opening settings earlier later expression) hsound.orderly hsoundOther.orderly
    hsettings ?_ combinator
  rw [hopen early late h, hopen earlier later hother]
  exact h.trans hother.symm

/-- References, the text column that is called like their name shadow, and a choice: one pattern
becomes a condition of the first two, whichever is opened first. -/
theorem rearranged_opening_shadow :
    let owner : Column := ⟨"owner", .owner, {}⟩
    let ownername : Column := ⟨"ownername", .text, {}⟩
    let status : Column := ⟨"status", .optionSet, { options := [⟨1, "Open"⟩] }⟩
    let report : FilterExpression :=
      { conditions :=
          [⟨"ownername", none, .like, .scalar "A%"⟩, ⟨"size", none, .equal, .scalar "1"⟩,
           ⟨"status", none, .equal, .scalar "1"⟩] }
    let grid := gridAfter {} (opening [owner, ownername] [status] report)
    let other := gridAfter {} (opening [status] [ownername, owner] report)
    ([owner, ownername, status].map Column.name).Nodup ∧
      ([status] ++ [ownername, owner]).Perm [owner, ownername, status] ∧
      grid.Rearranged other .and ∧
      grid.expression .and = .ok
        { conditions :=
            [⟨"ownername", none, .like, .scalar "%A%"⟩, ⟨"ownername", none, .like, .scalar "%A%"⟩,
             ⟨"status", none, .equal, .scalar "1"⟩, ⟨"size", none, .equal, .scalar "1"⟩] } ∧
      other.expression .and = .ok
        { conditions :=
            [⟨"status", none, .equal, .scalar "1"⟩, ⟨"ownername", none, .like, .scalar "%A%"⟩,
             ⟨"ownername", none, .like, .scalar "%A%"⟩, ⟨"size", none, .equal, .scalar "1"⟩] } := by
  intro owner ownername status report grid other
  have hnames : ([owner, ownername, status].map Column.name).Nodup := by decide
  have hperm : ([status] ++ [ownername, owner]).Perm [owner, ownername, status] := by decide
  obtain ⟨-, -, hrearranged⟩ := rearranged_opening {} report .and hnames
    (List.Perm.refl ([owner, ownername] ++ [status])) hperm
  refine ⟨hnames, hperm, hrearranged, ?_, ?_⟩
  · dsimp only [grid, report, owner, ownername, status]
    rfl
  · dsimp only [other, report, owner, ownername, status]
    rfl

end Workspace

end GridFilter
