import GridFilter.Proofs.Grid.Step

/-!
# What a grid sends

The expression of a grid is withheld while a condition has a complaint; otherwise it is the entries
of the open columns, then what no open column claims, and the nested groups.  This module puts both
cases in the form in which the results about expressions need them.

Ids, handles and origins play no part in what is sent.  The *outline* of a grid is what does: the
open columns with the criteria of their conditions.  Two orderly grids with one outline send the
same entries and complain about the same criteria (`flatMap_entries`, `forall_isValid_iff_outline`),
and a report of the dataset makes an outline that depends on nothing but the open columns and the
report (`outline_datasetChanged`).
-/

namespace GridFilter

namespace Grid

variable {grid : Grid} {combinator : Combinator} {expression : FilterExpression}

/-! ## The two cases -/

/-- The ids of the conditions with a complaint, filter by filter. -/
lemma invalidIds_eq (grid : Grid) :
    grid.invalidIds =
      (grid.conditions.filter fun condition => !condition.isValid).map Condition.id := by
  rw [invalidIds, conditions, List.filter_flatMap, List.map_flatMap]
  rfl

lemma invalidIds_eq_nil_iff :
    grid.invalidIds = [] ↔ ∀ condition ∈ grid.conditions, condition.isValid = true := by
  rw [invalidIds_eq, List.map_eq_nil_iff, List.filter_eq_nil_iff]
  refine forall₂_congr fun condition _ => ?_
  rw [Bool.not_eq_true', Bool.not_eq_false]

lemma expression_eq_ok_iff :
    grid.expression combinator = .ok expression ↔
      (∀ condition ∈ grid.conditions, condition.isValid = true) ∧
        expression =
          { combinator := combinator
            conditions := grid.filters.flatMap (·.entries grid.settings) ++ grid.unclaimed
            groups := grid.groups } := by
  rw [Grid.expression, ← invalidIds_eq_nil_iff, ← List.isEmpty_iff]
  by_cases hvalid : grid.invalidIds.isEmpty = true
  · rw [if_pos hvalid, Except.ok.injEq]
    exact ⟨fun h => ⟨hvalid, h.symm⟩, fun h => h.2.symm⟩
  · rw [if_neg hvalid]
    exact ⟨nofun, fun h => absurd h.1 hvalid⟩

lemma expression_eq_error_iff {failure : InvalidConditions} :
    grid.expression combinator = .error failure ↔
      (∃ condition ∈ grid.conditions, condition.isValid = false) ∧
        failure.ids =
          (grid.conditions.filter fun condition => !condition.isValid).map Condition.id := by
  have hsome : (∃ condition ∈ grid.conditions, condition.isValid = false) ↔
      ¬ grid.invalidIds.isEmpty = true := by
    rw [List.isEmpty_iff, invalidIds_eq_nil_iff]
    simp
  rw [hsome, ← invalidIds_eq, Grid.expression]
  by_cases hvalid : grid.invalidIds.isEmpty = true
  · rw [if_pos hvalid]
    exact ⟨nofun, fun h => absurd hvalid h.1⟩
  · rw [if_neg hvalid, Except.error.injEq]
    obtain ⟨ids⟩ := failure
    rw [InvalidConditions.mk.injEq]
    exact ⟨fun h => ⟨hvalid, h.symm⟩, fun h => h.2.symm⟩

/-! ## What is carried over -/

/-- Which entries are claimed depends on the open columns only. -/
lemma claims_eq_any_columns (grid : Grid) (entry : ConditionExpression) :
    grid.claims entry = grid.columns.any fun column => column.claims grid.settings entry := by
  rw [claims, columns, List.any_map]
  rfl

/-! ## The outline -/

/-- The open columns, each with the criteria of its conditions. -/
def outline (grid : Grid) : List (Column × List Criterion) :=
  grid.filters.map fun filter => (filter.column, filter.criteria)

/-- The entries that an outline is sent as. -/
def emitted (settings : FilterSettings) (outline : List (Column × List Criterion)) :
    List ConditionExpression :=
  outline.flatMap fun (column, criteria) => criteria.map (column.emit settings)

lemma flatMap_entries (h : grid.Orderly) :
    grid.filters.flatMap (·.entries grid.settings) = emitted grid.settings grid.outline := by
  rw [emitted, outline, List.flatMap_map]
  refine List.flatMap_congr fun filter hmem => ?_
  exact ColumnFilter.entries_eq_map (h.coherent filter hmem)

/-- What is given out, in terms of the outline. -/
lemma conditions_of_expression (h : grid.Orderly)
    (hexpression : grid.expression combinator = .ok expression) :
    expression.conditions = emitted grid.settings grid.outline ++ grid.unclaimed := by
  rw [(expression_eq_ok_iff.mp hexpression).2, flatMap_entries h]

lemma forall_isValid_iff_outline (h : grid.Orderly) :
    (∀ condition ∈ grid.conditions, condition.isValid = true) ↔
      ∀ column criteria, (column, criteria) ∈ grid.outline →
        ∀ criterion ∈ criteria, column.accepts criterion = true := by
  constructor
  · intro hvalid column criteria hmem
    obtain ⟨filter, hfilter, heq⟩ := List.mem_map.mp hmem
    obtain ⟨rfl, rfl⟩ := Prod.mk.inj heq
    refine (ColumnFilter.forall_isValid_iff (h.coherent filter hfilter)).mp fun condition hin => ?_
    exact hvalid condition (mem_conditions.mpr ⟨filter, hfilter, hin⟩)
  · intro haccepts condition hmem
    obtain ⟨filter, hfilter, hin⟩ := mem_conditions.mp hmem
    have hfilters := haccepts filter.column filter.criteria
      (List.mem_map.mpr ⟨filter, hfilter, rfl⟩)
    exact (ColumnFilter.forall_isValid_iff (h.coherent filter hfilter)).mpr hfilters condition hin

@[simp] lemma map_fst_outline (grid : Grid) : grid.outline.map Prod.fst = grid.columns := by
  rw [outline, List.map_map, columns]
  rfl

/-! ## After a report -/

@[simp] lemma columns_datasetChanged (grid : Grid) (expression : FilterExpression) :
    (grid.datasetChanged expression).columns = grid.columns := by
  rw [columns, datasetChanged, map_column_hydrateAll, columns]

lemma outline_datasetChanged :
    (grid.datasetChanged expression).outline =
      grid.columns.map fun column => (column, column.criteria grid.settings expression) := by
  rw [← columns_datasetChanged grid expression, columns, List.map_map, outline]
  refine List.map_congr_left fun filter hmem => ?_
  rw [criteria_of_mem_hydrateAll hmem]
  rfl

/-- After a report, what no open column claims of it is carried over. -/
lemma unclaimed_datasetChanged :
    (grid.datasetChanged expression).unclaimed =
      expression.conditions.filter fun entry => !grid.claims entry := by
  show (expression.conditions.filter fun entry =>
    !(grid.datasetChanged expression).claims entry) = _
  refine List.filter_congr fun entry _ => ?_
  rw [claims_eq_any_columns, columns_datasetChanged, claims_eq_any_columns]
  rfl

/-- After a report every condition comes from the dataset. -/
lemma isHydrated_datasetChanged {condition : Condition}
    (h : condition ∈ (grid.datasetChanged expression).conditions) :
    condition.isHydrated = true := by
  obtain ⟨filter, hfilter, hin⟩ := mem_conditions.mp h
  obtain ⟨first, hread⟩ := mem_hydrateAll hfilter
  rw [hread] at hin
  obtain ⟨handle, id, criterion, rfl, -⟩ := ColumnFilter.mem_ofExpression hin
  rfl

end Grid

end GridFilter
