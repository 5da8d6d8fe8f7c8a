import GridFilter.Proofs.Session.History
import Mathlib.Data.List.Perm.Basic

/-!
# What becomes of every condition and every entry

A grid's expression is made from two sources: the conditions that its open columns hold, and the
entries that the dataset reported.  This module accounts for both.  `Grid.Accounted` is about every
grid, whatever was edited: nothing is given out while a condition has a complaint, and what is given
out is the live conditions followed by the entries that no open column claims.

Two tests decide what happens to an entry of the dataset.  A column *claims* it when it addresses
the column, and *takes* it when moreover the column offers its operator.  What is claimed is not
carried over, what is taken becomes a condition, so an entry that is claimed and not taken is lost.
`Grid.AccountedUnedited` says that this is the only way to lose one: as long as nobody edits, an
entry that is claimed is sent once for each open column that takes it (`Grid.derived`).

The two views of the same expression, by columns and by entries, are permutations of each other
(`perm_flatMap_filter_map`).
-/

namespace GridFilter

/-! ## Two ways to read a table -/

lemma map_filter_eq_flatMap {α β : Type} (items : List α) (picks : α → Bool) (make : α → β) :
    (items.filter picks).map make =
      items.flatMap fun item => if picks item then [make item] else [] := by
  induction items with
  | nil => rfl
  | cons item rest ih =>
      rw [List.filter_cons, List.flatMap_cons, ← ih]
      cases picks item <;> rfl

/-- Items picked row by row are the items picked column by column, in another order. -/
lemma perm_flatMap_filter_map {α β γ : Type} (rows : List α) (items : List β)
    (picks : α → β → Bool) (make : α → β → γ) :
    (rows.flatMap fun row => (items.filter (picks row)).map (make row)).Perm
      (items.flatMap fun item => (rows.filter (picks · item)).map (make · item)) := by
  induction rows with
  | nil => simp
  | cons row rest ih =>
      have hsplit : (fun item => ((row :: rest).filter (picks · item)).map (make · item)) =
          fun item => (if picks row item then [make row item] else []) ++
            (rest.filter (picks · item)).map (make · item) := by
        funext item
        rw [List.filter_cons]
        cases picks row item <;> rfl
      rw [List.flatMap_cons, map_filter_eq_flatMap, hsplit]
      exact (ih.append_left _).trans (List.flatMap_append_perm items _ _)

namespace Grid

variable {grid : Grid} {dataset : Option FilterExpression} {expression : FilterExpression}
  {combinator : Combinator}

/-! ## Any grid -/

/-- The entries of the dataset that no open column claims. -/
def carriedOver (grid : Grid) (entries : List ConditionExpression) : List ConditionExpression :=
  entries.filter fun entry => !grid.filters.any fun filter =>
    filter.column.claims grid.settings entry

/-- What a grid's expression holds, given what the dataset reported last. -/
structure Accounted (grid : Grid) (dataset : Option FilterExpression) (combinator : Combinator) :
    Prop where
  /-- An expression is given out exactly when every condition of every open column is in order. -/
  given_iff : (∃ sent, grid.expression combinator = .ok sent) ↔
    ∀ filter ∈ grid.filters, ∀ condition ∈ filter.conditions, condition.isValid = true
  /-- Otherwise the ids of those that are not are named, column by column. -/
  withheld : ∀ failure, grid.expression combinator = .error failure →
    failure.ids = grid.filters.flatMap fun filter =>
      (filter.conditions.filter fun condition => !condition.isValid).map Condition.id
  /-- Nested groups pass through. -/
  groups : ∀ sent, grid.expression combinator = .ok sent →
    sent.groups = (dataset.map FilterExpression.groups).getD []
  /-- The live conditions are followed by the entries that no open column claims. -/
  conditions : ∀ sent, grid.expression combinator = .ok sent →
    sent.conditions = grid.filters.flatMap (·.entries grid.settings) ++
      grid.carriedOver ((dataset.map FilterExpression.conditions).getD [])

lemma unclaimed_eq_carriedOver (h : grid.dataset = dataset) :
    grid.unclaimed = grid.carriedOver ((dataset.map FilterExpression.conditions).getD []) := by
  rw [unclaimed, h]
  cases dataset with
  | none => rfl
  | some report => rfl

lemma groups_eq (h : grid.dataset = dataset) :
    grid.groups = (dataset.map FilterExpression.groups).getD [] := by
  rw [groups, h]
  cases dataset with
  | none => rfl
  | some report => rfl

/-- Every grid accounts for its conditions and for the entries of its dataset. -/
lemma accounted (h : grid.dataset = dataset) (combinator : Combinator) :
    grid.Accounted dataset combinator where
  given_iff := by
    have hvalid : (∀ condition ∈ grid.conditions, condition.isValid = true) ↔
        ∀ filter ∈ grid.filters, ∀ condition ∈ filter.conditions, condition.isValid = true := by
      rw [Grid.conditions, List.forall_mem_flatMap]
    rw [← hvalid]
    constructor
    · rintro ⟨sent, hsent⟩
      exact (expression_eq_ok_iff.mp hsent).1
    · intro hall
      exact ⟨_, expression_eq_ok_iff.mpr ⟨hall, rfl⟩⟩
  withheld := by
    intro failure hfailure
    rw [(expression_eq_error_iff.mp hfailure).2, ← invalidIds_eq]
    rfl
  groups := by
    intro sent hsent
    rw [(expression_eq_ok_iff.mp hsent).2, groups_eq h]
  conditions := by
    intro sent hsent
    rw [(expression_eq_ok_iff.mp hsent).2, unclaimed_eq_carriedOver h]

/-! ## Grids without an edit -/

/-- What is sent on behalf of one entry of the dataset while nobody edits: itself when no open
column claims it, and otherwise one entry for each open column that takes it. -/
def derived (grid : Grid) (entry : ConditionExpression) : List ConditionExpression :=
  if grid.filters.any fun filter => filter.column.claims grid.settings entry then
    (grid.filters.filter (·.column.takes grid.settings entry)).map
      (·.column.again grid.settings entry)
  else [entry]

/-- What a grid's expression holds when nothing was edited since the dataset's report. -/
structure AccountedUnedited (grid : Grid) (expression : FilterExpression)
    (combinator : Combinator) : Prop where
  /-- Each open column sends the entries that it takes, and the others are carried over. -/
  conditions : ∀ sent, grid.expression combinator = .ok sent →
    sent.conditions =
      (grid.filters.flatMap fun filter =>
        (expression.conditions.filter (filter.column.takes grid.settings)).map
          (filter.column.again grid.settings)) ++
        grid.carriedOver expression.conditions
  /-- Entry by entry: each gives what is derived from it, and nothing else is sent. -/
  derived : ∀ sent, grid.expression combinator = .ok sent →
    sent.conditions.Perm (expression.conditions.flatMap grid.derived)
  /-- An entry is lost exactly when some open column claims it and none that does offers the
  operator that an editor would show for it. -/
  lost_iff : ∀ entry ∈ expression.conditions,
    grid.derived entry = [] ↔
      (∃ filter ∈ grid.filters, filter.column.claims grid.settings entry = true) ∧
        ∀ filter ∈ grid.filters, filter.column.claims grid.settings entry = true →
          filter.column.supports (Criterion.undecorate filter.column.kind grid.settings.wildcard
            ⟨entry.operator, entry.value⟩).operator = false

/-- The live conditions of an unedited column are the entries that the column takes, sent again. -/
lemma Unedited.entries (h : grid.Unedited expression) (horderly : grid.Orderly)
    {filter : ColumnFilter} (hmem : filter ∈ grid.filters) :
    filter.entries grid.settings =
      (expression.conditions.filter (filter.column.takes grid.settings)).map
        (filter.column.again grid.settings) := by
  rw [ColumnFilter.entries_eq_map (horderly.coherent filter hmem), h.criteria filter hmem,
    Column.map_emit_criteria]

/-- Only a column that claims an entry takes it. -/
lemma filter_takes_eq_nil {entry : ConditionExpression}
    (h : ¬ (grid.filters.any fun filter => filter.column.claims grid.settings entry) = true) :
    grid.filters.filter (·.column.takes grid.settings entry) = [] := by
  rw [List.filter_eq_nil_iff]
  intro filter hmem htakes
  rw [Column.takes, Bool.and_eq_true] at htakes
  exact h (List.any_eq_true.mpr ⟨filter, hmem, htakes.1⟩)

/-- What is derived from an entry, with the two cases side by side. -/
lemma derived_eq_append (grid : Grid) (entry : ConditionExpression) :
    grid.derived entry =
      (grid.filters.filter (·.column.takes grid.settings entry)).map
          (·.column.again grid.settings entry) ++
        if !grid.filters.any fun filter => filter.column.claims grid.settings entry then [entry]
        else [] := by
  rw [derived]
  by_cases hclaimed :
      (grid.filters.any fun filter => filter.column.claims grid.settings entry) = true
  · rw [if_pos hclaimed, hclaimed, Bool.not_true, if_neg Bool.false_ne_true, List.append_nil]
  · rw [if_neg hclaimed, filter_takes_eq_nil hclaimed, eq_false_of_ne_true hclaimed]
    rfl

/-- While nobody edits, every entry gives what is derived from it. -/
lemma Unedited.accounted (h : grid.Unedited expression) (horderly : grid.Orderly)
    (combinator : Combinator) : grid.AccountedUnedited expression combinator := by
  have hconditions : ∀ sent, grid.expression combinator = .ok sent →
      sent.conditions =
        (grid.filters.flatMap fun filter =>
          (expression.conditions.filter (filter.column.takes grid.settings)).map
            (filter.column.again grid.settings)) ++
          grid.carriedOver expression.conditions := by
    intro sent hsent
    rw [(Grid.accounted h.dataset combinator).conditions sent hsent,
      List.flatMap_congr fun filter hmem => h.entries horderly hmem]
    rfl
  refine ⟨hconditions, fun sent hsent => ?_, fun entry _ => ?_⟩
  -- The live part is turned from columns to entries; what is carried over goes entry by entry.
  · have hcarried : grid.carriedOver expression.conditions =
        expression.conditions.flatMap fun entry =>
          if !grid.filters.any fun filter => filter.column.claims grid.settings entry then [entry]
          else [] := by
      rw [carriedOver, ← List.map_id (List.filter _ _), map_filter_eq_flatMap]
      rfl
    have hderived : grid.derived = fun entry => _ := funext grid.derived_eq_append
    rw [hconditions sent hsent, hcarried, hderived]
    refine List.Perm.trans (List.Perm.append_right _ ?_) (List.flatMap_append_perm _ _ _)
    exact perm_flatMap_filter_map grid.filters expression.conditions
      (fun filter entry => filter.column.takes grid.settings entry)
      (fun filter entry => filter.column.again grid.settings entry)
  · rw [derived]
    by_cases hclaimed :
        (grid.filters.any fun filter => filter.column.claims grid.settings entry) = true
    · rw [if_pos hclaimed, List.map_eq_nil_iff, List.filter_eq_nil_iff]
      have hsome := List.any_eq_true.mp hclaimed
      constructor
      · intro hnone
        refine ⟨hsome, fun filter hmem hclaims => ?_⟩
        have hnot := hnone filter hmem
        rw [Column.takes, hclaims, Bool.true_and] at hnot
        exact eq_false_of_ne_true hnot
      · rintro ⟨-, hnone⟩ filter hmem htakes
        rw [Column.takes, Bool.and_eq_true] at htakes
        rw [hnone filter hmem htakes.1] at htakes
        exact Bool.false_ne_true htakes.2
    · rw [if_neg hclaimed]
      constructor
      · intro hnil
        exact absurd hnil (List.cons_ne_nil entry [])
      · rintro ⟨hsome, -⟩
        exact absurd (List.any_eq_true.mpr hsome) hclaimed

end Grid

namespace Workspace

/-! ## Every run -/

/-- The grid that actions leave behind. -/
def gridAfter (settings : FilterSettings) (actions : List Action) : Grid :=
  ((start settings).run actions).session.grid

/-- Whatever was done with a grid, its columns are in the order of opening and its expression
accounts for every condition and for every entry of the last report; and when nothing was edited
since that report, for every entry by itself. -/
theorem accounted_gridAfter (settings : FilterSettings) (actions : List Action)
    (combinator : Combinator) :
    (gridAfter settings actions).columns = openColumns actions ∧
      (gridAfter settings actions).Accounted (lastReport actions) combinator ∧
      ∀ before expression after, actions = before ++ .datasetChanged expression :: after →
        (∀ action ∈ after, action.Keeps) →
          (gridAfter settings actions).AccountedUnedited expression combinator := by
  refine ⟨columns_run settings actions, ?_, ?_⟩
  · exact Grid.accounted (dataset_run settings actions) combinator
  · rintro before expression after rfl hafter
    have hunedited := unedited_run settings before after expression hafter
    exact hunedited.accounted (sound_run settings _).orderly combinator

/-- An open text column claims a condition on its attribute and offers no operator on dates, so the
condition is lost. -/
example : (gridAfter {}
    [.datasetChanged { conditions := [⟨"city", none, .today, .null⟩, ⟨"size", none, .equal, .null⟩] },
     .openColumn ⟨"city", .text, {}⟩]).expression .and =
      .ok { conditions := [⟨"size", none, .equal, .null⟩] } :=
  rfl

end Workspace

end GridFilter
