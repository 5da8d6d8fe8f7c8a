import GridFilter.Grid.Basic
import GridFilter.Proofs.Condition.Step
import GridFilter.Proofs.Grid.Hydration
import Mathlib.Data.List.Nodup

/-!
# The steps of a grid

Seven operations change which columns are open and which conditions they have: a column is opened,
the dataset reports an expression, a column is read anew, conditions are added, removed and cleared,
and all columns are closed.  This module says once what each of them does.

## Two facts about a grid

A grid is *orderly* (`Grid.Orderly`) when no two open columns have the same name and every condition
is on the column of its filter.  Each operation keeps that, and its conditions are either conditions
that were there before or *new* ones, whose handles are taken from the next free one on
(`Grid.Grows`).  Handles are therefore never given out twice, which is what allows a session to keep
hold of a condition by its handle (`Session.Sound`).

## What is not here

What an editor does to a single condition is no operation on the grid: `Session.touch` is the form
in which a session carries it out.
-/

namespace GridFilter

/-! ## Runs of handles -/

/-- Conditions that were given handles of their own, from `first` up to `bound`. -/
structure Numbered (first bound : Nat) (conditions : List Condition) : Prop where
  le : first ≤ bound
  lower : ∀ condition ∈ conditions, first ≤ condition.handle
  upper : ∀ condition ∈ conditions, condition.handle < bound
  unique : ∀ condition ∈ conditions, ∀ other ∈ conditions,
    condition.handle = other.handle → condition = other
  isNew : ∀ condition ∈ conditions, condition.IsNew
  canonical : ∀ condition ∈ conditions, condition.criterion.IsCanonical condition.column.kind

namespace Numbered

lemma nil (first : Nat) : Numbered first first [] where
  le := Nat.le_refl first
  lower := by simp
  upper := by simp
  unique := by simp
  isNew := by simp
  canonical := by simp

/-- Two runs, the second where the first ends. -/
lemma append {first middle bound : Nat} {conditions others : List Condition}
    (h : Numbered first middle conditions) (hothers : Numbered middle bound others) :
    Numbered first bound (conditions ++ others) where
  le := Nat.le_trans h.le hothers.le
  lower := by
    intro condition hmem
    rcases List.mem_append.mp hmem with hleft | hright
    · exact h.lower condition hleft
    · exact Nat.le_trans h.le (hothers.lower condition hright)
  upper := by
    intro condition hmem
    rcases List.mem_append.mp hmem with hleft | hright
    · exact Nat.lt_of_lt_of_le (h.upper condition hleft) hothers.le
    · exact hothers.upper condition hright
  unique := by
    intro condition hmem other hother hhandle
    rcases List.mem_append.mp hmem with hleft | hright <;>
      rcases List.mem_append.mp hother with hleft' | hright'
    · exact h.unique condition hleft other hleft' hhandle
    · have hbelow := h.upper condition hleft
      have habove := hothers.lower other hright'
      omega
    · have hbelow := h.upper other hleft'
      have habove := hothers.lower condition hright
      omega
    · exact hothers.unique condition hright other hright' hhandle
  isNew := by
    intro condition hmem
    rcases List.mem_append.mp hmem with hleft | hright
    · exact h.isNew condition hleft
    · exact hothers.isNew condition hright
  canonical := by
    intro condition hmem
    rcases List.mem_append.mp hmem with hleft | hright
    · exact h.canonical condition hleft
    · exact hothers.canonical condition hright

/-- The condition that an editor adds. -/
lemma fresh (handle : Nat) (id : String) (column : Column) :
    Numbered handle (handle + 1) [Condition.fresh handle id column] where
  le := Nat.le_succ handle
  lower := by simp [Condition.fresh]
  upper := by simp [Condition.fresh]
  unique := by simp
  isNew := by
    intro condition hmem
    rw [List.mem_singleton.mp hmem]
    exact .fresh handle id column
  canonical := by
    intro condition hmem
    rw [List.mem_singleton] at hmem
    subst hmem
    intro _ _ text
    exact WireValue.noConfusion

/-- The conditions that a column reads from an expression. -/
lemma ofExpression (settings : FilterSettings) (column : Column) (expression : FilterExpression)
    (first : Nat) :
    Numbered first
      (first + (ColumnFilter.ofExpression settings column expression first).conditions.length)
      (ColumnFilter.ofExpression settings column expression first).conditions where
  le := Nat.le_add_right _ _
  lower := by
    intro condition hmem
    obtain ⟨handle, id, criterion, rfl, -, hlow, -⟩ := ColumnFilter.mem_ofExpression hmem
    exact hlow
  upper := by
    intro condition hmem
    obtain ⟨handle, id, criterion, rfl, -, -, hhigh⟩ := ColumnFilter.mem_ofExpression hmem
    exact hhigh
  unique := by
    intro condition hmem other hother hhandle
    -- The handle is the place in the list of labelled criteria, and so determines the rest.
    obtain ⟨⟨⟨id, criterion⟩, handle⟩, hitem, rfl⟩ := List.mem_map.mp hmem
    obtain ⟨⟨⟨otherId, otherCriterion⟩, otherHandle⟩, hotherItem, rfl⟩ := List.mem_map.mp hother
    have hsame : handle = otherHandle := hhandle
    subst hsame
    obtain ⟨_, _, heq⟩ := List.mem_zipIdx hitem
    obtain ⟨_, _, hotherEq⟩ := List.mem_zipIdx hotherItem
    rw [← hotherEq, Prod.mk.injEq] at heq
    rw [heq.1, heq.2]
  isNew := by
    intro condition hmem
    obtain ⟨handle, id, criterion, rfl, -⟩ := ColumnFilter.mem_ofExpression hmem
    exact .hydrated handle id column criterion
  canonical := by
    intro condition hmem
    obtain ⟨handle, id, criterion, rfl, hcriterion, -, -⟩ := ColumnFilter.mem_ofExpression hmem
    obtain ⟨entry, -, hread⟩ := Column.mem_criteria hcriterion
    exact Column.isCanonical_of_criterion? hread

end Numbered

/-! ## Filters made anew -/

namespace Grid

variable {settings : FilterSettings} {expression : FilterExpression}

@[simp] lemma map_column_hydrateAll (columns : List Column) (next : Nat) :
    (hydrateAll settings expression columns next).1.map ColumnFilter.column = columns := by
  induction columns generalizing next with
  | nil => rfl
  | cons column rest ih => rw [hydrateAll, List.map_cons, ih, ColumnFilter.column_ofExpression]

/-- Every filter made anew is read from the expression. -/
lemma mem_hydrateAll {columns : List Column} {next : Nat} {filter : ColumnFilter}
    (h : filter ∈ (hydrateAll settings expression columns next).1) :
    ∃ first, filter = ColumnFilter.ofExpression settings filter.column expression first := by
  induction columns generalizing next with
  | nil => exact absurd h List.not_mem_nil
  | cons column rest ih =>
      rcases List.mem_cons.mp h with rfl | hrest
      · exact ⟨next, rfl⟩
      · exact ih hrest

lemma criteria_of_mem_hydrateAll {columns : List Column} {next : Nat} {filter : ColumnFilter}
    (h : filter ∈ (hydrateAll settings expression columns next).1) :
    filter.criteria = filter.column.criteria settings expression := by
  obtain ⟨first, hread⟩ := mem_hydrateAll h
  rw [hread, ColumnFilter.criteria_ofExpression, ColumnFilter.column_ofExpression]

lemma coherent_of_mem_hydrateAll {columns : List Column} {next : Nat} {filter : ColumnFilter}
    (h : filter ∈ (hydrateAll settings expression columns next).1) : filter.Coherent := by
  obtain ⟨first, hread⟩ := mem_hydrateAll h
  rw [hread]
  exact ColumnFilter.coherent_ofExpression expression first

lemma numbered_hydrateAll (columns : List Column) (next : Nat) :
    Numbered next (hydrateAll settings expression columns next).2
      ((hydrateAll settings expression columns next).1.flatMap ColumnFilter.conditions) := by
  induction columns generalizing next with
  | nil => exact Numbered.nil next
  | cons column rest ih =>
      rw [hydrateAll, List.flatMap_cons]
      exact (Numbered.ofExpression settings column expression next).append (ih _)

/-! ## Orderly grids -/

/-- The open columns, in the order in which they were opened. -/
def columns (grid : Grid) : List Column :=
  grid.filters.map ColumnFilter.column

/-- No column is open twice, and every condition is on its filter's column. -/
structure Orderly (grid : Grid) : Prop where
  names : (grid.columns.map Column.name).Nodup
  coherent : ∀ filter ∈ grid.filters, filter.Coherent

variable {grid next : Grid} {name : String}

lemma mem_conditions {condition : Condition} :
    condition ∈ grid.conditions ↔ ∃ filter ∈ grid.filters, condition ∈ filter.conditions :=
  List.mem_flatMap

lemma mem_columns {column : Column} :
    column ∈ grid.columns ↔ ∃ filter ∈ grid.filters, filter.column = column :=
  List.mem_map

/-- In an orderly grid a filter is found under the name of its column. -/
lemma Orderly.filter?_eq_some (h : grid.Orderly) {filter : ColumnFilter}
    (hmem : filter ∈ grid.filters) : grid.filter? filter.column.name = some filter := by
  have hnames := h.names
  rw [columns, List.map_map] at hnames
  obtain ⟨found, hfound⟩ : ∃ found, grid.filter? filter.column.name = some found := by
    rw [← Option.isSome_iff_exists, filter?, List.find?_isSome]
    exact ⟨filter, hmem, beq_self_eq_true _⟩
  rw [filter?] at hfound ⊢
  have hname : (found.column.name == filter.column.name) = true := by
    simpa only using List.find?_some hfound
  have hsame : found = filter :=
    List.inj_on_of_nodup_map hnames (List.mem_of_find?_eq_some hfound) hmem (eq_of_beq hname)
  rw [hfound, hsame]

lemma filter?_eq_none_iff :
    grid.filter? name = none ↔ ∀ column ∈ grid.columns, column.name ≠ name := by
  simp [filter?, columns]

/-! ## Changing one filter -/

lemma mem_filters_update {change : ColumnFilter → ColumnFilter} {filter : ColumnFilter} :
    filter ∈ (grid.update name change).filters ↔
      ∃ old ∈ grid.filters, (if old.column.name == name then change old else old) = filter :=
  List.mem_map

/-- A change that keeps the column of a filter keeps the list of open columns. -/
lemma columns_update {change : ColumnFilter → ColumnFilter}
    (hchange : ∀ filter ∈ grid.filters, filter.column.name = name →
      (change filter).column = filter.column) :
    (grid.update name change).columns = grid.columns := by
  rw [columns, update, List.map_map]
  refine List.map_congr_left fun filter hmem => ?_
  rw [Function.comp_apply]
  by_cases hname : filter.column.name = name
  · rw [if_pos (beq_iff_eq.mpr hname), hchange filter hmem hname]
  · rw [if_neg (by rwa [beq_iff_eq])]

/-- A change that keeps a filter's column and has its conditions on it keeps the grid orderly. -/
lemma Orderly.update (h : grid.Orderly) {change : ColumnFilter → ColumnFilter}
    (hchange : ∀ filter ∈ grid.filters, filter.column.name = name →
      (change filter).column = filter.column ∧ (change filter).Coherent) :
    (grid.update name change).Orderly where
  names := by
    rw [columns_update fun filter hmem hname => (hchange filter hmem hname).1]
    exact h.names
  coherent := by
    intro filter hmem
    obtain ⟨old, hold, rfl⟩ := mem_filters_update.mp hmem
    by_cases hname : old.column.name = name
    · rw [if_pos (beq_iff_eq.mpr hname)]
      exact (hchange old hold hname).2
    · rw [if_neg (by rwa [beq_iff_eq])]
      exact h.coherent old hold

lemma Orderly.withNextHandle (h : grid.Orderly) (bound : Nat) :
    { grid with nextHandle := bound }.Orderly :=
  ⟨h.names, h.coherent⟩

/-- Every condition after a change of one filter is one that the change left alone, or one of the
changed filter. -/
lemma mem_conditions_update {change : ColumnFilter → ColumnFilter} {condition : Condition}
    (h : condition ∈ (grid.update name change).conditions) :
    condition ∈ grid.conditions ∨
      ∃ filter ∈ grid.filters, filter.column.name = name ∧
        condition ∈ (change filter).conditions := by
  obtain ⟨filter, hmem, hcondition⟩ := mem_conditions.mp h
  obtain ⟨old, hold, rfl⟩ := mem_filters_update.mp hmem
  by_cases hname : old.column.name = name
  · rw [if_pos (beq_iff_eq.mpr hname)] at hcondition
    exact .inr ⟨old, hold, hname, hcondition⟩
  · rw [if_neg (by rwa [beq_iff_eq])] at hcondition
    exact .inl (mem_conditions.mpr ⟨old, hold, hcondition⟩)

/-! ## New conditions -/

/-- A grid goes on with conditions that it had, and with new ones. -/
structure Grows (grid next : Grid) : Prop where
  settings : next.settings = grid.settings
  conditions : ∃ new, Numbered grid.nextHandle next.nextHandle new ∧
    ∀ condition ∈ next.conditions, condition ∈ grid.conditions ∨ condition ∈ new

/-- A grid that only loses conditions needs no new handle. -/
lemma Grows.of_subset (hsettings : next.settings = grid.settings)
    (hnext : next.nextHandle = grid.nextHandle)
    (hsubset : ∀ condition ∈ next.conditions, condition ∈ grid.conditions) :
    grid.Grows next where
  settings := hsettings
  conditions := by
    refine ⟨[], ?_, fun condition hmem => .inl (hsubset condition hmem)⟩
    rw [hnext]
    exact Numbered.nil grid.nextHandle

/-- Changing one filter, and giving out handles up to `bound` for its conditions that are new. -/
lemma Grows.update {change : ColumnFilter → ColumnFilter} {bound : Nat} (new : List Condition)
    (hnew : Numbered grid.nextHandle bound new)
    (hchange : ∀ filter ∈ grid.filters, filter.column.name = name →
      ∀ condition ∈ (change filter).conditions,
        condition ∈ filter.conditions ∨ condition ∈ new) :
    grid.Grows { grid.update name change with nextHandle := bound } where
  settings := rfl
  conditions := by
    refine ⟨new, hnew, fun condition hmem => ?_⟩
    rcases mem_conditions_update hmem with hold | ⟨filter, hfilter, hname, hcondition⟩
    · exact .inl hold
    · rcases hchange filter hfilter hname condition hcondition with hkept | hfresh
      · exact .inl (mem_conditions.mpr ⟨filter, hfilter, hkept⟩)
      · exact .inr hfresh

/-! ## The seven operations -/

/-- The grid after a column was opened that was not open before. -/
lemma openColumn_of_filter?_eq_none {column : Column} (h : grid.filter? column.name = none) :
    ∃ filter, filter.column = column ∧ filter.Coherent ∧
      (∀ expression, grid.dataset = some expression →
        filter = ColumnFilter.ofExpression grid.settings column expression grid.nextHandle) ∧
      Numbered grid.nextHandle (grid.nextHandle + filter.conditions.length) filter.conditions ∧
      grid.openColumn column =
        { grid with
          filters := grid.filters ++ [filter]
          nextHandle := grid.nextHandle + filter.conditions.length } := by
  rw [openColumn, h]
  cases hdataset : grid.dataset with
  | none =>
      refine ⟨{ column := column }, rfl, ?_, nofun, Numbered.nil grid.nextHandle, rfl⟩
      exact fun condition hmem => absurd hmem List.not_mem_nil
  | some expression =>
      refine ⟨_, rfl, ColumnFilter.coherent_ofExpression expression grid.nextHandle, ?_,
        Numbered.ofExpression grid.settings column expression grid.nextHandle, rfl⟩
      intro other heq
      rw [Option.some_inj.mp heq]

lemma openColumn_of_mem {column : Column} (h : grid.filter? column.name ≠ none) :
    grid.openColumn column = grid := by
  rw [openColumn, if_pos (Option.isSome_iff_ne_none.mpr h)]

/-- One operation on a grid. -/
inductive Step (grid : Grid) : Grid → Prop where
  | openColumn (column : Column) : Step grid (grid.openColumn column)
  | datasetChanged (expression : FilterExpression) : Step grid (grid.datasetChanged expression)
  | rebuildColumn (name : String) (expression : FilterExpression) :
      Step grid (grid.rebuildColumn name expression)
  | addCondition (name id : String) : Step grid (grid.addCondition name id)
  | removeCondition (name id : String) : Step grid (grid.removeCondition name id)
  | clearColumn (name : String) : Step grid (grid.clearColumn name)
  | clear : Step grid grid.clear

/-- Every operation keeps a grid orderly. -/
lemma Step.orderly (h : grid.Step next) (horderly : grid.Orderly) : next.Orderly := by
  cases h with
  | openColumn column =>
      by_cases hopen : grid.filter? column.name = none
      · obtain ⟨filter, rfl, hcoherent, -, -, heq⟩ := openColumn_of_filter?_eq_none hopen
        rw [heq]
        constructor
        · simp only [columns, List.map_append, List.map_cons, List.map_nil]
          refine List.nodup_append.mpr ⟨horderly.names, List.nodup_singleton _, ?_⟩
          rintro name hname other hother rfl
          obtain ⟨open?, hmem, hsame⟩ := List.mem_map.mp hname
          rw [List.mem_singleton] at hother
          exact filter?_eq_none_iff.mp hopen open? hmem (hsame.trans hother)
        · intro other hmem
          rcases List.mem_append.mp hmem with hold | hnew
          · exact horderly.coherent other hold
          · rw [List.mem_singleton.mp hnew]
            exact hcoherent
      · rw [openColumn_of_mem hopen]
        exact horderly
  | datasetChanged expression =>
      constructor
      · rw [columns, Grid.datasetChanged, map_column_hydrateAll]
        exact horderly.names
      · intro filter hmem
        exact coherent_of_mem_hydrateAll hmem
  | rebuildColumn name expression =>
      rw [Grid.rebuildColumn]
      cases hfound : grid.filter? name with
      | none => exact horderly
      | some filter =>
          refine (horderly.update fun old hold hname => ⟨?_, ?_⟩).withNextHandle _
          · have hsame := horderly.filter?_eq_some hold
            rw [hname, hfound, Option.some_inj] at hsame
            rw [hsame, ColumnFilter.column_ofExpression]
          · exact ColumnFilter.coherent_ofExpression expression grid.nextHandle
  | addCondition name id =>
      refine Orderly.withNextHandle (Orderly.update horderly ?_) (grid.nextHandle + 1)
      intro filter hmem _
      refine ⟨rfl, fun condition hcondition => ?_⟩
      rcases List.mem_append.mp hcondition with hold | hnew
      · exact horderly.coherent filter hmem condition hold
      · rw [List.mem_singleton.mp hnew]
        rfl
  | removeCondition name id =>
      refine Orderly.update horderly ?_
      intro filter hmem _
      refine ⟨rfl, fun condition hcondition => ?_⟩
      exact horderly.coherent filter hmem condition (List.mem_of_mem_eraseP hcondition)
  | clearColumn name =>
      refine Orderly.update horderly ?_
      intro filter _ _
      exact ⟨rfl, fun condition hcondition => absurd hcondition List.not_mem_nil⟩
  | clear => exact ⟨List.nodup_nil, fun filter hmem => absurd hmem List.not_mem_nil⟩

/-- Every operation goes on with old conditions and with new ones. -/
lemma Step.grows (h : grid.Step next) (horderly : grid.Orderly) : grid.Grows next := by
  cases h with
  | openColumn column =>
      by_cases hopen : grid.filter? column.name = none
      · obtain ⟨filter, -, -, -, hnumbered, heq⟩ := openColumn_of_filter?_eq_none hopen
        rw [heq]
        refine ⟨rfl, filter.conditions, hnumbered, fun condition hmem => ?_⟩
        rw [conditions, List.flatMap_append, List.flatMap_singleton] at hmem
        exact List.mem_append.mp hmem
      · rw [openColumn_of_mem hopen]
        exact Grows.of_subset rfl rfl fun condition hmem => hmem
  | datasetChanged expression =>
      exact ⟨rfl, _, numbered_hydrateAll grid.columns grid.nextHandle, fun _ hmem => .inr hmem⟩
  | rebuildColumn name expression =>
      rw [Grid.rebuildColumn]
      cases hfound : grid.filter? name with
      | none => exact Grows.of_subset rfl rfl fun condition hmem => hmem
      | some filter =>
          exact Grows.update _
            (Numbered.ofExpression grid.settings filter.column expression grid.nextHandle)
            fun _ _ _ condition hmem => .inr hmem
  | addCondition name id =>
      rw [Grid.addCondition]
      cases hfound : grid.filter? name with
      | none =>
          refine Grows.update [] ⟨Nat.le_succ _, ?_, ?_, ?_, ?_, ?_⟩ fun filter hmem hname => ?_
          · simp
          · simp
          · simp
          · simp
          · simp
          · have hopen := mem_columns.mpr ⟨filter, hmem, rfl⟩
            exact absurd hname (filter?_eq_none_iff.mp hfound filter.column hopen)
      | some filter =>
          refine Grows.update _ (Numbered.fresh grid.nextHandle id filter.column) ?_
          intro other hother hname condition hmem
          have hsame := horderly.filter?_eq_some hother
          rw [hname, hfound, Option.some_inj] at hsame
          rw [hsame]
          exact List.mem_append.mp hmem
  | removeCondition name id =>
      refine Grows.update [] (Numbered.nil grid.nextHandle) ?_
      intro filter _ _ condition hmem
      exact .inl (List.mem_of_mem_eraseP hmem)
  | clearColumn name =>
      refine Grows.update [] (Numbered.nil grid.nextHandle) ?_
      intro filter _ _ condition hmem
      exact absurd hmem List.not_mem_nil
  | clear => exact Grows.of_subset rfl rfl fun condition hmem => absurd hmem List.not_mem_nil

end Grid

end GridFilter
