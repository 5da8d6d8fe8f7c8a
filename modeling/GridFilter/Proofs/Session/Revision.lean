import GridFilter.Proofs.Condition.Step
import GridFilter.Proofs.Grid.Step
import GridFilter.Session
import Mathlib.Logic.Relation

/-!
# What a session keeps

Two things happen to a session.  Its grid goes on by one of the operations of `Grid.Step`, and a
condition that nothing refers to in the grid any more stays with the session as long as an editor
holds it.  Or one condition is *revised*, wherever it is: an editor sets its operator or its value,
its control value is read, a load begins or ends.

A revision is found by its handle and written back by its handle.  That this changes one condition
and no other needs an invariant, `Session.Sound`: handles are given out in turn and never twice.
Under it a revision is one map over all filters and over the conditions outside the grid
(`Session.touch`, `Sound.edit`), and the session keeps whatever the steps of a single condition keep
(`Sound.of_revises`).
-/

namespace GridFilter

/-! ## Maps over the conditions of a grid -/

/-- The filter with each condition replaced by its image. -/
def ColumnFilter.mapConditions (filter : ColumnFilter) (revise : Condition → Condition) :
    ColumnFilter :=
  { filter with conditions := filter.conditions.map revise }

/-- The grid with each condition replaced by its image. -/
def Grid.mapConditions (grid : Grid) (revise : Condition → Condition) : Grid :=
  { grid with filters := grid.filters.map (·.mapConditions revise) }

namespace Grid

variable {grid : Grid} {revise : Condition → Condition}

@[simp] lemma columns_mapConditions : (grid.mapConditions revise).columns = grid.columns := by
  rw [columns, mapConditions, List.map_map]
  rfl

@[simp] lemma conditions_mapConditions :
    (grid.mapConditions revise).conditions = grid.conditions.map revise := by
  rw [conditions, mapConditions, List.flatMap_map, conditions, List.map_flatMap]
  rfl

lemma mapConditions_id (grid : Grid) : grid.mapConditions id = grid := by
  have hfilter : ∀ filter : ColumnFilter, filter.mapConditions id = filter := by
    intro filter
    rw [ColumnFilter.mapConditions, List.map_id]
  rw [mapConditions, List.map_congr_left fun filter _ => hfilter filter, List.map_id']

lemma mapConditions_congr {again : Condition → Condition}
    (h : ∀ condition ∈ grid.conditions, revise condition = again condition) :
    grid.mapConditions revise = grid.mapConditions again := by
  have hfilters : ∀ filter ∈ grid.filters,
      filter.mapConditions revise = filter.mapConditions again := by
    intro filter hfilter
    have hconditions : filter.conditions.map revise = filter.conditions.map again :=
      List.map_congr_left fun condition hmem =>
        h condition (mem_conditions.mpr ⟨filter, hfilter, hmem⟩)
    rw [ColumnFilter.mapConditions, hconditions, ColumnFilter.mapConditions]
  rw [mapConditions, List.map_congr_left hfilters, mapConditions]

lemma mapConditions_mapConditions (grid : Grid) (revise again : Condition → Condition) :
    (grid.mapConditions revise).mapConditions again = grid.mapConditions (again ∘ revise) := by
  simp only [mapConditions, ColumnFilter.mapConditions, List.map_map, Function.comp_def]

end Grid

namespace Session

variable {session next last : Session} {settings : FilterSettings}

/-! ## The stock -/

/-- All conditions that an editor or the grid may still refer to. -/
def stock (session : Session) : List Condition :=
  session.grid.conditions ++ session.detached

lemma mem_stock_of_condition? {handle : Nat} {condition : Condition}
    (h : session.condition? handle = some condition) :
    condition ∈ session.stock ∧ condition.handle = handle := by
  rw [condition?, Option.or_eq_some_iff] at h
  rcases h with hgrid | ⟨-, hdetached⟩
  · rw [Grid.condition?] at hgrid
    have hhandle := List.find?_some hgrid
    exact ⟨List.mem_append_left _ (List.mem_of_find?_eq_some hgrid), of_decide_eq_true hhandle⟩
  · have hhandle := List.find?_some hdetached
    exact ⟨List.mem_append_right _ (List.mem_of_find?_eq_some hdetached),
      of_decide_eq_true hhandle⟩

/-- In a session without a condition of a handle, no condition of the stock has it. -/
lemma handle_ne_of_condition?_eq_none {handle : Nat} (h : session.condition? handle = none) :
    ∀ condition ∈ session.stock, condition.handle ≠ handle := by
  rw [condition?, Option.or_eq_none_iff, Grid.condition?, List.find?_eq_none,
    List.find?_eq_none] at h
  intro condition hmem hhandle
  rcases List.mem_append.mp hmem with hgrid | hdetached
  · exact h.1 condition hgrid (decide_eq_true hhandle)
  · exact h.2 condition hdetached (decide_eq_true hhandle)

/-! ## Revisions -/

/-- Every condition was replaced by its image, where it stands. -/
structure Revises (session : Session) (revise : Condition → Condition) (next : Session) : Prop where
  grid : next.grid = session.grid.mapConditions revise
  detached : next.detached = session.detached.map revise

variable {revise again : Condition → Condition}

lemma Revises.stock (h : session.Revises revise next) :
    next.stock = session.stock.map revise := by
  rw [Session.stock, h.grid, h.detached, Grid.conditions_mapConditions, ← List.map_append,
    Session.stock]

lemma Revises.trans (h : session.Revises revise next) (hnext : next.Revises again last) :
    session.Revises (again ∘ revise) last where
  grid := by rw [hnext.grid, h.grid, Grid.mapConditions_mapConditions]
  detached := by rw [hnext.detached, h.detached, List.map_map]

/-- Only the images of the conditions in stock matter. -/
lemma Revises.congr (h : session.Revises revise next)
    (hsame : ∀ condition ∈ session.stock, revise condition = again condition) :
    session.Revises again next where
  grid := by
    rw [h.grid]
    exact Grid.mapConditions_congr fun condition hmem =>
      hsame condition (List.mem_append_left _ hmem)
  detached := by
    rw [h.detached]
    exact List.map_congr_left fun condition hmem =>
      hsame condition (List.mem_append_right _ hmem)

lemma Revises.refl (session : Session) : session.Revises id session where
  grid := (Grid.mapConditions_id session.grid).symm
  detached := (List.map_id session.detached).symm

/-! ## The invariant -/

/-- What holds of every session that began with an empty grid. -/
structure Sound (settings : FilterSettings) (session : Session) : Prop where
  settings : session.grid.settings = settings
  orderly : session.grid.Orderly
  handle_lt : ∀ condition ∈ session.stock, condition.handle < session.grid.nextHandle
  handle_unique : ∀ condition ∈ session.stock, ∀ other ∈ session.stock,
    condition.handle = other.handle → condition = other
  canonical : ∀ condition ∈ session.stock, condition.criterion.IsCanonical condition.column.kind

/-- A session in which no column was opened yet is sound. -/
lemma sound_of_empty (hgrid : session.grid = { settings := settings })
    (hdetached : session.detached = []) : session.Sound settings := by
  have hstock : session.stock = [] := by
    rw [stock, hgrid, hdetached]
    rfl
  constructor
  · rw [hgrid]
  · rw [hgrid]
    exact ⟨List.nodup_nil, fun _ hmem => absurd hmem List.not_mem_nil⟩
  all_goals
    rw [hstock]
    exact fun _ hmem => absurd hmem List.not_mem_nil

/-- Whatever steps keep of a condition, the session keeps: its handle, its column, and that its
criterion is canonical. -/
lemma Sound.of_revises (h : session.Sound settings) (hrevises : session.Revises revise next)
    (hsteps : ∀ condition ∈ session.stock,
      Relation.ReflTransGen Condition.Step condition (revise condition)) :
    next.Sound settings := by
  have hidentity : ∀ condition ∈ session.stock, condition.SameIdentity (revise condition) := by
    intro condition hmem
    exact Condition.identity_of_steps (hsteps condition hmem)
  have hstock := hrevises.stock
  constructor
  · rw [hrevises.grid]
    exact h.settings
  · constructor
    · rw [hrevises.grid, Grid.columns_mapConditions]
      exact h.orderly.names
    · intro filter hmem
      rw [hrevises.grid] at hmem
      obtain ⟨old, hold, rfl⟩ := List.mem_map.mp hmem
      intro condition hcondition
      obtain ⟨before, hbefore, rfl⟩ := List.mem_map.mp hcondition
      have hin : before ∈ session.stock :=
        List.mem_append_left _ (Grid.mem_conditions.mpr ⟨old, hold, hbefore⟩)
      exact (hidentity before hin).column.trans (h.orderly.coherent old hold before hbefore)
  · intro condition hmem
    rw [hstock] at hmem
    obtain ⟨before, hbefore, rfl⟩ := List.mem_map.mp hmem
    rw [(hidentity before hbefore).handle, hrevises.grid]
    exact h.handle_lt before hbefore
  · intro condition hmem other hother hhandle
    rw [hstock] at hmem hother
    obtain ⟨before, hbefore, rfl⟩ := List.mem_map.mp hmem
    obtain ⟨before', hbefore', rfl⟩ := List.mem_map.mp hother
    rw [(hidentity before hbefore).handle, (hidentity before' hbefore').handle] at hhandle
    rw [h.handle_unique before hbefore before' hbefore' hhandle]
  · intro condition hmem
    rw [hstock] at hmem
    obtain ⟨before, hbefore, rfl⟩ := List.mem_map.mp hmem
    exact Condition.isCanonical_of_steps (hsteps before hbefore) (h.canonical before hbefore)

/-! ## One condition at a time -/

/-- Changes the condition of a handle, and no other. -/
def touch (handle : Nat) (change : Condition → Condition) (condition : Condition) : Condition :=
  if condition.handle = handle then change condition else condition

lemma touch_of_handle_eq {handle : Nat} {change : Condition → Condition} {condition : Condition}
    (h : condition.handle = handle) : touch handle change condition = change condition :=
  if_pos h

lemma touch_of_handle_ne {handle : Nat} {change : Condition → Condition} {condition : Condition}
    (h : condition.handle ≠ handle) : touch handle change condition = condition :=
  if_neg h

lemma touch_comp_touch {handle : Nat} {change later : Condition → Condition}
    (hhandle : ∀ condition, (change condition).handle = condition.handle) :
    touch handle later ∘ touch handle change = touch handle (later ∘ change) := by
  funext condition
  rw [Function.comp_apply]
  by_cases hsame : condition.handle = handle
  · rw [touch_of_handle_eq hsame, touch_of_handle_eq hsame,
      touch_of_handle_eq ((hhandle condition).trans hsame), Function.comp_apply]
  · rw [touch_of_handle_ne hsame, touch_of_handle_ne hsame, touch_of_handle_ne hsame]

/-- A relation that holds of a condition and of its change holds of every condition that is
touched. -/
lemma related_touch (relation : Condition → Condition → Prop) {handle : Nat}
    {change : Condition → Condition} (hrefl : ∀ condition, relation condition condition)
    (hchange : ∀ condition, relation condition (change condition)) (condition : Condition) :
    relation condition (touch handle change condition) := by
  by_cases hsame : condition.handle = handle
  · rw [touch_of_handle_eq hsame]
    exact hchange condition
  · rw [touch_of_handle_ne hsame]
    exact hrefl condition

/-- Writing a condition back by its handle touches that condition and no other. -/
lemma Sound.replace (h : session.Sound settings) (change : Condition → Condition)
    {condition : Condition} (hmem : condition ∈ session.stock)
    (hhandle : (change condition).handle = condition.handle) :
    session.Revises (touch condition.handle change) (session.replace (change condition)) := by
  have hreplaced : session.Revises
      (fun other => if other.handle = (change condition).handle then change condition else other)
      (session.replace (change condition)) := ⟨rfl, rfl⟩
  refine hreplaced.congr fun other hother => ?_
  -- Another condition in stock with this handle is this condition.
  rw [hhandle]
  by_cases hsame : other.handle = condition.handle
  · rw [if_pos hsame, touch_of_handle_eq hsame, h.handle_unique other hother condition hmem hsame]
  · rw [if_neg hsame, touch_of_handle_ne hsame]

/-- Every condition in stock is found by its handle. -/
lemma Sound.condition?_eq_some (h : session.Sound settings) {condition : Condition}
    (hmem : condition ∈ session.stock) : session.condition? condition.handle = some condition := by
  cases hfound : session.condition? condition.handle with
  | none => exact absurd rfl (handle_ne_of_condition?_eq_none hfound condition hmem)
  | some found =>
      obtain ⟨hin, hhandle⟩ := mem_stock_of_condition? hfound
      rw [h.handle_unique found hin condition hmem hhandle]

lemma revises_of_condition?_eq_none {handle : Nat} (h : session.condition? handle = none)
    (change : Condition → Condition) : session.Revises (touch handle change) session :=
  (Revises.refl session).congr fun condition hmem =>
    (touch_of_handle_ne (handle_ne_of_condition?_eq_none h condition hmem)).symm

/-- An edit touches the condition of its handle and no other. -/
lemma Sound.edit (h : session.Sound settings) {change : Condition → List Change × Condition}
    (hhandle : ∀ condition, (change condition).2.handle = condition.handle) (handle : Nat) :
    session.Revises (touch handle fun condition => (change condition).2)
      (session.edit handle change).2 := by
  rw [Session.edit]
  cases hfound : session.condition? handle with
  | none => exact revises_of_condition?_eq_none hfound _
  | some condition =>
      obtain ⟨hmem, rfl⟩ := mem_stock_of_condition? hfound
      have hreplaced := h.replace (fun condition => (change condition).2) hmem (hhandle condition)
      exact ⟨hreplaced.grid, hreplaced.detached⟩

/-- An edit that is a step leaves the session sound. -/
lemma Sound.of_edit (h : session.Sound settings) {change : Condition → List Change × Condition}
    (hstep : ∀ condition, Condition.Step condition (change condition).2) (handle : Nat) :
    (session.edit handle change).2.Sound settings := by
  have hrevises := h.edit (fun condition => (hstep condition).identity.handle) handle
  refine h.of_revises hrevises fun condition _ => ?_
  exact related_touch _ (fun _ => .refl) (fun edited => .single (hstep edited)) condition

/-- Reading a control value touches the condition of its handle and no other. -/
lemma Sound.controlValue (h : session.Sound settings) (handle : Nat) :
    session.Revises (touch handle fun condition => condition.current.2)
      (session.controlValue handle).2 := by
  rw [Session.controlValue]
  cases hfound : session.condition? handle with
  | none => exact revises_of_condition?_eq_none hfound _
  | some condition =>
      obtain ⟨hmem, rfl⟩ := mem_stock_of_condition? hfound
      exact h.replace (·.current.2) hmem Condition.Step.read.identity.handle

/-- When the grid goes on, the stock gains the new conditions and loses none. -/
lemma mem_stock_withGrid {grid : Grid} {new : List Condition}
    (hnew : ∀ condition ∈ grid.conditions, condition ∈ session.grid.conditions ∨ condition ∈ new)
    {condition : Condition} (h : condition ∈ (session.withGrid grid).stock) :
    condition ∈ session.stock ∨ condition ∈ new := by
  rcases List.mem_append.mp h with hgrid | hdetached
  · rcases hnew condition hgrid with hold | hfresh
    · exact .inl (List.mem_append_left _ hold)
    · exact .inr hfresh
  · rcases List.mem_append.mp hdetached with hbefore | hgone
    · exact .inl (List.mem_append_right _ hbefore)
    · exact .inl (List.mem_append_left _ (List.mem_of_mem_filter hgone))

/-- When the grid goes on, the session keeps the conditions that leave it. -/
lemma Sound.withGrid (h : session.Sound settings) {grid : Grid}
    (hstep : session.grid.Step grid) : (session.withGrid grid).Sound settings := by
  obtain ⟨hsettings, new, hnumbered, hconditions⟩ := hstep.grows h.orderly
  have hstock : ∀ condition ∈ (session.withGrid grid).stock,
      condition ∈ session.stock ∨ condition ∈ new :=
    fun condition hmem => mem_stock_withGrid hconditions hmem
  constructor
  · exact hsettings.trans h.settings
  · exact hstep.orderly h.orderly
  · intro condition hmem
    rcases hstock condition hmem with hold | hnew
    · exact Nat.lt_of_lt_of_le (h.handle_lt condition hold) hnumbered.le
    · exact hnumbered.upper condition hnew
  · intro condition hmem other hother hhandle
    rcases hstock condition hmem with hold | hnew <;>
      rcases hstock other hother with hold' | hnew'
    · exact h.handle_unique condition hold other hold' hhandle
    · have hbelow := h.handle_lt condition hold
      have habove := hnumbered.lower other hnew'
      omega
    · have hbelow := h.handle_lt other hold'
      have habove := hnumbered.lower condition hnew
      omega
    · exact hnumbered.unique condition hnew other hnew' hhandle
  · intro condition hmem
    rcases hstock condition hmem with hold | hnew
    · exact h.canonical condition hold
    · exact hnumbered.canonical condition hnew

end Session

end GridFilter
