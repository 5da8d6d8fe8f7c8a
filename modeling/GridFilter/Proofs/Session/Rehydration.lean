import GridFilter.Proofs.Session.Accounting

/-!
# Applying an expression and reading it back

An application sends a grid's expression to the dataset, and the dataset reports the same expression
back.  Every open column is then read anew from the very entries that the grid wrote.  For the
editor nothing may change by that: the columns hold the same criteria in the same order, now all of
them from the dataset, and the grid gives out the same expression again.

## Why it holds

Three parties could spoil it.  A column could fail to read back what it wrote itself: it does not,
because what it holds is canonical and its menu offers the operator (`Column.criterion?_emit`).
Another column could read the entry as well: it could only do so across a name shadow
(`Column.shadow_of_both_claim`), so open columns must not be called like one another's shadows.  And
an entry that was carried over could be read by an open column: it is carried over because none
claims it.

## What it needs

The names of the open columns must have the documented form, an attribute or an attribute behind an
alias; an entry of a column with another name need not lead back to it.  The condition on shadows
cannot be dropped either: the grid would show the pattern of the one column in the other one too.
-/

namespace GridFilter

variable {settings : FilterSettings}

namespace Column

variable {column other : Column}

/-- No column reads what another one wrote, unless one of them is called like the shadow of the
other. -/
lemma criterion?_emit_of_ne (hother : other.WellNamed) (hne : column.name ≠ other.name)
    (hshadow : ¬ column.ShadowedBy settings other) (hshadow' : ¬ other.ShadowedBy settings column)
    (criterion : Criterion) :
    column.criterion? settings (other.emit settings criterion) = none := by
  apply criterion?_eq_none
  by_contra hclaims
  rw [Bool.not_eq_false] at hclaims
  have hown : other.claims settings (other.emit settings criterion) = true :=
    hother.claims_entry _
  rcases (shadow_of_both_claim hne hclaims hown).2 with h | h
  · exact hshadow h
  · exact hshadow' h

end Column

namespace Grid

/-! ## Reading the entries of an outline -/

lemma mem_emitted {outline : List (Column × List Criterion)} {entry : ConditionExpression} :
    entry ∈ emitted settings outline ↔
      ∃ column criteria, (column, criteria) ∈ outline ∧
        ∃ criterion ∈ criteria, column.emit settings criterion = entry := by
  rw [emitted, List.mem_flatMap]
  constructor
  · rintro ⟨⟨column, criteria⟩, hmem, hentry⟩
    exact ⟨column, criteria, hmem, List.mem_map.mp hentry⟩
  · rintro ⟨column, criteria, hmem, hentry⟩
    exact ⟨(column, criteria), hmem, List.mem_map.mpr hentry⟩

/-- Columns that may be read back side by side: each has a name of the documented form, and none is
called like the shadow of another. -/
structure Separated (settings : FilterSettings) (columns : List Column) : Prop where
  wellNamed : ∀ column ∈ columns, column.WellNamed
  unshadowed : ∀ column ∈ columns, ∀ other ∈ columns, ¬ column.ShadowedBy settings other

/-- Criteria that a column reads back from what it writes. -/
def Readable (column : Column) (criteria : List Criterion) : Prop :=
  ∀ criterion ∈ criteria,
    criterion.IsCanonical column.kind ∧ column.supports criterion.operator = true

/-- What a column reads from the entries of an outline is what the outline has for it. -/
lemma filterMap_criterion?_emitted {outline : List (Column × List Criterion)}
    (hnames : ((outline.map Prod.fst).map Column.name).Nodup)
    (hseparated : Separated settings (outline.map Prod.fst)) {column : Column}
    {criteria : List Criterion} (hmem : (column, criteria) ∈ outline)
    (hreadable : Readable column criteria) :
    (emitted settings outline).filterMap (column.criterion? settings) = criteria := by
  obtain ⟨before, after, rfl⟩ := List.append_of_mem hmem
  have hcolumn : column.WellNamed :=
    hseparated.wellNamed column (List.mem_map_of_mem (f := Prod.fst) hmem)
  -- The column's own entries come back one by one.
  have hown : (criteria.map (column.emit settings)).filterMap (column.criterion? settings) =
      criteria := by
    rw [List.filterMap_map, List.filterMap_congr fun criterion hin => ?_, List.filterMap_some]
    obtain ⟨hcanonical, hsupports⟩ := hreadable criterion hin
    exact Column.criterion?_emit hcolumn hcanonical hsupports
  -- The entries of the other columns give nothing.
  have hforeign : ∀ others : List (Column × List Criterion),
      (∀ pair ∈ others, pair ∈ before ++ (column, criteria) :: after ∧
        column.name ≠ pair.1.name) →
      (emitted settings others).filterMap (column.criterion? settings) = [] := by
    intro others hothers
    rw [List.filterMap_eq_nil_iff]
    intro entry hentry
    obtain ⟨other, held, hin, criterion, -, rfl⟩ := mem_emitted.mp hentry
    obtain ⟨hlisted, hne⟩ := hothers (other, held) hin
    have hopen := List.mem_map_of_mem (f := Prod.fst) hlisted
    have hopen' := List.mem_map_of_mem (f := Prod.fst) hmem
    exact Column.criterion?_emit_of_ne (hseparated.wellNamed other hopen) hne
      (hseparated.unshadowed column hopen' other hopen)
      (hseparated.unshadowed other hopen column hopen') criterion
  simp only [List.map_append, List.map_cons] at hnames
  rw [List.nodup_append, List.nodup_cons] at hnames
  obtain ⟨-, ⟨hafter, -⟩, hbefore⟩ := hnames
  have hbeforeNil := hforeign before fun pair hin =>
    ⟨List.mem_append_left _ hin, fun hsame => hbefore pair.1.name
      (List.mem_map_of_mem (List.mem_map_of_mem hin)) column.name List.mem_cons_self hsame.symm⟩
  have hafterNil := hforeign after fun pair hin =>
    ⟨List.mem_append_right _ (List.mem_cons_of_mem _ hin), fun hsame => hafter
      (hsame ▸ List.mem_map_of_mem (List.mem_map_of_mem hin))⟩
  rw [emitted] at hbeforeNil hafterNil ⊢
  rw [List.flatMap_append, List.flatMap_cons, List.filterMap_append, List.filterMap_append, hown,
    hbeforeNil, hafterNil, List.nil_append, List.append_nil]

/-! ## Reading a grid's own expression -/

variable {grid : Grid} {combinator : Combinator} {sent : FilterExpression}

/-- The criteria of every condition are canonical. -/
def Canonical (grid : Grid) : Prop :=
  ∀ condition ∈ grid.conditions, condition.criterion.IsCanonical condition.column.kind

/-- When an expression is given out, every column reads back what it holds. -/
lemma readable_of_expression (horderly : grid.Orderly) (hcanonical : grid.Canonical)
    (hvalid : ∀ condition ∈ grid.conditions, condition.isValid = true) {column : Column}
    {criteria : List Criterion} (hmem : (column, criteria) ∈ grid.outline) :
    Readable column criteria := by
  have haccepts := (forall_isValid_iff_outline horderly).mp hvalid column criteria hmem
  obtain ⟨filter, hfilter, heq⟩ := List.mem_map.mp hmem
  obtain ⟨rfl, rfl⟩ := Prod.mk.inj heq
  intro criterion hin
  refine ⟨?_, Column.supports_of_accepts (haccepts criterion hin)⟩
  obtain ⟨condition, hcondition, rfl⟩ := List.mem_map.mp hin
  rw [← horderly.coherent filter hfilter condition hcondition]
  exact hcanonical condition (mem_conditions.mpr ⟨filter, hfilter, hcondition⟩)

lemma claims_eq_false_of_mem_unclaimed {entry : ConditionExpression}
    (h : entry ∈ grid.unclaimed) : grid.claims entry = false := by
  rw [unclaimed] at h
  cases hdataset : grid.dataset with
  | none =>
      rw [hdataset] at h
      exact absurd h List.not_mem_nil
  | some report =>
      rw [hdataset] at h
      have hclaims := (List.mem_filter.mp h).2
      rwa [Bool.not_eq_true'] at hclaims

/-- The entries that a grid writes itself are claimed by it. -/
lemma claims_of_mem_emitted (hseparated : Separated grid.settings grid.columns)
    {entry : ConditionExpression} (h : entry ∈ emitted grid.settings grid.outline) :
    grid.claims entry = true := by
  obtain ⟨column, criteria, hmem, criterion, -, rfl⟩ := mem_emitted.mp h
  have hopen : column ∈ grid.columns := by
    rw [← map_fst_outline]
    exact List.mem_map_of_mem (f := Prod.fst) hmem
  rw [claims_eq_any_columns, List.any_eq_true]
  exact ⟨column, hopen, (hseparated.wellNamed column hopen).claims_entry _⟩

/-- Reported back to the grid, its own expression leaves every column what it held. -/
lemma outline_datasetChanged_of_expression (horderly : grid.Orderly)
    (hcanonical : grid.Canonical) (hseparated : Separated grid.settings grid.columns)
    (hsent : grid.expression combinator = .ok sent) :
    (grid.datasetChanged sent).outline = grid.outline := by
  have hvalid := (expression_eq_ok_iff.mp hsent).1
  have hcriteria : ∀ column criteria, (column, criteria) ∈ grid.outline →
      column.criteria grid.settings sent = criteria := by
    intro column criteria hmem
    have hopen : column ∈ grid.columns := by
      rw [← map_fst_outline]
      exact List.mem_map_of_mem (f := Prod.fst) hmem
    have hnames := horderly.names
    rw [← map_fst_outline] at hnames hseparated
    have hown := filterMap_criterion?_emitted hnames hseparated hmem
      (readable_of_expression horderly hcanonical hvalid hmem)
    -- What is carried over is claimed by no open column, so this one reads nothing from it.
    have hcarried : grid.unclaimed.filterMap (column.criterion? grid.settings) = [] := by
      rw [List.filterMap_eq_nil_iff]
      intro entry hentry
      have hclaims := claims_eq_false_of_mem_unclaimed hentry
      rw [claims_eq_any_columns, List.any_eq_false] at hclaims
      exact Column.criterion?_eq_none (eq_false_of_ne_true (hclaims column hopen))
    rw [Column.criteria, conditions_of_expression horderly hsent, List.filterMap_append, hown,
      hcarried, List.append_nil]
  rw [outline_datasetChanged, ← map_fst_outline, List.map_map]
  refine (List.map_congr_left fun pair hmem => ?_).trans (List.map_id _)
  exact Prod.ext rfl (hcriteria pair.1 pair.2 hmem)

/-- Reported back to the grid, its own expression is carried over as before. -/
lemma unclaimed_datasetChanged_of_expression (horderly : grid.Orderly)
    (hseparated : Separated grid.settings grid.columns)
    (hsent : grid.expression combinator = .ok sent) :
    (grid.datasetChanged sent).unclaimed = grid.unclaimed := by
  have hown : (emitted grid.settings grid.outline).filter (fun entry => !grid.claims entry) =
      [] := by
    rw [List.filter_eq_nil_iff]
    intro entry hmem
    rw [claims_of_mem_emitted hseparated hmem]
    exact Bool.false_ne_true
  have hcarried : grid.unclaimed.filter (fun entry => !grid.claims entry) = grid.unclaimed := by
    rw [List.filter_eq_self]
    intro entry hmem
    rw [claims_eq_false_of_mem_unclaimed hmem]
    rfl
  rw [unclaimed_datasetChanged, conditions_of_expression horderly hsent, List.filter_append, hown,
    hcarried, List.nil_append]

/-- Reported back to the grid, its own expression is given out again. -/
lemma expression_datasetChanged_of_expression (horderly : grid.Orderly)
    (hcanonical : grid.Canonical) (hseparated : Separated grid.settings grid.columns)
    (hsent : grid.expression combinator = .ok sent) :
    (grid.datasetChanged sent).expression combinator = .ok sent := by
  have houtline :=
    outline_datasetChanged_of_expression horderly hcanonical hseparated hsent
  have hcarried := unclaimed_datasetChanged_of_expression horderly hseparated hsent
  have horderly' : (grid.datasetChanged sent).Orderly :=
    (Step.datasetChanged sent).orderly horderly
  obtain ⟨hvalid, hexpression⟩ := expression_eq_ok_iff.mp hsent
  rw [expression_eq_ok_iff]
  constructor
  · rw [forall_isValid_iff_outline horderly', houtline]
    exact (forall_isValid_iff_outline horderly).mp hvalid
  · rw [flatMap_entries horderly', houtline, hcarried]
    rw [flatMap_entries horderly] at hexpression
    have hgroups : (grid.datasetChanged sent).groups = grid.groups :=
      congrArg FilterExpression.groups hexpression
    rw [hgroups]
    exact hexpression

end Grid

namespace Workspace

/-! ## Every run -/

lemma gridAfter_datasetChanged (settings : FilterSettings) (actions : List Action)
    (expression : FilterExpression) :
    gridAfter settings (actions ++ [.datasetChanged expression]) =
      (gridAfter settings actions).datasetChanged expression := by
  rw [gridAfter, run_append]
  rfl

/-- Whatever was done with a grid, when its expression is given out and the dataset reports it back,
every column holds the criteria that it held, in the same order and all from the dataset, and the
same expression is given out again. -/
theorem expression_reported (settings : FilterSettings) (actions : List Action)
    (combinator : Combinator) (sent : FilterExpression)
    (hseparated : Grid.Separated settings (gridAfter settings actions).columns)
    (hsent : (gridAfter settings actions).expression combinator = .ok sent) :
    (gridAfter settings (actions ++ [.datasetChanged sent])).outline =
        (gridAfter settings actions).outline ∧
      (∀ condition ∈ (gridAfter settings (actions ++ [.datasetChanged sent])).conditions,
        condition.isHydrated = true) ∧
      (gridAfter settings (actions ++ [.datasetChanged sent])).expression combinator =
        .ok sent := by
  have hsound := sound_run settings actions
  have hcanonical : (gridAfter settings actions).Canonical :=
    fun condition hmem => hsound.canonical condition (List.mem_append_left _ hmem)
  have hsettings : (gridAfter settings actions).settings = settings := hsound.settings
  rw [gridAfter_datasetChanged]
  refine ⟨?_, fun condition hmem => Grid.isHydrated_datasetChanged hmem, ?_⟩
  · exact Grid.outline_datasetChanged_of_expression hsound.orderly hcanonical
      (hsettings.symm ▸ hseparated) hsent
  · exact Grid.expression_datasetChanged_of_expression hsound.orderly hcanonical
      (hsettings.symm ▸ hseparated) hsent

/-- A joined choice column that was read from the dataset, with a pattern on its name among the
entries, beside a text column that was opened and edited. -/
theorem expression_reported_status :
    let status : Column :=
      ⟨"acc.status", .optionSet, { options := [⟨1, "Open"⟩, ⟨2, "Won"⟩] }⟩
    let city : Column := ⟨"city", .text, {}⟩
    let actions : List Action :=
      [.openColumn status,
       .datasetChanged
        { conditions :=
            [⟨"status", some "acc", .isIn, .list [some "1", some "2"]⟩,
             ⟨"statusname", some "acc", .like, .scalar "O%"⟩,
             ⟨"revenue", none, .greaterThan, .scalar "5"⟩] },
       .openColumn city, .addCondition "city" "added", .setOperator 2 .like,
       .setValue 2 (.text "Ber"), .startLoad 0]
    let sent : FilterExpression :=
      { conditions :=
          [⟨"status", some "acc", .isIn, .list [some "1", some "2"]⟩,
           ⟨"statusname", some "acc", .like, .scalar "%O%"⟩,
           ⟨"city", none, .like, .scalar "%Ber%"⟩,
           ⟨"revenue", none, .greaterThan, .scalar "5"⟩] }
    Grid.Separated {} (gridAfter {} actions).columns ∧
      (gridAfter {} actions).expression .and = .ok sent ∧
      (gridAfter {} (actions ++ [.datasetChanged sent])).outline =
        (gridAfter {} actions).outline ∧
      (gridAfter {} (actions ++ [.datasetChanged sent])).expression .and = .ok sent := by
  intro status city actions sent
  have hcolumns : (gridAfter {} actions).columns = [status, city] := by
    dsimp only [actions, status, city]
    rfl
  have hseparated : Grid.Separated {} (gridAfter {} actions).columns := by
    rw [hcolumns]
    constructor
    · intro column hmem
      rcases List.mem_pair.mp hmem with rfl | rfl
      · exact .joined "acc" "status" (by decide) (by decide) (by decide) (by decide)
      · exact .plain (by decide) (by decide)
    · intro column hmem other hother
      rcases List.mem_pair.mp hmem with rfl | rfl <;>
        rcases List.mem_pair.mp hother with rfl | rfl <;>
        · unfold Column.ShadowedBy
          decide
  have hsent : (gridAfter {} actions).expression .and = .ok sent := by
    dsimp only [actions, status, city, sent]
    rfl
  have hreported := expression_reported {} actions .and sent hseparated hsent
  exact ⟨hseparated, hsent, hreported.1, hreported.2.2⟩

end Workspace

end GridFilter
