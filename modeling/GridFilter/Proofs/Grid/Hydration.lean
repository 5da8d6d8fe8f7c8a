import GridFilter.Grid.ColumnFilter
import GridFilter.Proofs.Column.Claims
import GridFilter.Proofs.Criterion.Canonical

/-!
# A column filter as a list of criteria

Ids, handles and origins aside, a column filter is its column and the criteria of its conditions.
`ColumnFilter.criteria` is that view.  What a filter sends (`entries_eq_map`) and whether a
condition is in order (`isValid_eq_accepts`) depend on nothing else, and reading an expression gives
exactly the criteria of the entries that belong to the column (`criteria_ofExpression`).

The last section closes the circle for a single criterion: a column that writes it as an entry reads
the same criterion back (`criterion?_emit`).
-/

namespace GridFilter

variable {settings : FilterSettings} {column : Column}

/-! ## Labels -/

lemma map_snd_labelledAfter {α : Type} (label : α → String) (earlier : List String)
    (items : List α) : (labelledAfter label earlier items).map Prod.snd = items := by
  induction items generalizing earlier with
  | nil => rfl
  | cons item rest ih => rw [labelledAfter, List.map_cons, ih]

lemma map_snd_labelled {α : Type} (label : α → String) (items : List α) :
    (labelled label items).map Prod.snd = items :=
  map_snd_labelledAfter label [] items

/-! ## Sending and accepting a criterion -/

namespace Column

/-- The entry that a criterion of the column is sent as. -/
def emit (column : Column) (settings : FilterSettings) (criterion : Criterion) :
    ConditionExpression :=
  column.entry settings (criterion.decorate column.kind settings.wildcard)

/-- The entry that a column sends for one that it read and that was not edited. -/
def again (column : Column) (settings : FilterSettings) (entry : ConditionExpression) :
    ConditionExpression :=
  column.emit settings
    (Criterion.undecorate column.kind settings.wildcard ⟨entry.operator, entry.value⟩)

/-- The column reads an entry: it claims it, and it offers the operator that an editor would show
for it. -/
def takes (column : Column) (settings : FilterSettings) (entry : ConditionExpression) : Bool :=
  column.claims settings entry && column.supports
    (Criterion.undecorate column.kind settings.wildcard ⟨entry.operator, entry.value⟩).operator

/-- The column has no complaint about a criterion. -/
def accepts (column : Column) (criterion : Criterion) : Bool :=
  !(column.validate criterion.operator criterion.wire).hasErrors

/-- A column complains about every operator that it does not offer. -/
lemma supports_of_accepts {criterion : Criterion} (h : column.accepts criterion = true) :
    column.supports criterion.operator = true := by
  by_contra hsupports
  rw [Bool.not_eq_true] at hsupports
  rw [accepts, validate, ColumnKind.validate_of_not_supports hsupports, Operator.slotCount] at h
  cases hrange : criterion.operator.isRange <;>
    simp [hrange, Verdict.hasErrors, List.replicate] at h

end Column

/-! ## Column filters -/

namespace ColumnFilter

variable {filter : ColumnFilter}

/-- The criteria of a filter's conditions, in order. -/
def criteria (filter : ColumnFilter) : List Criterion :=
  filter.conditions.map Condition.criterion

/-- Every condition of the filter is on the filter's column. -/
def Coherent (filter : ColumnFilter) : Prop :=
  ∀ condition ∈ filter.conditions, condition.column = filter.column

lemma entries_eq_map (h : filter.Coherent) :
    filter.entries settings = filter.criteria.map (filter.column.emit settings) := by
  rw [entries, criteria, List.map_map]
  refine List.map_congr_left fun condition hmem => ?_
  rw [Condition.sent, h condition hmem]
  rfl

lemma isValid_eq_accepts (condition : Condition) :
    condition.isValid = condition.column.accepts condition.criterion := rfl

lemma forall_isValid_iff (h : filter.Coherent) :
    (∀ condition ∈ filter.conditions, condition.isValid = true) ↔
      ∀ criterion ∈ filter.criteria, filter.column.accepts criterion = true := by
  rw [criteria, List.forall_mem_map]
  refine forall₂_congr fun condition hmem => ?_
  rw [isValid_eq_accepts, h condition hmem]

/-! ### Filters read from an expression -/

/-- The conditions read from an expression have their handles from `first` on. -/
lemma mem_ofExpression {expression : FilterExpression} {first : Nat} {condition : Condition}
    (h : condition ∈ (ofExpression settings column expression first).conditions) :
    ∃ handle id criterion, condition = Condition.hydrated handle id column criterion ∧
      criterion ∈ column.criteria settings expression ∧ first ≤ handle ∧
      handle < first + (ofExpression settings column expression first).conditions.length := by
  obtain ⟨⟨⟨id, criterion⟩, handle⟩, hmem, rfl⟩ := List.mem_map.mp h
  obtain ⟨hlow, hhigh, hitem⟩ := List.mem_zipIdx hmem
  refine ⟨handle, id, criterion, rfl, ?_, hlow, ?_⟩
  · rw [← map_snd_labelled (Criterion.id column.name) (column.criteria settings expression)]
    exact List.mem_map.mpr ⟨(id, criterion), hitem ▸ List.getElem_mem _, rfl⟩
  · rwa [ofExpression, List.length_map, List.length_zipIdx]

lemma coherent_ofExpression (expression : FilterExpression) (first : Nat) :
    (ofExpression settings column expression first).Coherent := by
  intro condition hmem
  obtain ⟨handle, id, criterion, rfl, -⟩ := mem_ofExpression hmem
  rfl

@[simp] lemma column_ofExpression (expression : FilterExpression) (first : Nat) :
    (ofExpression settings column expression first).column = column := rfl

/-- Reading an expression gives the criteria of the entries that belong to the column. -/
@[simp] lemma criteria_ofExpression (expression : FilterExpression) (first : Nat) :
    (ofExpression settings column expression first).criteria =
      column.criteria settings expression := by
  have hcriteria : ∀ items : List (String × Criterion),
      ((items.zipIdx first).map fun item =>
        Condition.hydrated item.2 item.1.1 column item.1.2).map Condition.criterion =
          items.map Prod.snd := by
    intro items
    have hitems := congrArg (List.map Prod.snd) (List.zipIdx_map_fst first items)
    rwa [List.map_map] at hitems ⊢
  have hlabels := map_snd_labelled (Criterion.id column.name) (column.criteria settings expression)
  exact (hcriteria _).trans hlabels

end ColumnFilter

/-! ## Reading back what was sent -/

namespace Column

lemma criterion?_eq_some_iff {entry : ConditionExpression} {criterion : Criterion} :
    column.criterion? settings entry = some criterion ↔
      column.claims settings entry = true ∧
        Criterion.undecorate column.kind settings.wildcard ⟨entry.operator, entry.value⟩ =
          criterion ∧
        column.supports criterion.operator = true := by
  rw [criterion?]
  by_cases hclaims : column.claims settings entry = true
  · rw [if_pos hclaims, Option.filter_eq_some_iff, Option.some_inj]
    exact ⟨fun h => ⟨hclaims, h⟩, fun h => h.2⟩
  · rw [if_neg hclaims]
    exact ⟨fun h => absurd h.symm (Option.some_ne_none criterion), fun h => absurd h.1 hclaims⟩

/-- What a column sends for the entries that it reads. -/
lemma map_emit_criteria (column : Column) (settings : FilterSettings)
    (expression : FilterExpression) :
    (column.criteria settings expression).map (column.emit settings) =
      (expression.conditions.filter (column.takes settings)).map (column.again settings) := by
  rw [criteria]
  induction expression.conditions with
  | nil => rfl
  | cons entry rest ih =>
      by_cases htakes : column.takes settings entry = true
      · have hread : column.criterion? settings entry = some (Criterion.undecorate column.kind
            settings.wildcard ⟨entry.operator, entry.value⟩) := by
          rw [takes, Bool.and_eq_true] at htakes
          exact criterion?_eq_some_iff.mpr ⟨htakes.1, rfl, htakes.2⟩
        rw [List.filterMap_cons_some hread, List.filter_cons_of_pos htakes, List.map_cons,
          List.map_cons, ih, again]
      · have hread : column.criterion? settings entry = none := by
          by_contra hsome
          obtain ⟨criterion, hcriterion⟩ := Option.ne_none_iff_exists'.mp hsome
          obtain ⟨hclaims, rfl, hsupports⟩ := criterion?_eq_some_iff.mp hcriterion
          rw [takes, hclaims, hsupports] at htakes
          exact htakes rfl
        rw [List.filterMap_cons_none hread, List.filter_cons_of_neg htakes, ih]

/-- An entry that a column does not claim gives it no criterion. -/
lemma criterion?_eq_none {entry : ConditionExpression}
    (h : column.claims settings entry = false) : column.criterion? settings entry = none :=
  if_neg (by rw [h]; exact Bool.false_ne_true)

/-- A criterion that a column reads is canonical. -/
lemma isCanonical_of_criterion? {entry : ConditionExpression} {criterion : Criterion}
    (h : column.criterion? settings entry = some criterion) :
    criterion.IsCanonical column.kind := by
  obtain ⟨-, rfl, -⟩ := criterion?_eq_some_iff.mp h
  exact Criterion.isCanonical_undecorate column.kind settings.wildcard _

lemma mem_criteria {expression : FilterExpression} {criterion : Criterion}
    (h : criterion ∈ column.criteria settings expression) :
    ∃ entry ∈ expression.conditions, column.criterion? settings entry = some criterion :=
  List.mem_filterMap.mp h

/-- A well-named column reads the criterion back from the entry that it wrote. -/
lemma criterion?_emit (hname : column.WellNamed) {criterion : Criterion}
    (hcanonical : criterion.IsCanonical column.kind)
    (hsupports : column.supports criterion.operator = true) :
    column.criterion? settings (column.emit settings criterion) = some criterion := by
  rw [criterion?_eq_some_iff]
  refine ⟨hname.claims_entry _, ?_, hsupports⟩
  exact Criterion.undecorate_decorate hcanonical (ColumnKind.singleValued?_of_supports hsupports)

end Column

end GridFilter
