import GridFilter.Proofs.Condition.Written

/-!
# What validation passes over

A condition that is read from a document takes the value as the document has it, whatever its form,
and as long as it is not edited this value is what is sent.  `Criterion.Covered` would say that
validation has looked at all of it: every text in it is in order, a range has its two bounds and
nothing more, and an operator without a value has none.

Validation does not ensure that (`Condition.isValid_of_text_passed_over`).  It sees the first text
where one is asked for, the first two items of a range, and nothing of the value of an operator that
takes none.  `Criterion.Judged` is what it does ensure: which texts are in order whatever form the
value has, and that all of them are when the value is of the form that belongs to its operator.
-/

namespace GridFilter

variable {column : Column} {criterion : Criterion}

namespace Criterion

/-- All of the value is in order. -/
structure Covered (column : Column) (criterion : Criterion) : Prop where
  admitted : ∀ text ∈ criterion.wire.values,
    (column.valueShape criterion.operator).Admits column text
  bounds : criterion.operator.isRange = true →
    ∃ lower upper, criterion.wire = .range lower upper
  nothing : criterion.operator.isValueless = true → criterion.wire = .null

/-- The value is of the form that belongs to its operator: none, two items, a list, or one text. -/
structure InForm (column : Column) (criterion : Criterion) : Prop where
  nothing : criterion.operator.isValueless = true → criterion.wire = .null
  bounds : criterion.operator.isRange = true → ∃ lower upper, criterion.wire = .range lower upper
  single : (column.valueShape criterion.operator).isList = false →
    criterion.operator.isRange = false → criterion.wire.values.length ≤ 1

/-- What validation makes sure of in a value of any form. -/
structure Judged (column : Column) (criterion : Criterion) : Prop where
  /-- Some choice or reference is there, and every one is in order. -/
  listed : (column.valueShape criterion.operator).isList = true →
    criterion.wire.isEmpty = false ∧
      ∀ text ∈ criterion.wire.values, (column.valueShape criterion.operator).Admits column text
  /-- Both bounds are there and in order; more may follow. -/
  bounds : criterion.operator.isRange = true → ∃ lower upper rest,
    criterion.wire = .list (some lower :: some upper :: rest) ∧
      (column.valueShape criterion.operator).Admits column lower ∧
      (column.valueShape criterion.operator).Admits column upper
  /-- The first text is there and in order; more may follow. -/
  single : criterion.operator.isValueless = false → criterion.operator.isRange = false →
    (column.valueShape criterion.operator).isList = false → ∃ text rest,
      criterion.wire.values = text :: rest ∧ Text.isAllBlank text = false ∧
        (column.valueShape criterion.operator).Admits column text
  /-- Patterns apart, the texts in the value are the ones that are sent. -/
  sent : ∀ wildcard, criterion.operator.isPattern = false →
    (criterion.decorate column.kind wildcard).wire.values = criterion.wire.values
  /-- A value of the form that belongs to its operator is in order throughout. -/
  covered : criterion.InForm column → criterion.Covered column

lemma values_spread (several : Operator) (criterion : Criterion) :
    (criterion.spread several).wire.values = criterion.wire.values := by
  unfold spread
  split
  · next hsingle => simp [hsingle, WireValue.values]
  · rfl
  · rfl

/-- Only wildcards change the texts of a value on its way out. -/
lemma values_decorate {kind : ColumnKind} {wildcard : String}
    (hpattern : criterion.operator.isPattern = false) :
    (criterion.decorate kind wildcard).wire.values = criterion.wire.values := by
  unfold decorate
  rw [hpattern, if_neg Bool.false_ne_true]
  split
  · split
    · exact values_spread _ criterion
    · rfl
  · rfl

end Criterion

namespace Column

/-- A value of the form that belongs to its operator is seen in full. -/
lemma covered_of_inForm (haccepts : column.accepts criterion = true)
    (hform : criterion.InForm column) : criterion.Covered column := by
  refine ⟨?_, hform.bounds, hform.nothing⟩
  intro text hmem
  cases hvalue : criterion.operator.isValueless with
  | true =>
      rw [hform.nothing hvalue] at hmem
      simp [WireValue.values] at hmem
  | false =>
      have hpasses := passes_of_accepts haccepts hvalue
      have hshape : (column.valueShape criterion.operator).isRange = criterion.operator.isRange :=
        ValueShape.isRange_of_supports (supports_of_accepts haccepts)
      cases hrange : criterion.operator.isRange with
      | true =>
          obtain ⟨lower, upper, rest, hwire, hlower, hupper⟩ :=
            hpasses.bounds (hshape.trans hrange)
          obtain ⟨first, second, hpair⟩ := hform.bounds hrange
          have hrest : rest = [] := WireValue.rest_eq_nil (hwire.symm.trans hpair)
          rw [hwire, hrest] at hmem
          have hone : text = lower ∨ text = upper := by simpa [WireValue.values] using hmem
          rcases hone with rfl | rfl
          · exact hlower
          · exact hupper
      | false =>
          cases hlist : (column.valueShape criterion.operator).isList with
          | true => exact (hpasses.listed hlist).2 text hmem
          | false =>
              obtain ⟨first, rest, hvalues, -, hadmits⟩ :=
                hpasses.single hlist (hshape.trans hrange)
              have hlength := hform.single hlist hrange
              rw [hvalues, List.length_cons] at hlength
              have hrest : rest = [] := List.eq_nil_of_length_eq_zero (by omega)
              rw [hvalues, hrest, List.mem_singleton] at hmem
              rwa [hmem]

/-- What a column accepts it has judged. -/
lemma judged_of_accepts (haccepts : column.accepts criterion = true) :
    criterion.Judged column := by
  have hshape : (column.valueShape criterion.operator).isRange = criterion.operator.isRange :=
    ValueShape.isRange_of_supports (supports_of_accepts haccepts)
  refine ⟨?_, ?_, ?_, fun wildcard hpattern => Criterion.values_decorate hpattern,
    covered_of_inForm haccepts⟩
  · intro hlist
    have hsome : column.valueShape criterion.operator ≠ .nothing := by
      intro hnothing
      simp [hnothing, ValueShape.isList] at hlist
    have hvalue := ValueShape.isValueless_of_ne_nothing hsome
    exact (passes_of_accepts haccepts hvalue).listed hlist
  · intro hrange
    have hsome : column.valueShape criterion.operator ≠ .nothing := by
      intro hnothing
      simp [hnothing, ValueShape.isRange, hrange] at hshape
    have hvalue := ValueShape.isValueless_of_ne_nothing hsome
    exact (passes_of_accepts haccepts hvalue).bounds (hshape.trans hrange)
  · intro hvalue hrange hlist
    exact (passes_of_accepts haccepts hvalue).single hlist (hshape.trans hrange)

end Column

namespace Condition

/-- Whatever an expression held, a condition that was read from it and not edited since has the
criterion that was read, and when it is in order validation has judged that. -/
theorem judged_of_isValid (settings : FilterSettings) (column : Column)
    (expression : FilterExpression) (first : Nat) {condition : Condition}
    (hmem : condition ∈ (ColumnFilter.ofExpression settings column expression first).conditions)
    (moves : List Activity.Move)
    (hedits : Activity.edits { condition := condition } moves = false)
    (hvalid : (Activity.run { condition := condition } moves).condition.isValid = true) :
    (Activity.run { condition := condition } moves).condition.criterion = condition.criterion ∧
      condition.criterion.Judged column := by
  obtain ⟨handle, id, criterion, rfl, -⟩ := ColumnFilter.mem_ofExpression hmem
  have hsame := Activity.criterion_run hedits
  rw [ColumnFilter.isValid_eq_accepts, Activity.column_run, hsame] at hvalid
  exact ⟨hsame, Column.judged_of_accepts hvalid⟩

/-- Two days between which a date is asked for, read and set to the operator they have. -/
theorem judged_of_isValid_between :
    let column : Column := ⟨"createdon", .dateOnly, {}⟩
    let entry : ConditionExpression :=
      ⟨"createdon", none, .between, .range (some "2024-01-01") (some "2024-01-31")⟩
    let filter := ColumnFilter.ofExpression {} column { conditions := [entry] } 0
    let moves : List Activity.Move := [.read, .setOperator .between]
    filter.conditions.length = 1 ∧ ∀ condition ∈ filter.conditions,
      Activity.edits { condition := condition } moves = false ∧
        (Activity.run { condition := condition } moves).condition.isValid = true ∧
        (Activity.run { condition := condition } moves).condition.criterion = condition.criterion ∧
        condition.criterion.Judged column := by
  intro column entry filter moves
  have hin : ∀ condition ∈ filter.conditions,
      Activity.edits { condition := condition } moves = false ∧
        (Activity.run { condition := condition } moves).condition.isValid = true := by
    decide +kernel
  refine ⟨by decide +kernel, ?_⟩
  intro condition hmem
  obtain ⟨hedits, hvalid⟩ := hin condition hmem
  exact ⟨hedits, hvalid, judged_of_isValid {} column _ 0 hmem moves hedits hvalid⟩

/-- Validation is satisfied with the first text of a list, and the whole list is sent. -/
theorem isValid_of_text_passed_over :
    let column : Column := ⟨"amount", .decimal, {}⟩
    let entry : ConditionExpression := ⟨"amount", none, .equal, .list [some "1", some "abc"]⟩
    let filter := ColumnFilter.ofExpression {} column { conditions := [entry] } 0
    filter.entries {} = [entry] ∧ ∃ condition ∈ filter.conditions,
      condition.isValid = true ∧ ¬ condition.criterion.Covered column := by
  intro column entry filter
  have hentries : filter.entries {} = [entry] := by decide +kernel
  refine ⟨hentries, _, List.mem_cons_self, by decide +kernel, ?_⟩
  intro hcovered
  obtain ⟨found, hfound, -⟩ := hcovered.admitted "abc" (by decide +kernel)
  have hnone : Number.read? "abc" = none := by decide +kernel
  rw [hnone] at hfound
  exact absurd hfound.symm (Option.some_ne_none found)

end Condition

end GridFilter
