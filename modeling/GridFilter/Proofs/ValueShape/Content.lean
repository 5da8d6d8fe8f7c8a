import GridFilter.Proofs.Condition.Memo
import GridFilter.Proofs.ValueShape.Rewriting

/-!
# What is accepted is shown

A value that validation accepts should not look empty in an editor.  Validation looks at a value one
way and the editor another, so this takes a proof: `Column.decodeValue_of_validate`.  It fails for
one combination only.  A search box takes a single text, and of a list validation takes the first
text, so a list under a search operator may be accepted while the editor shows nothing
(`Column.accepted_list_not_searched`).

## The argument

`ValueShape.isNull_decode_iff` finds the shapes that read nothing from a value that is not empty.
What any other shape reads is a control value of its own, and what is written for that is accepted too
(`ValueShape.exists_own_of_passes`).  A control value of which this is true has content: a box that
is blank, a range with an open side and a list without entries are all written as something that
validation complains about (`ValueShape.Own.hasContent`).
-/

namespace GridFilter

/-! ## Something to show -/

namespace ControlValue

/-- There is something for an editor to show: a value, both bounds of a range, some entry of a
list. -/
def HasContent : ControlValue → Prop
  | .null => False
  | .text value => Text.isAllBlank value = false
  | .number _ | .date _ => True
  | .numberRange lower upper => lower.isSome = true ∧ upper.isSome = true
  | .dateRange lower upper => lower.isSome = true ∧ upper.isSome = true
  | .options values => values ≠ []
  | .references found => found ≠ []

/-- Both slots of a range are present. -/
def HasBounds (value : ControlValue) : Prop :=
  (∃ lower upper, value = .numberRange (some lower) (some upper)) ∨
    ∃ lower upper, value = .dateRange (some lower) (some upper)

lemma HasContent.isNull {value : ControlValue} (h : value.HasContent) : value.isNull = false := by
  cases value with
  | null => exact absurd h not_false
  | _ => rfl

end ControlValue

/-- An empty value has no text but the empty one. -/
lemma WireValue.eq_empty_of_mem {wire : WireValue} {text : String} (hempty : wire.isEmpty = true)
    (hmem : text ∈ wire.values) : text = "" := by
  cases wire with
  | null => simp [values] at hmem
  | scalar single =>
      obtain rfl : text = single := by simpa [values] using hmem
      simpa [isEmpty] using hempty
  | list items =>
      have hitem : some text ∈ items := by simpa [values] using hmem
      rw [isEmpty, List.all_eq_true] at hempty
      simpa [isBlankItem] using hempty (some text) hitem

/-- Two bounds that begin with two texts are both there. -/
lemma WireValue.isSome_of_range {lower upper : Option String} {first second : String}
    {rest : List (Option String)} (h : range lower upper = .list (some first :: some second :: rest)) :
    lower.isSome = true ∧ upper.isSome = true := by
  have hitems : lower = some first ∧ upper = some second ∧ [] = rest := by simpa [range] using h
  rw [hitems.1, hitems.2.1]
  exact ⟨rfl, rfl⟩

namespace ValueShape

variable {column : Column} {shape : ValueShape} {wire : WireValue} {value : ControlValue}
  {allowed : List Reference → Prop}

/-- An operator that a column offers and that takes a value has a shape for it. -/
lemma ne_nothing_of_supports {kind : ColumnKind} {operator : Operator}
    (h : kind.supports operator = true) (hvalue : operator.isValueless = false) :
    of kind operator ≠ nothing := by
  have hall : ∀ operator ∈ kind.operators, operator.isValueless = false →
      of kind operator ≠ nothing := by
    cases kind <;> decide
  exact hall operator (ColumnKind.mem_operators h) hvalue

/-- A control value of the shape's own has content when what is written for it is accepted. -/
lemma Own.hasContent (hown : shape.Own allowed value)
    (hpasses : shape.Passes column (shape.encode value)) : value.HasContent := by
  cases hown with
  | text value | search value =>
      obtain ⟨text, rest, hvalues, hblank, -⟩ := hpasses.single rfl rfl
      have hwritten : value = text := (List.cons.inj hvalues).1
      rwa [← hwritten] at hblank
  | number value | count value | date value => exact trivial
  | numberRange lower upper | dateRange lower upper =>
      obtain ⟨first, second, rest, hwire, -⟩ := hpasses.bounds rfl
      have hboth := WireValue.isSome_of_range hwire
      rwa [Option.isSome_map, Option.isSome_map] at hboth
  | options values hfits =>
      obtain ⟨hsome, -⟩ := hpasses.listed rfl
      rintro rfl
      exact absurd hsome (by decide)
  | references found hne hallowed => exact hne

/-- Of a value that is not empty nothing is read by a shape without values, nor by a search box if
the value is a list. -/
lemma isNull_decode_iff (hfilled : wire.isEmpty = false) :
    (shape.decode wire).isNull = true ↔
      shape = nothing ∨ shape = search ∧ ∃ items, wire = .list items := by
  obtain ⟨text, rest, hvalues⟩ := List.exists_cons_of_ne_nil (WireValue.values_ne_nil hfilled)
  have hnumber : (decodeNumber wire).isNull = false := by
    cases hread : Number.read? text <;> simp [decodeNumber, hvalues, hread, ControlValue.isNull]
  have hdate : (decodeDate wire).isNull = false := by
    cases hread : Date.read? text <;> simp [decodeDate, hvalues, hread, ControlValue.isNull]
  cases shape with
  | nothing => simp [decode, ControlValue.isNull]
  | text => simp [decode, hvalues, ControlValue.ofText?, ControlValue.isNull]
  | number | count => simp [decode, hnumber]
  | date => simp [decode, hdate]
  | numberRange | dateRange => simp [decode, ControlValue.isNull]
  | options => simp [decode, decodeOptions, isNull_of_isEmpty hfilled, ControlValue.isNull]
  | references => simp [decode, decodeReferences, isNull_of_isEmpty hfilled, ControlValue.isNull]
  | search =>
      cases wire with
      | null => exact absurd hfilled (by decide)
      | scalar single => simp [decode, WireValue.scalar?, ControlValue.ofText?, ControlValue.isNull]
      | list items => simp [decode, WireValue.scalar?, ControlValue.ofText?, ControlValue.isNull]

/-- An accepted value is not empty. -/
lemma Passes.not_isEmpty (h : shape.Passes column wire) : wire.isEmpty = false := by
  cases hlist : shape.isList with
  | true => exact (h.listed hlist).1
  | false =>
      obtain ⟨text, hmem, hblank⟩ : ∃ text ∈ wire.values, Text.isAllBlank text = false := by
        cases hrange : shape.isRange with
        | true =>
            obtain ⟨lower, upper, rest, rfl, hlower, -⟩ := h.bounds hrange
            refine ⟨lower, by simp [WireValue.values], hlower.not_blank ⟨?_, ?_, ?_⟩⟩ <;>
              rintro rfl <;> exact absurd hrange (by decide)
        | false =>
            obtain ⟨text, rest, hvalues, hblank, -⟩ := h.single hlist hrange
            exact ⟨text, by simp [hvalues], hblank⟩
      rw [← Bool.not_eq_true]
      intro hempty
      rw [WireValue.eq_empty_of_mem hempty hmem] at hblank
      exact absurd hblank (by decide)

/-- What is read of an accepted value has content if it is anything at all. -/
lemma hasContent_of_passes {remembered : Option ControlValue} (h : shape.Passes column wire)
    (hpresent : (shape.decode wire).isNull = false) :
    ((shape.decode wire).filledFrom remembered).HasContent := by
  rw [← ControlValue.isNull_filledFrom remembered] at hpresent
  obtain ⟨value, hvalue, hown, hfilled⟩ := exists_own_of_passes h hpresent
  rw [hvalue]
  exact hown.hasContent hfilled.passes

/-- Of an accepted range both slots are read. -/
lemma hasBounds_of_passes (h : shape.Passes column wire) (hrange : shape.isRange = true) :
    (shape.decode wire).HasBounds := by
  have hapart : shape ≠ nothing ∧ shape ≠ search := by
    constructor <;> rintro rfl <;> exact absurd hrange (by decide)
  have hpresent : (shape.decode wire).isNull = false := by
    rw [← Bool.not_eq_true, isNull_decode_iff h.not_isEmpty]
    rintro (hnothing | ⟨hsearch, -⟩)
    · exact hapart.1 hnothing
    · exact hapart.2 hsearch
  have hcontent : ((shape.decode wire).filledFrom none).HasContent :=
    hasContent_of_passes h hpresent
  cases shape with
  | numberRange =>
      obtain ⟨hlower, hupper⟩ := hcontent
      obtain ⟨lower, hlower⟩ := Option.isSome_iff_exists.mp hlower
      obtain ⟨upper, hupper⟩ := Option.isSome_iff_exists.mp hupper
      exact .inl ⟨lower, upper, congrArg₂ ControlValue.numberRange hlower hupper⟩
  | dateRange =>
      obtain ⟨hlower, hupper⟩ := hcontent
      obtain ⟨lower, hlower⟩ := Option.isSome_iff_exists.mp hlower
      obtain ⟨upper, hupper⟩ := Option.isSome_iff_exists.mp hupper
      exact .inr ⟨lower, upper, congrArg₂ ControlValue.dateRange hlower hupper⟩
  | _ => exact absurd hrange (by decide)

end ValueShape

/-! ## Columns -/

namespace Column

variable {column : Column} {operator : Operator} {wire : WireValue}

/-- The operator searches for a text and the value is a list: validation takes the first text of it,
the search box none. -/
def SearchesList (column : Column) (operator : Operator) (wire : WireValue) : Prop :=
  column.valueShape operator = .search ∧ ∃ items, wire = .list items

lemma accepts_of_validate (hclean : (column.validate operator wire).hasErrors = false) :
    column.accepts ⟨operator, wire⟩ = true := by
  simp [accepts, hclean]

/-- There are complaints about every operator that the column does not offer. -/
lemma supports_of_validate (hclean : (column.validate operator wire).hasErrors = false) :
    column.supports operator = true :=
  supports_of_accepts (accepts_of_validate hclean)

/-- A value without a complaint is in order as the column sees it. -/
lemma passes_of_validate (hvalue : operator.isValueless = false)
    (hclean : (column.validate operator wire).hasErrors = false) :
    (column.valueShape operator).Passes column wire :=
  passes_of_accepts (accepts_of_validate hclean) hvalue

/-- Of a value without a complaint nothing is read when it is a list that is searched for, and then
only. -/
lemma isNull_decodeValue_iff (hvalue : operator.isValueless = false)
    (hclean : (column.validate operator wire).hasErrors = false) :
    (column.decodeValue operator wire).isNull = true ↔ column.SearchesList operator wire := by
  have hsome : column.valueShape operator ≠ .nothing :=
    ValueShape.ne_nothing_of_supports (supports_of_validate hclean) hvalue
  exact (ValueShape.isNull_decode_iff (passes_of_validate hvalue hclean).not_isEmpty).trans
    (or_iff_right hsome)

/-- Without a complaint there is a value to show, with whatever is remembered filled in, and a range
shows both its bounds; the one exception is a list that is searched for. -/
theorem decodeValue_of_validate (hvalue : operator.isValueless = false)
    (hclean : (column.validate operator wire).hasErrors = false) :
    ((column.decodeValue operator wire).isNull = true ↔ column.SearchesList operator wire) ∧
      (¬ column.SearchesList operator wire → ∀ remembered,
        ((column.decodeValue operator wire).filledFrom remembered).HasContent) ∧
      (operator.isRange = true → (column.decodeValue operator wire).HasBounds) := by
  have hpasses := passes_of_validate hvalue hclean
  have hnull := isNull_decodeValue_iff hvalue hclean
  refine ⟨hnull, fun hshown remembered => ?_, fun hrange => ?_⟩
  · rw [← hnull, Bool.not_eq_true] at hshown
    exact ValueShape.hasContent_of_passes hpasses hshown
  · refine ValueShape.hasBounds_of_passes hpasses ?_
    rw [valueShape, ValueShape.isRange_of_supports (supports_of_validate hclean)]
    exact hrange

/-- Two days are accepted and shown, the one without its blank ends. -/
theorem decodeValue_of_validate_between :
    let column : Column := ⟨"createdon", .dateOnly, {}⟩
    let wire : WireValue := .list [some "2024-01-01", some " 2024-01-31 ", none]
    Operator.between.isValueless = false ∧ (column.validate .between wire).hasErrors = false ∧
      ((column.decodeValue .between wire).isNull = true ↔ column.SearchesList .between wire) ∧
      ¬ column.SearchesList .between wire ∧
      ((column.decodeValue .between wire).filledFrom none).HasContent ∧
      (column.decodeValue .between wire).HasBounds := by
  intro column wire
  have hvalue : Operator.between.isValueless = false := by decide
  have hclean : (column.validate .between wire).hasErrors = false := by decide +kernel
  have hshape : ¬ column.SearchesList .between wire := by
    rintro ⟨hsearch, -⟩
    exact absurd hsearch (by decide)
  obtain ⟨hnull, hcontent, hbounds⟩ := decodeValue_of_validate hvalue hclean
  exact ⟨hvalue, hclean, hnull, hshape, hcontent hshape none, hbounds (by decide)⟩

/-- A list under a pattern is accepted for its first text, and the search box shows nothing. -/
theorem accepted_list_not_searched :
    let column : Column := ⟨"statuscode", .optionSet, {}⟩
    let wire : WireValue := .ofTexts ["abc"]
    column.supports .like = true ∧ Operator.like.isValueless = false ∧
      (column.validate .like wire).hasErrors = false ∧
      (column.decodeValue .like wire).isNull = true := by
  decide +kernel

end Column

/-! ## Conditions -/

/-- A condition in order shows something, unless it searches for a list; then it shows nothing. -/
theorem Condition.hasContent_current_iff {condition : Condition} (hmemo : condition.MemoSound)
    (hvalue : condition.operator.isValueless = false) (hvalid : condition.isValid = true) :
    condition.current.1.HasContent ↔
      ¬ condition.column.SearchesList condition.operator condition.wire := by
  have hclean : (condition.column.validate condition.operator condition.wire).hasErrors = false := by
    simpa [Condition.isValid, Condition.verdict] using hvalid
  have hnull := Column.isNull_decodeValue_iff hvalue hclean
  rw [hmemo.fst_current, ← hnull, Bool.not_eq_true]
  constructor
  · intro hcontent
    rw [← ControlValue.isNull_filledFrom condition.remembered.exact]
    exact hcontent.isNull
  · intro hpresent
    exact ValueShape.hasContent_of_passes (Column.passes_of_validate hvalue hclean) hpresent

end GridFilter
