import GridFilter.Criterion
import GridFilter.Proofs.Text.Affix
import GridFilter.ValueShape.Conversion

/-!
# Canonical criteria

`Criterion.decorate` gives the form the query layer takes and `Criterion.undecorate` the form an
editor shows.  Going back and forth is the identity on *canonical* criteria only.  On a kind of
column where one value and several are asked for by different operators, a single text under an
operator that takes lists comes back as a list of one, and an operator for several values comes
back as the one for a single value.

Both are excluded by construction.  What is read from an entry is canonical
(`isCanonical_undecorate`), what a control hands back is (`isCanonical_encodeValue`), and no menu
lists an operator that an editor never shows (`singleValued?_of_supports`).  The round trip is
`undecorate_decorate`.
-/

namespace GridFilter

/-! ## Operators -/

namespace Operator

variable {operator : Operator}

@[simp] lemma ofCode?_code (operator : Operator) : ofCode? operator.code = some operator := by
  cases operator <;> rfl

lemma code_le (operator : Operator) : operator.code ≤ 65535 := by
  cases operator <;> decide

lemma isPattern_of_takesList (h : operator.takesList = true) : operator.isPattern = false := by
  cases operator <;> first | rfl | exact absurd h (by decide)

lemma isValueless_of_takesList (h : operator.takesList = true) : operator.isValueless = false := by
  cases operator <;> first | rfl | exact absurd h (by decide)

/-- The two pairs of operators that ask the same of one value and of several. -/
lemma multiValued?_eq_some_iff {several : Operator} :
    operator.multiValued? = some several ↔
      operator = .equal ∧ several = .isIn ∨ operator = .doesNotEqual ∧ several = .notIn := by
  cases operator <;> simp [multiValued?, eq_comm]

lemma singleValued?_eq_some_iff {single : Operator} :
    operator.singleValued? = some single ↔
      operator = .isIn ∧ single = .equal ∨ operator = .notIn ∧ single = .doesNotEqual := by
  cases operator <;> simp [singleValued?, eq_comm]

lemma isPattern_of_multiValued? {several : Operator} (h : operator.multiValued? = some several) :
    operator.isPattern = false ∧ several.isPattern = false := by
  rcases multiValued?_eq_some_iff.mp h with ⟨rfl, rfl⟩ | ⟨rfl, rfl⟩ <;> exact ⟨rfl, rfl⟩

lemma singleValued?_of_multiValued? {several : Operator}
    (h : operator.multiValued? = some several) :
    several.singleValued? = some operator ∧ operator.singleValued? = none := by
  rcases multiValued?_eq_some_iff.mp h with ⟨rfl, rfl⟩ | ⟨rfl, rfl⟩ <;> exact ⟨rfl, rfl⟩

lemma takesList_of_multiValued? {several : Operator} (h : operator.multiValued? = some several) :
    operator.takesList = true := by
  rcases multiValued?_eq_some_iff.mp h with ⟨rfl, rfl⟩ | ⟨rfl, rfl⟩ <;> rfl

/-- An operator that takes no list asks for one value and has no form for several. -/
lemma no_pair_of_not_takesList (h : operator.takesList = false) :
    operator.singleValued? = none ∧ operator.multiValued? = none := by
  cases operator <;> first | exact ⟨rfl, rfl⟩ | exact absurd h (by decide)

end Operator

/-- The menus list only operators that an editor shows. -/
lemma ColumnKind.singleValued?_of_supports {kind : ColumnKind} {operator : Operator}
    (h : kind.supports operator = true) : operator.singleValued? = none := by
  cases operator with
  | isIn => cases kind <;> exact absurd h (by decide)
  | notIn => cases kind <;> exact absurd h (by decide)
  | _ => rfl

/-- Where one value and several are asked for by different operators, the values are choices or
references. -/
lemma ValueShape.of_takesList {kind : ColumnKind} {operator : Operator}
    (hrewrites : kind.rewritesMultiValue = true) (htakes : operator.takesList = true) :
    ValueShape.of kind operator = .options ∨ ValueShape.of kind operator = .references := by
  have hvalue := Operator.isValueless_of_takesList htakes
  have hpattern := Operator.isPattern_of_takesList htakes
  cases kind <;>
    simp [ValueShape.of, hvalue, hpattern, ColumnKind.rewritesMultiValue] at hrewrites ⊢

/-! ## Wildcards -/

/-- Wildcards that were put around a text come off again, whatever the text looks like. -/
@[simp] lemma Operator.unwrap_wrap (operator : Operator) (wildcard text : String) :
    operator.unwrap wildcard (operator.wrap wildcard text) = text := by
  rw [unwrap, wrap]
  obtain ⟨before, after⟩ := operator.wildcardSides
  cases before <;> cases after <;> simp [String.append_assoc]

/-! ## Canonical criteria -/

namespace Criterion

variable {kind : ColumnKind} {wildcard : String} {criterion : Criterion}

/-- On a kind where one value and several are asked for by different operators, an operator that
takes a list has no single text as its value. -/
def IsCanonical (kind : ColumnKind) (criterion : Criterion) : Prop :=
  kind.rewritesMultiValue = true → criterion.operator.takesList = true →
    ∀ text, criterion.wire ≠ .scalar text

lemma operator_unwrapPattern :
    (criterion.unwrapPattern wildcard).operator = criterion.operator := by
  rw [unwrapPattern]
  split <;> rfl

lemma operator_wrapPattern : (criterion.wrapPattern wildcard).operator = criterion.operator := by
  rw [wrapPattern]
  split <;> rfl

lemma operator_gather :
    criterion.gather.operator = criterion.operator.singleValued?.getD criterion.operator := by
  rw [gather]
  split
  · split <;> rfl
  · rfl

/-- What is read from an entry is canonical. -/
lemma isCanonical_undecorate (kind : ColumnKind) (wildcard : String) (criterion : Criterion) :
    (criterion.undecorate kind wildcard).IsCanonical kind := by
  intro hrewrites htakes text
  rw [undecorate] at htakes ⊢
  by_cases hpattern : criterion.operator.isPattern = true
  · rw [if_pos hpattern, operator_unwrapPattern] at htakes
    rw [Operator.isPattern_of_takesList htakes] at hpattern
    exact absurd hpattern Bool.false_ne_true
  · rw [if_neg hpattern, if_pos hrewrites] at htakes ⊢
    rw [operator_gather] at htakes
    rw [gather]
    cases criterion.wire with
    | null => exact WireValue.noConfusion
    | scalar single => simp [htakes, WireValue.ofTexts]
    | list items => exact WireValue.noConfusion

/-- What a control hands back is canonical. -/
lemma isCanonical_encodeValue (column : Column) (operator : Operator) (value : ControlValue) :
    IsCanonical column.kind ⟨operator, column.encodeValue operator value⟩ := by
  intro hrewrites htakes text
  have hshape : column.valueShape operator = .options ∨ column.valueShape operator = .references :=
    ValueShape.of_takesList hrewrites htakes
  rw [Column.encodeValue]
  rcases hshape with hshape | hshape <;> rw [hshape, ValueShape.encode]
  · cases value <;> simp only [ValueShape.encodeOptions, WireValue.ofTexts] <;>
      first | exact WireValue.noConfusion | (split <;> exact WireValue.noConfusion)
  · rw [ValueShape.encodeReferences.eq_def]
    split <;> exact WireValue.noConfusion

/-! ## The round trip -/

lemma unwrapPattern_wrapPattern (wildcard : String) (criterion : Criterion) :
    (criterion.wrapPattern wildcard).unwrapPattern wildcard = criterion := by
  obtain ⟨operator, wire⟩ := criterion
  cases wire <;> simp [wrapPattern, unwrapPattern]

/-- Gathering undoes spreading, unless a single text stands where a list belongs. -/
lemma gather_spread {several : Operator} (hmulti : criterion.operator.multiValued? = some several)
    (hlist : ∀ text, criterion.wire ≠ .scalar text) :
    (criterion.spread several).gather = criterion := by
  obtain ⟨hseveral, hsingle⟩ := Operator.singleValued?_of_multiValued? hmulti
  have htakes := Operator.takesList_of_multiValued? hmulti
  obtain ⟨operator, wire⟩ := criterion
  cases wire with
  | null => simp [spread, gather, hsingle]
  | scalar text => exact absurd rfl (hlist text)
  | list items =>
      rcases items with _ | ⟨_ | single, _ | ⟨second, rest⟩⟩
      · simp [spread, gather, hsingle]
      · simp [spread, gather, hsingle]
      · simp [spread, gather, hseveral]
      · simp [spread, gather, hsingle, htakes, WireValue.ofTexts]
      · simp [spread, gather, hseveral]

/-- Gathering leaves alone what no operator for several values stands for. -/
lemma gather_eq_self (hsingle : criterion.operator.singleValued? = none)
    (hlist : criterion.operator.takesList = true → ∀ text, criterion.wire ≠ .scalar text) :
    criterion.gather = criterion := by
  obtain ⟨operator, wire⟩ := criterion
  rw [gather, hsingle, Option.getD_none]
  cases wire with
  | null => rfl
  | list items => rfl
  | scalar text =>
      by_cases htakes : operator.takesList = true
      · exact absurd rfl (hlist htakes text)
      · exact if_neg htakes

/-- Putting a criterion in query form keeps patterns patterns, and makes none. -/
@[simp] lemma isPattern_decorate (kind : ColumnKind) (wildcard : String) (criterion : Criterion) :
    (criterion.decorate kind wildcard).operator.isPattern = criterion.operator.isPattern := by
  rw [decorate]
  split
  · rw [operator_wrapPattern]
  · split
    · split
      · rename_i several hmulti
        obtain ⟨hsingle, hseveral⟩ := Operator.isPattern_of_multiValued? hmulti
        rw [spread]
        split
        · rfl
        · rw [hsingle, hseveral]
        · rfl
      · rfl
    · rfl

/-- Query form and back is the identity on canonical criteria of operators that an editor shows. -/
theorem undecorate_decorate (hcanonical : criterion.IsCanonical kind)
    (hsingle : criterion.operator.singleValued? = none) :
    (criterion.decorate kind wildcard).undecorate kind wildcard = criterion := by
  rw [undecorate, isPattern_decorate]
  by_cases hpattern : criterion.operator.isPattern = true
  · rw [if_pos hpattern, decorate, if_pos hpattern, unwrapPattern_wrapPattern]
  · rw [if_neg hpattern, decorate, if_neg hpattern]
    by_cases hrewrites : kind.rewritesMultiValue = true
    · rw [if_pos hrewrites, if_pos hrewrites]
      cases hmulti : criterion.operator.multiValued? with
      | none => exact gather_eq_self hsingle (hcanonical hrewrites)
      | some several =>
          have htakes := Operator.takesList_of_multiValued? hmulti
          exact gather_spread hmulti (hcanonical hrewrites htakes)
    · rw [if_neg hrewrites, if_neg hrewrites]

end Criterion

end GridFilter
