import GridFilter.Proofs.Grid.Hydration

/-!
# Sending an unedited entry again

A column that reads an entry and sends it again without an edit need not give back the same entry.
`Column.SentAgain` says what it gives back, field by field and without mentioning the two forms of
a criterion: which suffix the name gains, which wildcards a pattern gains, when several values are
asked for, and what stays as it is.  `forall₂_sentAgain` is the statement for the filter of a
column, entry by entry in the order of the dataset.

Patterns are where the two forms interact.  A wildcard is taken off in front before the end is
looked at, so one text can carry the leading wildcard and lack the closing one although it ends
with it: under the wildcard `aa` the text `aaa` has only one.  `missingTail` therefore looks at what
is behind the leading wildcard, and `wrap_unwrap` shows that nothing but missing wildcards is
added.
-/

namespace GridFilter

variable {settings : FilterSettings} {column : Column} {entry : ConditionExpression}

/-! ## Missing wildcards -/

namespace Operator

/-- The wildcard that the text lacks in front, where the operator has one there. -/
def missingLead (operator : Operator) (wildcard text : String) : String :=
  if operator.wildcardSides.1 && (Text.withoutLead? wildcard text).isNone then wildcard else ""

/-- The wildcard that the text lacks at its end, where the operator has one there; a wildcard that
counts as the leading one does not count again. -/
def missingTail (operator : Operator) (wildcard text : String) : String :=
  let rest := if operator.wildcardSides.1 then Text.dropLead wildcard text else text
  if operator.wildcardSides.2 && (Text.withoutTail? wildcard rest).isNone then wildcard else ""

end Operator

lemma Text.lead_append_dropLead (lead text : String) :
    (if (withoutLead? lead text).isNone then lead else "") ++ text =
      lead ++ dropLead lead text := by
  rw [dropLead]
  cases h : withoutLead? lead text with
  | none => rfl
  | some rest =>
      rw [withoutLead?_eq_some_iff.mp h]
      exact String.empty_append

lemma Text.dropTail_append_tail (tail text : String) :
    text ++ (if (withoutTail? tail text).isNone then tail else "") =
      dropTail tail text ++ tail := by
  rw [dropTail]
  cases h : withoutTail? tail text with
  | none => rfl
  | some base =>
      rw [withoutTail?_eq_some_iff.mp h]
      exact String.append_empty

namespace Operator

/-- Taking wildcards off and putting them on again adds the missing ones and changes nothing
else. -/
lemma wrap_unwrap (operator : Operator) (wildcard text : String) :
    operator.wrap wildcard (operator.unwrap wildcard text) =
      operator.missingLead wildcard text ++ text ++ operator.missingTail wildcard text := by
  rw [wrap, unwrap, missingLead, missingTail]
  obtain ⟨before, after⟩ := operator.wildcardSides
  have hlead := Text.lead_append_dropLead wildcard text
  cases before <;> cases after <;>
    simp only [Bool.true_and, Bool.false_and, Bool.false_eq_true, ↓reduceIte, String.append_empty,
      String.empty_append]
  · exact (Text.dropTail_append_tail wildcard text).symm
  · exact hlead.symm
  · rw [hlead, String.append_assoc, String.append_assoc, Text.dropTail_append_tail]

/-- A text comes back unchanged exactly when it has its wildcards. -/
lemma wrap_unwrap_eq_self_iff (operator : Operator) (wildcard text : String) :
    operator.wrap wildcard (operator.unwrap wildcard text) = text ↔
      ∃ inner, text = operator.wrap wildcard inner := by
  constructor
  · intro h
    exact ⟨operator.unwrap wildcard text, h.symm⟩
  · rintro ⟨inner, rfl⟩
    rw [unwrap_wrap]

end Operator

/-! ## What is sent again -/

namespace WireValue

/-- The value with its text completed by the wildcards that it lacks. -/
def completed (operator : Operator) (wildcard : String) : WireValue → WireValue
  | .scalar text =>
    .scalar (operator.missingLead wildcard text ++ text ++ operator.missingTail wildcard text)
  | wire => wire

/-- The value is a list of two slots or more, missing ones counted. -/
def isSeveral : WireValue → Bool
  | .list (_ :: _ :: _) => true
  | _ => false

/-- The value with the list of a single present text written as that text. -/
def flattened : WireValue → WireValue
  | .list [some text] => .scalar text
  | wire => wire

/-- The value with a single text written as a list. -/
def listed : WireValue → WireValue
  | .scalar text => .list [some text]
  | wire => wire

end WireValue

/-- What a column sends for an entry of the dataset that it read and that was not edited. -/
structure Column.SentAgain (settings : FilterSettings) (column : Column)
    (entry emitted : ConditionExpression) : Prop where
  /-- The name stays where no shadow is looked for, and where the entry names the shadow. -/
  name_kept : column.searchesShadow entry.operator = false ∨
      CarriesSuffix settings.nameSuffix entry.attributeName →
    emitted.qualifiedName = entry.qualifiedName
  /-- An attribute that does not carry the suffix gains it, and so does the bare suffix. -/
  name_gains_suffix : column.searchesShadow entry.operator = true →
    ¬ CarriesSuffix settings.nameSuffix entry.attributeName ∨
      entry.attributeName = settings.nameSuffix →
    emitted.qualifiedName = entry.qualifiedName ++ settings.nameSuffix
  /-- A pattern keeps its operator and gains the wildcards that it lacks. -/
  pattern : entry.operator.isPattern = true →
    emitted.operator = entry.operator ∧
      emitted.value = entry.value.completed entry.operator settings.wildcard
  /-- A pattern's text is unchanged exactly when it is a wrapped one. -/
  pattern_unchanged : entry.operator.isPattern = true → ∀ text, entry.value = .scalar text →
    (emitted.value = entry.value ↔ ∃ inner, text = entry.operator.wrap settings.wildcard inner)
  /-- Where one value and several are asked for by different operators, the operator for several
  values stands exactly on lists of two slots or more. -/
  several : column.kind.rewritesMultiValue = true → ∀ one many, one.multiValued? = some many →
    entry.operator = one ∨ entry.operator = many →
    emitted.operator = (if entry.value.isSeveral then many else one) ∧
      emitted.value = entry.value.flattened
  /-- The operators that look for values in a list of choices keep lists, and make them. -/
  containing : column.kind.rewritesMultiValue = true →
    entry.operator = .containValues ∨ entry.operator = .doesNotContainValues →
    emitted.operator = entry.operator ∧ emitted.value = entry.value.listed
  /-- Everything else is sent as it was read. -/
  otherwise : entry.operator.isPattern = false →
    column.kind.rewritesMultiValue = false ∨ entry.operator.takesList = false →
    emitted.operator = entry.operator ∧ emitted.value = entry.value

/-! ### Operator and value -/

namespace Criterion

variable {kind : ColumnKind} {wildcard : String} {criterion : Criterion}

/-- The criterion that is sent for one that was read and not edited. -/
def again (kind : ColumnKind) (wildcard : String) (criterion : Criterion) : Criterion :=
  (criterion.undecorate kind wildcard).decorate kind wildcard

@[simp] lemma isPattern_undecorate (kind : ColumnKind) (wildcard : String)
    (criterion : Criterion) :
    (criterion.undecorate kind wildcard).operator.isPattern = criterion.operator.isPattern := by
  rw [undecorate]
  split
  · rw [operator_unwrapPattern]
  · split
    · rw [operator_gather]
      cases hsingle : criterion.operator.singleValued? with
      | none => rfl
      | some single =>
          rcases Operator.singleValued?_eq_some_iff.mp hsingle with ⟨hop, rfl⟩ | ⟨hop, rfl⟩ <;>
            rw [hop] <;> rfl
    · rfl

lemma isPattern_again (kind : ColumnKind) (wildcard : String) (criterion : Criterion) :
    (criterion.again kind wildcard).operator.isPattern = criterion.operator.isPattern := by
  rw [again, isPattern_decorate, isPattern_undecorate]

lemma again_of_isPattern (kind : ColumnKind) (wildcard : String) {operator : Operator}
    (wire : WireValue) (h : operator.isPattern = true) :
    again kind wildcard ⟨operator, wire⟩ = ⟨operator, wire.completed operator wildcard⟩ := by
  rw [again, decorate, isPattern_undecorate, if_pos h, undecorate, if_pos h]
  cases wire with
  | null => rfl
  | scalar text =>
      simp only [unwrapPattern, wrapPattern, WireValue.completed, Operator.wrap_unwrap]
  | list items => rfl

lemma again_of_not_rewrites (wildcard : String) (hpattern : criterion.operator.isPattern = false)
    (hrewrites : kind.rewritesMultiValue = false) : criterion.again kind wildcard = criterion := by
  have hself : criterion.undecorate kind wildcard = criterion := by
    rw [undecorate, hpattern, hrewrites]
    rfl
  rw [again, hself, decorate, hpattern, hrewrites]
  rfl

lemma again_of_rewrites (hpattern : criterion.operator.isPattern = false)
    (hrewrites : kind.rewritesMultiValue = true) :
    criterion.again kind wildcard =
      match criterion.gather.operator.multiValued? with
      | some several => criterion.gather.spread several
      | none => criterion.gather := by
  have hgather : criterion.undecorate kind wildcard = criterion.gather := by
    rw [undecorate, hpattern, hrewrites]
    rfl
  have hpattern' := isPattern_undecorate kind wildcard criterion
  rw [hgather, hpattern] at hpattern'
  rw [again, hgather, decorate, hpattern', hrewrites]
  rfl

/-- Of one value or several, both forms of the operator give the same criterion again. -/
lemma again_of_multiValued? {one many : Operator} (hrewrites : kind.rewritesMultiValue = true)
    (hmulti : one.multiValued? = some many)
    (hop : criterion.operator = one ∨ criterion.operator = many) :
    criterion.again kind wildcard =
      ⟨if criterion.wire.isSeveral then many else one, criterion.wire.flattened⟩ := by
  obtain ⟨hone, hmany⟩ := Operator.isPattern_of_multiValued? hmulti
  obtain ⟨hsingleMany, hsingleOne⟩ := Operator.singleValued?_of_multiValued? hmulti
  have htakes := Operator.takesList_of_multiValued? hmulti
  have hpattern : criterion.operator.isPattern = false := by
    rcases hop with hop | hop <;> rw [hop] <;> assumption
  have hoperator : criterion.gather.operator = one := by
    rw [operator_gather]
    rcases hop with hop | hop <;> rw [hop]
    · rw [hsingleOne, Option.getD_none]
    · rw [hsingleMany, Option.getD_some]
  have hgetD : criterion.operator.singleValued?.getD criterion.operator = one := by
    rw [← operator_gather, hoperator]
  rw [again_of_rewrites hpattern hrewrites, hoperator, hmulti]
  obtain ⟨operator, wire⟩ := criterion
  cases wire with
  | null => simp [gather, hgetD, spread, WireValue.isSeveral, WireValue.flattened]
  | scalar text =>
      simp [gather, hgetD, htakes, spread, WireValue.ofTexts, WireValue.isSeveral,
        WireValue.flattened]
  | list items =>
      rcases items with _ | ⟨_ | single, _ | ⟨second, rest⟩⟩
      · simp [gather, hgetD, spread, WireValue.isSeveral, WireValue.flattened]
      · simp [gather, hgetD, spread, WireValue.isSeveral, WireValue.flattened]
      · simp [gather, spread, WireValue.isSeveral, WireValue.flattened]
      · simp [gather, hgetD, spread, WireValue.isSeveral, WireValue.flattened]
      · simp [gather, spread, WireValue.isSeveral, WireValue.flattened]

/-- An operator that has no other form for one value or several keeps lists. -/
lemma again_of_no_pair (hpattern : criterion.operator.isPattern = false)
    (hrewrites : kind.rewritesMultiValue = true) (hsingle : criterion.operator.singleValued? = none)
    (hmulti : criterion.operator.multiValued? = none) :
    criterion.again kind wildcard =
      if criterion.operator.takesList then ⟨criterion.operator, criterion.wire.listed⟩
      else criterion := by
  have hoperator : criterion.gather.operator = criterion.operator := by
    rw [operator_gather, hsingle, Option.getD_none]
  rw [again_of_rewrites hpattern hrewrites, hoperator, hmulti]
  obtain ⟨operator, wire⟩ := criterion
  by_cases htakes : operator.takesList = true
  · cases wire <;> simp_all [gather, WireValue.listed, WireValue.ofTexts]
  · cases wire <;> simp_all [gather]

end Criterion

/-! ### The name -/

namespace Column

lemma qualifiedName_again (hname : column.WellNamed) :
    (column.again settings entry).qualifiedName =
      if column.searchesShadow entry.operator then column.name ++ settings.nameSuffix
      else column.name := by
  have hsearch : column.searchesShadow
      (Criterion.again column.kind settings.wildcard ⟨entry.operator, entry.value⟩).operator =
        column.searchesShadow entry.operator := by
    rw [searchesShadow, Criterion.isPattern_again]
    rfl
  rw [again, emit, hname.qualifiedName_entry, ← hsearch]
  rfl

lemma qualifiedName_again_of_carriesSuffix (hname : column.WellNamed)
    (hclaims : column.claims settings entry = true)
    (hcarries : column.searchesShadow entry.operator = false ∨
      CarriesSuffix settings.nameSuffix entry.attributeName) :
    (column.again settings entry).qualifiedName = entry.qualifiedName := by
  rw [claims_iff] at hclaims
  rw [qualifiedName_again hname]
  cases hsearch : column.searchesShadow entry.operator with
  | false =>
      rw [addressedName_of_not_searchesShadow hsearch] at hclaims
      exact hclaims.symm
  | true =>
      have hsuffix := hcarries.resolve_left (by rw [hsearch]; exact Bool.false_ne_true.symm)
      rw [qualifiedName_of_carriesSuffix hsearch hsuffix, hclaims]
      rfl

lemma qualifiedName_again_of_not_carriesSuffix (hname : column.WellNamed)
    (hclaims : column.claims settings entry = true)
    (hsearch : column.searchesShadow entry.operator = true)
    (hcarries : ¬ CarriesSuffix settings.nameSuffix entry.attributeName) :
    (column.again settings entry).qualifiedName = entry.qualifiedName ++ settings.nameSuffix := by
  rw [claims_iff, addressedName_of_not_carriesSuffix hcarries] at hclaims
  rw [qualifiedName_again hname, if_pos hsearch, hclaims]

/-! ### The statement -/

/-- A well-named column sends again what `SentAgain` says. -/
lemma sentAgain (hname : column.WellNamed) (hclaims : column.claims settings entry = true) :
    column.SentAgain settings entry (column.again settings entry) where
  name_kept := qualifiedName_again_of_carriesSuffix hname hclaims
  name_gains_suffix := by
    intro hsearch hcarries
    refine qualifiedName_again_of_not_carriesSuffix hname hclaims hsearch ?_
    rcases hcarries with hcarries | hsuffix
    · exact hcarries
    · rw [hsuffix]
      exact not_carriesSuffix_self settings.nameSuffix
  pattern := by
    intro hpattern
    have hagain :=
      Criterion.again_of_isPattern column.kind settings.wildcard entry.value hpattern
    exact ⟨congrArg Criterion.operator hagain, congrArg Criterion.wire hagain⟩
  pattern_unchanged := by
    intro hpattern text htext
    have hvalue : (column.again settings entry).value = _ := congrArg Criterion.wire
      (Criterion.again_of_isPattern column.kind settings.wildcard entry.value hpattern)
    rw [hvalue, htext, WireValue.completed, WireValue.scalar.injEq, ← Operator.wrap_unwrap]
    exact Operator.wrap_unwrap_eq_self_iff entry.operator settings.wildcard text
  several := by
    intro hrewrites one many hmulti hop
    have hagain : Criterion.again column.kind settings.wildcard ⟨entry.operator, entry.value⟩ = _ :=
      Criterion.again_of_multiValued? hrewrites hmulti hop
    exact ⟨congrArg Criterion.operator hagain, congrArg Criterion.wire hagain⟩
  containing := by
    intro hrewrites hop
    have hagain : Criterion.again column.kind settings.wildcard ⟨entry.operator, entry.value⟩ =
        ⟨entry.operator, entry.value.listed⟩ := by
      rcases hop with hop | hop <;> rw [hop] <;>
        exact Criterion.again_of_no_pair rfl hrewrites rfl rfl
    exact ⟨congrArg Criterion.operator hagain, congrArg Criterion.wire hagain⟩
  otherwise := by
    intro hpattern hplain
    have hagain : Criterion.again column.kind settings.wildcard ⟨entry.operator, entry.value⟩ =
        ⟨entry.operator, entry.value⟩ := by
      cases hrewrites : column.kind.rewritesMultiValue with
      | false => exact Criterion.again_of_not_rewrites settings.wildcard hpattern hrewrites
      | true =>
          have htakes := hplain.resolve_left (by rw [hrewrites]; exact Bool.false_ne_true.symm)
          obtain ⟨hsingle, hmulti⟩ := Operator.no_pair_of_not_takesList htakes
          rw [Criterion.again_of_no_pair hpattern hrewrites hsingle hmulti, if_neg]
          rw [htakes]
          exact Bool.false_ne_true
    exact ⟨congrArg Criterion.operator hagain, congrArg Criterion.wire hagain⟩

end Column

/-- The entries of a list that a function reads, beside what is made of their readings. -/
lemma forall₂_filterMap {α β γ : Type} {R : α → γ → Prop} {read : α → Option β} {write : β → γ}
    {items : List α} (h : ∀ item value, read item = some value → R item (write value)) :
    List.Forall₂ R (items.filter fun item => (read item).isSome)
      ((items.filterMap read).map write) := by
  induction items with
  | nil => exact List.Forall₂.nil
  | cons item rest ih =>
      cases hread : read item with
      | none =>
          have hskip : ¬ (read item).isSome = true := by
            rw [hread]
            exact Bool.false_ne_true
          rw [List.filter_cons, if_neg hskip, List.filterMap_cons_none hread]
          exact ih
      | some value =>
          have hkeep : (read item).isSome = true := by
            rw [hread]
            rfl
          rw [List.filter_cons, if_pos hkeep, List.filterMap_cons_some hread, List.map_cons]
          exact List.Forall₂.cons (h item value hread) ih

/-- The filter of a well-named column that was read from an expression and not edited sends one
entry for each entry that the column reads, in the same order, and `SentAgain` says which. -/
theorem ColumnFilter.forall₂_sentAgain (settings : FilterSettings) (column : Column)
    (hname : column.WellNamed) (expression : FilterExpression) (first : Nat) :
    List.Forall₂ (column.SentAgain settings)
      (expression.conditions.filter fun entry => (column.criterion? settings entry).isSome)
      ((ColumnFilter.ofExpression settings column expression first).entries settings) := by
  rw [entries_eq_map (coherent_ofExpression expression first), criteria_ofExpression,
    column_ofExpression, Column.criteria]
  refine forall₂_filterMap fun entry criterion hread => ?_
  obtain ⟨hclaims, rfl, -⟩ := Column.criterion?_eq_some_iff.mp hread
  exact Column.sentAgain hname hclaims

/-- The filter of a joined owner column, read from a pattern on the attribute itself, a list of one
reference, a list with a missing one and an entry of another column.  It reads the first three, and
each comes back in another form or under another name. -/
theorem ColumnFilter.forall₂_sentAgain_owner :
    let column : Column := ⟨"acc.ownerid", .owner, {}⟩
    let own : List ConditionExpression :=
      [⟨"ownerid", some "acc", .like, .scalar "%jo"⟩,
       ⟨"ownerid", some "acc", .isIn, .list [some "a1"]⟩,
       ⟨"ownerid", some "acc", .equal, .list [some "a1", none]⟩]
    let expression : FilterExpression :=
      { conditions := own ++ [⟨"name", none, .equal, .scalar "x"⟩] }
    column.WellNamed ∧
      (expression.conditions.filter fun entry => (column.criterion? {} entry).isSome) = own ∧
      (ColumnFilter.ofExpression {} column expression 0).entries {} =
        [⟨"owneridname", some "acc", .like, .scalar "%jo%"⟩,
         ⟨"ownerid", some "acc", .equal, .scalar "a1"⟩,
         ⟨"ownerid", some "acc", .isIn, .list [some "a1", none]⟩] ∧
      List.Forall₂ (column.SentAgain {})
        (expression.conditions.filter fun entry => (column.criterion? {} entry).isSome)
        ((ColumnFilter.ofExpression {} column expression 0).entries {}) := by
  intro column own expression
  have hname : column.WellNamed :=
    .joined "acc" "ownerid" (by decide) (by decide) (by decide) (by decide)
  exact ⟨hname, by decide +kernel, by decide +kernel,
    ColumnFilter.forall₂_sentAgain {} column hname expression 0⟩

end GridFilter
