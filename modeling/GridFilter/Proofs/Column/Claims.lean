import GridFilter.Grid.ColumnFilter
import GridFilter.Proofs.Text.Affix

/-!
# Which column an entry belongs to

A column claims an entry by comparing names: the entry's qualified name, with the suffix of a name
shadow taken off where the column looks for shadows, has to be the column's own.  This module turns
the comparison into three facts that later modules use without unfolding it.

`Column.WellNamed` is the form that names of columns have.  A column of such a name gets its own
name back from the entries it writes (`WellNamed.qualifiedName_entry`), hence claims them
(`WellNamed.claims_entry`).  Without any assumption on names, two columns of different names claim
one entry only when the name shadow of the one is called like the other
(`shadow_of_both_claim`); the suffix is the only thing two columns can disagree on.
-/

namespace GridFilter

variable {settings : FilterSettings} {column other : Column} {entry : ConditionExpression}

/-! ## Names of columns -/

/-- A name as columns have it: an attribute, or the alias of a joined entity, a point and an
attribute, with no part empty.  The alias ends at the first point. -/
inductive Column.WellNamed (column : Column) : Prop
  | plain (hname : column.name ≠ "") (hpoint : '.' ∉ column.name.toList)
  | joined (entity own : String) (hentity : entity ≠ "") (hown : own ≠ "")
      (hpoint : '.' ∉ entity.toList) (hname : column.name = entity ++ "." ++ own)

namespace Column

lemma joined?_of_no_point (hpoint : '.' ∉ column.name.toList) : column.joined? = none := by
  rw [joined?, Text.splitAtFirst?_eq_none hpoint, Option.map_none]

lemma joined?_of_point {entity own : String} (hpoint : '.' ∉ entity.toList)
    (hname : column.name = entity ++ "." ++ own) : column.joined? = some (entity, own) := by
  have hchars : column.name.toList = entity.toList ++ '.' :: own.toList := by
    rw [hname, String.toList_append, String.toList_append, List.append_assoc]
    rfl
  rw [joined?, hchars, Text.splitAtFirst?_append own.toList hpoint, Option.map_some,
    String.ofList_toList, String.ofList_toList]

lemma WellNamed.attributeName_ne_empty (h : column.WellNamed) : column.attributeName ≠ "" := by
  rw [attributeName]
  cases h with
  | plain hname hpoint => rwa [joined?_of_no_point hpoint]
  | joined entity own hentity hown hpoint hname => rwa [joined?_of_point hpoint hname]

/-- The alias and the attribute of a well-named column make up its name. -/
lemma WellNamed.qualifiedName_self (h : column.WellNamed) (operator : Operator)
    (value : WireValue) :
    (⟨column.attributeName, column.entityAlias?, operator, value⟩ :
      ConditionExpression).qualifiedName = column.name := by
  rw [ConditionExpression.qualifiedName, attributeName, entityAlias?]
  cases h with
  | plain hname hpoint => rw [joined?_of_no_point hpoint, Option.map_none]
  | joined entity own hentity hown hpoint hname =>
      have halias : (entity == "") = false := beq_eq_false_iff_ne.mpr hentity
      rw [joined?_of_point hpoint hname, Option.map_some, hname]
      simp only [halias, Bool.false_eq_true, ↓reduceIte]

end Column

/-! ## Names of shadows -/

/-- What is added to an attribute ends up at the end of the qualified name. -/
lemma ConditionExpression.qualifiedName_append {base tail : String}
    (h : entry.attributeName = base ++ tail) :
    entry.qualifiedName = { entry with attributeName := base }.qualifiedName ++ tail := by
  cases halias : entry.entityAlias with
  | none => simp only [qualifiedName, halias, h]
  | some name =>
      by_cases hname : (name == "") = true
      · simp only [qualifiedName, halias, h, if_pos hname]
      · simp only [qualifiedName, halias, h, if_neg hname, String.append_assoc]

/-- The attribute carries the suffix of shadows, with something in front of it. -/
def CarriesSuffix (suffix name : String) : Prop :=
  ∃ base, base ≠ "" ∧ name = base ++ suffix

/-- The bare suffix is no name with a suffix: nothing stands in front of it. -/
lemma not_carriesSuffix_self (suffix : String) : ¬ CarriesSuffix suffix suffix := by
  rintro ⟨base, hbase, hname⟩
  have hlength := congrArg (fun name => name.toList.length) hname
  simp only [String.toList_append, List.length_append, Nat.right_eq_add, List.length_eq_zero_iff,
    String.toList_eq_nil_iff] at hlength
  exact hbase hlength

lemma unshadowed_append {base : String} (suffix : String) (h : base ≠ "") :
    unshadowed suffix (base ++ suffix) = base := by
  have hbase : (base == "") = false := beq_eq_false_iff_ne.mpr h
  rw [unshadowed, Text.withoutTail?_eq_some_iff.mpr rfl]
  simp only [hbase, Bool.false_eq_true, ↓reduceIte]

lemma unshadowed_of_not_carriesSuffix {suffix name : String}
    (h : ¬ CarriesSuffix suffix name) : unshadowed suffix name = name := by
  rw [unshadowed]
  split
  · rename_i base hbase
    split
    · rfl
    · rename_i hempty
      refine absurd ⟨base, ?_, Text.withoutTail?_eq_some_iff.mp hbase⟩ h
      rwa [beq_iff_eq] at hempty
  · rfl

namespace Column

lemma addressedName_of_not_searchesShadow (h : column.searchesShadow entry.operator = false) :
    column.addressedName settings entry = entry.qualifiedName := by
  rw [addressedName, if_neg (by rw [h]; exact Bool.false_ne_true)]

/-- Seen from a column that looks for shadows, an entry on a shadow is one on the attribute. -/
lemma qualifiedName_of_carriesSuffix (hsearch : column.searchesShadow entry.operator = true)
    (hcarries : CarriesSuffix settings.nameSuffix entry.attributeName) :
    entry.qualifiedName = column.addressedName settings entry ++ settings.nameSuffix := by
  obtain ⟨base, hbase, hattribute⟩ := hcarries
  rw [addressedName, if_pos hsearch, hattribute, unshadowed_append _ hbase]
  exact ConditionExpression.qualifiedName_append hattribute

lemma addressedName_of_not_carriesSuffix
    (hcarries : ¬ CarriesSuffix settings.nameSuffix entry.attributeName) :
    column.addressedName settings entry = entry.qualifiedName := by
  rw [addressedName, unshadowed_of_not_carriesSuffix hcarries, ite_self]

lemma claims_iff :
    column.claims settings entry = true ↔ column.addressedName settings entry = column.name := by
  rw [claims, beq_iff_eq]

/-! ## Entries of the column itself -/

@[simp] lemma entry_operator (sent : Criterion) :
    (column.entry settings sent).operator = sent.operator := rfl

lemma attributeName_entry (sent : Criterion) (h : column.searchesShadow sent.operator = true) :
    (column.entry settings sent).attributeName = column.attributeName ++ settings.nameSuffix :=
  if_pos h

/-- An entry that a well-named column writes carries the column's name, and behind it the suffix
when a pattern looks for the shadow. -/
lemma WellNamed.qualifiedName_entry (h : column.WellNamed) (sent : Criterion) :
    (column.entry settings sent).qualifiedName =
      if column.searchesShadow sent.operator then column.name ++ settings.nameSuffix
      else column.name := by
  by_cases hsearch : column.searchesShadow sent.operator = true
  · rw [if_pos hsearch,
      ConditionExpression.qualifiedName_append (attributeName_entry sent hsearch)]
    exact congrArg (· ++ settings.nameSuffix) (h.qualifiedName_self sent.operator sent.wire)
  · rw [if_neg hsearch, entry, if_neg hsearch]
    exact h.qualifiedName_self sent.operator sent.wire

/-- A well-named column claims the entries it writes. -/
lemma WellNamed.claims_entry (h : column.WellNamed) (sent : Criterion) :
    column.claims settings (column.entry settings sent) = true := by
  have hname : (column.entry settings sent).qualifiedName = _ := h.qualifiedName_entry sent
  rw [claims_iff]
  by_cases hsearch : column.searchesShadow sent.operator = true
  · have hcarries : CarriesSuffix settings.nameSuffix
        (column.entry settings sent).attributeName :=
      ⟨column.attributeName, h.attributeName_ne_empty, attributeName_entry sent hsearch⟩
    rw [if_pos hsearch, qualifiedName_of_carriesSuffix hsearch hcarries] at hname
    exact (String.append_left_inj settings.nameSuffix).mp hname
  · rw [addressedName_of_not_searchesShadow (by simpa using hsearch), hname, if_neg hsearch]

/-! ## Entries of two columns -/

/-- The name shadow of a column is called like another column that has no shadow itself. -/
def ShadowedBy (settings : FilterSettings) (column other : Column) : Prop :=
  column.dataType.hasNameShadow = true ∧ other.dataType.hasNameShadow = false ∧
    other.name = column.name ++ settings.nameSuffix

lemma searchesShadow_iff (operator : Operator) :
    column.searchesShadow operator = true ↔
      operator.isPattern = true ∧ column.dataType.hasNameShadow = true := by
  rw [searchesShadow, Bool.and_eq_true]

/-- A column that looks for shadows and one that does not claim the same entry only across a
suffix. -/
lemma shadowedBy_of_claims (hsearch : column.searchesShadow entry.operator = true)
    (hplain : other.searchesShadow entry.operator = false) (hne : column.name ≠ other.name)
    (hcolumn : column.claims settings entry = true) (hother : other.claims settings entry = true) :
    column.ShadowedBy settings other := by
  rw [claims_iff] at hcolumn hother
  rw [addressedName_of_not_searchesShadow hplain] at hother
  obtain ⟨hpattern, hshadow⟩ := (searchesShadow_iff entry.operator).mp hsearch
  refine ⟨hshadow, by simpa [searchesShadow, hpattern] using hplain, ?_⟩
  by_cases hcarries : CarriesSuffix settings.nameSuffix entry.attributeName
  · rw [← hother, qualifiedName_of_carriesSuffix hsearch hcarries, hcolumn]
  · rw [addressedName_of_not_carriesSuffix hcarries] at hcolumn
    exact absurd (hcolumn.symm.trans hother) hne

/-- Two columns of different names claim one entry only with a pattern, and only when the shadow of
the one is called like the other. -/
theorem shadow_of_both_claim (hne : column.name ≠ other.name)
    (hcolumn : column.claims settings entry = true) (hother : other.claims settings entry = true) :
    entry.operator.isPattern = true ∧
      (column.ShadowedBy settings other ∨ other.ShadowedBy settings column) := by
  cases hsearch : column.searchesShadow entry.operator with
  | true =>
      refine ⟨((searchesShadow_iff entry.operator).mp hsearch).1, ?_⟩
      cases hsearch' : other.searchesShadow entry.operator with
      | true =>
          rw [claims_iff, addressedName, if_pos hsearch] at hcolumn
          rw [claims_iff, addressedName, if_pos hsearch'] at hother
          exact absurd (hcolumn.symm.trans hother) hne
      | false => exact Or.inl (shadowedBy_of_claims hsearch hsearch' hne hcolumn hother)
  | false =>
      cases hsearch' : other.searchesShadow entry.operator with
      | true =>
          refine ⟨((searchesShadow_iff entry.operator).mp hsearch').1, Or.inr ?_⟩
          exact shadowedBy_of_claims hsearch' hsearch hne.symm hother hcolumn
      | false =>
          rw [claims_iff, addressedName_of_not_searchesShadow hsearch] at hcolumn
          rw [claims_iff, addressedName_of_not_searchesShadow hsearch'] at hother
          exact absurd (hcolumn.symm.trans hother) hne

end Column

end GridFilter
