import GridFilter.Codec.Column
import GridFilter.Codec.Control
import GridFilter.Codec.Expression
import GridFilter.Codec.Metadata
import GridFilter.Codec.Validation
import GridFilter.Proofs.Calendar.Reading
import GridFilter.Proofs.Criterion.Canonical
import GridFilter.Proofs.Json.Scanning

/-!
# What is written reads back

Main statement: what the library writes of a type, it reads as the value that was written
(`formats_read_back`), over one line and over several.

The text is one half of it: a written text scans as the value that was written
(`Layout.scan`).  The other half is that each type recovers its values from their JSON forms
(`Recovers`), fields that are left out among them.  Types are put together from types, so the lemmas
about lists and optional values carry most of it; a filter, whose groups are filters, is taken by
the levels that its reader has left.
-/

namespace GridFilter

open Json (Exact Source)

/-! ## Reading back -/

/-- The text of a value, without blanks or over several lines, is read as that value. -/
def ReadsBack {α : Type} (toJson : α → Json) (decode : Decoder α) (value : α) : Prop :=
  readDocument decode (toJson value).compact = .ok value ∧
    readDocument decode (toJson value).pretty = .ok value

/-- A JSON form gives its value back. -/
structure Recovers {α : Type} (json : Json) (decode : Decoder α) (value : α) : Prop where
  exact : Exact json
  decoded : decode (.ofJson json) = .ok value

section Results

variable {ε α β : Type}

@[simp] lemma bind_ok (value : α) (next : α → Except ε β) :
    (Except.ok value >>= next) = next value := rfl

@[simp] lemma map_ok (f : α → β) (value : α) :
    (Except.ok value : Except ε α).map f = .ok (f value) := rfl

@[simp] lemma pure_eq_ok (value : α) : (pure value : Except ε α) = .ok value := rfl

end Results

section Recovers

variable {α : Type} {json : Json} {decode : Decoder α} {value : α}

lemma Recovers.readDocument (h : Recovers json decode value) {s : List Char}
    (hlayout : Json.Layout json s) (hdepth : json.nesting ≤ Json.depthLimit) :
    readDocument decode (String.ofList s) = .ok value := by
  simp [GridFilter.readDocument, hlayout.scan hdepth, h.decoded]

lemma Recovers.readsBack {toJson : α → Json} (h : Recovers (toJson value) decode value)
    (hdepth : (toJson value).nesting ≤ Json.depthLimit) : ReadsBack toJson decode value :=
  ⟨h.readDocument (Json.compactChars_layout h.exact) hdepth,
    h.readDocument (Json.prettyChars_layout h.exact 0) hdepth⟩

end Recovers

/-! ## Values, lists and missing values -/

section Decoders

variable {α : Type} {encode : α → Json} {decode : Decoder α}

lemma recovers_text (text : String) : Recovers (.string text) Decoder.text text :=
  ⟨.string text, rfl⟩

lemma decode_items {items : List α}
    (h : ∀ item ∈ items, decode (.ofJson (encode item)) = .ok item) :
    Decoder.items decode (Source.ofItems (items.map encode)) = .ok items := by
  induction items with
  | nil => rfl
  | cons item rest ih =>
      simp [Source.ofItems, Decoder.items, h item List.mem_cons_self,
        ih fun next hmem => h next (List.mem_cons_of_mem _ hmem)]

/-- A list gives its items back, in order, when each of them does. -/
lemma recovers_list {items : List α} (h : ∀ item ∈ items, Recovers (encode item) decode item) :
    Recovers (Json.ofList encode items) (Decoder.list decode) items where
  exact := by
    simpa [Json.ofList] using fun item hmem => (h item hmem).exact
  decoded := decode_items fun item hmem => (h item hmem).decoded

/-- A value that may be missing is given back, when null is the form of no value that is there. -/
lemma recovers_optional {value : Option α} (hnull : decode .null = .error .malformed)
    (h : ∀ held ∈ value, Recovers (encode held) decode held) :
    Recovers (Json.ofOption encode value) (Decoder.optional decode) value := by
  cases value with
  | none => exact ⟨.null, rfl⟩
  | some held =>
      obtain ⟨hexact, hdecoded⟩ := h held rfl
      refine ⟨hexact, ?_⟩
      have hsource : Source.ofJson (encode held) ≠ .null := by
        intro hsource
        simp [hsource, hnull] at hdecoded
      simp [Json.ofOption, Decoder.optional, hdecoded]

lemma recovers_pair {first second : Json} {left right : α} (hfirst : Recovers first decode left)
    (hsecond : Recovers second decode right) :
    Recovers (.array [first, second]) (Decoder.pair decode) (left, right) where
  exact := by simp [hfirst.exact, hsecond.exact]
  decoded := by
    simp [Source.ofJson, Source.ofItems, Decoder.pair, hfirst.decoded, hsecond.decoded]

lemma recovers_int32 {n : Int} (h : Text.fitsInt32 n = true) :
    Recovers (.integer n) Decoder.int32 n := by
  have hrange : -2147483648 ≤ n ∧ n ≤ 2147483647 := by simpa [Text.fitsInt32] using h
  refine ⟨.integer ⟨by omega, by omega⟩, ?_⟩
  simp [Source.ofJson, Decoder.int32, Decoder.integer, hrange]

end Decoders

/-! ## Names and codes -/

@[simp] lemma Combinator.ofCode?_code (combinator : Combinator) :
    Combinator.ofCode? combinator.code = some combinator := by
  cases combinator <;> rfl

lemma Combinator.code_le (combinator : Combinator) : combinator.code ≤ 255 := by
  cases combinator <;> decide

@[simp] lemma DataType.ofName?_name (type : DataType) : DataType.ofName? type.name = some type := by
  cases type <;> rfl

lemma Operator.recovers (operator : Operator) :
    Recovers operator.toJson Operator.decode operator := by
  have hcode := operator.code_le
  refine ⟨.integer ⟨by omega, by omega⟩, ?_⟩
  simp [Operator.toJson, Operator.decode, Source.ofJson, Decoder.integer, hcode]

lemma Combinator.recovers (combinator : Combinator) :
    Recovers combinator.toJson Combinator.decode combinator := by
  have hcode := combinator.code_le
  refine ⟨.integer ⟨by omega, by omega⟩, ?_⟩
  simp [Combinator.toJson, Combinator.decode, Source.ofJson, Decoder.integer, hcode]

lemma DataType.recovers (type : DataType) : Recovers type.toJson DataType.decode type where
  exact := .string type.name
  decoded := by simp [DataType.toJson, DataType.decode, Decoder.named, Source.ofJson]

/-! ## Wire values -/

/-- Null, texts and lists are told apart by their form, and a gap in a list is null. -/
lemma WireValue.recovers (wire : WireValue) : Recovers wire.toJson WireValue.decode wire := by
  cases wire with
  | null => exact ⟨.null, rfl⟩
  | scalar text => exact ⟨.string text, rfl⟩
  | list items =>
      obtain ⟨hexact, hdecoded⟩ : Recovers (Json.ofList Json.ofString? items) _ items :=
        recovers_list fun item _ => recovers_optional rfl fun held _ => recovers_text held
      refine ⟨hexact, ?_⟩
      simp only [Json.ofList, Source.ofJson, Decoder.list] at hdecoded
      simp [WireValue.toJson, WireValue.decode, Json.ofList, Source.ofJson, hdecoded]

/-! ## Records -/

section Records

lemma Shape.decode_object {δ α : Type} (shape : Shape δ α)
    (members : List (Option String × Source)) :
    shape.decode (.object members) = shape.decodeMembers members := rfl

-- The members of a written record, one after the other, and the draft they are put into.
attribute [local simp] Source.ofJson Source.ofMembers Shape.decode_object Shape.decodeMembers
  Shape.readMembers Field.once required Decoder.text Decoder.optional Decoder.bool
  Json.optionalMember Json.listMember

lemma ConditionExpression.recovers (entry : ConditionExpression) :
    Recovers entry.toJson ConditionExpression.decode entry := by
  obtain ⟨name, entityAlias, operator, value⟩ := entry
  have hoperator := operator.recovers
  have hvalue := value.recovers
  -- An alias that is missing is left out, and read as missing.
  cases entityAlias <;>
    exact ⟨by simp [toJson, hoperator.exact, hvalue.exact],
      by simp [toJson, decode, shape, hoperator.decoded, hvalue.decoded]⟩

lemma Reference.recovers (reference : Reference) :
    Recovers reference.toJson Reference.decode reference := by
  obtain ⟨id, entityType, name⟩ := reference
  cases entityType <;> cases name <;>
    exact ⟨by simp [toJson], by simp [toJson, decode, shape]⟩

lemma EntityMetadata.recovers (entity : EntityMetadata) :
    Recovers entity.toJson EntityMetadata.decode entity where
  exact := by simp [toJson]
  decoded := by simp [toJson, decode, shape, fields, Draft.finish]

lemma ValidationResult.recovers (result : ValidationResult) :
    Recovers result.toJson ValidationResult.decode result where
  exact := by simp [toJson]
  decoded := by simp [toJson, decode, shape]

lemma Choice.recovers {choice : Choice} (h : Text.fitsInt32 choice.value = true) :
    Recovers choice.toJson Choice.shape.decode choice := by
  have hvalue := recovers_int32 h
  have hexact := Exact.integer_iff.mp hvalue.exact
  have hdecoded : Decoder.int32 (.integer choice.value) = .ok choice.value := hvalue.decoded
  exact ⟨by simp [toJson, hexact], by simp [toJson, shape, hdecoded]⟩

lemma ColumnDetails.recovers {details : ColumnDetails}
    (h : ∀ choice ∈ details.options, Text.fitsInt32 choice.value = true) :
    Recovers details.toJson ColumnDetails.shape.decode details := by
  obtain ⟨options, targets, multiline⟩ := details
  have hoptions : Recovers (Json.ofList Choice.toJson options) _ options :=
    recovers_list fun choice hmem => Choice.recovers (h choice hmem)
  have htargets : Recovers (Json.ofList .string targets) _ targets :=
    recovers_list fun text _ => recovers_text text
  cases options <;> cases targets <;>
    exact ⟨by simp [toJson, hoptions.exact, htargets.exact],
      by simp [toJson, shape, hoptions.decoded, htargets.decoded]⟩

lemma Column.recovers {column : Column}
    (h : ∀ choice ∈ column.details.options, Text.fitsInt32 choice.value = true) :
    Recovers column.toJson Column.decode column := by
  have htype := column.dataType.recovers
  have hdetails := ColumnDetails.recovers h
  exact ⟨by simp [toJson, htype.exact, hdetails.exact],
    by simp [toJson, decode, shape, htype.decoded, hdetails.decoded]⟩

/-! ## Filters -/

lemma FilterExpression.groupsToJson_eq_map (groups : List FilterExpression) :
    groupsToJson groups = groups.map toJson := by
  induction groups with
  | nil => rfl
  | cons group rest ih => rw [groupsToJson, ih, List.map_cons]

lemma FilterExpression.toJson_eq (filter : FilterExpression) :
    filter.toJson = .object
      ([("filterOperator", filter.combinator.toJson),
        ("conditions", Json.ofList ConditionExpression.toJson filter.conditions)] ++
          Json.listMember "filters" toJson filter.groups) := by
  obtain ⟨combinator, conditions, groups⟩ := filter
  cases groups <;> simp [toJson, groupsToJson_eq_map, Json.ofList]

/-- A group lies in two containers more than its filter: in the list of groups and in itself. -/
lemma FilterExpression.nesting_group {filter group : FilterExpression}
    (hmem : group ∈ filter.groups) : group.toJson.nesting + 2 ≤ filter.toJson.nesting := by
  have hlist : ("filters", Json.ofList toJson filter.groups) ∈
      Json.listMember "filters" toJson filter.groups := by
    cases hgroups : filter.groups with
    | nil => simp [hgroups] at hmem
    | cons head rest => simp
  have hgroup : group.toJson.nesting < (Json.ofList toJson filter.groups).nesting :=
    Json.nesting_lt_array (List.mem_map_of_mem hmem)
  have hgroups : (Json.ofList toJson filter.groups).nesting < filter.toJson.nesting := by
    rw [filter.toJson_eq]
    exact Json.nesting_lt_object (List.mem_append_right _ hlist)
  omega

/-- A filter is given back by a reader that has as many levels as containers nest in its form. -/
lemma FilterExpression.recovers {filter : FilterExpression} {levels : Nat}
    (h : filter.toJson.nesting ≤ levels) :
    Recovers filter.toJson (decodeWithin levels) filter := by
  induction levels generalizing filter with
  | zero =>
      rw [filter.toJson_eq, Json.nesting] at h
      omega
  | succ levels ih =>
      have hgroups : Recovers (Json.ofList toJson filter.groups)
          (Decoder.list (decodeWithin levels)) filter.groups := by
        refine recovers_list fun group hmem => ih ?_
        have hgroup := nesting_group hmem
        omega
      obtain ⟨combinator, conditions, groups⟩ := filter
      have hcombinator := combinator.recovers
      have hconditions :
          Recovers (Json.ofList ConditionExpression.toJson conditions) _ conditions :=
        recovers_list fun entry _ => entry.recovers
      cases groups with
      | nil =>
          exact ⟨by simp [toJson_eq, hcombinator.exact, hconditions.exact],
            by simp [toJson_eq, decodeWithin, shape, hcombinator.decoded, hconditions.decoded]⟩
      | cons group rest =>
          exact ⟨by simp [toJson_eq, hcombinator.exact, hconditions.exact, hgroups.exact],
            by simp [toJson_eq, decodeWithin, shape, hcombinator.decoded, hconditions.decoded,
              hgroups.decoded]⟩

/-! ## Control values -/

lemma Date.recovers (date : Date) : Recovers date.toJson Date.decode date where
  exact := .string date.text
  decoded := by simp [toJson, decode, text, spaced?_textChars]

namespace ControlValue

/-- A value of one of the two shapes of numbers. -/
def isNumeric : ControlValue → Bool
  | .number _ => true
  | .numberRange _ _ => true
  | _ => false

/-- The choices of a value are integers of thirty-two bits. -/
def FitsInt32 : ControlValue → Prop
  | .options values => ∀ n ∈ values, Text.fitsInt32 n = true
  | _ => True

@[simp] lemma Tag.ofName?_name (tag : Tag) : Tag.ofName? tag.name = some tag := by
  cases tag <;> rfl

lemma Tag.recovers (tag : Tag) : Recovers (.string tag.name) Tag.decode tag where
  exact := .string tag.name
  decoded := by simp [Tag.decode, Decoder.named]

/-- A value is given back through its type, once its content is. -/
lemma recovers_tagged {α : Type} {tag : Tag} {content : Json} {read : Decoder α} {held : α}
    {make : α → ControlValue} (h : Recovers content read held)
    (htag : decodeContent tag = fun source => (read source).map make) :
    Recovers (tagged tag content) decode (make held) := by
  have hname : Tag.decode (.string tag.name) = .ok tag := tag.recovers.decoded
  have hcontent : decodeContent tag (.ofJson content) = .ok (make held) := by
    simp [htag, h.decoded]
  exact ⟨by simp [tagged, h.exact],
    by simp [tagged, decode, shape, takeContent, hname, hcontent]⟩

/-- A control value that is no number is given back. -/
theorem recovers {value : ControlValue} (hnumeric : value.isNumeric = false)
    (hfits : value.FitsInt32) : Recovers value.toJson decode value := by
  cases value with
  | null =>
      have hname : Tag.decode (.string Tag.null.name) = .ok .null := Tag.null.recovers.decoded
      exact ⟨by simp [toJson], by simp [toJson, decode, shape, hname]⟩
  | text value => exact recovers_tagged (recovers_text value) rfl
  | number value => simp [isNumeric] at hnumeric
  | numberRange lower upper => simp [isNumeric] at hnumeric
  | date value => exact recovers_tagged value.recovers rfl
  | dateRange lower upper =>
      have hend : ∀ date : Option Date,
          Recovers (Json.ofOption Date.toJson date) (Decoder.optional Date.decode) date :=
        fun date => recovers_optional rfl fun held _ => held.recovers
      have htag : decodeContent .dateRange = fun source =>
          (Decoder.pair (Decoder.optional Date.decode) source).map fun ends =>
            .dateRange ends.1 ends.2 := rfl
      have hrange := recovers_tagged (recovers_pair (hend lower) (hend upper)) htag
      exact hrange
  | options values =>
      exact recovers_tagged (recovers_list fun n hmem => recovers_int32 (hfits n hmem)) rfl
  | references values =>
      exact recovers_tagged (recovers_list fun reference _ => reference.recovers) rfl

end ControlValue

end Records

/-! ## How deep the forms nest -/

open Json (nesting_array_le nesting_object_le)

lemma nesting_ofList_le {α : Type} {encode : α → Json} {items : List α} {depth : Nat}
    (h : ∀ item ∈ items, (encode item).nesting ≤ depth) :
    (Json.ofList encode items).nesting ≤ depth + 1 := by
  refine nesting_array_le ?_
  simpa using h

lemma WireValue.nesting_toJson_le (wire : WireValue) : wire.toJson.nesting ≤ 1 := by
  cases wire with
  | null => exact Nat.zero_le 1
  | scalar text => exact Nat.zero_le 1
  | list items =>
      refine nesting_ofList_le fun item _ => ?_
      cases item <;> exact Nat.le_refl 0

lemma ConditionExpression.nesting_toJson_le (entry : ConditionExpression) :
    entry.toJson.nesting ≤ 2 := by
  have hvalue := entry.value.nesting_toJson_le
  refine nesting_object_le ?_
  cases entry.entityAlias <;>
    simpa [Json.optionalMember, Json.nesting, Operator.toJson] using hvalue

lemma Reference.nesting_toJson_le (reference : Reference) : reference.toJson.nesting ≤ 1 := by
  refine nesting_object_le ?_
  cases reference.entityType <;> cases reference.name <;> simp [Json.optionalMember, Json.nesting]

lemma EntityMetadata.nesting_toJson_le (entity : EntityMetadata) : entity.toJson.nesting ≤ 1 :=
  nesting_object_le (by simp [Json.nesting])

lemma ValidationResult.nesting_toJson_le (result : ValidationResult) :
    result.toJson.nesting ≤ 1 :=
  nesting_object_le (by simp [Json.nesting])

lemma ColumnDetails.nesting_toJson_le (details : ColumnDetails) : details.toJson.nesting ≤ 3 := by
  obtain ⟨options, targets, multiline⟩ := details
  have hoptions : (Json.ofList Choice.toJson options).nesting ≤ 2 :=
    nesting_ofList_le fun choice _ => nesting_object_le (by simp [Json.nesting])
  have htargets : (Json.ofList .string targets).nesting ≤ 2 :=
    nesting_ofList_le fun target _ => Nat.zero_le 1
  refine nesting_object_le ?_
  cases options <;> cases targets <;> simp [Json.listMember, Json.nesting, hoptions, htargets]

lemma Column.nesting_toJson_le (column : Column) : column.toJson.nesting ≤ 4 := by
  have hdetails := column.details.nesting_toJson_le
  refine nesting_object_le ?_
  simpa [DataType.toJson, Json.nesting] using hdetails

namespace ControlValue

lemma nesting_tagged_le {tag : Tag} {content : Json} {depth : Nat} (h : content.nesting ≤ depth) :
    (tagged tag content).nesting ≤ depth + 1 := by
  refine nesting_object_le ?_
  simpa [Json.nesting] using h

lemma nesting_toJson_le (value : ControlValue) : value.toJson.nesting ≤ 3 := by
  cases value with
  | null => exact nesting_object_le (by simp [Json.nesting])
  | text value => exact nesting_tagged_le (Nat.zero_le 2)
  | number value => exact nesting_tagged_le (Nat.zero_le 2)
  | numberRange lower upper =>
      refine nesting_tagged_le (nesting_array_le ?_)
      cases lower <;> cases upper <;> simp [Json.ofOption, Json.nesting]
  | date value => exact nesting_tagged_le (Nat.zero_le 2)
  | dateRange lower upper =>
      refine nesting_tagged_le (nesting_array_le ?_)
      cases lower <;> cases upper <;> simp [Json.ofOption, Date.toJson, Json.nesting]
  | options values =>
      exact nesting_tagged_le (nesting_ofList_le fun n _ => Nat.zero_le 1)
  | references values =>
      exact nesting_tagged_le (nesting_ofList_le fun reference _ => reference.nesting_toJson_le)

end ControlValue

/-! ## All formats -/

/-- What is written of a filter whose containers nest no deeper than a reader goes, of a condition,
a wire value, a column, a reference, an entity, a validation result or a control value that is no
number is read as the value it was written of.  The choices of columns and control values are
integers of thirty-two bits, as they are wherever they are read. -/
theorem formats_read_back :
    (∀ filter : FilterExpression, filter.toJson.nesting ≤ Json.depthLimit →
      ReadsBack FilterExpression.toJson FilterExpression.decode filter) ∧
    (∀ entry : ConditionExpression,
      ReadsBack ConditionExpression.toJson ConditionExpression.decode entry) ∧
    (∀ wire : WireValue, ReadsBack WireValue.toJson WireValue.decode wire) ∧
    (∀ column : Column, (∀ choice ∈ column.details.options, Text.fitsInt32 choice.value = true) →
      ReadsBack Column.toJson Column.decode column) ∧
    (∀ reference : Reference, ReadsBack Reference.toJson Reference.decode reference) ∧
    (∀ entity : EntityMetadata, ReadsBack EntityMetadata.toJson EntityMetadata.decode entity) ∧
    (∀ result : ValidationResult,
      ReadsBack ValidationResult.toJson ValidationResult.decode result) ∧
    (∀ value : ControlValue, value.isNumeric = false → value.FitsInt32 →
      ReadsBack ControlValue.toJson ControlValue.decode value) := by
  -- Only filters nest as deep as they like.
  have hwithin : ∀ {json : Json} {depth : Nat}, json.nesting ≤ depth → depth ≤ 4 →
      json.nesting ≤ Json.depthLimit := by
    intro json depth hnesting hdepth
    show json.nesting ≤ 127
    omega
  refine ⟨?_, ?_, ?_, ?_, ?_, ?_, ?_, ?_⟩
  · intro filter hnesting
    exact (FilterExpression.recovers hnesting).readsBack hnesting
  · intro entry
    exact entry.recovers.readsBack (hwithin entry.nesting_toJson_le (by omega))
  · intro wire
    exact wire.recovers.readsBack (hwithin wire.nesting_toJson_le (by omega))
  · intro column hfits
    exact (Column.recovers hfits).readsBack (hwithin column.nesting_toJson_le (by omega))
  · intro reference
    exact reference.recovers.readsBack (hwithin reference.nesting_toJson_le (by omega))
  · intro entity
    exact entity.recovers.readsBack (hwithin entity.nesting_toJson_le (by omega))
  · intro result
    exact result.recovers.readsBack (hwithin result.nesting_toJson_le (by omega))
  · intro value hnumeric hfits
    exact (ControlValue.recovers hnumeric hfits).readsBack
      (hwithin value.nesting_toJson_le (by omega))

/-- A group of a group without conditions, a text with a quote in it, a negative choice and a range
whose lower end is missing. -/
theorem formats_read_back_group :
    ReadsBack FilterExpression.toJson FilterExpression.decode
        { combinator := .or
          groups :=
            [{ conditions := [⟨"name", none, .equal, .scalar "a \"b\""⟩], groups := [{}] }] } ∧
      ReadsBack Column.toJson Column.decode
        ⟨"statuscode", .optionSet, { options := [⟨-1, "Draft"⟩] }⟩ ∧
      ReadsBack ControlValue.toJson ControlValue.decode
        (.dateRange none (some ⟨2024, 2, 29, by decide⟩)) :=
  ⟨formats_read_back.1 _ (by decide), formats_read_back.2.2.2.1 _ (by decide),
    formats_read_back.2.2.2.2.2.2.2 _ rfl trivial⟩

end GridFilter
