import GridFilter.Proofs.Condition.Memo
import GridFilter.Proofs.Condition.Written
import GridFilter.Proofs.ValueShape.Rewriting

/-!
# Values that come back

An editor that sets a value finds it there when it looks: `Condition.current_setValue`, for every
value of the shape that the operator takes.

It finds it there again after it has tried other operators.  Each change of operator reads the value
under the old operator, remembers it for the family of that operator, and writes it anew under the
new one; when that leaves nothing, what was remembered for the new family is written.  So a value
comes back as soon as an operator of its family does (`Condition.recalled_switch`), provided that
every operator in between leaves nothing of its own to that family.  One without a value never does.
Where choices or references and texts are the only values, the other family does not either: a text
is no choice, and a choice is no text.  On the other kinds it may, since a number that was entered
as a count is also a day's number of days, and there the operators in between take no value.

## The invariant

`Condition.Recalls` has two halves.  While the operator is of the family, the value is the current
one and in order; while it is not, the value is remembered for the family.  A change of operator
leads from each half to each, at most with the loss of the sign of a zero
(`Condition.Recalls.withOperator`).
-/

namespace GridFilter

variable {column : Column} {operator other asked : Operator} {value : ControlValue}

/-! ## Families and shapes -/

/-- An operator that takes a value has a family. -/
lemma Operator.exists_family? (h : operator.isValueless = false) :
    ∃ family, operator.family? = some family := by
  rw [← Option.isSome_iff_exists]
  cases operator <;> first | rfl | exact absurd h (by decide)

namespace ValueShape

variable {kind : ColumnKind} {shape : ValueShape}

/-- On one kind the values of a family are of one shape. -/
lemma of_eq_of_family? (h : kind.supports operator = true) (hother : kind.supports other = true)
    (hfamily : operator.family? = other.family?) : of kind operator = of kind other := by
  have hall : ∀ operator ∈ kind.operators, ∀ other ∈ kind.operators,
      operator.family? = other.family? → of kind operator = of kind other := by
    cases kind <;> decide +kernel
  exact hall operator (ColumnKind.mem_operators h) other (ColumnKind.mem_operators hother) hfamily

/-- References are the values of operators that compare exactly. -/
lemma family?_of_references (h : kind.supports operator = true)
    (hshape : of kind operator = references) : operator.family? = some .exact := by
  have hall : ∀ operator ∈ kind.operators, of kind operator = references →
      operator.family? = some .exact := by
    cases kind <;> decide
  exact hall operator (ColumnKind.mem_operators h) hshape

/-- Of two families on a kind with choices or references, one has these and the other has texts to
search for. -/
lemma list_and_search (hrewrites : kind.rewritesMultiValue = true)
    (h : kind.supports operator = true) (hother : kind.supports other = true)
    (hvalue : operator.isValueless = false) (hotherValue : other.isValueless = false)
    (hfamily : operator.family? ≠ other.family?) :
    (of kind operator).isList = true ∧ of kind other = search ∨
      of kind operator = search ∧ (of kind other).isList = true := by
  have hall : ∀ operator ∈ kind.operators, ∀ other ∈ kind.operators,
      operator.isValueless = false → other.isValueless = false →
        operator.family? ≠ other.family? →
          (of kind operator).isList = true ∧ of kind other = search ∨
            of kind operator = search ∧ (of kind other).isList = true := by
    cases kind <;> first | exact absurd hrewrites (by decide) | decide +kernel
  exact hall operator (ColumnKind.mem_operators h) other (ColumnKind.mem_operators hother) hvalue
    hotherValue hfamily

lemma encode_null (shape : ValueShape) : shape.encode .null = .null := by
  cases shape <;> rfl

/-- Nothing is left of choices or references as a text, nor of a text as choices or references. -/
lemma encode_decode_of_apart {earlier : ValueShape} {wire : WireValue}
    (h : shape.isList = true ∧ earlier = search ∨ shape = search ∧ earlier.isList = true)
    (remembered : Option ControlValue) :
    shape.encode ((earlier.decode wire).filledFrom remembered) = .null := by
  rcases h with ⟨hlist, rfl⟩ | ⟨rfl, hlist⟩
  · have htext : (search.decode wire).filledFrom remembered = .ofText? wire.scalar? := by
      show (ControlValue.ofText? wire.scalar?).filledFrom remembered = _
      cases wire.scalar? <;> rfl
    rw [htext]
    cases shape with
    | options | references => cases wire.scalar? <;> rfl
    | _ => exact absurd hlist (by decide)
  · cases earlier with
    | options =>
        rw [decode, decodeOptions]
        split <;> rfl
    | references =>
        rw [decode, decodeReferences]
        split
        · rfl
        · cases remembered with
          | none => rfl
          | some last => cases last <;> rfl
    | _ => exact absurd hlist (by decide)

end ValueShape

namespace Condition

variable {condition : Condition}

/-- The condition shows what decoding gives once nothing is decoded. -/
lemma fst_current_of_decoded (h : condition.decoded = none) :
    condition.current.1 = condition.decode :=
  (memoSound_of_decoded h).fst_current

/-! ## Conditions in order -/

lemma supports_of_isValid (hvalid : condition.isValid = true) :
    condition.column.supports condition.operator = true := by
  rw [ColumnFilter.isValid_eq_accepts] at hvalid
  exact (Column.accepts_iff.mp hvalid).1

/-- The value that the operator of a condition in order takes is in order as it is seen. -/
lemma passes_of_isValid (hvalid : condition.isValid = true) {shape : ValueShape}
    (hshape : condition.column.valueShape condition.operator = shape) (hsome : shape ≠ .nothing) :
    shape.Passes condition.column condition.wire := by
  rw [ColumnFilter.isValid_eq_accepts] at hvalid
  rw [← hshape] at hsome ⊢
  exact Column.passes_of_accepts hvalid (ValueShape.isValueless_of_ne_nothing hsome)

/-! ## Right after setting a value -/

lemma exact_keepPresent (memory : FamilyMemory) (hfamily : operator.family? = some .exact)
    (hpresent : value.isNull = false) : (memory.keepPresent operator value).exact = some value := by
  have hkept : (memory.keepPresent operator value).get .exact = some value := by
    rw [FamilyMemory.get_keepPresent, if_pos ⟨hfamily, hpresent⟩]
  exact hkept

/-- Whatever state a condition is in, the value that was just set is the one it shows, provided that
it is one for the operator. -/
theorem current_setValue (hsupports : condition.column.supports condition.operator = true)
    (hvalue : (condition.column.valueShape condition.operator).Own Reference.Plain value) :
    (condition.setValue value).2.current.1 = value.forgetZeroSign := by
  have hown : (condition.column.valueShape condition.operator).Own Reference.Coherent value :=
    hvalue.mono fun _ => Reference.Plain.coherent
  have hremembered : condition.column.valueShape condition.operator = .references →
      (condition.remembered.keepPresent condition.operator value).exact = some value := by
    intro hshape
    have hfamily := ValueShape.family?_of_references hsupports hshape
    exact exact_keepPresent condition.remembered hfamily hown.isNull
  have hdecode : (condition.setValue value).2.current.1 = (condition.setValue value).2.decode :=
    fst_current_of_decoded rfl
  rw [hdecode]
  exact ValueShape.decode_encode hown hremembered

/-- A name that is remembered for an id does not come up again when the bare id is set. -/
theorem current_setValue_bare :
    let column : Column := ⟨"ownerid", .owner, { targets := ["contact"] }⟩
    let named : Reference := ⟨"a1", some "contact", some "Ann"⟩
    let condition := ((Condition.fresh 0 "owner" column).setValue (.references [named])).2
    condition.column.supports condition.operator = true ∧
      (condition.column.valueShape condition.operator).Own Reference.Plain
        (.references [.bare "a1", ⟨"b2", some "contact", none⟩]) ∧
      (condition.setValue (.references [.bare "a1", ⟨"b2", some "contact", none⟩])).2.current.1 =
        .references [.bare "a1", ⟨"b2", some "contact", none⟩] := by
  intro column named condition
  have hsupports : condition.column.supports condition.operator = true := by decide
  have hplain : Reference.Plain [.bare "a1", ⟨"b2", some "contact", none⟩] :=
    ⟨by decide +kernel, by decide, by decide⟩
  have hvalue : (condition.column.valueShape condition.operator).Own Reference.Plain
      (.references [.bare "a1", ⟨"b2", some "contact", none⟩]) := by
    exact .references _ (by simp) hplain
  exact ⟨hsupports, hvalue, current_setValue hsupports hvalue⟩

/-! ## Other operators in between -/

/-- The operator may be tried without harm to the values of the family of the one that is asked
for. -/
def MayTry (column : Column) (asked operator : Operator) : Prop :=
  column.supports operator = true ∧
    (column.kind.rewritesMultiValue = true ∨ operator.isValueless = true ∨
      operator.family? = asked.family?)

/-- A value of the family of an operator is the current one, or it is remembered. -/
structure Recalls (asked : Operator) (value : ControlValue) (condition : Condition) : Prop where
  memo : condition.MemoSound
  supports : condition.column.supports asked = true
  tried : MayTry condition.column asked condition.operator
  own : (condition.column.valueShape asked).Own Reference.Coherent value
  filled : (condition.column.valueShape asked).Filled condition.column
    ((condition.column.valueShape asked).encode value)
  shown : condition.operator.family? = asked.family? →
    condition.decode = value ∧ condition.isValid = true
  kept : condition.operator.family? ≠ asked.family? →
    condition.remembered.lastFor asked = some value

lemma rewritten_of_last {earlier : ControlValue}
    (hlast : condition.remembered.lastFor operator = some earlier)
    (hsource : condition.column.encodeValue operator value =
        condition.column.encodeValue operator earlier ∨
      condition.column.encodeValue operator value = .null) :
    condition.rewritten operator value = condition.column.encodeValue operator earlier := by
  unfold rewritten
  dsimp only
  split
  · rw [hlast]
  · next hsome =>
      rcases hsource with hsame | hnull
      · exact hsame
      · rw [hnull] at hsome
        exact absurd rfl hsome

lemma Recalls.isValueless (h : Recalls asked value condition) : asked.isValueless = false :=
  ValueShape.isValueless_of_ne_nothing h.own.ne_nothing

/-- What an operator of another family shows leaves nothing for the family that is asked for. -/
lemma Recalls.encode_decode (h : Recalls asked value condition)
    (hother : condition.operator.family? ≠ asked.family?) :
    (condition.column.valueShape asked).encode condition.decode = .null := by
  cases hvalueless : condition.operator.isValueless with
  | true =>
      have hshape : condition.column.valueShape condition.operator = .nothing :=
        ValueShape.of_isValueless hvalueless
      rw [decode, Column.decodeValue, hshape]
      exact ValueShape.encode_null _
  | false =>
      have hrewrites : condition.column.kind.rewritesMultiValue = true := by
        rcases h.tried.2 with hrewrites | hnone | hsame
        · exact hrewrites
        · rw [hvalueless] at hnone
          exact absurd hnone Bool.false_ne_true
        · exact absurd hsame hother
      exact ValueShape.encode_decode_of_apart
        (ValueShape.list_and_search hrewrites h.supports h.tried.1 h.isValueless hvalueless
          hother.symm) _

/-- Before it changes its operator, the condition remembers the value for the family. -/
lemma Recalls.lastFor (h : Recalls asked value condition) :
    (condition.remembered.keepPresent condition.operator condition.decode).lastFor asked =
      some value := by
  obtain ⟨family, hfamily⟩ : ∃ family, asked.family? = some family :=
    Operator.exists_family? h.isValueless
  have hget : ∀ memory : FamilyMemory, memory.lastFor asked = memory.get family := by
    intro memory
    rw [FamilyMemory.lastFor, hfamily, Option.bind_some]
  rw [hget, FamilyMemory.get_keepPresent]
  by_cases hsame : condition.operator.family? = asked.family?
  · have hshown := (h.shown hsame).1
    rw [if_pos ⟨hsame.trans hfamily, by rw [hshown, h.own.isNull]⟩, hshown]
  · rw [if_neg fun hboth => hsame (hboth.1.trans hfamily.symm), ← hget]
    exact h.kept hsame

/-- An operator of the family has the value written for it. -/
lemma Recalls.wire_withOperator (h : Recalls asked value condition)
    (hsupports : condition.column.supports operator = true)
    (hfamily : operator.family? = asked.family?) :
    (condition.withOperator operator).wire =
      (condition.column.valueShape asked).encode value := by
  have hshape : condition.column.valueShape operator = condition.column.valueShape asked :=
    ValueShape.of_eq_of_family? hsupports h.supports hfamily
  have hlast : (condition.remembered.keepPresent condition.operator condition.decode).lastFor
      operator = some value := by
    have hasked := h.lastFor
    rw [FamilyMemory.lastFor] at hasked ⊢
    rw [hfamily]
    exact hasked
  have hsource : condition.column.encodeValue operator condition.decode =
        condition.column.encodeValue operator value ∨
      condition.column.encodeValue operator condition.decode = .null := by
    by_cases hsame : condition.operator.family? = asked.family?
    · exact .inl (by rw [(h.shown hsame).1])
    · right
      rw [Column.encodeValue, hshape]
      exact h.encode_decode hsame
  rw [← hshape, withOperator, h.memo.fst_current]
  exact rewritten_of_last hlast hsource

/-- An operator of the family shows the value. -/
lemma Recalls.decode_withOperator (h : Recalls asked value condition)
    (hsupports : condition.column.supports operator = true)
    (hfamily : operator.family? = asked.family?) :
    (condition.withOperator operator).decode = value.forgetZeroSign := by
  have hshape : condition.column.valueShape operator = condition.column.valueShape asked :=
    ValueShape.of_eq_of_family? hsupports h.supports hfamily
  have hremembered : condition.column.valueShape asked = .references →
      (condition.withOperator operator).remembered.exact = some value := by
    intro hreferences
    have hexact := ValueShape.family?_of_references h.supports hreferences
    have hlast := h.lastFor
    rw [FamilyMemory.lastFor, hexact, ← h.memo.fst_current] at hlast
    exact hlast
  rw [decode, h.wire_withOperator hsupports hfamily]
  show ((condition.column.valueShape operator).decode _).filledFrom _ = _
  rw [hshape]
  exact ValueShape.decode_encode h.own hremembered

/-- A value that an operator of the family shows is in order. -/
lemma Recalls.isValid_withOperator (h : Recalls asked value condition)
    (hsupports : condition.column.supports operator = true)
    (hfamily : operator.family? = asked.family?) :
    (condition.withOperator operator).isValid = true := by
  have hshape : condition.column.valueShape operator = condition.column.valueShape asked :=
    ValueShape.of_eq_of_family? hsupports h.supports hfamily
  rw [ColumnFilter.isValid_eq_accepts]
  refine Column.accepts_iff.mpr ⟨hsupports, .inr ?_⟩
  show (condition.column.valueShape operator).Passes condition.column
    (condition.withOperator operator).wire
  rw [h.wire_withOperator hsupports hfamily, hshape]
  exact h.filled.passes

/-- A change of operator keeps the value, as the current one or as a remembered one; the sign of a
zero may be lost. -/
theorem Recalls.withOperator (h : Recalls asked value condition)
    (htry : MayTry condition.column asked operator) :
    ∃ kept : ControlValue, kept.forgetZeroSign = value.forgetZeroSign ∧
      Recalls asked kept (condition.withOperator operator) := by
  have hmemo : (condition.withOperator operator).MemoSound := memoSound_of_decoded rfl
  by_cases hfamily : operator.family? = asked.family?
  · have hdecode := h.decode_withOperator htry.1 hfamily
    have hvalid := h.isValid_withOperator htry.1 hfamily
    refine ⟨value.forgetZeroSign, value.forgetZeroSign_forgetZeroSign, ?_⟩
    refine ⟨hmemo, h.supports, htry, h.own.forgetZeroSign, ?_, fun _ => ⟨hdecode, hvalid⟩,
      fun hother => absurd hfamily hother⟩
    rw [ValueShape.encode_forgetZeroSign]
    exact h.filled
  · refine ⟨value, rfl, hmemo, h.supports, htry, h.own, h.filled,
      fun hsame => absurd hsame hfamily, fun _ => ?_⟩
    have hlast := h.lastFor
    rw [← h.memo.fst_current] at hlast
    exact hlast

lemma Recalls.setOperator (h : Recalls asked value condition)
    (htry : MayTry condition.column asked operator) :
    ∃ kept : ControlValue, kept.forgetZeroSign = value.forgetZeroSign ∧
      Recalls asked kept (condition.setOperator operator).2 := by
  by_cases hsame : condition.operator = operator
  · rw [← hsame, setOperator_self]
    exact ⟨value, rfl, h⟩
  · rw [setOperator_of_ne hsame]
    exact h.withOperator htry

/-! ### Any number of changes -/

/-- What a list of operators, set one after another, makes of a condition. -/
def switch (condition : Condition) (operators : List Operator) : Condition :=
  operators.foldl (fun condition operator => (condition.setOperator operator).2) condition

lemma switch_append (condition : Condition) (operators later : List Operator) :
    condition.switch (operators ++ later) = (condition.switch operators).switch later :=
  List.foldl_append

lemma operator_setOperator (condition : Condition) (operator : Operator) :
    (condition.setOperator operator).2.operator = operator := by
  by_cases hsame : condition.operator = operator
  · rw [← hsame, setOperator_self]
  · rw [setOperator_of_ne hsame]
    rfl

lemma Recalls.switch (h : Recalls asked value condition) {operators : List Operator}
    (htry : ∀ operator ∈ operators, MayTry condition.column asked operator) :
    ∃ kept : ControlValue, kept.forgetZeroSign = value.forgetZeroSign ∧
      Recalls asked kept (condition.switch operators) := by
  induction operators generalizing condition value with
  | nil => exact ⟨value, rfl, h⟩
  | cons operator rest ih =>
      have hcolumn : (condition.setOperator operator).2.column = condition.column :=
        (Step.setOperator operator).identity.column
      obtain ⟨kept, hkept, hnext⟩ := h.setOperator (htry operator List.mem_cons_self)
      have hrest : ∀ other ∈ rest,
          MayTry (condition.setOperator operator).2.column asked other := by
        intro other hmem
        rw [hcolumn]
        exact htry other (List.mem_cons_of_mem operator hmem)
      obtain ⟨last, hlast, hdone⟩ := ih hnext hrest
      exact ⟨last, hlast.trans hkept, hdone⟩

/-- A condition that is in order and has a value recalls it for its own operator. -/
lemma recalls_of_isValid (hmemo : condition.MemoSound) (hvalid : condition.isValid = true)
    (hpresent : condition.current.1.isNull = false) :
    Recalls condition.operator condition.current.1 condition := by
  rw [hmemo.fst_current] at hpresent ⊢
  have haccepts := hvalid
  rw [ColumnFilter.isValid_eq_accepts] at haccepts
  obtain ⟨hsupports, hseen⟩ := Column.accepts_iff.mp haccepts
  have hpasses : (condition.column.valueShape condition.operator).Passes condition.column
      condition.wire := by
    rcases hseen with hvalueless | hpasses
    · -- An operator without a value would show none.
      have hshape : condition.column.valueShape condition.operator = .nothing :=
        ValueShape.of_isValueless hvalueless
      rw [decode, Column.decodeValue, hshape] at hpresent
      exact absurd hpresent (by simp [ValueShape.decode, ControlValue.filledFrom,
        ControlValue.isNull])
    · exact hpasses
  obtain ⟨shown, hshown, hown, hfilled⟩ := ValueShape.exists_own_of_passes hpasses hpresent
  have hdecode : condition.decode = shown := hshown
  rw [hdecode]
  exact ⟨hmemo, hsupports, ⟨hsupports, .inr (.inr rfl)⟩, hown, hfilled,
    fun _ => ⟨hdecode, hvalid⟩, fun hother => absurd rfl hother⟩

/-- Some list of moves makes the condition of a new one. -/
def Reachable (condition : Condition) : Prop :=
  ∃ (born : Condition) (moves : List Activity.Move), born.IsNew ∧
    (Activity.run { condition := born } moves).condition = condition

lemma Reachable.memoSound (h : condition.Reachable) : condition.MemoSound := by
  obtain ⟨born, moves, hnew, rfl⟩ := h
  exact memoSound_of_steps (Activity.steps_run { condition := born } moves) hnew.memoSound

/-- However a condition came to be in order with a value, the value comes back, and in order, after
any run of operators that ends in the family of its own, provided that the operators in between take
no value, are of that family too, or belong to a column of choices or references. -/
theorem recalled_switch (h : condition.Reachable) (hvalid : condition.isValid = true)
    (hpresent : condition.current.1.isNull = false) {operators : List Operator} {last : Operator}
    (htry : ∀ operator ∈ operators ++ [last],
      MayTry condition.column condition.operator operator)
    (hlast : last.family? = condition.operator.family?) :
    (condition.switch (operators ++ [last])).current.1.forgetZeroSign =
        condition.current.1.forgetZeroSign ∧
      (condition.switch (operators ++ [last])).isValid = true := by
  obtain ⟨kept, hkept, hrecalls⟩ := (recalls_of_isValid h.memoSound hvalid hpresent).switch htry
  have hoperator : (condition.switch (operators ++ [last])).operator = last := by
    rw [switch_append]
    exact operator_setOperator _ last
  have hfamily : (condition.switch (operators ++ [last])).operator.family? =
      condition.operator.family? := by
    rw [hoperator]
    exact hlast
  obtain ⟨hdecode, hinOrder⟩ := hrecalls.shown hfamily
  rw [hrecalls.memo.fst_current, hdecode]
  exact ⟨hkept, hinOrder⟩

/-- A reference with its name comes back after a pattern and a question for any value were tried. -/
theorem recalled_switch_named :
    let column : Column := ⟨"ownerid", .owner, { targets := ["contact"] }⟩
    let ann : Reference := ⟨"0b8a4f5e-8b0e-4c8e-9a53-3c1f4a1d9e01", some "contact", some "Ann"⟩
    let condition := (Activity.run { condition := fresh 0 "owner" column }
      [.setOperator .like, .setValue (.text "An"), .setOperator .equal,
        .setValue (.references [ann])]).condition
    condition.isValid = true ∧ condition.current.1 = .references [ann] ∧
      (condition.switch ([.like, .containsData] ++ [.doesNotEqual])).current.1.forgetZeroSign =
        condition.current.1.forgetZeroSign ∧
      (condition.switch ([.like, .containsData] ++ [.doesNotEqual])).isValid = true := by
  intro column ann condition
  have hreachable : condition.Reachable := ⟨fresh 0 "owner" column, _, .fresh 0 "owner" column, rfl⟩
  have hvalid : condition.isValid = true := by decide +kernel
  have hcurrent : condition.current.1 = .references [ann] := by decide +kernel
  have hoperator : condition.operator = .equal := by decide +kernel
  have hlookup : condition.column.kind = .lookup := by decide +kernel
  -- Nothing else of the condition is needed.
  clear_value condition
  have hpresent : condition.current.1.isNull = false := by
    rw [hcurrent]
    rfl
  have hoffered : ∀ operator ∈ [Operator.like, .containsData] ++ [.doesNotEqual],
      ColumnKind.lookup.supports operator = true := by decide
  have htry : ∀ operator ∈ [Operator.like, .containsData] ++ [.doesNotEqual],
      MayTry condition.column condition.operator operator := by
    intro operator hmem
    rw [MayTry, Column.supports, hlookup]
    exact ⟨hoffered operator hmem, .inl rfl⟩
  have hlast : Operator.doesNotEqual.family? = condition.operator.family? := by
    rw [hoperator]
    rfl
  exact ⟨hvalid, hcurrent, recalled_switch hreachable hvalid hpresent htry hlast⟩

end Condition

end GridFilter
