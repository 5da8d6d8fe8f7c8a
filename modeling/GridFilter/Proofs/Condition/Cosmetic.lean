import GridFilter.Proofs.Condition.Memo
import GridFilter.Proofs.Condition.SameIds
import GridFilter.Proofs.Condition.Written

/-!
# Names are cosmetic

A load looks up names, and names are only shown.  So a condition should go through the same criteria
whether loads are in between or not.  `Activity.cosmetic_run` says this of every list of moves,
compared with the edits in it alone.

A load leaves two things behind: ids that are known to have no record, which nothing but the next
load looks at, and a remembered value with the names that were found, which later edits read and
write again.  The proof relates the two runs by `Condition.Agrees`.  They agree on the criterion,
and what is remembered for a family is alike, with one exception: that of the operator that is set,
as long as it has a value.  A load may have written there, and it does no harm, because an edit that
leaves the family or sets a value writes there first.

Two premises cannot be dropped.  Setting no value is an edit that does not write what is remembered.
And ids have to settle (`RecordId.Settles`).  Those of a condition that is in order do
(`Condition.settles_of_isValid`); where they do not, a name that was found stands for another id
than the bare one (`Activity.name_changes_id`).
-/

namespace GridFilter

/-- Only lookups have references as values. -/
lemma Column.kind_of_references {column : Column} {operator : Operator}
    (h : column.valueShape operator = .references) : column.kind = .lookup := by
  unfold valueShape ValueShape.of at h
  split at h
  · cases h
  · cases hkind : column.kind with
    | lookup => rfl
    | text | multiSelectOptionSet | file => simp [hkind] at h
    | number | optionSet =>
        simp only [hkind] at h
        split at h <;> cases h
    | date =>
        simp only [hkind] at h
        split at h
        · cases h
        · split at h <;> cases h

namespace Condition

variable {condition loaded plain : Condition}

/-! ## Settled ids -/

/-- Every id that a condition shows or remembers settles. -/
structure Settled (condition : Condition) : Prop where
  memo : condition.MemoSound
  wire : condition.column.valueShape condition.operator = .references →
    ∀ text ∈ condition.wire.values, RecordId.Settles text
  remembered : condition.column.kind = .lookup → ∀ family value,
    condition.remembered.get family = some value → value.Settles

lemma Settled.current (h : condition.Settled) : condition.current.1.Settles := by
  rw [h.memo.fst_current]
  exact ValueShape.settles_decode h.wire _

lemma Settled.keepPresent (h : condition.Settled) {value : ControlValue}
    (hvalue : condition.column.kind = .lookup → value.Settles)
    (hlookup : condition.column.kind = .lookup) (family : Operator.Family) (last : ControlValue)
    (hlast : (condition.remembered.keepPresent condition.operator value).get family = some last) :
    last.Settles := by
  rw [FamilyMemory.get_keepPresent] at hlast
  split at hlast
  · rw [← Option.some.inj hlast]
    exact hvalue hlookup
  · exact h.remembered hlookup family last hlast

lemma Settled.withOperator (h : condition.Settled) (operator : Operator) :
    (condition.withOperator operator).Settled where
  memo := memoSound_of_decoded rfl
  remembered := h.keepPresent fun _ => h.current
  wire := by
    intro hshape
    have hlookup := Column.kind_of_references hshape
    obtain ⟨encoded, hencoded, hsource⟩ := rewritten_source
      { condition with
        remembered := condition.remembered.keepPresent condition.operator condition.current.1 }
      operator condition.current.1
    have hwire : (condition.withOperator operator).wire = ValueShape.references.encode encoded := by
      unfold Condition.withOperator
      dsimp only
      rw [hencoded, Column.encodeValue]
      exact congrArg (ValueShape.encode · encoded) hshape
    have hsettles : encoded.Settles := by
      rcases hsource with rfl | ⟨family, hget⟩
      · exact h.current
      · exact h.keepPresent (fun _ => h.current) hlookup family encoded hget
    rw [hwire]
    exact ValueShape.settles_encode hsettles

lemma Settled.setValue (h : condition.Settled) {value : ControlValue}
    (hvalue : condition.column.kind = .lookup → value.Settles) :
    (condition.setValue value).2.Settled where
  memo := memoSound_of_decoded rfl
  remembered := h.keepPresent hvalue
  wire := by
    intro hshape
    have hwire : (condition.setValue value).2.wire = ValueShape.references.encode value :=
      congrArg (ValueShape.encode · value) hshape
    rw [hwire]
    exact ValueShape.settles_encode (hvalue (Column.kind_of_references hshape))

lemma Settled.snd_current (h : condition.Settled) : condition.current.2.Settled where
  memo := h.memo.snd_current
  remembered := by
    rw [Condition.snd_current]
    exact h.remembered
  wire := by
    rw [Condition.snd_current]
    exact h.wire

lemma Settled.beginLoad (h : condition.Settled) : condition.beginLoad.2.2.Settled := by
  have hread := h.snd_current
  rcases beginLoad_eq condition with heq | ⟨-, pending, heq⟩ <;> rw [heq]
  · exact hread
  · exact ⟨hread.memo, hread.wire, hread.remembered⟩

lemma Settled.finishLoad (h : condition.Settled) (batch : Batch)
    (results : List (Option Reference)) : (condition.finishLoad batch results).2.Settled := by
  by_cases hcurrent : condition.revision = batch.revision
  · obtain ⟨missed, heq⟩ := snd_finishLoad_of_current hcurrent results
    rw [heq]
    refine ⟨memoSound_of_decoded rfl, h.wire, ?_⟩
    intro hlookup family value hvalue
    dsimp only at hvalue
    rw [FamilyMemory.get_keep] at hvalue
    split at hvalue
    · rw [← Option.some.inj hvalue]
      exact (alike_withFound batch results condition.current.1).settles h.current
    · exact h.remembered hlookup family value hvalue
  · obtain ⟨missed, heq⟩ := finishLoad_of_stale hcurrent results
    rw [heq]
    exact ⟨h.memo, h.wire, h.remembered⟩

/-- The ids of a condition that is in order settle. -/
lemma settles_of_isValid (hvalid : condition.isValid = true)
    (hshape : condition.column.valueShape condition.operator = .references) :
    ∀ text ∈ condition.wire.values, RecordId.Settles text := by
  have hsome : condition.column.valueShape condition.operator ≠ .nothing := by simp [hshape]
  have hvalue := ValueShape.isValueless_of_ne_nothing hsome
  rw [ColumnFilter.isValid_eq_accepts] at hvalid
  have hpasses : (condition.column.valueShape condition.operator).Passes condition.column
      condition.wire := Column.passes_of_accepts hvalid hvalue
  rw [hshape] at hpasses
  intro text hmem
  exact RecordId.settles_of_isGuid ((hpasses.listed rfl).2 text hmem)

lemma IsNew.get_remembered (h : condition.IsNew) (family : Operator.Family) :
    condition.remembered.get family = none := by
  cases h <;> cases family <;> rfl

lemma IsNew.settled (h : condition.IsNew)
    (hwire : condition.column.valueShape condition.operator = .references →
      ∀ text ∈ condition.wire.values, RecordId.Settles text) : condition.Settled where
  memo := h.memoSound
  wire := hwire
  remembered := by
    intro _ family value hvalue
    rw [h.get_remembered] at hvalue
    exact absurd hvalue.symm (Option.some_ne_none value)

/-! ## Two runs -/

/-- Two states of one condition that differ in what loads did. -/
structure Agrees (loaded plain : Condition) : Prop where
  column : plain.column = loaded.column
  operator : plain.operator = loaded.operator
  wire : plain.wire = loaded.wire
  settled : loaded.Settled
  settledPlain : plain.Settled
  /-- What is remembered is alike, but for the family whose value is the current one. -/
  alike : ∀ family,
    (loaded.operator.family? = some family → loaded.decode.isNull = true) →
      Option.Rel ControlValue.Alike (loaded.remembered.get family) (plain.remembered.get family)

lemma Agrees.current (h : loaded.Agrees plain) :
    ControlValue.Alike loaded.current.1 plain.current.1 := by
  rw [h.settled.memo.fst_current, h.settledPlain.memo.fst_current, decode, decode, h.column,
    h.operator, h.wire]
  exact ValueShape.decode_alike h.settled.wire _ _

/-- Keeping the current value makes what is remembered alike for every family. -/
lemma Agrees.keepPresent (h : loaded.Agrees plain) {value other : ControlValue}
    (hvalue : ControlValue.Alike value other)
    (hnull : value.isNull = true → loaded.decode.isNull = true) (family : Operator.Family) :
    Option.Rel ControlValue.Alike
      ((loaded.remembered.keepPresent loaded.operator value).get family)
      ((plain.remembered.keepPresent plain.operator other).get family) := by
  rw [FamilyMemory.get_keepPresent, FamilyMemory.get_keepPresent, h.operator, hvalue.isNull_eq]
  by_cases hkeeps : loaded.operator.family? = some family ∧ value.isNull = false
  · rw [if_pos hkeeps, if_pos hkeeps]
    exact .some hvalue
  · rw [if_neg hkeeps, if_neg hkeeps]
    refine h.alike family fun hfamily => hnull ?_
    rw [not_and, Bool.not_eq_false] at hkeeps
    exact hkeeps hfamily

/-- Alike values are written anew alike, also when they come from what is remembered. -/
lemma rewritten_alike {operator : Operator} {value other : ControlValue}
    (hcolumn : plain.column = loaded.column) (hvalue : ControlValue.Alike value other)
    (hremembered : ∀ family,
      Option.Rel ControlValue.Alike (loaded.remembered.get family) (plain.remembered.get family)) :
    plain.rewritten operator other = loaded.rewritten operator value := by
  have hlast : Option.Rel ControlValue.Alike (loaded.remembered.lastFor operator)
      (plain.remembered.lastFor operator) := by
    unfold FamilyMemory.lastFor
    cases operator.family? with
    | none => exact .none
    | some family => exact hremembered family
  unfold rewritten Column.encodeValue
  rw [hcolumn, ValueShape.encode_alike hvalue]
  dsimp only
  split
  · generalize loaded.remembered.lastFor operator = last at hlast ⊢
    generalize plain.remembered.lastFor operator = lastPlain at hlast ⊢
    cases hlast with
    | none => rfl
    | some hearlier => exact ValueShape.encode_alike hearlier
  · rfl

lemma Agrees.setOperator (h : loaded.Agrees plain) (operator : Operator) :
    (loaded.setOperator operator).2.Agrees (plain.setOperator operator).2 := by
  by_cases hsame : loaded.operator = operator
  · have hplain : plain.operator = operator := h.operator.trans hsame
    rw [← hsame, setOperator_self, hsame, ← hplain, setOperator_self]
    exact h
  · have hplain : plain.operator ≠ operator := fun heq => hsame (h.operator.symm.trans heq)
    rw [setOperator_of_ne hsame, setOperator_of_ne hplain]
    have hremembered := h.keepPresent h.current fun hnull => by
      rwa [h.settled.memo.fst_current] at hnull
    exact {
      column := h.column
      operator := rfl
      wire := rewritten_alike h.column h.current hremembered
      settled := h.settled.withOperator operator
      settledPlain := h.settledPlain.withOperator operator
      alike := fun family _ => hremembered family }

lemma Agrees.setValue (h : loaded.Agrees plain) {value : ControlValue}
    (hpresent : value.isNull = false)
    (hvalue : loaded.column.kind = .lookup → value.Settles) :
    (loaded.setValue value).2.Agrees (plain.setValue value).2 where
  column := h.column
  operator := h.operator
  wire := by
    show plain.column.encodeValue plain.operator value =
      loaded.column.encodeValue loaded.operator value
    rw [h.column, h.operator]
  settled := h.settled.setValue hvalue
  settledPlain := h.settledPlain.setValue (by rwa [h.column])
  alike := fun family _ => h.keepPresent (.refl value) (by simp [hpresent]) family

/-! ### Loads -/

/-- Whatever fills a value in, whether there is one depends on the criterion only. -/
lemma isNull_decode (condition : Condition) :
    condition.decode.isNull =
      (condition.column.decodeValue condition.operator condition.wire).isNull :=
  ControlValue.isNull_filledFrom _

lemma Agrees.snd_current (h : loaded.Agrees plain) : loaded.current.2.Agrees plain := by
  have hsettled := h.settled.snd_current
  rw [Condition.snd_current] at hsettled ⊢
  exact ⟨h.column, h.operator, h.wire, hsettled, h.settledPlain, h.alike⟩

lemma Agrees.beginLoad (h : loaded.Agrees plain) : loaded.beginLoad.2.2.Agrees plain := by
  have hread := h.snd_current
  have hsettled := h.settled.beginLoad
  rcases beginLoad_eq loaded with heq | ⟨-, pending, heq⟩ <;> rw [heq] at hsettled ⊢
  · exact hread
  · exact ⟨hread.column, hread.operator, hread.wire, hsettled, hread.settledPlain, hread.alike⟩

/-- The end of a load keeps the agreement, provided that there still is a value when the load was
not overtaken. -/
lemma Agrees.finishLoad (h : loaded.Agrees plain) {batch : Batch}
    (hpresent : loaded.revision = batch.revision → loaded.decode.isNull = false)
    (results : List (Option Reference)) : (loaded.finishLoad batch results).2.Agrees plain := by
  have hsettled := h.settled.finishLoad batch results
  by_cases hcurrent : loaded.revision = batch.revision
  · obtain ⟨missed, heq⟩ := snd_finishLoad_of_current hcurrent results
    rw [heq] at hsettled ⊢
    refine ⟨h.column, h.operator, h.wire, hsettled, h.settledPlain, ?_⟩
    intro family hnull
    have hother : loaded.operator.family? ≠ some family := by
      intro hfamily
      have hgone := hnull hfamily
      rw [isNull_decode] at hgone
      have hthere := hpresent hcurrent
      rw [isNull_decode] at hthere
      exact absurd (hthere.symm.trans hgone) Bool.false_ne_true
    dsimp only
    rw [FamilyMemory.get_keep, if_neg hother]
    exact h.alike family fun hfamily => absurd hfamily hother
  · obtain ⟨missed, heq⟩ := finishLoad_of_stale hcurrent results
    rw [heq] at hsettled ⊢
    exact ⟨h.column, h.operator, h.wire, hsettled, h.settledPlain, h.alike⟩

end Condition

namespace Activity

variable {activity plain : Activity} {move : Move}

/-! ## Runs with loads and without -/

/-- The move sets the operator or the value. -/
def Move.isEdit : Move → Bool
  | .setOperator _ | .setValue _ => true
  | .read | .startLoad | .finishLoad .. => false

/-- When the move sets a value there is one, and the ids in it settle. -/
def Move.Admissible (column : Column) (move : Move) : Prop :=
  ∀ value, move = .setValue value →
    value.isNull = false ∧ (column.kind = .lookup → value.Settles)

/-- A condition in use goes along with one that is only edited. -/
structure Follows (activity plain : Activity) : Prop where
  agrees : activity.condition.Agrees plain.condition
  /-- As long as a load was not overtaken, the value is there that it began with. -/
  begun : ∀ resolution ∈ activity.underWay,
    resolution.batch.revision ≤ activity.condition.revision ∧
      (resolution.batch.revision = activity.condition.revision →
        activity.condition.decode.isNull = false)

lemma mem_marked {resolution : Resolution} {edit : Bool}
    (h : resolution ∈ activity.marked edit) :
    ∃ earlier ∈ activity.underWay, earlier.batch = resolution.batch := by
  obtain ⟨earlier, hearlier, rfl⟩ := List.mem_map.mp h
  exact ⟨earlier, hearlier, rfl⟩

/-- After a new revision began, every load under way has been overtaken. -/
lemma Follows.overtaken (h : activity.Follows plain) {edit : Bool} {next : Condition}
    (hrevision : next.revision = activity.condition.revision + 1) :
    ∀ resolution ∈ activity.marked edit, resolution.batch.revision ≤ next.revision ∧
      (resolution.batch.revision = next.revision → next.decode.isNull = false) := by
  intro resolution hmem
  obtain ⟨earlier, hearlier, hbatch⟩ := mem_marked hmem
  have hbegun := (h.begun earlier hearlier).1
  rw [← hbatch, hrevision]
  refine ⟨by omega, fun hsame => ?_⟩
  omega

/-- An edit in both runs keeps them together. -/
lemma Follows.edit (h : activity.Follows plain) (hedit : move.isEdit = true)
    (hadmissible : move.Admissible activity.condition.column) :
    (activity.act move).Follows (plain.act move) := by
  cases move with
  | setOperator operator =>
      refine ⟨h.agrees.setOperator operator, ?_⟩
      by_cases hsame : activity.condition.operator = operator
      · rw [act, ← hsame, Condition.setOperator_self, bne_self_eq_false, marked_false]
        exact h.begun
      · rw [act, Condition.setOperator_of_ne hsame]
        exact h.overtaken rfl
  | setValue value =>
      obtain ⟨hpresent, hsettles⟩ := hadmissible value rfl
      exact ⟨h.agrees.setValue hpresent hsettles, h.overtaken rfl⟩
  | read | startLoad | finishLoad => simp [Move.isEdit] at hedit

lemma Follows.startLoad (h : activity.Follows plain) :
    (activity.act .startLoad).Follows plain := by
  refine ⟨h.agrees.beginLoad, ?_⟩
  rw [act]
  rcases Condition.beginLoad_eq activity.condition with heq | ⟨-, pending, heq⟩
  · rw [heq]
    simpa using h.begun
  · have hpresent : activity.condition.decode.isNull = false := by
      cases hnull : activity.condition.decode.isNull with
      | false => rfl
      | true =>
          rw [← h.agrees.settled.memo.fst_current] at hnull
          simp [Condition.beginLoad_of_isNull hnull] at heq
    rw [heq]
    intro resolution hmem
    have hdecode : Condition.decode { activity.condition.current.2 with resolving := true } =
        activity.condition.decode := Condition.decode_snd_current activity.condition
    dsimp only at hmem ⊢
    rw [hdecode, Condition.revision_snd_current]
    rcases List.mem_append.mp hmem with hearlier | hnow
    · exact h.begun resolution hearlier
    · have hresolution : resolution = { batch := ⟨activity.condition.revision, pending⟩ } := by
        simpa using hnow
      rw [hresolution]
      exact ⟨Nat.le_refl _, fun _ => hpresent⟩

lemma Follows.finishLoad (h : activity.Follows plain) (index : Nat)
    (results : List (Option Reference)) :
    (activity.act (.finishLoad index results)).Follows plain := by
  rw [act]
  cases hfound : activity.underWay[index]? with
  | none => exact h
  | some resolution =>
      have hmem : resolution ∈ activity.underWay := List.mem_of_getElem? hfound
      have hpresent := (h.begun resolution hmem).2
      have hagrees := h.agrees.finishLoad (fun hsame => hpresent hsame.symm) results
      refine ⟨hagrees.snd_current, ?_⟩
      intro other hother
      have hbegun := h.begun other (List.mem_of_mem_eraseIdx hother)
      dsimp only
      rw [Condition.revision_snd_current, Condition.decode_snd_current]
      by_cases hcurrent : activity.condition.revision = resolution.batch.revision
      · obtain ⟨missed, heq⟩ := Condition.snd_finishLoad_of_current hcurrent results
        rw [heq]
        dsimp only
        exact ⟨by omega, fun hsame => by omega⟩
      · obtain ⟨missed, heq⟩ := Condition.finishLoad_of_stale hcurrent results
        rw [heq]
        exact hbegun

/-- A move that is no edit keeps a run together with one that leaves the move out. -/
lemma Follows.quiet (h : activity.Follows plain) (hquiet : move.isEdit = false) :
    (activity.act move).Follows plain := by
  cases move with
  | setOperator | setValue => simp [Move.isEdit] at hquiet
  | read =>
      refine ⟨h.agrees.snd_current, ?_⟩
      rw [act, Condition.revision_snd_current, Condition.decode_snd_current]
      exact h.begun
  | startLoad => exact h.startLoad
  | finishLoad index results => exact h.finishLoad index results

/-- A run with loads keeps together with the run of its edits. -/
lemma Follows.run (h : activity.Follows plain) (moves : List Move)
    (hadmissible : ∀ move ∈ moves, move.Admissible activity.condition.column) :
    (activity.run moves).Follows (plain.run (moves.filter Move.isEdit)) := by
  induction moves generalizing activity plain with
  | nil => exact h
  | cons move rest ih =>
      have hrest : ∀ later ∈ rest, later.Admissible (activity.act move).condition.column := by
        intro later hlater
        rw [column_act]
        exact hadmissible later (List.mem_cons_of_mem move hlater)
      cases hedit : move.isEdit with
      | true =>
          rw [List.filter_cons_of_pos hedit]
          exact ih (h.edit hedit (hadmissible move List.mem_cons_self)) hrest
      | false =>
          rw [List.filter_cons_of_neg (by simp [hedit])]
          exact ih (h.quiet hedit) hrest

/-- Loads that start and end anywhere between the edits of a new condition, overtaken or not and
whatever they find, change nothing about the criterion, what is sent for it and how it is judged. -/
theorem cosmetic_run {condition : Condition} (hnew : condition.IsNew)
    (hwire : condition.column.valueShape condition.operator = .references →
      ∀ text ∈ condition.wire.values, RecordId.Settles text)
    (moves : List Move) (hmoves : ∀ move ∈ moves, move.Admissible condition.column) :
    let loaded := (Activity.run { condition := condition } moves).condition
    let plain := (Activity.run { condition := condition } (moves.filter Move.isEdit)).condition
    loaded.operator = plain.operator ∧ loaded.wire = plain.wire ∧
      (∀ settings, loaded.sent settings = plain.sent settings) ∧
      loaded.verdict = plain.verdict := by
  intro loaded plain
  have hsettled := hnew.settled hwire
  have hagrees : condition.Agrees condition := by
    refine ⟨rfl, rfl, rfl, hsettled, hsettled, fun family _ => ?_⟩
    rw [hnew.get_remembered]
    exact .none
  have hstart : Follows { condition := condition } { condition := condition } :=
    ⟨hagrees, fun _ hmem => absurd hmem List.not_mem_nil⟩
  have hend : loaded.Agrees plain := (hstart.run moves hmoves).agrees
  have hcriterion : loaded.criterion = plain.criterion := by
    unfold Condition.criterion
    rw [hend.operator, hend.wire]
  refine ⟨hend.operator.symm, hend.wire.symm, ?_, ?_⟩
  · intro settings
    unfold Condition.sent
    rw [hcriterion, hend.column]
  · unfold Condition.verdict
    rw [hend.column, hend.operator, hend.wire]

/-- Two owners, one of whom is found before the operator changes to a pattern and back. -/
theorem cosmetic_run_owners :
    let ada := "a0f61d2c-7b7d-4d5a-9d5e-0a1b2c3d4e5f"
    let bob := "{B0F61D2C-7B7D-4D5A-9D5E-0A1B2C3D4E5F}"
    let column : Column := ⟨"ownerid", .owner, { targets := ["systemuser"] }⟩
    let condition := Condition.hydrated 0 "owner" column ⟨.equal, .ofTexts [ada, bob]⟩
    let moves : List Move :=
      [.startLoad, .finishLoad 0 [some ⟨ada, some "systemuser", some "Ada"⟩, none],
        .setOperator .like, .setValue (.text "Ada"), .startLoad, .setOperator .doesNotEqual]
    let loaded := (Activity.run { condition := condition } moves).condition
    let plain := (Activity.run { condition := condition } (moves.filter Move.isEdit)).condition
    loaded.current.1 ≠ plain.current.1 ∧
      loaded.operator = plain.operator ∧ loaded.wire = plain.wire ∧
      (∀ settings, loaded.sent settings = plain.sent settings) ∧
      loaded.verdict = plain.verdict := by
  intro ada bob column condition moves loaded plain
  have hnew : condition.IsNew := .hydrated 0 "owner" column _
  have hvalid : condition.isValid = true := by decide +kernel
  have hmoves : ∀ move ∈ moves, move.Admissible condition.column := by
    intro move hmem value hvalue
    rw [hvalue] at hmem
    obtain rfl : value = .text "Ada" := by simpa [moves] using hmem
    exact ⟨rfl, fun _ => ControlValue.settles_of_not_references (by simp)⟩
  exact ⟨by decide +kernel,
    cosmetic_run hnew (Condition.settles_of_isValid hvalid) moves hmoves⟩

/-- Ids that do not settle: the second of two owners is sent as the first after that one was
found. -/
theorem name_changes_id :
    let column : Column := ⟨"ownerid", .owner, { targets := ["contact"] }⟩
    let condition := Condition.hydrated 0 "owner" column ⟨.equal, .ofTexts ["{ { a } }", "{ a }"]⟩
    let moves : List Move :=
      [.startLoad, .finishLoad 0 [some ⟨" { a } ", some "contact", some "Ada"⟩, none],
        .setOperator .doesNotEqual]
    condition.IsNew ∧
      (Activity.run { condition := condition } moves).condition.wire = .ofTexts [" a ", " a "] ∧
      (Activity.run { condition := condition } (moves.filter Move.isEdit)).condition.wire =
        .ofTexts [" a ", "a"] := by
  exact ⟨.hydrated 0 "owner" _ _, by decide +kernel, by decide +kernel⟩

end Activity

end GridFilter
