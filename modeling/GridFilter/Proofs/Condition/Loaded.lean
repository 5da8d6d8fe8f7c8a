import GridFilter.Proofs.Condition.Recall
import GridFilter.Proofs.Condition.Cosmetic
import GridFilter.Proofs.Metadata.Searches

/-!
# What a load makes of references

The names that a load finds never reach the wire.  They are remembered, and filled in again by id
whenever the value is read.  This module says that nothing gets lost or mixed up on that way
(`Activity.loaded_run`): a condition in order shows, after a load that no edit overtook, the same
references in the same order, each with the entity and the name that the first declared target has
for it.  Then there is nothing left to look up.

## The argument

Filling in goes by the id that is sent, so it has to tell the references apart.  Those of a
condition in order can be told by their ids, whatever spelling the wire has for them
(`ValueShape.coherent_fromKnown`), and a reference that was found has the id it was found for, so
they still can with the names that were found (`Reference.Coherent.loadedFrom`).  A reference that
was resolved before has no bare double that might have been looked up.
-/

namespace GridFilter

/-! ## References with what was found -/

namespace Reference

variable {found : Association String Reference} {references : List Reference}
  {reference : Reference}

/-- The reference that was found for the id of another, or that other itself. -/
def loadedFrom (found : Association String Reference) (reference : Reference) : Reference :=
  (found.get? reference.id).getD reference

lemma id_loadedFrom (hkeyed : Keyed found) (reference : Reference) :
    (loadedFrom found reference).id = reference.id := by
  unfold loadedFrom
  cases hget : found.get? reference.id with
  | none => rfl
  | some other => exact hkeyed reference.id other hget

lemma sentId_loadedFrom (hkeyed : Keyed found) (reference : Reference) :
    (loadedFrom found reference).sentId = reference.sentId :=
  congrArg RecordId.normal (id_loadedFrom hkeyed reference)

/-- References can be told by their ids still, with the names that were found. -/
lemma Coherent.loadedFrom (h : Coherent references) (hkeyed : Keyed found)
    (hresolved : ∀ id other, found.get? id = some other → other.isResolved = true) :
    Coherent (references.map (loadedFrom found)) where
  settles := by
    intro reference hmem
    obtain ⟨earlier, hearlier, rfl⟩ := List.mem_map.mp hmem
    rw [id_loadedFrom hkeyed]
    exact h.settles earlier hearlier
  known := by
    intro reference hmem
    obtain ⟨earlier, hearlier, rfl⟩ := List.mem_map.mp hmem
    rw [sentId_loadedFrom hkeyed]
    unfold Reference.loadedFrom
    cases hget : found.get? earlier.id with
    | none => exact h.known earlier hearlier
    | some other => exact .inl (hresolved earlier.id other hget)
  unique := by
    intro reference hmem other hother hids
    obtain ⟨earlier, hearlier, rfl⟩ := List.mem_map.mp hmem
    obtain ⟨otherEarlier, hotherEarlier, rfl⟩ := List.mem_map.mp hother
    rw [sentId_loadedFrom hkeyed, sentId_loadedFrom hkeyed] at hids
    rw [h.unique earlier hearlier otherEarlier hotherEarlier hids]

/-- An unresolved reference is known by its id alone. -/
lemma Coherent.eq_bare (h : Coherent references) (hmem : reference ∈ references)
    (hopen : reference.isResolved = false) : reference = .bare reference.id := by
  rcases h.known reference hmem with hresolved | hbare
  · rw [hopen] at hresolved
    exact absurd hresolved Bool.false_ne_true
  · obtain ⟨id, rfl⟩ : ∃ id, reference = .bare id := ⟨_, hbare⟩
    rfl

/-- No reference that is resolved has the id of one that is not. -/
lemma Coherent.not_open_of_isResolved (h : Coherent references) (hmem : reference ∈ references)
    (hresolved : reference.isResolved = true) :
    reference.id ∉ (ControlValue.references references).unresolved.map Reference.id := by
  intro hopen
  obtain ⟨other, hother, hid⟩ := List.mem_map.mp hopen
  obtain ⟨hlisted, hbare⟩ := List.mem_filter.mp hother
  have hsame := h.unique other hlisted reference hmem (congrArg RecordId.normal hid)
  rw [hsame, hresolved] at hbare
  exact absurd hbare Bool.false_ne_true

end Reference

namespace ValueShape

variable {wire : WireValue} {references : List Reference}

/-- What is read of ids is what is read of the ids that are sent for the references to them. -/
lemma decodeReferences_eq (hpresent : wire.isEmpty = false)
    (hsettles : ∀ id ∈ wire.values, RecordId.Settles id)
    (hids : references.map Reference.sentId = wire.values.map RecordId.normal) :
    decodeReferences wire = decodeReferences (encodeReferences (.references references)) := by
  have hne : references ≠ [] := by
    rintro rfl
    exact WireValue.values_ne_nil hpresent (List.map_eq_nil_iff.mp hids.symm)
  have hnormal : (wire.values.map RecordId.normal).map RecordId.normal =
      wire.values.map RecordId.normal := by
    rw [List.map_map]
    exact List.map_congr_left hsettles
  have hbare : ∀ ids : List String, ids.map (fun id => Reference.bare (RecordId.normal id)) =
      (ids.map RecordId.normal).map Reference.bare := by
    intro ids
    rw [List.map_map]
    rfl
  rw [encodeReferences_of_ne_nil hne, decodeReferences, decodeReferences,
    isNull_of_isEmpty hpresent, WireValue.values_ofTexts, hids, hbare, hbare, hnormal]
  rfl

end ValueShape

namespace Condition

variable {condition : Condition} {batch : Batch} {results : List (Option Reference)}

/-- The value of a condition in order is there. -/
lemma isEmpty_of_isValid (hvalid : condition.isValid = true)
    (hshape : condition.column.valueShape condition.operator = .references) :
    condition.wire.isEmpty = false :=
  ((passes_of_isValid hvalid hshape (by decide)).listed rfl).1

/-- The references of a condition in order can be told by the ids that are sent for them. -/
lemma exists_references (hmemo : condition.MemoSound) (hvalid : condition.isValid = true)
    (hshape : condition.column.valueShape condition.operator = .references) :
    ∃ references, condition.current.1 = .references references ∧
      Reference.Coherent references ∧
        references.map Reference.sentId = condition.wire.values.map RecordId.normal := by
  have hsettles := settles_of_isValid hvalid hshape
  obtain ⟨known, hknown⟩ := ValueShape.exists_known (isEmpty_of_isValid hvalid hshape)
    condition.remembered.exact
  refine ⟨_, ?_, ValueShape.coherent_fromKnown hsettles known, ?_⟩
  · rw [hmemo.fst_current, decode, Column.decodeValue, hshape]
    exact hknown
  · rw [List.map_map]
    exact List.map_congr_left fun id hid => ValueShape.sentId_fromKnown_bare (hsettles id hid) known

/-- What a load found that was not overtaken is remembered for the references that are shown. -/
lemma exact_finishLoad (hfamily : condition.operator.family? = some .exact)
    (hrevision : condition.revision = batch.revision) (results : List (Option Reference)) :
    (condition.finishLoad batch results).2.remembered.exact =
      some (withFound (batch.found results) condition.current.1) := by
  obtain ⟨missed, hfinished⟩ := snd_finishLoad_of_current hrevision results
  have hkept : (condition.remembered.keep condition.operator
      (withFound (batch.found results) condition.current.1)).get .exact =
        some (withFound (batch.found results) condition.current.1) := by
    rw [FamilyMemory.get_keep, if_pos hfamily]
  rw [hfinished]
  exact hkept

/-- What a load found that was not overtaken is shown in the place of what was there before. -/
lemma current_finishLoad (hvalid : condition.isValid = true)
    (hshape : condition.column.valueShape condition.operator = .references)
    (hrevision : condition.revision = batch.revision)
    (hresolved : ∀ id other, (batch.found results).get? id = some other →
      other.isResolved = true) {references : List Reference}
    (hreferences : condition.current.1 = .references references)
    (hcoherent : Reference.Coherent references)
    (hids : references.map Reference.sentId = condition.wire.values.map RecordId.normal) :
    (condition.finishLoad batch results).2.current.1 =
      .references (references.map (Reference.loadedFrom (batch.found results))) := by
  have hkeyed : Keyed (batch.found results) := batch.keyed_found results
  have hpresent := isEmpty_of_isValid hvalid hshape
  have hfamily := ValueShape.family?_of_references (supports_of_isValid hvalid) hshape
  -- Both lists of references are sent under the same ids.
  have hloaded : (references.map (Reference.loadedFrom (batch.found results))).map
      Reference.sentId = condition.wire.values.map RecordId.normal := by
    rw [List.map_map, ← hids]
    exact List.map_congr_left fun reference _ => Reference.sentId_loadedFrom hkeyed reference
  have hne : references.map (Reference.loadedFrom (batch.found results)) ≠ [] := by
    intro hnone
    rw [hnone] at hloaded
    exact WireValue.values_ne_nil hpresent (List.map_eq_nil_iff.mp hloaded.symm)
  obtain ⟨missed, hfinished⟩ := snd_finishLoad_of_current hrevision results
  have hremembered : (condition.finishLoad batch results).2.remembered.exact =
      some (.references (references.map (Reference.loadedFrom (batch.found results)))) := by
    rw [exact_finishLoad hfamily hrevision, hreferences]
    rfl
  have hread : (condition.finishLoad batch results).2.current.1 =
      (ValueShape.decodeReferences condition.wire).filledFrom
        (condition.finishLoad batch results).2.remembered.exact := by
    rw [hfinished, fst_current_of_decoded rfl, decode, Column.decodeValue]
    dsimp only
    rw [hshape]
    rfl
  rw [hread, hremembered, ValueShape.decodeReferences_eq hpresent
    (settles_of_isValid hvalid hshape) hloaded]
  exact ValueShape.decodeReferences_filledFrom hne (hcoherent.loadedFrom hkeyed hresolved)

/-- No load begins if all that is unresolved is known to be unresolvable. -/
lemma beginLoad_eq_none
    (h : ∀ id ∈ condition.current.1.unresolved.map Reference.id, id ∈ condition.unresolvable) :
    condition.beginLoad.1 = none := by
  cases hbegin : condition.beginLoad.1 with
  | none => rfl
  | some batch =>
      obtain ⟨-, -, hpending, -⟩ := beginLoad_eq_some_iff.mp hbegin
      refine absurd (List.filter_eq_nil_iff.mpr fun id hid => ?_) hpending
      simpa using h id hid

/-- What is unresolved still after such a load is known to be unresolvable. -/
lemma unresolvable_of_finishLoad {references : List Reference}
    (hpending : batch.pending = condition.pendingIds (.references references))
    (hresolved : ∀ id other, (batch.found results).get? id = some other →
      other.isResolved = true)
    (hcurrent : (condition.finishLoad batch results).2.current.1 =
      .references (references.map (Reference.loadedFrom (batch.found results)))) :
    ∀ id ∈ (condition.finishLoad batch results).2.current.1.unresolved.map Reference.id,
      id ∈ (condition.finishLoad batch results).2.unresolvable := by
  rw [hcurrent, unresolvable_finishLoad, hpending]
  intro id hid
  obtain ⟨now, hnow, rfl⟩ := List.mem_map.mp hid
  obtain ⟨hmem, hbare⟩ := List.mem_filter.mp hnow
  obtain ⟨reference, hreference, rfl⟩ := List.mem_map.mp hmem
  rw [Reference.id_loadedFrom (batch.keyed_found results)]
  unfold Reference.loadedFrom at hbare
  cases hget : (batch.found results).get? reference.id with
  | some other =>
      rw [hget, Option.getD_some, hresolved _ _ hget] at hbare
      exact absurd hbare Bool.false_ne_true
  | none =>
      rw [hget, Option.getD_none] at hbare
      have hopen : reference.id ∈
          (ControlValue.references references).unresolved.map Reference.id :=
        List.mem_map_of_mem (List.mem_filter.mpr ⟨hreference, hbare⟩)
      simp only [pendingIds, List.mem_append, List.mem_filter, Association.has, hget, hopen]
      by_cases hknown : reference.id ∈ condition.unresolvable <;> simp [hknown]

end Condition

/-! ## What the searches found -/

namespace Search

variable {answers : String → String → ProbeAnswer} {targets ids : List String} {id : String}
  {turns : List Turn}

lemma exists_firstDeclared (answers : String → String → ProbeAnswer) (targets : List String)
    (id : String) :
    ∃ probed, FirstDeclared answers targets id (firstReference? answers targets id) probed := by
  induction targets with
  | nil => exact ⟨[], .nowhere (by simp)⟩
  | cons target rest ih =>
      cases hanswer : (answers target id).record? with
      | none =>
          obtain ⟨probed, hrest⟩ := ih
          have hcons := hrest.cons hanswer
          rw [← hcons.eq_firstReference?]
          exact ⟨_, hcons⟩
      | some record =>
          have hrecord : answers target id = .ok (some record) := by
            rcases hprobe : answers target id with failure | _ | found <;>
              rw [hprobe] at hanswer <;> simp_all [ProbeAnswer.record?]
          have hfirst : FirstDeclared answers (target :: rest) id _ [target] :=
            .found [] target rest record rfl (by simp) hrecord
          rw [← hfirst.eq_firstReference?]
          exact ⟨_, hfirst⟩

lemma isResolved_of_get?_foundBy (hsteady : Steady answers targets ids turns)
    (hfinished : Finished (run (all targets ids) turns)) {other : Reference}
    (hget : (foundBy targets ids turns).get? id = some other) : other.isResolved = true := by
  rw [get?_foundBy hsteady hfinished] at hget
  split at hget
  · obtain ⟨target, -, hrecord⟩ := List.exists_of_findSome?_eq_some hget
    obtain ⟨record, -, rfl⟩ := Option.map_eq_some_iff.mp hrecord
    rfl
  · exact absurd hget.symm (Option.some_ne_none other)

end Search

/-! ## One load -/

namespace Activity

/-- What a load makes of one reference. -/
structure Loaded (answers : String → String → ProbeAnswer) (targets pending : List String)
    (reference now : Reference) : Prop where
  same_id : now.id = reference.id
  /-- A reference that was resolved is left alone. -/
  kept : reference.isResolved = true → now = reference
  /-- One that was looked up has the entity and the name from the first declared target that has a
  record for it; it stays bare if none has. -/
  looked_up : reference.id ∈ pending → ∃ result probed,
    Search.FirstDeclared answers targets reference.id result probed ∧
      now = result.getD (.bare reference.id)
  /-- One that was not looked up is left alone. -/
  passed_over : reference.id ∉ pending → now = reference

variable {start : Activity} {batch : Batch}

/-- Some list of moves makes the activity of a new condition. -/
def Reachable (activity : Activity) : Prop :=
  ∃ (born : Condition) (moves : List Move), born.IsNew ∧
    run { condition := born } moves = activity

lemma Reachable.memoSound (h : start.Reachable) : start.condition.MemoSound := by
  obtain ⟨born, moves, hnew, rfl⟩ := h
  exact Condition.memoSound_of_steps (steps_run { condition := born } moves) hnew.memoSound

lemma Reachable.underWay (h : start.Reachable) (hidle : start.condition.resolving = false) :
    start.underWay = [] := by
  obtain ⟨born, moves, hnew, rfl⟩ := h
  cases phase_run hnew moves with
  | idle _ _ hnone => exact hnone
  | loading _ _ hbusy =>
      rw [hidle] at hbusy
      exact absurd hbusy Bool.false_ne_true

/-- The activity once a load has begun. -/
def loading (start : Activity) (batch : Batch) : Activity where
  condition := { start.condition.current.2 with resolving := true }
  underWay := [{ batch := batch }]
  published := start.published ++ [.loadingChanged true]

lemma act_startLoad (h : start.Reachable) (hbatch : start.condition.beginLoad.1 = some batch) :
    start.act .startLoad = start.loading batch := by
  obtain ⟨hidle, -⟩ := Condition.beginLoad_eq_some_iff.mp hbatch
  rcases Condition.beginLoad_eq start.condition with heq | ⟨-, pending, heq⟩
  · rw [heq] at hbatch
    exact absurd hbatch.symm (Option.some_ne_none batch)
  · rw [heq] at hbatch
    have hsame : (⟨start.condition.revision, pending⟩ : Batch) = batch := Option.some.inj hbatch
    rw [act, heq, h.underWay hidle, hsame]
    rfl

/-- The value that was read when the load began is at hand. -/
lemma current_loading (start : Activity) (batch : Batch) :
    (start.loading batch).condition.current =
      (start.condition.current.1, (start.loading batch).condition) := by
  have hmemo : (start.loading batch).condition.decoded? = some start.condition.current.1 := by
    rw [Condition.decoded?_eq_some_iff, loading]
    dsimp only
    rw [Condition.snd_current]
  rw [Condition.current, hmemo]

/-- Without an edit, nothing that is done while a load is under way changes anything. -/
lemma run_loading {between : List Move} (hedits : (start.loading batch).edits between = false)
    (hopen : ∀ results, .finishLoad 0 results ∉ between) :
    (start.loading batch).run between = start.loading batch := by
  have hread : (start.loading batch).condition.current.2 = (start.loading batch).condition := by
    rw [current_loading]
  induction between with
  | nil => rfl
  | cons move rest ih =>
      rw [edits, Bool.or_eq_false_iff] at hedits
      have hmove : (start.loading batch).act move = start.loading batch := by
        cases move with
        | setOperator operator =>
            have hsame : (start.loading batch).condition.operator = operator := by
              simpa [writes] using hedits.1
            rw [← hsame]
            exact act_setOperator_self _
        | setValue value => simp [writes] at hedits
        | read =>
            rw [act, hread]
        | startLoad =>
            rw [act, Condition.beginLoad_of_resolving rfl, hread]
            simp
        | finishLoad index results =>
            cases index with
            | zero => exact absurd List.mem_cons_self (hopen results)
            | succ index => rfl
      have hrest := hedits.2
      rw [hmove] at hrest
      have hrun : (start.loading batch).run (move :: rest) =
          ((start.loading batch).act move).run rest := rfl
      rw [hrun, hmove]
      exact ih hrest fun results hmem => hopen results (List.mem_cons_of_mem _ hmem)

/-- What was found is put in the place of the references that were looked up, and only of those. -/
lemma Loaded.of_foundBy {answers : String → String → ProbeAnswer} {targets pending : List String}
    {turns : List Turn} (hsteady : Search.Steady answers targets pending turns)
    (hfinished : Search.Finished (Search.run (Search.all targets pending) turns))
    {references : List Reference} (hcoherent : Reference.Coherent references)
    (hpending : ∀ id ∈ pending,
      id ∈ (ControlValue.references references).unresolved.map Reference.id)
    {reference : Reference} (hmem : reference ∈ references) :
    Loaded answers targets pending reference
      (Reference.loadedFrom (Search.foundBy targets pending turns) reference) := by
  have hget := Search.get?_foundBy hsteady hfinished reference.id
  have hover : reference.id ∉ pending →
      Reference.loadedFrom (Search.foundBy targets pending turns) reference = reference := by
    intro hnot
    rw [Reference.loadedFrom, hget, if_neg hnot]
    rfl
  have hnot : reference.isResolved = true → reference.id ∉ pending := fun hresolved hin =>
    hcoherent.not_open_of_isResolved hmem hresolved (hpending _ hin)
  refine ⟨?_, fun hresolved => hover (hnot hresolved), fun hin => ?_, hover⟩
  · exact Reference.id_loadedFrom (Batch.keyed_found ⟨0, pending⟩ _) reference
  · obtain ⟨probed, hfirst⟩ := Search.exists_firstDeclared answers targets reference.id
    have hopen : reference.isResolved = false := by
      rw [← Bool.not_eq_true]
      exact fun hresolved => hnot hresolved hin
    refine ⟨_, probed, hfirst, ?_⟩
    rw [Reference.loadedFrom, hget, if_pos hin, ← hcoherent.eq_bare hmem hopen]

/-- A load of a condition in order that no edit overtakes gives the same references in the same
order, each resolved by the first declared target that has a record for it.  Nothing is left then
that another load would look up: what is bare still is known to be unresolvable. -/
theorem loaded_run (hreachable : start.Reachable)
    (hoperator : start.condition.operator = .equal ∨ start.condition.operator = .doesNotEqual)
    (hvalid : start.condition.isValid = true)
    (hbatch : start.condition.beginLoad.1 = some batch) {between : List Move}
    (hedits : (start.act .startLoad).edits between = false)
    (hopen : ∀ results, .finishLoad 0 results ∉ between)
    {answers : String → String → ProbeAnswer} {turns : List Turn}
    (hsteady : Search.Steady answers start.condition.column.details.targets batch.pending turns)
    (hfinished : Search.Finished (Search.run
      (Search.all start.condition.column.details.targets batch.pending) turns)) :
    let targets := start.condition.column.details.targets
    let results := Search.results (Search.run (Search.all targets batch.pending) turns)
    let after := (((start.act .startLoad).run between).act (.finishLoad 0 results)).condition
    ∃ references loaded, start.condition.current.1 = .references references ∧
      after.current.1 = .references loaded ∧
        List.Forall₂ (Loaded answers targets batch.pending) references loaded ∧
          after.beginLoad.1 = none := by
  intro targets results after
  rw [act_startLoad hreachable hbatch] at hedits
  have hafter : after = ((start.loading batch).condition.finishLoad batch results).2.current.2 := by
    show (((start.act .startLoad).run between).act (.finishLoad 0 results)).condition = _
    rw [act_startLoad hreachable hbatch, run_loading hedits hopen]
    rfl
  obtain ⟨-, hlookup, -, hbegun⟩ := Condition.beginLoad_eq_some_iff.mp hbatch
  have hshape : start.condition.column.valueShape start.condition.operator = .references := by
    rcases hoperator with heq | heq <;> rw [heq, Column.valueShape, hlookup] <;> rfl
  obtain ⟨references, hreferences, hcoherent, hids⟩ :=
    Condition.exists_references hreachable.memoSound hvalid hshape
  -- Nothing but the memo and the flag has changed since the load began.
  have hloading : (start.loading batch).condition = { start.condition with
      decoded := some (start.condition.revision, start.condition.current.1)
      resolving := true } := by
    rw [loading, Condition.snd_current]
  have hresolved : ∀ id other, (batch.found results).get? id = some other →
      other.isResolved = true := fun id other hget =>
    Search.isResolved_of_get?_foundBy hsteady hfinished hget
  have hcurrent : ((start.loading batch).condition.finishLoad batch results).2.current.1 =
      .references (references.map (Reference.loadedFrom (batch.found results))) := by
    refine Condition.current_finishLoad ?_ ?_ ?_ hresolved ?_ hcoherent ?_
    · rw [hloading]
      exact hvalid
    · rw [hloading]
      exact hshape
    · rw [hloading, hbegun]
    · rw [current_loading]
      exact hreferences
    · rw [hloading]
      exact hids
  have hpending : batch.pending = start.condition.pendingIds (.references references) := by
    rw [hbegun, hreferences]
  refine ⟨references, references.map (Reference.loadedFrom (batch.found results)), hreferences,
    ?_, ?_, ?_⟩
  · rw [hafter, Condition.fst_current_snd]
    exact hcurrent
  · refine List.forall₂_map_right_iff.mpr (List.forall₂_same.mpr fun reference hmem => ?_)
    refine Loaded.of_foundBy hsteady hfinished hcoherent (fun id hid => ?_) hmem
    rw [hpending] at hid
    exact (List.mem_filter.mp hid).1
  · apply Condition.beginLoad_eq_none
    rw [hafter, Condition.fst_current_snd, Condition.snd_current]
    refine Condition.unresolvable_of_finishLoad ?_ hresolved hcurrent
    rw [hloading]
    exact hpending

/-- One owner is named twice, once in another spelling, and another one has no record. -/
theorem loaded_run_owners :
    let ann := "0b8a4f5e-8b0e-4c8e-9a53-3c1f4a1d9e01"
    let bob := "b0f61d2c-7b7d-4d5a-9d5e-0a1b2c3d4e5f"
    let column : Column := ⟨"ownerid", .owner, { targets := ["team", "contact", "account"] }⟩
    let written := WireValue.list
      [some "\x7b0B8A4F5E-8B0E-4C8E-9A53-3C1F4A1D9E01\x7d", some bob, some ann]
    let start := run { condition := .hydrated 0 "owner" column ⟨.equal, written⟩ } []
    let store := (({} : MemoryStore).addEntity (.conventional "contact")).addRecord "account" ann
      [("name", .string "Ann")]
    let replies : Replies := fun request => (MetadataSource.answerFrom store request).1
    let turns : List Turn :=
      [2, 0, 1, 1, 0, 2, 2, 1, 0, 0, 1, 2, 2, 1, 0].map fun index => ⟨index, replies⟩
    let results := Search.results (Search.run (Search.all column.details.targets [ann, bob, ann])
      turns)
    let after := (((start.act .startLoad).run [.read, .startLoad]).act
      (.finishLoad 0 results)).condition
    start.condition.isValid = true ∧ start.condition.beginLoad.1 = some ⟨0, [ann, bob, ann]⟩ ∧
      after.current.1 = .references [⟨ann, some "account", some "Ann"⟩, .bare bob,
        ⟨ann, some "account", some "Ann"⟩] ∧
      ∃ references loaded, start.condition.current.1 = .references references ∧
        after.current.1 = .references loaded ∧
          List.Forall₂ (Loaded replies.probe column.details.targets [ann, bob, ann]) references
            loaded ∧ after.beginLoad.1 = none := by
  intro ann bob column written start store replies turns results after
  have hreachable : start.Reachable :=
    ⟨_, [], .hydrated 0 "owner" column ⟨.equal, written⟩, rfl⟩
  have hvalid : start.condition.isValid = true := by decide +kernel
  have hbatch : start.condition.beginLoad.1 = some ⟨0, [ann, bob, ann]⟩ := by decide +kernel
  have hedits : (start.act .startLoad).edits [.read, .startLoad] = false := by decide +kernel
  have hcurrent : after.current.1 = .references [⟨ann, some "account", some "Ann"⟩, .bare bob,
      ⟨ann, some "account", some "Ann"⟩] := by decide +kernel
  have hsteady : Search.Steady replies.probe column.details.targets [ann, bob, ann] turns := by
    apply Search.steady_of_same
    intro turn hturn
    obtain ⟨index, -, rfl⟩ := List.mem_map.mp hturn
    rfl
  have hfinished : Search.Finished (Search.run
      (Search.all column.details.targets [ann, bob, ann]) turns) := by
    unfold Search.Finished
    decide +kernel
  have hopen : ∀ results, Move.finishLoad 0 results ∉ [Move.read, .startLoad] := by
    intro results hmem
    simp at hmem
  exact ⟨hvalid, hbatch, hcurrent,
    loaded_run hreachable (.inl rfl) hvalid hbatch hedits hopen hsteady hfinished⟩

end Activity

end GridFilter
