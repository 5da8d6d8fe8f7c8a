import GridFilter.Proofs.Condition.Written
import GridFilter.Proofs.Metadata.Searches

/-!
# Ids that stay unresolved

A condition marks the ids that a load found nothing for, and no later load looks them up again.
This module says exactly which ids a load looks up: those of the references that the control value
leaves unresolved, save those that some earlier load came back without
(`Activity.looksUp_run_iff`).

What a search comes back with does not tell a target that has no record from one that could not be
asked.  So one failure is enough for good: an id for which no probe of its load gave a record is
looked up by no later load of the condition, whatever is done in between, although the failed probe
may well succeed by then (`Activity.not_looksUp_of_missed`, `Activity.failure_is_final`).  The mark
is the condition's own.  Once the criterion is read from the dataset anew, the id is looked up
again.

## The argument

Nothing but the end of a load touches the marks, and that adds the ids it found nothing for, be it
overtaken by edits or not (`Activity.unresolvable_act`).  Hence the marks of a condition are the ids
missed so far (`Activity.unresolvable_run`).
-/

namespace GridFilter

/-! ## What a load comes back with -/

/-- A map of what was found holds the ids of the results. -/
lemma Batch.has_found_iff {batch : Batch} {results : List (Option Reference)} {id : String} :
    (batch.found results).has id = true ↔
      ∃ (asked : String) (reference : Reference),
        (asked, some reference) ∈ batch.pending.zip results ∧ reference.id = id := by
  unfold Batch.found
  induction batch.pending.zip results using List.reverseRecOn with
  | nil => simp [Association.has]
  | append_singleton pairs last ih =>
      obtain ⟨asked, result⟩ := last
      rw [List.foldl_append]
      simp only [List.mem_append, List.mem_singleton, or_and_right, exists_or, ← ih]
      cases result with
      | none => simp
      | some reference =>
          simp only [List.foldl_cons, List.foldl_nil, Association.has, Association.get?_put]
          by_cases hid : reference.id = id <;> simp [hid]

namespace Search

variable {targets ids : List String} {id : String} {turns : List Turn}

/-- A search that found a reference has a probe that gave a record for its id. -/
lemma Ends.exists_record {probes : List Probe} {reference : Reference}
    (h : Ends id targets probes (some reference)) :
    reference.id = id ∧ ∃ probe ∈ probes, probe.answer.record? ≠ none := by
  generalize hresult : some reference = result at h
  induction h with
  | missed => exact absurd hresult (Option.some_ne_none reference)
  | found target rest record =>
      rw [Option.some.inj hresult]
      exact ⟨rfl, _, List.mem_singleton.mpr rfl, Option.some_ne_none record⟩
  | passed _ _ ih =>
      obtain ⟨hid, probe, hmem, hrecord⟩ := ih hresult
      exact ⟨hid, probe, List.mem_cons_of_mem _ hmem, hrecord⟩

/-- A search that found nothing has no probe that gave a record. -/
lemma Ends.record?_eq_none {probes : List Probe} (h : Ends id targets probes none) :
    ∀ probe ∈ probes, probe.answer.record? = none := by
  generalize hresult : (none : Option Reference) = result at h
  induction h with
  | missed => simp
  | found => exact absurd hresult.symm (Option.some_ne_none _)
  | passed hmiss _ ih => exact List.forall_mem_cons.mpr ⟨hmiss, ih hresult⟩

/-- Some probe for the id gave a record. -/
def Gave (targets ids : List String) (turns : List Turn) (id : String) : Prop :=
  ∃ (index : Nat) (search : Search), ids[index]? = some id ∧
    (run (all targets ids) turns)[index]? = some search ∧
      ∃ probe ∈ search.probes, probe.answer.record? ≠ none

/-- Something is found for the ids that some probe gave a record for. -/
lemma has_found_iff {batch : Batch}
    (hfinished : Finished (run (all targets batch.pending) turns)) :
    (batch.found (results (run (all targets batch.pending) turns))).has id = true ↔
      Gave targets batch.pending turns id := by
  rw [Batch.has_found_iff]
  constructor
  · rintro ⟨asked, reference, hmem, rfl⟩
    obtain ⟨index, hindex⟩ := List.mem_iff_getElem?.mp hmem
    obtain ⟨hasked, hresult⟩ := List.getElem?_zip_eq_some.mp hindex
    rw [getElem?_results hfinished] at hresult
    obtain ⟨search, hsearch, hreference⟩ := Option.bind_eq_some_iff.mp hresult
    obtain ⟨hid, hrecord⟩ := (ends_of_result? hasked hsearch hreference).exists_record
    exact ⟨index, search, by rw [hid]; exact hasked, hsearch, hrecord⟩
  · rintro ⟨index, search, hid, hsearch, probe, hprobe, hrecord⟩
    obtain ⟨result, hresult⟩ := Option.isSome_iff_exists.mp
      (hfinished search (List.mem_of_getElem? hsearch))
    have hends := ends_of_result? hid hsearch hresult
    cases result with
    | none => exact absurd (hends.record?_eq_none probe hprobe) hrecord
    | some reference =>
        refine ⟨id, reference, List.mem_iff_getElem?.mpr ⟨index, ?_⟩, hends.exists_record.1⟩
        refine List.getElem?_zip_eq_some.mpr ⟨hid, ?_⟩
        rw [getElem?_results hfinished, hsearch]
        exact hresult

end Search

/-! ## What a load looks up -/

namespace Condition

variable {condition : Condition} {id : String}

/-- A load that is called now looks the id up. -/
def LooksUp (condition : Condition) (id : String) : Prop :=
  ∃ batch, condition.beginLoad.1 = some batch ∧ id ∈ batch.pending

lemma looksUp_iff : condition.LooksUp id ↔
    condition.resolving = false ∧ condition.column.kind = .lookup ∧
      id ∈ condition.current.1.unresolved.map Reference.id ∧ id ∉ condition.unresolvable := by
  have hpending : id ∈ condition.pendingIds condition.current.1 ↔
      id ∈ condition.current.1.unresolved.map Reference.id ∧ id ∉ condition.unresolvable := by
    rw [pendingIds, List.mem_filter]
    simp
  rw [← hpending]
  constructor
  · rintro ⟨batch, hbatch, hmem⟩
    obtain ⟨hidle, hlookup, -, rfl⟩ := beginLoad_eq_some_iff.mp hbatch
    exact ⟨hidle, hlookup, hmem⟩
  · rintro ⟨hidle, hlookup, hmem⟩
    exact ⟨_, beginLoad_eq_some_iff.mpr ⟨hidle, hlookup, List.ne_nil_of_mem hmem, rfl⟩, hmem⟩

lemma IsNew.unresolvable (h : condition.IsNew) : condition.unresolvable = [] := by
  cases h <;> rfl

end Condition

namespace Activity

variable {activity : Activity} {moves : List Move} {id : String}

/-- The ids that a move finds nothing for. -/
def missed (activity : Activity) : Move → List String
  | .finishLoad index results =>
    match activity.underWay[index]? with
    | some resolution =>
      resolution.batch.pending.filter fun id => !(resolution.batch.found results).has id
    | none => []
  | .setOperator _ | .setValue _ | .read | .startLoad => []

/-- The ids that a list of moves finds nothing for. -/
def misses (activity : Activity) : List Move → List String
  | [] => []
  | move :: rest => activity.missed move ++ (activity.act move).misses rest

/-- A move marks the ids that it finds nothing for. -/
lemma unresolvable_act (activity : Activity) (move : Move) :
    (activity.act move).condition.unresolvable =
      activity.condition.unresolvable ++ activity.missed move := by
  cases move with
  | setOperator operator =>
      rw [act, missed, List.append_nil]
      by_cases hsame : activity.condition.operator = operator
      · rw [← hsame, Condition.setOperator_self]
      · rw [Condition.setOperator_of_ne hsame]
        rfl
  | setValue value => exact (List.append_nil _).symm
  | read =>
      rw [act, missed, List.append_nil, Condition.snd_current]
  | startLoad =>
      rw [act, missed, List.append_nil]
      rcases Condition.beginLoad_eq activity.condition with heq | ⟨-, pending, heq⟩ <;>
        rw [heq, Condition.snd_current]
  | finishLoad index results =>
      rw [act, missed]
      cases activity.underWay[index]? with
      | none => exact (List.append_nil _).symm
      | some resolution =>
          dsimp only
          rw [Condition.snd_current, Condition.unresolvable_finishLoad]

/-- What is marked stays marked, and nothing else is added than what was missed. -/
lemma unresolvable_run (activity : Activity) (moves : List Move) :
    (activity.run moves).condition.unresolvable =
      activity.condition.unresolvable ++ activity.misses moves := by
  induction moves generalizing activity with
  | nil => exact (List.append_nil _).symm
  | cons move rest ih =>
      have hrest := ih (activity.act move)
      rw [unresolvable_act, List.append_assoc] at hrest
      exact hrest

/-- A load looks up the ids that the control value leaves unresolved, save those that some earlier
load of the condition came back without. -/
theorem looksUp_run_iff {condition : Condition} (hnew : condition.IsNew) (moves : List Move)
    (id : String) :
    let now := (run { condition := condition } moves).condition
    now.LooksUp id ↔ now.resolving = false ∧ condition.column.kind = .lookup ∧
      id ∈ now.current.1.unresolved.map Reference.id ∧
        id ∉ misses { condition := condition } moves := by
  intro now
  rw [Condition.looksUp_iff, unresolvable_run, hnew.unresolvable, column_run]
  rfl

/-- An id for which no probe of its load gave a record, be it that the targets have none or that
they could not be asked, is looked up by no later load of the condition, whatever is done with it.  A
condition that is read from the dataset anew looks it up again. -/
theorem not_looksUp_of_missed (activity : Activity) {index : Nat} {resolution : Resolution}
    (hunderWay : activity.underWay[index]? = some resolution) {turns : List Turn}
    (hfinished : Search.Finished (Search.run
      (Search.all activity.condition.column.details.targets resolution.batch.pending) turns))
    {id : String} (hid : id ∈ resolution.batch.pending)
    (hmiss : ¬Search.Gave activity.condition.column.details.targets resolution.batch.pending turns
      id) (later : List Move) :
    let results := Search.results (Search.run
      (Search.all activity.condition.column.details.targets resolution.batch.pending) turns)
    let after := ((activity.act (.finishLoad index results)).run later).condition
    ¬after.LooksUp id ∧
      ∀ (handle : Nat) (name : String),
        let anew := Condition.hydrated handle name after.column after.criterion
        after.column.kind = .lookup → id ∈ anew.current.1.unresolved.map Reference.id →
          anew.LooksUp id := by
  intro results after
  constructor
  · intro hlooksUp
    have hmarked : id ∈ activity.missed (.finishLoad index results) := by
      rw [missed, hunderWay]
      simp only [List.mem_filter, Bool.not_eq_true', ← Bool.not_eq_true]
      exact ⟨hid, mt (Search.has_found_iff hfinished).mp hmiss⟩
    have hafter : id ∈ after.unresolvable := by
      rw [unresolvable_run, unresolvable_act]
      exact List.mem_append_left _ (List.mem_append_right _ hmarked)
    exact (Condition.looksUp_iff.mp hlooksUp).2.2.2 hafter
  · intro handle name anew hlookup hopen
    have hnew : anew.IsNew := .hydrated handle name after.column after.criterion
    exact (looksUp_run_iff hnew [] id).mpr ⟨rfl, hlookup, hopen, List.not_mem_nil⟩

/-- An owner whose entity could not be described is given up and chosen again. -/
theorem not_looksUp_of_missed_chosen :
    let ada := "0b8a4f5e-8b0e-4c8e-9a53-3c1f4a1d9e01"
    let column : Column := ⟨"ownerid", .owner, { targets := ["contact"] }⟩
    let activity := run { condition := .hydrated 0 "owner" column ⟨.equal, .list [some ada]⟩ }
      [.startLoad]
    let replies : Replies := fun request => (MetadataSource.answerFrom {} request).1
    let results := Search.results (Search.run (Search.all ["contact"] [ada]) [⟨0, replies⟩])
    let after := ((activity.act (.finishLoad 0 results)).run
      [.setValue .null, .setValue (.references [.bare ada])]).condition
    activity.underWay = [⟨⟨0, [ada]⟩, false⟩] ∧ after.isValid = true ∧
      after.current.1 = .references [.bare ada] ∧ ¬after.LooksUp ada := by
  intro ada column activity replies results after
  have hunderWay : activity.underWay = [⟨⟨0, [ada]⟩, false⟩] := by decide +kernel
  have htargets : activity.condition.column.details.targets = ["contact"] := by decide +kernel
  have hvalid : after.isValid = true := by decide +kernel
  have hcurrent : after.current.1 = .references [.bare ada] := by decide +kernel
  have hprobes : (Search.run (Search.all ["contact"] [ada]) [⟨0, replies⟩]).map Search.probes =
      [[⟨"contact", .error (.unknownEntity "contact")⟩]] := by decide +kernel
  have hfinished : Search.Finished (Search.run (Search.all ["contact"] [ada]) [⟨0, replies⟩]) := by
    unfold Search.Finished
    decide +kernel
  have hmiss : ¬Search.Gave ["contact"] [ada] [⟨0, replies⟩] ada := by
    rintro ⟨index, search, -, hsearch, probe, hprobe, hrecord⟩
    have hmem : search.probes ∈
        (Search.run (Search.all ["contact"] [ada]) [⟨0, replies⟩]).map Search.probes :=
      List.mem_map_of_mem (List.mem_of_getElem? hsearch)
    rw [hprobes, List.mem_singleton] at hmem
    rw [hmem, List.mem_singleton] at hprobe
    rw [hprobe] at hrecord
    exact hrecord rfl
  refine ⟨hunderWay, hvalid, hcurrent, ?_⟩
  have hfirst : activity.underWay[0]? = some ⟨⟨0, [ada]⟩, false⟩ := by
    rw [hunderWay]
    rfl
  have hmissed := not_looksUp_of_missed activity hfirst
    (by rwa [htargets]) (List.mem_singleton.mpr rfl) (by rwa [htargets])
    [.setValue .null, .setValue (.references [.bare ada])]
  rw [htargets] at hmissed
  exact hmissed.1

/-- The metadata service cannot describe the target of an owner when the name is looked up.  By the
next load it has the record, and is not asked for it. -/
theorem failure_is_final :
    let ada := "0b8a4f5e-8b0e-4c8e-9a53-3c1f4a1d9e01"
    let column : Column := ⟨"ownerid", .owner, { targets := ["contact"] }⟩
    let condition := Condition.hydrated 0 "owner" column ⟨.equal, .list [some ada]⟩
    let replies : MemoryStore → Replies := fun store request =>
      (MetadataSource.answerFrom store request).1
    let searches := Search.run (Search.all ["contact"] [ada]) [⟨0, replies {}⟩]
    let after := (run { condition := condition }
      [.startLoad, .finishLoad 0 (Search.results searches)]).condition
    let store := ({} : MemoryStore).addRecord "contact" ada [("name", .string "Ada")]
    condition.isValid = true ∧ condition.LooksUp ada ∧
      searches.map Search.probes = [[⟨"contact", .error (.unknownEntity "contact")⟩]] ∧
      after.current.1 = .references [.bare ada] ∧
      (replies store).probe "contact" ada = .ok (some ⟨ada, "contact", some "Ada"⟩) ∧
      ¬after.LooksUp ada := by
  intro ada column condition replies searches after store
  have hvalid : condition.isValid = true := by decide +kernel
  have hbegun : condition.beginLoad.1 = some ⟨0, [ada]⟩ := by decide +kernel
  have hprobes : searches.map Search.probes =
      [[⟨"contact", .error (.unknownEntity "contact")⟩]] := by decide +kernel
  have hcurrent : after.current.1 = .references [.bare ada] := by decide +kernel
  have hprobe : (replies store).probe "contact" ada = .ok (some ⟨ada, "contact", some "Ada"⟩) := by
    decide +kernel
  have hnone : after.beginLoad.1 = none := by decide +kernel
  refine ⟨hvalid, ⟨_, hbegun, List.mem_singleton.mpr rfl⟩, hprobes, hcurrent, hprobe, ?_⟩
  rintro ⟨batch, hbatch, -⟩
  rw [hnone] at hbatch
  exact absurd hbatch.symm (Option.some_ne_none batch)

end Activity

end GridFilter
