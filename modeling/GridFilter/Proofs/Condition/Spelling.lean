import GridFilter.Proofs.Condition.Loaded
import GridFilter.Proofs.Metadata.Store

/-!
# Ids in every spelling

An id is put into normal form where a record is added to a store, where a reference is written to the
wire, where it is read from there, and where the store is asked for it.  A record that was added with
an id is found for a reference with the same id, set by an editor or read from the document, if it
makes no difference how often that happens: if the id settles (`Activity.resolves_added`).  An id with
blanks inside its braces does not, and the record that was added with it is asked for under an id that
the store does not have (`Activity.added_record_not_found`).

## The argument

A load asks for the ids that are shown, and these are on the wire in normal form or are about to get
there.  So the id that is asked for has the normal form that the record is stored under, and its name
comes back (`MemoryStore.exists_describes_of_addRecord`).  What comes back is remembered for the
reference it was asked for, and reading the wire again fills it in, since nothing else that was known
has the same id (`Reference.fromKnown_loadedFrom`).
-/

namespace GridFilter

open ValueShape (known)

/-! ## References that were found -/

namespace Reference

variable {found : Association String Reference} {references : List Reference} {x : String}

/-- A bare reference that something was found for is known by that, if no other was known by its id
before. -/
lemma fromKnown_loadedFrom (hkeyed : Keyed found)
    (hresolved : ∀ id other, found.get? id = some other → other.isResolved = true)
    (hsettles : RecordId.Settles x) (hmem : bare (RecordId.normal x) ∈ references)
    (hfound : (found.get? (RecordId.normal x)).isSome = true)
    (hunknown : ∀ other ∈ references, other.isResolved = true → other.sentId ≠ RecordId.normal x) :
    let now := ControlValue.fromKnown (references.map (loadedFrom found)) (bare (RecordId.normal x))
    now.sentId = RecordId.normal x ∧ found.get? now.id = some now := by
  intro now
  rcases ControlValue.fromKnown_cases (references.map (loadedFrom found))
    (bare (RecordId.normal x)) with ⟨-, hnone⟩ | ⟨hknown, hnow, hid⟩
  · obtain ⟨other, hget⟩ := Option.isSome_iff_exists.mp hfound
    have hloaded : other ∈ references.map (loadedFrom found) := by
      refine List.mem_map.mpr ⟨_, hmem, ?_⟩
      rw [loadedFrom, bare, hget, Option.getD_some]
    have hsent : other.sentId = RecordId.normal x := by
      rw [sentId, hkeyed _ _ hget]
      exact hsettles
    exact absurd hsent (hnone other hloaded (hresolved _ _ hget))
  · refine ⟨hid, ?_⟩
    obtain ⟨earlier, hearlier, hsame⟩ := List.mem_map.mp hknown
    cases hget : found.get? earlier.id with
    | some other =>
        have hother : now = other := by
          rw [loadedFrom, hget, Option.getD_some] at hsame
          exact hsame.symm
        rw [hother, hkeyed _ _ hget, ← hget]
    | none =>
        -- It would have been known before.
        have hother : now = earlier := by
          rw [loadedFrom, hget, Option.getD_none] at hsame
          exact hsame.symm
        have hbefore : now.isResolved = true := hnow
        rw [hother] at hbefore
        refine absurd ?_ (hunknown earlier hearlier hbefore)
        rw [← hother]
        exact hid

end Reference

namespace Condition

variable {condition : Condition} {x : String} {index : Nat} {batch : Batch}
  {results : List (Option Reference)}

/-! ## Conditions that are given an id -/

/-- The ways in which a condition gets the id of a record that is not looked up yet, at a place among
its references: the editor sets it, or the document has it. -/
inductive Given (x : String) (index : Nat) : Condition → Prop where
  | set (before : Condition) (references : List Reference) (reference : Reference)
      (hplace : references[index]? = some reference) (hid : reference.id = x)
      (hopen : ∀ other ∈ references, other.isResolved = true →
        other.sentId ≠ RecordId.normal x) :
      Given x index (before.setValue (.references references)).2
  | hydrated (handle : Nat) (id : String) (column : Column) (criterion : Criterion)
      (hplace : criterion.wire.values[index]? = some x) :
      Given x index (.hydrated handle id column criterion)

/-- An id stands on the wire in some spelling, and no record is known for it. -/
structure Awaits (x : String) (index : Nat) (condition : Condition) : Prop where
  memo : condition.MemoSound
  placed : ∃ text, condition.wire.values[index]? = some text ∧
    RecordId.normal text = RecordId.normal x
  unknown : ∀ other ∈ known condition.remembered.exact, other.isResolved = true →
    other.sentId ≠ RecordId.normal x

/-- An id that settles is on the wire as it was given or in its normal form, and nothing that is
remembered is a record of it. -/
lemma Given.awaits (h : condition.Given x index) (hsettles : RecordId.Settles x)
    (hsupports : condition.column.supports condition.operator = true)
    (hshape : condition.column.valueShape condition.operator = .references) :
    condition.Awaits x index := by
  cases h with
  | set before references reference hplace hid hopen =>
      have hne : references ≠ [] := by
        rintro rfl
        simp at hplace
      have hbefore : before.column.valueShape before.operator = .references := hshape
      have hwire : (before.setValue (.references references)).2.wire =
          .ofTexts (references.map Reference.sentId) := by
        show (before.column.valueShape before.operator).encode (.references references) = _
        rw [hbefore]
        exact ValueShape.encodeReferences_of_ne_nil hne
      have hremembered : (before.setValue (.references references)).2.remembered.exact =
          some (.references references) :=
        exact_keepPresent _ (ValueShape.family?_of_references hsupports hshape) rfl
      refine ⟨memoSound_of_decoded rfl, ⟨RecordId.normal x, ?_, hsettles⟩, ?_⟩
      · rw [hwire, WireValue.values_ofTexts, List.getElem?_map, hplace, ← hid]
        rfl
      · rw [hremembered]
        exact hopen
  | hydrated handle id column criterion hplace =>
      exact ⟨memoSound_of_decoded rfl, ⟨x, hplace, rfl⟩,
        fun other hmem => absurd hmem List.not_mem_nil⟩

/-! ## What is shown -/

/-- The references on the wire, each as it is known. -/
lemma current_of_references (hmemo : condition.MemoSound)
    (hshape : condition.column.valueShape condition.operator = .references)
    (hpresent : condition.wire.isNull = false) :
    condition.current.1 = .references (condition.wire.values.map fun id =>
      ControlValue.fromKnown (known condition.remembered.exact) (.bare (RecordId.normal id))) := by
  rw [hmemo.fst_current, decode, Column.decodeValue, hshape]
  exact ValueShape.decodeReferences_known hpresent _

lemma Awaits.isNull (h : condition.Awaits x index) : condition.wire.isNull = false := by
  obtain ⟨text, hplace, -⟩ := h.placed
  cases hwire : condition.wire with
  | null =>
      rw [hwire] at hplace
      simp [WireValue.values] at hplace
  | _ => rfl

/-- Without a record for its id the reference is shown by its id alone. -/
lemma Awaits.current (h : condition.Awaits x index)
    (hshape : condition.column.valueShape condition.operator = .references) :
    ∃ references, condition.current.1 = .references references ∧
      references[index]? = some (.bare (RecordId.normal x)) ∧
        ∀ other ∈ references, other.isResolved = true → other.sentId ≠ RecordId.normal x := by
  refine ⟨_, current_of_references h.memo hshape h.isNull, ?_, fun other hmem hresolved => ?_⟩
  · obtain ⟨text, hplace, hnormal⟩ := h.placed
    rw [List.getElem?_map, hplace, Option.map_some, hnormal, Option.some_inj]
    rcases ControlValue.fromKnown_cases (known condition.remembered.exact)
      (.bare (RecordId.normal x)) with ⟨hsame, -⟩ | ⟨hknown, hresolved, hid⟩
    · exact hsame
    · exact absurd hid (h.unknown _ hknown hresolved)
  · obtain ⟨text, -, rfl⟩ := List.mem_map.mp hmem
    rcases ControlValue.fromKnown_cases (known condition.remembered.exact)
      (.bare (RecordId.normal text)) with ⟨hsame, -⟩ | ⟨hknown, -, -⟩
    · rw [hsame] at hresolved
      exact absurd hresolved Bool.false_ne_true
    · exact h.unknown _ hknown hresolved

/-- A load begins that looks the id up in its normal form. -/
lemma Awaits.exists_batch (h : condition.Awaits x index)
    (hshape : condition.column.valueShape condition.operator = .references)
    (hidle : condition.resolving = false)
    (hunmarked : RecordId.normal x ∉ condition.unresolvable) :
    ∃ batch, condition.beginLoad.1 = some batch ∧ RecordId.normal x ∈ batch.pending := by
  obtain ⟨references, hshown, hplace, -⟩ := h.current hshape
  have hopen : Reference.bare (RecordId.normal x) ∈ condition.current.1.unresolved := by
    rw [hshown]
    exact List.mem_filter.mpr ⟨List.mem_of_getElem? hplace, rfl⟩
  have hpending : RecordId.normal x ∈ condition.pendingIds condition.current.1 := by
    refine List.mem_filter.mpr ⟨List.mem_map.mpr ⟨_, hopen, rfl⟩, ?_⟩
    simpa using hunmarked
  refine ⟨⟨condition.revision, condition.pendingIds condition.current.1⟩, ?_, hpending⟩
  exact beginLoad_eq_some_iff.mpr
    ⟨hidle, Column.kind_of_references hshape, List.ne_nil_of_mem hpending, rfl⟩

/-- A load that was not overtaken shows the references on the wire, each as it is known with what
was found. -/
lemma current_finishLoad_of_references
    (hsupports : condition.column.supports condition.operator = true)
    (hshape : condition.column.valueShape condition.operator = .references)
    (hpresent : condition.wire.isNull = false) (hrevision : condition.revision = batch.revision)
    {references : List Reference} (hshown : condition.current.1 = .references references) :
    (condition.finishLoad batch results).2.current.1 =
      .references (condition.wire.values.map fun id => ControlValue.fromKnown
        (references.map (Reference.loadedFrom (batch.found results)))
          (.bare (RecordId.normal id))) := by
  have hremembered : (condition.finishLoad batch results).2.remembered.exact =
      some (.references (references.map (Reference.loadedFrom (batch.found results)))) := by
    rw [exact_finishLoad (ValueShape.family?_of_references hsupports hshape) hrevision, hshown]
    rfl
  obtain ⟨missed, hfinished⟩ := snd_finishLoad_of_current hrevision results
  have hmemo : (condition.finishLoad batch results).2.MemoSound := by
    rw [hfinished]
    exact memoSound_of_decoded rfl
  have hwire : (condition.finishLoad batch results).2.wire = condition.wire := by rw [hfinished]
  have hsame : (condition.finishLoad batch results).2.column.valueShape
      (condition.finishLoad batch results).2.operator = .references := by
    rw [hfinished]
    exact hshape
  have hread := current_of_references hmemo hsame (by rw [hwire]; exact hpresent)
  rw [hread, hremembered, hwire]
  rfl

/-- The reference is shown as a record that was found for an id of the same normal form. -/
lemma Awaits.finishLoad (h : condition.Awaits x index) (hsettles : RecordId.Settles x)
    (hsupports : condition.column.supports condition.operator = true)
    (hshape : condition.column.valueShape condition.operator = .references)
    (hrevision : condition.revision = batch.revision)
    (hresolved : ∀ id other, (batch.found results).get? id = some other → other.isResolved = true)
    (hfound : ((batch.found results).get? (RecordId.normal x)).isSome = true) :
    ∃ shown now, (condition.finishLoad batch results).2.current.1 = .references shown ∧
      shown[index]? = some now ∧ now.sentId = RecordId.normal x ∧
        (batch.found results).get? now.id = some now := by
  obtain ⟨references, hshown, hplace, hunknown⟩ := h.current hshape
  obtain ⟨text, htext, hnormal⟩ := h.placed
  have hknown := Reference.fromKnown_loadedFrom (batch.keyed_found results) hresolved hsettles
    (List.mem_of_getElem? hplace) hfound hunknown
  refine ⟨_, _, current_finishLoad_of_references hsupports hshape h.isNull hrevision hshown, ?_,
    hknown⟩
  rw [List.getElem?_map, htext, Option.map_some, hnormal]

end Condition

/-! ## What the searches find -/

namespace Search

variable {answers : String → String → ProbeAnswer} {targets ids : List String} {id : String}
  {turns : List Turn}

/-- Searches are through once each had two turns a target. -/
lemma finished_of_turns
    (h : ∀ index < ids.length, 2 * targets.length ≤ (momentsOf turns index).length) :
    Finished (run (all targets ids) turns) := by
  intro search hmem
  obtain ⟨index, id, hid, hsearch⟩ := exists_id_of_mem_run hmem
  rw [getElem?_run_all hid hsearch]
  exact isSome_result?_follow _ (h index (List.getElem?_eq_some_iff.mp hid).1)

lemma mem_of_get?_foundBy (hsteady : Steady answers targets ids turns)
    (hfinished : Finished (run (all targets ids) turns)) {found : Reference}
    (hget : (foundBy targets ids turns).get? id = some found) : id ∈ ids := by
  by_contra hnot
  rw [get?_foundBy hsteady hfinished, if_neg hnot] at hget
  exact absurd hget.symm (Option.some_ne_none found)

/-- An id with the normal form that a record was added under finds the record. -/
lemma exists_foundBy_of_addRecord {store : MemoryStore} {entity x : String} {record : Record}
    {before after : List String} (hstore : store.Built)
    (htargets : targets = before ++ entity :: after)
    (hbefore : ∀ target ∈ before,
      (store.addRecord entity x record).records.get? (target, RecordId.normal x) = none)
    (hsteady : Steady (Replies.probe (store.addRecord entity x record).reply) targets ids turns)
    (hfinished : Finished (run (all targets ids) turns)) (hmem : id ∈ ids)
    (hid : RecordId.normal id = RecordId.normal x) :
    ∃ found, (foundBy targets ids turns).get? id = some found ∧
      (store.addRecord entity x record).Describes entity record found := by
  obtain ⟨found, hfound, hdescribes⟩ :=
    MemoryStore.exists_describes_of_addRecord hstore htargets hid hbefore
  refine ⟨found, ?_, hdescribes⟩
  rw [get?_foundBy hsteady hfinished, if_pos hmem, hfound]

end Search

/-! ## One load -/

namespace Activity

variable {start : Activity} {store : MemoryStore} {entity x : String} {record : Record}
  {before after : List String} {index : Nat} {batch : Batch}

/-- Nothing but the memo and the flag has changed when a load begins. -/
lemma condition_loading (start : Activity) (batch : Batch) :
    (start.loading batch).condition = { start.condition with
      decoded := some (start.condition.revision, start.condition.current.1)
      resolving := true } := by
  rw [loading, Condition.snd_current]

/-- What is awaited when a load begins is awaited while it is under way. -/
lemma awaits_loading (h : start.condition.Awaits x index) (batch : Batch) :
    (start.loading batch).condition.Awaits x index where
  memo := h.memo.snd_current
  placed := by
    rw [condition_loading]
    exact h.placed
  unknown := by
    rw [condition_loading]
    exact h.unknown

/-- The condition that a load leaves which no edit overtook. -/
lemma condition_finishLoad (hreachable : start.Reachable)
    (hbatch : start.condition.beginLoad.1 = some batch) {between : List Move}
    (hedits : (start.act .startLoad).edits between = false)
    (hopen : ∀ results, .finishLoad 0 results ∉ between) (results : List (Option Reference)) :
    (((start.act .startLoad).run between).act (.finishLoad 0 results)).condition =
      ((start.loading batch).condition.finishLoad batch results).2.current.2 := by
  rw [act_startLoad hreachable hbatch] at hedits ⊢
  rw [run_loading hedits hopen]
  rfl

/-- A reference with the id that a record was added with is resolved to that record by a load that no
edit overtakes, provided that the id settles: it takes one layer to get the record into the store,
and more to ask for it. -/
theorem resolves_added (hstore : store.Built) (hsettles : RecordId.Settles x)
    (hreachable : start.Reachable) (hgiven : start.condition.Given x index)
    (hidle : start.condition.resolving = false)
    (hunmarked : RecordId.normal x ∉ start.condition.unresolvable)
    (hsupports : start.condition.column.supports start.condition.operator = true)
    (hshape : start.condition.column.valueShape start.condition.operator = .references)
    (htargets : start.condition.column.details.targets = before ++ entity :: after)
    (hbefore : ∀ target ∈ before,
      (store.addRecord entity x record).records.get? (target, RecordId.normal x) = none) :
    let service := store.addRecord entity x record
    let targets := start.condition.column.details.targets
    ∃ batch, start.condition.beginLoad.1 = some batch ∧
      (∀ turns, (∀ index < batch.pending.length,
          2 * targets.length ≤ (Search.momentsOf turns index).length) →
        Search.Finished (Search.run (Search.all targets batch.pending) turns)) ∧
      ∀ between turns, (start.act .startLoad).edits between = false →
        (∀ results, .finishLoad 0 results ∉ between) →
        Search.Steady (Replies.probe service.reply) targets batch.pending turns →
        Search.Finished (Search.run (Search.all targets batch.pending) turns) →
        let results := Search.results (Search.run (Search.all targets batch.pending) turns)
        let loaded := (((start.act .startLoad).run between).act (.finishLoad 0 results)).condition
        ∃ shown now, loaded.current.1 = .references shown ∧ shown[index]? = some now ∧
          now.sentId = RecordId.normal x ∧ service.Describes entity record now := by
  intro service targets
  have hawaits := hgiven.awaits hsettles hsupports hshape
  obtain ⟨batch, hbatch, hpending⟩ := hawaits.exists_batch hshape hidle hunmarked
  refine ⟨batch, hbatch, fun turns => Search.finished_of_turns, ?_⟩
  intro between turns hedits hopen hsteady hfinished results loaded
  obtain ⟨-, -, -, hbegun⟩ := Condition.beginLoad_eq_some_iff.mp hbatch
  have hresolved : ∀ id other, (batch.found results).get? id = some other →
      other.isResolved = true := fun id other hget =>
    Search.isResolved_of_get?_foundBy hsteady hfinished hget
  obtain ⟨first, hfirst, -⟩ :=
    Search.exists_foundBy_of_addRecord hstore htargets hbefore hsteady hfinished hpending hsettles
  have hfound : ((batch.found results).get? (RecordId.normal x)).isSome = true :=
    Option.isSome_of_eq_some hfirst
  obtain ⟨shown, now, hcurrent, hplace, hid, hget⟩ :=
    (awaits_loading hawaits batch).finishLoad hsettles
      (by rw [condition_loading]; exact hsupports) (by rw [condition_loading]; exact hshape)
      (by rw [condition_loading, hbegun]) hresolved hfound
  -- What is shown was looked up under an id of the same normal form, so it is the record as well.
  obtain ⟨found, hagain, hdescribes⟩ :=
    Search.exists_foundBy_of_addRecord hstore htargets hbefore hsteady hfinished
      (Search.mem_of_get?_foundBy hsteady hfinished hget) hid
  obtain rfl : now = found := Option.some_inj.mp (hget.symm.trans hagain)
  refine ⟨shown, now, ?_, hplace, hid, hdescribes⟩
  show (((start.act .startLoad).run between).act (.finishLoad 0 results)).condition.current.1 = _
  rw [condition_finishLoad hreachable hbatch hedits hopen, Condition.fst_current_snd]
  exact hcurrent

/-- A contact goes by an id in capitals and braces; the target before its entity does not have it. -/
theorem resolves_added_contact :
    let ada := "6f9619ff-8b86-d011-b42d-00c04fc964ff"
    let x := " \x7b6F9619FF-8B86-D011-B42D-00C04FC964FF\x7d"
    let column : Column := ⟨"ownerid", .owner, { targets := ["team", "contact", "account"] }⟩
    let value := ControlValue.references [.bare "b0f61d2c-7b7d-4d5a-9d5e-0a1b2c3d4e5f", .bare x]
    let start := run { condition := .fresh 0 "owner" column } [.read, .setValue value]
    let store := ({} : MemoryStore).addEntity (.conventional "team")
    let service := store.addRecord "contact" x [("name", .string "Ada")]
    let pending := ["b0f61d2c-7b7d-4d5a-9d5e-0a1b2c3d4e5f", ada]
    let turns : List Turn :=
      [1, 0, 0, 1, 1, 0, 0, 1, 1, 0, 0, 1].map fun index => ⟨index, service.reply⟩
    let results := Search.results (Search.run (Search.all column.details.targets pending) turns)
    let loaded := (((start.act .startLoad).run [.read]).act (.finishLoad 0 results)).condition
    RecordId.Settles x ∧ start.condition.beginLoad.1 = some ⟨1, pending⟩ ∧
      loaded.current.1 = .references
        [.bare "b0f61d2c-7b7d-4d5a-9d5e-0a1b2c3d4e5f", ⟨ada, some "contact", some "Ada"⟩] ∧
      ∃ shown now, loaded.current.1 = .references shown ∧ shown[1]? = some now ∧
        now.sentId = RecordId.normal x ∧
          service.Describes "contact" [("name", .string "Ada")] now := by
  intro ada x column value start store service pending turns results loaded
  have hsettles : RecordId.Settles x := by decide +kernel
  have hbegun : start.condition.beginLoad.1 = some ⟨1, pending⟩ := by decide +kernel
  have hcurrent : loaded.current.1 = .references
      [.bare "b0f61d2c-7b7d-4d5a-9d5e-0a1b2c3d4e5f", ⟨ada, some "contact", some "Ada"⟩] := by
    decide +kernel
  have hreachable : start.Reachable := ⟨_, [.read, .setValue value], .fresh 0 "owner" column, rfl⟩
  have hgiven : start.condition.Given x 1 := by
    refine .set _ _ (.bare x) rfl rfl fun other hmem hresolved => ?_
    rcases List.mem_pair.mp hmem with rfl | rfl <;> exact absurd hresolved Bool.false_ne_true
  have htargets : start.condition.column.details.targets = ["team"] ++ "contact" :: ["account"] :=
    rfl
  have hbefore : ∀ target ∈ ["team"], (store.addRecord "contact" x
      [("name", .string "Ada")]).records.get? (target, RecordId.normal x) = none := by
    decide +kernel
  obtain ⟨batch, hbatch, -, hload⟩ := resolves_added
    (MemoryStore.Built.empty.addEntity (.conventional "team")) hsettles hreachable hgiven
    (by decide +kernel) (by decide +kernel) (by decide +kernel) (by decide +kernel) htargets hbefore
  obtain rfl : ⟨1, pending⟩ = batch := Option.some_inj.mp (hbegun.symm.trans hbatch)
  have hopen : ∀ results, Move.finishLoad 0 results ∉ [Move.read] := by
    intro results hmem
    simp at hmem
  have hsteady : Search.Steady (Replies.probe service.reply) column.details.targets pending
      turns := by
    apply Search.steady_of_same
    intro turn hturn
    obtain ⟨index, -, rfl⟩ := List.mem_map.mp hturn
    rfl
  have hfinished : Search.Finished (Search.run
      (Search.all column.details.targets pending) turns) := by
    unfold Search.Finished
    decide +kernel
  exact ⟨hsettles, hbegun, hcurrent,
    hload [.read] turns (by decide +kernel) hopen hsteady hfinished⟩

/-- An id with blanks inside its braces does not settle.  The store has the record under an id with
the blanks, and it is asked for one without them, whether the editor or the document gave the id. -/
theorem added_record_not_found :
    let column : Column := ⟨"ownerid", .owner, { targets := ["contact"] }⟩
    let service := ({} : MemoryStore).addRecord "contact" "{ a }" [("name", .string "Ada")]
    let given := run { condition := .fresh 0 "owner" column }
      [.setValue (.references [.bare "{ a }"])]
    let hydrated := run { condition := .hydrated 0 "owner" column ⟨.equal, .ofTexts ["{ a }"]⟩ } []
    let searches (id : String) : List Search :=
      Search.run (Search.all ["contact"] [id]) [⟨0, service.reply⟩, ⟨0, service.reply⟩]
    let loaded (start : Activity) (id : String) : Condition :=
      ((start.act .startLoad).act (.finishLoad 0 (Search.results (searches id)))).condition
    (given.condition.beginLoad.1 = some ⟨1, ["a"]⟩ ∧ Search.Finished (searches "a") ∧
        (loaded given "a").current.1 = .references [.bare "a"]) ∧
      hydrated.condition.beginLoad.1 = some ⟨0, [" a "]⟩ ∧ Search.Finished (searches " a ") ∧
        (loaded hydrated " a ").current.1 = .references [.bare " a "] := by
  intro column service given hydrated searches loaded
  unfold Search.Finished
  refine ⟨⟨?_, ?_, ?_⟩, ?_, ?_, ?_⟩ <;> decide +kernel

end Activity

end GridFilter
