import GridFilter.Codec.Metadata
import GridFilter.Proofs.Json.Scanning
import GridFilter.Proofs.Metadata.Store

/-!
# The last write wins

A store in memory is filled by writes, entities and records in any order, and every fixture that is
accepted is a list of writes too (`MemoryStore.exists_begins_of_ofFixture`): each entity is written,
and after it those of its records that have an id.  What the store answers can be told from the
writes alone (`MemoryStore.reflects_writes`).  An entity has the metadata that was written last
under its name; as long as only records of it were written it is described by convention.  An id
finds the record that was written last under an id of the same normal form.

## The argument

`MemoryStore.Holds` says that the two maps of a store are what the writes make them.  It is true of
the store without any writes, and each write keeps it (`MemoryStore.Holds.write`): the metadata of
an entity is replaced by an entity only, which a record must not do although it puts something into
the same map.  What a service answers is read off the two maps.
-/

namespace GridFilter

namespace MemoryStore

/-! ## Writes -/

/-- Something that is put into a store. -/
inductive Write where
  | entity (metadata : EntityMetadata)
  | record (entity id : String) (record : Record)

/-- The store after something was put into it. -/
def write (store : MemoryStore) : Write → MemoryStore
  | .entity metadata => store.addEntity metadata
  | .record entity id record => store.addRecord entity id record

namespace Write

/-- The name of the entity that a write is about. -/
def about : Write → String
  | .entity metadata => metadata.logicalName
  | .record owner _ _ => owner

/-- The metadata that a write gives to the entity of that name. -/
def metadata? (name : String) : Write → Option EntityMetadata
  | .entity metadata => if metadata.logicalName = name then some metadata else none
  | .record .. => none

/-- The record that a write puts under an id of an entity, however the id is spelled. -/
def record? (name id : String) : Write → Option Record
  | .entity _ => none
  | .record owner other given =>
    if owner = name ∧ RecordId.normal other = RecordId.normal id then some given else none

end Write

/-- The metadata that was written last under a name. -/
def lastMetadata? (history : List Write) (name : String) : Option EntityMetadata :=
  (history.filterMap (Write.metadata? name)).getLast?

/-- The record that was written last under an id of an entity. -/
def lastRecord? (history : List Write) (name id : String) : Option Record :=
  (history.filterMap (Write.record? name id)).getLast?

/-- How writes describe an entity: as they did last, or by convention when they are about it and
never did. -/
def described? (history : List Write) (name : String) : Option EntityMetadata :=
  (lastMetadata? history name).or
    (if name ∈ history.map Write.about then some (.conventional name) else none)

variable {history : List Write} {store : MemoryStore} {name id : String}

lemma getLast?_filterMap_concat {α β : Type} (f : α → Option β) (items : List α) (last : α) :
    ((items ++ [last]).filterMap f).getLast? = (f last).or (items.filterMap f).getLast? := by
  rw [List.filterMap_append, List.getLast?_append]
  cases hlast : f last <;> simp [hlast]

lemma lastMetadata?_concat (history : List Write) (write : Write) (name : String) :
    lastMetadata? (history ++ [write]) name =
      (write.metadata? name).or (lastMetadata? history name) :=
  getLast?_filterMap_concat _ _ _

lemma lastRecord?_concat (history : List Write) (write : Write) (name id : String) :
    lastRecord? (history ++ [write]) name id =
      (write.record? name id).or (lastRecord? history name id) :=
  getLast?_filterMap_concat _ _ _

/-- An entity is described exactly if something was written about it. -/
lemma described?_eq_none_iff :
    described? history name = none ↔ ∀ write ∈ history, write.about ≠ name := by
  rw [described?, Option.or_eq_none_iff, ite_eq_right_iff]
  constructor
  · rintro ⟨-, hnone⟩ write hmem habout
    exact absurd (hnone (habout ▸ List.mem_map_of_mem hmem)) (Option.some_ne_none _)
  · intro hnone
    constructor
    · rw [lastMetadata?, List.getLast?_eq_none_iff, List.filterMap_eq_nil_iff]
      intro write hmem
      cases write with
      | entity metadata => exact if_neg (hnone _ hmem)
      | record entity id record => rfl
    · intro hmem
      obtain ⟨write, hwrite, habout⟩ := List.mem_map.mp hmem
      exact absurd habout (hnone write hwrite)

/-- There is no last record under an id exactly if none was written under that normal form. -/
lemma lastRecord?_eq_none_iff :
    lastRecord? history name id = none ↔ ∀ other record, .record name other record ∈ history →
      RecordId.normal other ≠ RecordId.normal id := by
  rw [lastRecord?, List.getLast?_eq_none_iff, List.filterMap_eq_nil_iff]
  constructor
  · intro hnone other record hmem hsame
    exact absurd (hnone _ hmem) (by simp [Write.record?, hsame])
  · intro hnone write hmem
    cases write with
    | entity metadata => rfl
    | record entity other record =>
        rw [Write.record?, if_neg]
        rintro ⟨rfl, hsame⟩
        exact hnone other record hmem hsame

/-! ## What a store holds -/

/-- The maps of a store are what writes make them. -/
structure Holds (store : MemoryStore) (history : List Write) : Prop where
  entities : ∀ name, store.entities.get? name = described? history name
  records : ∀ name id,
    store.records.get? (name, RecordId.normal id) = lastRecord? history name id

lemma holds_empty : Holds {} [] where
  entities _ := rfl
  records _ _ := rfl

/-- One write more: an entity replaces its metadata, and a record describes its entity only if
nothing was written about it before. -/
lemma Holds.write (h : store.Holds history) (write : Write) :
    (store.write write).Holds (history ++ [write]) where
  entities := by
    intro name
    rw [described?, lastMetadata?_concat, List.map_append, List.map_singleton]
    cases write with
    | entity metadata =>
        rw [MemoryStore.write, addEntity, Association.get?_put, h.entities, described?]
        by_cases hname : metadata.logicalName = name
        · simp [Write.metadata?, hname]
        · simp [Write.metadata?, Write.about, hname, Ne.symm hname]
    | record entity id record =>
        rw [MemoryStore.write, addRecord, Association.get?_putNew, h.entities, h.entities,
          described?, described?]
        by_cases hname : entity = name
        · subst hname
          cases hlast : lastMetadata? history entity <;>
            by_cases hmem : entity ∈ history.map Write.about <;>
              simp [Write.metadata?, Write.about, hmem]
        · simp [Write.metadata?, Write.about, hname, Ne.symm hname]
  records := by
    intro name id
    rw [lastRecord?_concat]
    cases write with
    | entity metadata => exact h.records name id
    | record entity other record =>
        rw [MemoryStore.write, get?_addRecord, h.records, Write.record?]
        by_cases hsame : entity = name ∧ RecordId.normal other = RecordId.normal id
        · rw [if_pos hsame, if_pos (Prod.mk.injEq .. ▸ hsame), Option.some_or]
        · rw [if_neg hsame, if_neg fun hkey => hsame (Prod.mk.inj hkey), Option.none_or]

/-- Whatever is written, the store holds it. -/
lemma Holds.writes (h : store.Holds history) (writes : List Write) :
    (writes.foldl MemoryStore.write store).Holds (history ++ writes) := by
  induction writes generalizing store history with
  | nil => rwa [List.append_nil]
  | cons write rest ih =>
      rw [List.append_cons]
      exact ih (h.write write)

lemma built_writes (writes : List Write) : (writes.foldl write {}).Built := by
  refine List.foldlRecOn writes write .empty fun store h write _ => ?_
  cases write with
  | entity metadata => exact h.addEntity metadata
  | record entity id record => exact h.addRecord entity id record

end MemoryStore

/-! ## Fixtures -/

/-- What an entity of a fixture writes: itself, and then its records that have a text for an id. -/
def FixtureEntity.writes (found : FixtureEntity) : List MemoryStore.Write :=
  .entity found.entity :: found.records.filterMap fun record =>
    ((record.get? found.entity.primaryIdAttribute).bind Json.string?).map fun id =>
      .record found.entity.logicalName id record

/-- What a fixture writes, in the order of the document. -/
def Fixture.writes (fixture : Fixture) : List MemoryStore.Write :=
  fixture.entities.flatMap FixtureEntity.writes

namespace MemoryStore

variable {history given : List Write} {store start : MemoryStore} {name id : String}

lemma addWithRecords_eq_foldl (store : MemoryStore) (found : FixtureEntity) :
    store.addWithRecords found.entity found.records = found.writes.foldl write store := by
  rw [addWithRecords, FixtureEntity.writes, List.foldl_cons, List.foldl_filterMap, write]
  refine congrArg (fun step => List.foldl step _ _) (funext fun store => funext fun record => ?_)
  rw [addOwnRecord]
  cases (record.get? found.entity.primaryIdAttribute).bind Json.string? <;> rfl

/-- A fixture is put into a store write by write. -/
lemma store_eq_foldl (fixture : Fixture) : fixture.store = fixture.writes.foldl write {} := by
  rw [Fixture.store, Fixture.writes, List.foldl_flatMap]
  exact congrArg (fun step => List.foldl step _ _)
    (funext fun store => funext fun found => addWithRecords_eq_foldl store found)

/-- Where a history begins: with nothing, or with the content of a fixture. -/
inductive Begins : MemoryStore → List Write → Prop
  | empty : Begins {} []
  | fixture {text : String} {store : MemoryStore} {fixture : Fixture}
      (hread : readDocument Fixture.shape.decode text = .ok fixture)
      (haccepted : ofFixture text = .ok store) : Begins store fixture.writes

lemma Begins.eq_foldl (h : Begins start given) : start = given.foldl write {} := by
  cases h with
  | empty => rfl
  | @fixture text _ fixture hread haccepted =>
      rw [ofFixture, hread] at haccepted
      rw [← Except.ok.inj haccepted, store_eq_foldl]

/-- A history begins with every fixture that is accepted. -/
lemma exists_begins_of_ofFixture {text : String} (h : ofFixture text = .ok store) :
    ∃ fixture, readDocument Fixture.shape.decode text = .ok fixture ∧
      Begins store fixture.writes := by
  cases hread : readDocument Fixture.shape.decode text with
  | ok fixture => exact ⟨fixture, rfl, .fixture hread h⟩
  | error fault =>
      rw [ofFixture, hread] at h
      exact absurd h (by simp)

/-! ## Answers -/

/-- A service without a cache brings an inquiry to the same end as its store. -/
lemma run_memory {α : Type} (store : MemoryStore) (inquiry : Inquiry α) :
    (MetadataService.run { source := .memory store } inquiry).1 = store.evaluate inquiry := by
  -- The records asked for on the way are counted.
  suffices h : ∀ count, (MetadataService.run
      { source := .memory { store with retrievals := count } } inquiry).1 =
        store.evaluate inquiry from h store.retrievals
  induction inquiry with
  | done value => exact fun _ => rfl
  | ask request next ih =>
      intro count
      obtain ⟨more, hanswer⟩ := MetadataService.exists_answer_memory store count request
      have hnow : MetadataService.answer
          ⟨.memory { store with retrievals := count }, none⟩ request =
            (store.reply request, ⟨.memory { store with retrievals := more }, none⟩) := by
        simp only [MetadataService.answer, MetadataService.cached?, Option.bind_none]
        rw [MetadataService.fetch, hanswer]
        cases hreply : store.reply request <;> simp [MetadataService.remember]
      rw [MetadataService.run, hnow]
      exact ih _ more

lemma run_lookup (store : MemoryStore) (name id : String) :
    (MetadataService.run { source := .memory store } (.lookup name id)).1 =
      Replies.probe store.reply name id := by
  rw [run_memory, Inquiry.lookup, evaluate, Replies.probe]
  cases store.reply (.entity name) with
  | error failure => rfl
  | ok metadata =>
    dsimp only
    rw [evaluate]
    cases store.reply (.record metadata id [metadata.primaryNameAttribute]) <;> rfl

lemma Holds.entity (h : store.Holds history) (name : String) :
    store.entity name =
      match described? history name with
      | some metadata => .ok metadata
      | none => .error (.unknownEntity name) := by
  have hentity : store.entity name =
      match store.entities.get? name with
      | some metadata => .ok metadata
      | none => .error (.unknownEntity name) := rfl
  rw [hentity, h.entities]

/-- What is answered about the record of an id: a failure if nothing was written about the entity,
and else a report on the record that was written last, if there is one. -/
def reported {α : Type} (history : List Write) (name id : String)
    (report : EntityMetadata → Record → α) : Except MetadataError (Option α) :=
  match described? history name with
  | some metadata => .ok ((lastRecord? history name id).map (report metadata))
  | none => .error (.unknownEntity name)

lemma Holds.record (h : store.Holds history) (name id : String) (columns : List String) :
    store.record name id columns = reported history name id fun _ => Record.select columns := by
  rw [MemoryStore.record, Association.has, h.entities, h.records, reported]
  cases described? history name <;> rfl

lemma Holds.probe (h : store.Holds history) (hbuilt : store.Built) (name id : String) :
    Replies.probe store.reply name id =
      reported history name id fun metadata record => ⟨id, name, nameOf metadata record⟩ := by
  rw [probe_eq hbuilt, h.entity, h.records, reported]
  cases described? history name <;> rfl

/-- A record has a name exactly if its name attribute holds a string. -/
lemma nameOf_eq_some_iff {metadata : EntityMetadata} {record : Record} {text : String} :
    nameOf metadata record = some text ↔
      record.get? metadata.primaryNameAttribute = some (.string text) := by
  rw [nameOf, Option.bind_eq_some_iff]
  constructor
  · rintro ⟨value, hvalue, htext⟩
    cases value with
    | string found => rw [hvalue, ← Option.some_inj.mp htext]
    | null | bool _ | integer _ | real _ | array _ | object _ =>
        exact absurd htext.symm (Option.some_ne_none text)
  · exact fun hvalue => ⟨_, hvalue, rfl⟩

section Reported

variable {α : Type} {report : EntityMetadata → Record → α}

lemma reported_eq_error_iff :
    reported history name id report = .error (.unknownEntity name) ↔
      ∀ write ∈ history, write.about ≠ name := by
  rw [← described?_eq_none_iff, reported]
  cases described? history name <;> simp

lemma reported_eq_none_iff :
    reported history name id report = .ok none ↔
      (∃ write ∈ history, write.about = name) ∧ ∀ other record,
        .record name other record ∈ history → RecordId.normal other ≠ RecordId.normal id := by
  have hknown : (∃ write ∈ history, write.about = name) ↔ described? history name ≠ none := by
    rw [ne_eq, described?_eq_none_iff]
    push Not
    rfl
  rw [hknown, ← lastRecord?_eq_none_iff, reported]
  cases described? history name <;> simp

/-- Where a record was written, its entity is described. -/
lemma exists_described?_of_lastRecord? {record : Record}
    (h : lastRecord? history name id = some record) :
    ∃ metadata, described? history name = some metadata ∧
      reported history name id report = .ok (some (report metadata record)) := by
  cases hdescribed : described? history name with
  | some metadata =>
      refine ⟨metadata, rfl, ?_⟩
      rw [reported, hdescribed, h]
      rfl
  | none =>
      have hnone : lastRecord? history name id = none :=
        lastRecord?_eq_none_iff.mpr fun other found hmem =>
          absurd rfl (described?_eq_none_iff.mp hdescribed (.record name other found) hmem)
      exact absurd (h.symm.trans hnone) (Option.some_ne_none record)

end Reported

end MemoryStore

namespace MetadataService

open MemoryStore

/-- What a service answers is what was written last. -/
structure Reflects (service : MetadataService) (history : List Write) : Prop where
  /-- An entity has the metadata that was written last under its name. -/
  entity_last : ∀ name metadata, lastMetadata? history name = some metadata →
    (service.run (.entity name)).1 = .ok metadata
  /-- An entity without metadata is described by convention if a record of it was written. -/
  entity_conventional : ∀ name, lastMetadata? history name = none →
    (∃ id record, .record name id record ∈ history) →
      (service.run (.entity name)).1 = .ok (.conventional name)
  entity_unknown : ∀ name, (service.run (.entity name)).1 = .error (.unknownEntity name) ↔
    ∀ write ∈ history, write.about ≠ name
  record_unknown : ∀ metadata id columns,
    (service.run (.record metadata id columns)).1 =
        .error (.unknownEntity metadata.logicalName) ↔
      ∀ write ∈ history, write.about ≠ metadata.logicalName
  record_none : ∀ metadata id columns,
    (service.run (.record metadata id columns)).1 = .ok none ↔
      (∃ write ∈ history, write.about = metadata.logicalName) ∧
        ∀ other record, .record metadata.logicalName other record ∈ history →
          RecordId.normal other ≠ RecordId.normal id
  /-- A record is the one that was written last under its id, with the attributes that are asked
  for in the order of the record. -/
  record_last : ∀ metadata id columns record,
    lastRecord? history metadata.logicalName id = some record →
      (service.run (.record metadata id columns)).1 =
        .ok (some (if columns = [] then record else record.filter fun member => member.1 ∈ columns))
  lookup_unknown : ∀ name id,
    (service.run (.lookup name id)).1 = .error (.unknownEntity name) ↔
      ∀ write ∈ history, write.about ≠ name
  lookup_none : ∀ name id, (service.run (.lookup name id)).1 = .ok none ↔
    (∃ write ∈ history, write.about = name) ∧
      ∀ other record, .record name other record ∈ history →
        RecordId.normal other ≠ RecordId.normal id
  /-- A look-up gives the name of the record that was written last, if that is a string. -/
  lookup_last : ∀ name id record, lastRecord? history name id = some record →
    ∃ metadata found, (service.run (.entity name)).1 = .ok metadata ∧
      (service.run (.lookup name id)).1 = .ok (some found) ∧
      found.id = id ∧ found.entityType = name ∧
      ∀ text, found.primaryName = some text ↔
        record.get? metadata.primaryNameAttribute = some (.string text)

end MetadataService

namespace MemoryStore

variable {history given : List Write} {store start : MemoryStore}

lemma Holds.run_entity (h : store.Holds history) (name : String) :
    (MetadataService.run { source := .memory store } (.entity name)).1 =
      match described? history name with
      | some metadata => .ok metadata
      | none => .error (.unknownEntity name) :=
  (run_memory store _).trans (h.entity name)

lemma Holds.run_record (h : store.Holds history) (metadata : EntityMetadata) (id : String)
    (columns : List String) :
    (MetadataService.run { source := .memory store } (.record metadata id columns)).1 =
      reported history metadata.logicalName id fun _ => Record.select columns :=
  (run_memory store _).trans (h.record metadata.logicalName id columns)

lemma Holds.run_lookup (h : store.Holds history) (hbuilt : store.Built) (name id : String) :
    (MetadataService.run { source := .memory store } (.lookup name id)).1 =
      reported history name id fun metadata record => ⟨id, name, nameOf metadata record⟩ :=
  (MemoryStore.run_lookup store name id).trans (h.probe hbuilt name id)

/-- The service of a store answers what was written last, if the store holds what was written. -/
lemma Holds.reflects (h : store.Holds history) (hbuilt : store.Built) :
    MetadataService.Reflects { source := .memory store } history where
  entity_last name metadata hlast := by
    rw [h.run_entity, described?, hlast, Option.some_or]
  entity_conventional := by
    rintro name hlast ⟨id, record, hmem⟩
    have habout : name ∈ history.map Write.about := List.mem_map.mpr ⟨_, hmem, rfl⟩
    rw [h.run_entity, described?, hlast, Option.none_or, if_pos habout]
  entity_unknown name := by
    rw [h.run_entity, ← described?_eq_none_iff]
    cases described? history name <;> simp
  record_unknown metadata id columns := by
    rw [h.run_record]
    exact reported_eq_error_iff
  record_none metadata id columns := by
    rw [h.run_record]
    exact reported_eq_none_iff
  record_last metadata id columns record hlast := by
    obtain ⟨_, -, hreported⟩ := exists_described?_of_lastRecord? hlast
    rw [h.run_record, hreported, Record.select]
    simp
  lookup_unknown name id := by
    rw [h.run_lookup hbuilt]
    exact reported_eq_error_iff
  lookup_none name id := by
    rw [h.run_lookup hbuilt]
    exact reported_eq_none_iff
  lookup_last := by
    intro name id record hlast
    obtain ⟨metadata, hdescribed, hreported⟩ := exists_described?_of_lastRecord? hlast
    refine ⟨metadata, _, ?_, (h.run_lookup hbuilt name id).trans hreported, rfl, rfl, ?_⟩
    · rw [h.run_entity, hdescribed]
    · exact fun text => nameOf_eq_some_iff

/-- Whatever is written, to a store without content or to that of an accepted fixture, the service
of the store answers what was written last. -/
theorem reflects_writes (h : Begins start given) (writes : List Write) :
    MetadataService.Reflects { source := .memory (writes.foldl write start) }
      (given ++ writes) := by
  have hholds : (writes.foldl write start).Holds (given ++ writes) := by
    rw [h.eq_foldl]
    exact (holds_empty.writes given).writes writes
  have hbuilt : (writes.foldl write start).Built := by
    rw [h.eq_foldl, ← List.foldl_append]
    exact built_writes (given ++ writes)
  exact hholds.reflects hbuilt

/-- A fixture describes an entity twice, with another id attribute the second time; after it a
record is written before its entity, and once more in another spelling of its id. -/
theorem reflects_writes_fixture :
    let fixture : Fixture :=
      ⟨[⟨⟨"account", "accounts", "accountid", "name"⟩,
          [[("accountid", .string "\x7bA1\x7d"), ("name", .string "Contoso")],
            [("name", .string "Nobody")]]⟩,
        ⟨⟨"account", "accounts", "key", "title"⟩,
          [[("key", .string "a1"), ("title", .string "Fabrikam")]]⟩]⟩
    let contact : EntityMetadata := ⟨"contact", "contacts", "contactid", "fullname"⟩
    let writes : List Write :=
      [.record "contact" "c1" [("name", .string "Ada")], .entity contact,
        .record "contact" "\x7bC1\x7d" [("fullname", .string "Ada King"), ("city", .string "Ulm")],
        .record "team" "t1" []]
    let service : MetadataService := { source := .memory (writes.foldl write fixture.store) }
    Begins fixture.store fixture.writes ∧
      (service.run (.entity "account")).1 = .ok ⟨"account", "accounts", "key", "title"⟩ ∧
      (service.run (.entity "team")).1 = .ok (.conventional "team") ∧
      (service.run (.entity "lead")).1 = .error (.unknownEntity "lead") ∧
      (service.run (.record contact "c1" ["city"])).1 = .ok (some [("city", .string "Ulm")]) ∧
      (service.run (.lookup "account" "A2")).1 = .ok none ∧
      ∃ metadata found, (service.run (.entity "account")).1 = .ok metadata ∧
        (service.run (.lookup "account" "A1")).1 = .ok (some found) ∧
        ∀ text, found.primaryName = some text ↔
          Json.Members.get? [("key", .string "a1"), ("title", .string "Fabrikam")]
            metadata.primaryNameAttribute = some (.string text) := by
  intro fixture contact writes service
  -- The text that the fixture is read from.
  let written : FixtureEntity → Json := fun found =>
    .object [("logicalName", .string found.entity.logicalName),
      ("entitySetName", .string found.entity.entitySetName),
      ("primaryIdAttribute", .string found.entity.primaryIdAttribute),
      ("primaryNameAttribute", .string found.entity.primaryNameAttribute),
      ("records", .array (found.records.map .object))]
  have hread : readDocument Fixture.shape.decode
      (Json.object [("entities", .array (fixture.entities.map written))]).compact =
        .ok fixture := by
    rw [readDocument, Json.scan_compact (by simp [fixture, written]) (by decide +kernel)]
    rfl
  have hbegins : Begins fixture.store fixture.writes := .fixture hread (by rw [ofFixture, hread])
  have h : service.Reflects (fixture.writes ++ writes) := reflects_writes hbegins writes
  have hfabrikam : lastRecord? (fixture.writes ++ writes) "account" "A1" =
      some [("key", .string "a1"), ("title", .string "Fabrikam")] := by rfl
  have hcontact : lastRecord? (fixture.writes ++ writes) contact.logicalName "c1" =
      some [("fullname", .string "Ada King"), ("city", .string "Ulm")] := by rfl
  refine ⟨hbegins, ?_, ?_, ?_, ?_, ?_, ?_⟩
  · exact h.entity_last "account" _ (by decide +kernel)
  · exact h.entity_conventional "team" (by decide +kernel) ⟨"t1", [], by simp [writes]⟩
  · exact (h.entity_unknown "lead").mpr (by decide +kernel)
  · exact h.record_last contact "c1" ["city"] _ hcontact
  · exact (h.lookup_none "account" "A2").mpr
      ⟨by decide +kernel, lastRecord?_eq_none_iff.mp (by rfl)⟩
  · obtain ⟨metadata, found, hentity, hlookup, -, -, hname⟩ :=
      h.lookup_last "account" "A1" _ hfabrikam
    exact ⟨metadata, found, hentity, hlookup, hname⟩

end MemoryStore

end GridFilter
