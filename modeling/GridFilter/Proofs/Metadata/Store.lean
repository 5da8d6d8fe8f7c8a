import GridFilter.Proofs.Metadata.Cache
import GridFilter.Proofs.Metadata.Searches
import GridFilter.Proofs.Text.RecordId

/-!
# Records that are found again

A record is stored under the normal form of the id that it is given with, and it is looked up under
the normal form of the id that is asked for.  So any id with the same normal form finds it
(`MemoryStore.firstReference?_of_stored`): the search over the targets of a lookup column comes back
with the entity and the record's name, as long as no target before has a record under that id.

What an id becomes on its way to the store is another matter: it is put into normal form once more at
each layer that it passes.  The record is found at the end of the way exactly if the id that it was
stored with settles (`MemoryStore.isSome_firstReference?_written_iff`).
-/

namespace GridFilter

/-! ## What a store holds -/

namespace Association

variable {κ α : Type} [DecidableEq κ]

/-- A key that had a value keeps it, and nothing else has changed. -/
lemma get?_putNew (map : Association κ α) (key other : κ) (value : α) :
    (map.putNew key value).get? other =
      if key = other then some ((map.get? key).getD value) else map.get? other := by
  rw [putNew, has]
  cases hfound : map.get? key with
  | none => simp
  | some found =>
      by_cases hsame : key = other
      · rw [← hsame]
        simp [hfound]
      · simp [hsame]

end Association

namespace MemoryStore

variable {store : MemoryStore} {entity target id x : String} {record : Record}
  {metadata : EntityMetadata} {before after : List String}

/-- The stores that entities and records were put into, one after another. -/
inductive Built : MemoryStore → Prop where
  | empty : Built {}
  | addEntity {store : MemoryStore} (h : Built store) (entity : EntityMetadata) :
      Built (store.addEntity entity)
  | addRecord {store : MemoryStore} (h : Built store) (entity id : String) (record : Record) :
      Built (store.addRecord entity id record)
  | countRetrieval {store : MemoryStore} (h : Built store) : Built store.countRetrieval

/-- Every entity of a store is found under its own name. -/
lemma Built.logicalName (h : store.Built) (hfound : store.entities.get? entity = some metadata) :
    metadata.logicalName = entity := by
  induction h generalizing entity metadata with
  | empty => simp at hfound
  | countRetrieval _ ih => exact ih hfound
  | addEntity _ added ih =>
      rw [MemoryStore.addEntity, Association.get?_put] at hfound
      split at hfound
      · next hname => rw [← Option.some_inj.mp hfound, hname]
      · exact ih hfound
  | @addRecord store h name id record ih =>
      rw [MemoryStore.addRecord, Association.get?_putNew] at hfound
      split at hfound
      · next hname =>
          rw [← Option.some_inj.mp hfound, ← hname]
          cases hknown : store.entities.get? name with
          | none => rfl
          | some known => exact ih hknown
      · exact ih hfound

lemma entities_of_entity (h : store.entity entity = .ok metadata) :
    store.entities.get? entity = some metadata := by
  unfold MemoryStore.entity at h
  split at h
  · next found hfound => rw [hfound, Except.ok.inj h]
  · exact absurd h (by simp)

/-- The entity of a record that was stored is described. -/
lemma entity_addRecord (store : MemoryStore) (entity id : String) (record : Record) :
    ∃ metadata, (store.addRecord entity id record).entity entity = .ok metadata := by
  have hget : (store.addRecord entity id record).entities.get? entity =
      some ((store.entities.get? entity).getD (.conventional entity)) := by
    rw [addRecord, Association.get?_putNew, if_pos rfl]
  exact ⟨_, by rw [MemoryStore.entity, hget]⟩

/-! ## Probes -/

/-- An attribute that is asked for is found in what is selected. -/
lemma get?_select (record : Record) (name : String) :
    Json.Members.get? (Record.select [name] record) name = Json.Members.get? record name := by
  have hsame : (fun member : String × Json =>
      decide ([name].contains member.1 = true ∧ (member.1 == name) = true)) =
        fun member => member.1 == name := by
    funext member
    by_cases hname : member.1 = name <;> simp [hname]
  show ((record.filter fun member => [name].contains member.1).find? _).map _ = _
  rw [List.find?_filter, hsame]
  rfl

/-- The name that a record has under the name attribute of its entity. -/
def nameOf (metadata : EntityMetadata) (record : Record) : Option String :=
  (record.get? metadata.primaryNameAttribute).bind Json.string?

/-- What a store answers to a probe depends on the id by its normal form only. -/
lemma probe_eq (h : store.Built) (target id : String) :
    Replies.probe store.reply target id =
      (store.entity target).map fun metadata =>
        (store.records.get? (target, RecordId.normal id)).map fun record =>
          ⟨id, target, nameOf metadata record⟩ := by
  cases hentity : store.entity target with
  | error failure =>
      have hreply : store.reply (.entity target) = .error failure := hentity
      rw [Replies.probe, hreply]
      rfl
  | ok metadata =>
      have hreply : store.reply (.entity target) = .ok metadata := hentity
      have hknown := entities_of_entity hentity
      have hhas : store.entities.has target = true := by
        rw [Association.has, hknown]
        rfl
      have hrecord : store.reply (.record metadata id [metadata.primaryNameAttribute]) =
          .ok ((store.records.get? (target, RecordId.normal id)).map
            (Record.select [metadata.primaryNameAttribute])) := by
        show store.record metadata.logicalName id _ = _
        rw [h.logicalName hknown, MemoryStore.record, if_pos hhas]
      rw [Replies.probe, hreply]
      dsimp only
      rw [hrecord]
      show Except.ok _ = Except.ok _
      rw [Option.map_map]
      refine congrArg (fun named => Except.ok (Option.map named _)) (funext fun record => ?_)
      show Inquiry.found metadata target id (Record.select _ record) = _
      rw [Inquiry.found, get?_select]
      rfl

/-- The first target with a record under the normal form of an id is the one that is found. -/
lemma firstReference?_of_stored (h : store.Built) (hmetadata : store.entity entity = .ok metadata)
    (hrecord : store.records.get? (entity, RecordId.normal id) = some record)
    (hbefore : ∀ target ∈ before, store.records.get? (target, RecordId.normal id) = none) :
    Search.firstReference? (Replies.probe store.reply) (before ++ entity :: after) id =
      some ⟨id, some entity, nameOf metadata record⟩ := by
  have hmiss : ∀ target ∈ before,
      (Replies.probe store.reply target id).record? = none := by
    intro target hmem
    rw [probe_eq h, hbefore target hmem]
    cases store.entity target <;> rfl
  have hfound : Replies.probe store.reply entity id =
      .ok (some ⟨id, entity, nameOf metadata record⟩) := by
    rw [probe_eq h, hmetadata, hrecord]
    rfl
  have hfirst : Search.FirstDeclared (Replies.probe store.reply) (before ++ entity :: after) id
      (some ⟨id, some entity, nameOf metadata record⟩) (before ++ [entity]) :=
    .found before entity after ⟨id, entity, nameOf metadata record⟩ rfl hmiss hfound
  exact hfirst.eq_firstReference?.symm

/-! ## Records that were added -/

/-- A reference has the entity of a record, and the name that the record has in the store. -/
structure Describes (store : MemoryStore) (entity : String) (record : Record)
    (reference : Reference) : Prop where
  entityType : reference.entityType = some entity
  name : ∃ metadata, store.entity entity = .ok metadata ∧ reference.name = nameOf metadata record

lemma get?_addRecord (store : MemoryStore) (entity target x id : String) (record : Record) :
    (store.addRecord entity x record).records.get? (target, id) =
      if (entity, RecordId.normal x) = (target, id) then some record
      else store.records.get? (target, id) := by
  show (store.records.put (entity, RecordId.normal x) record).get? _ = _
  rw [Association.get?_put]

/-- A record that was added is found under every id with the normal form of its own. -/
lemma exists_describes_of_addRecord {targets : List String} (h : store.Built)
    (htargets : targets = before ++ entity :: after) (hid : RecordId.normal id = RecordId.normal x)
    (hbefore : ∀ target ∈ before,
      (store.addRecord entity x record).records.get? (target, RecordId.normal x) = none) :
    ∃ found, Search.firstReference? (Replies.probe (store.addRecord entity x record).reply)
        targets id = some found ∧
      (store.addRecord entity x record).Describes entity record found := by
  obtain ⟨metadata, hmetadata⟩ := entity_addRecord store entity x record
  have hrecord : (store.addRecord entity x record).records.get? (entity, RecordId.normal id) =
      some record := by
    rw [get?_addRecord, hid, if_pos rfl]
  rw [← hid] at hbefore
  rw [htargets]
  exact ⟨_, firstReference?_of_stored (h.addRecord entity x record) hmetadata hrecord hbefore,
    rfl, metadata, hmetadata, rfl⟩

/-- No other record being in the way, a record that was added is found under the ids with the normal
form of its own, and under no other. -/
lemma isSome_firstReference?_addRecord_iff {targets : List String} (h : store.Built)
    (hentity : entity ∈ targets)
    (hnone : ∀ target ∈ targets, store.records.get? (target, RecordId.normal id) = none) :
    (Search.firstReference? (Replies.probe (store.addRecord entity x record).reply) targets
      id).isSome = true ↔ RecordId.normal id = RecordId.normal x := by
  have hbuilt := h.addRecord entity x record
  rw [Search.isSome_firstReference?_iff]
  constructor
  · rintro ⟨target, hmem, found, hfound⟩
    by_contra hother
    have hkey : (entity, RecordId.normal x) ≠ (target, RecordId.normal id) :=
      fun hsame => hother (Prod.mk.inj hsame).2.symm
    rw [probe_eq hbuilt, get?_addRecord, if_neg hkey, hnone target hmem] at hfound
    cases hdescribed : (store.addRecord entity x record).entity target with
    | error failure => simp [hdescribed, Except.map] at hfound
    | ok metadata => simp [hdescribed, Except.map] at hfound
  · intro hid
    obtain ⟨metadata, hmetadata⟩ := entity_addRecord store entity x record
    refine ⟨entity, hentity, ⟨id, entity, nameOf metadata record⟩, ?_⟩
    rw [probe_eq hbuilt, hmetadata, get?_addRecord, hid, if_pos rfl]
    rfl

/-- The layers between an editor and the store leave the way to a record open exactly if the id of
the record settles: one that is written and read has passed two of them. -/
theorem isSome_firstReference?_written_iff {targets : List String} (h : store.Built)
    (hentity : entity ∈ targets)
    (hnone : ∀ target ∈ targets, store.records.get?
      (target, RecordId.normal (RecordId.normal (RecordId.normal x))) = none) :
    (Search.firstReference? (Replies.probe (store.addRecord entity x record).reply) targets
      (RecordId.normal (RecordId.normal x))).isSome = true ↔ RecordId.Settles x :=
  (isSome_firstReference?_addRecord_iff h hentity hnone).trans RecordId.normal_thrice_iff

end MemoryStore

end GridFilter
