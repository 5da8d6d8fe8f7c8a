import GridFilter.Association
import GridFilter.Metadata.Basic
import GridFilter.RecordId

/-!
# Records in memory

A store holds entities by name and records by entity and id.  Ids are taken in normal form when a
record is stored and when it is asked for, so every spelling of an id finds the same record; the
last record written under an id is the one found.
-/

namespace GridFilter

/-- Entities and records held in memory, with the number of records asked for so far. -/
structure MemoryStore where
  entities : Association String EntityMetadata := []
  records : Association (String × String) Record := []
  retrievals : Nat := 0
  deriving Inhabited

namespace MemoryStore

/-- Stores an entity under its name. -/
def addEntity (store : MemoryStore) (entity : EntityMetadata) : MemoryStore :=
  { store with entities := store.entities.put entity.logicalName entity }

/-- Stores a record of an entity; an entity not known yet is described by convention. -/
def addRecord (store : MemoryStore) (entity id : String) (record : Record) : MemoryStore :=
  { store with
    entities := store.entities.putNew entity (.conventional entity)
    records := store.records.put (entity, RecordId.normal id) record }

/-- The metadata of an entity. -/
def entity (store : MemoryStore) (name : String) : Except MetadataError EntityMetadata :=
  match store.entities.get? name with
  | some found => .ok found
  | none => .error (.unknownEntity name)

/-- The record of an id with the named attributes, if the entity has one. -/
def record (store : MemoryStore) (entity id : String) (columns : List String) :
    Except MetadataError (Option Record) :=
  if store.entities.has entity then
    .ok ((store.records.get? (entity, RecordId.normal id)).map (Record.select columns))
  else .error (.unknownEntity entity)

/-- The store after one more record was asked for. -/
def countRetrieval (store : MemoryStore) : MemoryStore :=
  { store with retrievals := store.retrievals + 1 }

/-- Stores a record under the id that its primary id attribute holds, if that is a string. -/
def addOwnRecord (entity : EntityMetadata) (store : MemoryStore) (record : Record) : MemoryStore :=
  match (record.get? entity.primaryIdAttribute).bind Json.string? with
  | some id => store.addRecord entity.logicalName id record
  | none => store

/-- Stores an entity and then its records. -/
def addWithRecords (store : MemoryStore) (entity : EntityMetadata) (records : List Record) :
    MemoryStore :=
  records.foldl (addOwnRecord entity) (store.addEntity entity)

end MemoryStore

end GridFilter
