import GridFilter.Codec.Basic
import GridFilter.Metadata.Store

/-!
# The JSON form of metadata, and fixtures

A fixture is a document of entities, each with its records.  The members of an entity that are not
its records describe it; unknown ones are skipped, but have to be values.
-/

namespace GridFilter

open Json (Source)

/-! ## Entities -/

/-- An entity whose fields may be missing. -/
structure EntityMetadata.Draft where
  logicalName : Option String := none
  entitySetName : Option String := none
  primaryIdAttribute : Option String := none
  primaryNameAttribute : Option String := none

namespace EntityMetadata

/-- The fields of an entity. -/
def fields : List (Field Draft) :=
  [Field.once "logicalName" (·.logicalName) (fun v d => { d with logicalName := some v })
     Decoder.text,
   Field.once "entitySetName" (·.entitySetName) (fun v d => { d with entitySetName := some v })
     Decoder.text,
   Field.once "primaryIdAttribute" (·.primaryIdAttribute)
     (fun v d => { d with primaryIdAttribute := some v }) Decoder.text,
   Field.once "primaryNameAttribute" (·.primaryNameAttribute)
     (fun v d => { d with primaryNameAttribute := some v }) Decoder.text]

/-- The entity of a draft that has every field. -/
def Draft.finish (draft : Draft) : Except Fault EntityMetadata := do
  pure { logicalName := ← required draft.logicalName
         entitySetName := ← required draft.entitySetName
         primaryIdAttribute := ← required draft.primaryIdAttribute
         primaryNameAttribute := ← required draft.primaryNameAttribute }

/-- How an entity is read. -/
def shape : Shape Draft EntityMetadata where
  empty := {}
  fields := fields
  finish := fun _ draft => draft.finish

/-- Reads an entity. -/
def decode : Decoder EntityMetadata :=
  shape.decode

/-- The JSON form of an entity. -/
def toJson (entity : EntityMetadata) : Json :=
  .object
    [("logicalName", .string entity.logicalName), ("entitySetName", .string entity.entitySetName),
     ("primaryIdAttribute", .string entity.primaryIdAttribute),
     ("primaryNameAttribute", .string entity.primaryNameAttribute)]

end EntityMetadata

/-! ## Records -/

/-- Reads a record: an object all of whose members are values. -/
def Record.decode : Decoder Record := fun source =>
  match source, source.value? with
  | .object _, some (.object members) => .ok members
  | _, _ => .error .malformed

/-- The JSON form of a record that was looked up. -/
def FoundRecord.toJson (found : FoundRecord) : Json :=
  .object
    [("id", .string found.id), ("entityType", .string found.entityType),
     ("primaryName", Json.ofString? found.primaryName)]

/-! ## Fixtures -/

/-- One entity of a fixture with its records. -/
structure FixtureEntity where
  entity : EntityMetadata
  records : List Record

namespace FixtureEntity

/-- Takes the records out of an entity's members; every other member is kept and has to be a
value. -/
def split (records : Option (List Record)) (others : List (Option String × Source)) :
    List (Option String × Source) →
      Except Fault (Option (List Record) × List (Option String × Source))
  | [] => .ok (records, others.reverse)
  | (none, _) :: _ => .error .malformed
  | (some name, source) :: rest =>
    if name = "records" then
      if records.isSome then .error .malformed
      else do split (some (← Decoder.list Record.decode source)) others rest
    else if source.value?.isSome then split records ((some name, source) :: others) rest
    else .error .malformed

/-- Reads an entity with its records; it has to be an object. -/
def decode : Decoder FixtureEntity
  | .object members => do
    let (records, others) ← split none [] members
    pure { entity := ← EntityMetadata.shape.decodeMembers others, records := records.getD [] }
  | _ => .error .malformed

end FixtureEntity

/-- A fixture: its entities in the order of the document. -/
structure Fixture where
  entities : List FixtureEntity

namespace Fixture

/-- A fixture whose entities may be missing. -/
structure Draft where
  entities : Option (List FixtureEntity) := none

/-- How a fixture is read. -/
def shape : Shape Draft Fixture where
  empty := {}
  fields :=
    [Field.once "entities" (·.entities) (fun v d => { d with entities := some v })
       (Decoder.list FixtureEntity.decode)]
  finish := fun _ draft => pure { entities := draft.entities.getD [] }

/-- The store that the entities of a fixture are put into, one after another. -/
def store (fixture : Fixture) : MemoryStore :=
  fixture.entities.foldl (fun store found => store.addWithRecords found.entity found.records) {}

end Fixture

/-- The store that the text of a fixture describes. -/
def MemoryStore.ofFixture (text : String) : Except MetadataError MemoryStore :=
  match readDocument Fixture.shape.decode text with
  | .ok fixture => .ok fixture.store
  | .error _ => .error (.serialization "the text is no fixture")

end GridFilter
