import GridFilter.Association
import GridFilter.Metadata.Request
import GridFilter.RecordId

/-!
# The metadata cache

Answers to requests are kept: entities by name, records under a key of entity, id and attributes.
A record that was not found is an answer too; a failure is not, so it is asked for again.
-/

namespace GridFilter

/-- Answers given so far. -/
structure Cache where
  entities : Association String EntityMetadata := []
  records : Association String (Option Record) := []
  deriving Inhabited

namespace Cache

/-- The id in a key: without braces at either end, ASCII letters in lower case. -/
def keyId (id : String) : String :=
  String.ofList (RecordId.lowered (RecordId.bareChars id.toList))

/-- The key of a record request. -/
def key (entity id : String) (columns : List String) : String :=
  entity ++ "/" ++ keyId id ++ "?" ++ String.intercalate "," columns

/-- The answer that is kept for a request. -/
def find? (cache : Cache) : (request : Request) → Option request.Found
  | .entity name => cache.entities.get? name
  | .record entity id columns => cache.records.get? (key entity.logicalName id columns)

/-- Keeps what a request has found. -/
def keep (cache : Cache) : (request : Request) → request.Found → Cache
  | .entity name, found => { cache with entities := cache.entities.put name found }
  | .record entity id columns, found =>
    { cache with records := cache.records.put (key entity.logicalName id columns) found }

end Cache

end GridFilter
