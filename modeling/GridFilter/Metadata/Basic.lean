import GridFilter.Json.Basic

/-!
# Entities and records

What is known of an entity, and what a look-up of one of its records finds.  A record is a JSON
object, its attributes in the order in which they were given.
-/

namespace GridFilter

/-- What a look-up needs to know of an entity. -/
structure EntityMetadata where
  logicalName : String
  /-- The name of the entity's collection. -/
  entitySetName : String
  primaryIdAttribute : String
  primaryNameAttribute : String
  deriving DecidableEq, Repr

/-- The metadata an entity of that name has by convention: `accounts`, `accountid`, `name`. -/
def EntityMetadata.conventional (name : String) : EntityMetadata where
  logicalName := name
  entitySetName := name ++ "s"
  primaryIdAttribute := name ++ "id"
  primaryNameAttribute := "name"

/-- The attributes of a record. -/
abbrev Record := Json.Members

/-- The record with the named attributes only, or with all when none is named. -/
def Record.select (columns : List String) (record : Record) : Record :=
  if columns.isEmpty then record else record.filter fun member => columns.contains member.1

/-- What a look-up by id finds. -/
structure FoundRecord where
  /-- The id as it was asked for. -/
  id : String
  entityType : String
  /-- The record's name, when its name attribute holds a string. -/
  primaryName : Option String
  deriving DecidableEq, Repr

/-! ## Failures -/

/-- Why a request for metadata failed. -/
inductive MetadataError where
  | unknownEntity (name : String)
  | backend (service detail : String)
  | serialization (detail : String)
  | config (detail : String)
  | io (detail : String)
  | http (detail : String)
  deriving DecidableEq, Repr

/-- The text of a failure. -/
def MetadataError.message : MetadataError → String
  | unknownEntity name => "Unknown entity: " ++ name
  | backend service detail => "Metadata backend error (" ++ service ++ "): " ++ detail
  | serialization detail => "Metadata serialization error: " ++ detail
  | config detail => "Metadata configuration error: " ++ detail
  | io detail => "IO error: " ++ detail
  | http detail => "HTTP error: " ++ detail

end GridFilter
