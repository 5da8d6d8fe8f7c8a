import GridFilter.ControlValue
import GridFilter.Metadata.Basic

/-!
# Requests and inquiries

A metadata service answers two requests: describe an entity, and retrieve a record.  An `Inquiry`
is a program that asks such requests one after another and ends in a value.  It is a value itself,
so it can be stopped before any of its requests and go on later.
-/

namespace GridFilter

/-- One request to a metadata service. -/
inductive Request where
  /-- Describe an entity. -/
  | entity (name : String)
  /-- Retrieve a record of an entity with the named attributes, all when none is named. -/
  | record (entity : EntityMetadata) (id : String) (columns : List String)

namespace Request

/-- What the answer to a request holds when nothing fails. -/
abbrev Found : Request → Type
  | entity _ => EntityMetadata
  | record .. => Option Record

/-- The answer to a request. -/
abbrev Answer (request : Request) : Type :=
  Except MetadataError request.Found

end Request

/-- A program over requests. -/
inductive Inquiry (α : Type) where
  | done (value : α)
  | ask (request : Request) (next : request.Answer → Inquiry α)

namespace Inquiry

variable {α β : Type}

/-- Goes on with another inquiry. -/
def bind (inquiry : Inquiry α) (next : α → Inquiry β) : Inquiry β :=
  match inquiry with
  | done value => next value
  | ask request rest => ask request fun answer => (rest answer).bind next

instance : Monad Inquiry where
  pure := done
  bind := bind

/-- The metadata of an entity. -/
def entity (name : String) : Inquiry (Except MetadataError EntityMetadata) :=
  ask (.entity name) done

/-- The record of an id. -/
def record (entity : EntityMetadata) (id : String) (columns : List String) :
    Inquiry (Except MetadataError (Option Record)) :=
  ask (.record entity id columns) done

/-- What is reported of a record found by its id. -/
def found (entity : EntityMetadata) (name id : String) (record : Record) : FoundRecord where
  id := id
  entityType := name
  primaryName := (record.get? entity.primaryNameAttribute).bind Json.string?

/-- Looks a record up by entity and id and takes its primary name. -/
def lookup (name id : String) : Inquiry (Except MetadataError (Option FoundRecord)) :=
  ask (.entity name) fun
    | .error e => done (.error e)
    | .ok metadata =>
      ask (.record metadata id [metadata.primaryNameAttribute]) fun
        | .error e => done (.error e)
        | .ok record => done (.ok (record.map (found metadata name id)))

/-! ## References -/

/-- The reference to a record that was found. -/
def resolved (record : FoundRecord) : Reference where
  id := record.id
  entityType := some record.entityType
  name := record.primaryName

/-- Looks an id up in the target entities in order, up to the first that has a record.  A target
that fails counts as one without a record. -/
def resolve (targets : List String) (id : String) : Inquiry (Option Reference) :=
  match targets with
  | [] => done none
  | target :: rest =>
    (lookup target id).bind fun
      | .ok (some record) => done (some (resolved record))
      | .ok none | .error _ => resolve rest id

end Inquiry

end GridFilter
