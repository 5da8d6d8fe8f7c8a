import GridFilter.Codec.Basic
import GridFilter.Config.Basic

/-!
# Configuration files

A configuration file is an object with the sections `filter`, `lookup` and `webapi`, each of which
may be missing or null.  What it holds besides is skipped, but has to be a value.
-/

namespace GridFilter

open Json (Source)

/-! ## Sections -/

/-- A section whose fields may be missing. -/
structure FilterSection.Draft where
  nameSuffix : Option (Option String) := none
  wildcard : Option (Option String) := none

/-- How the section of the query layer's conventions is read. -/
def FilterSection.shape : Shape Draft FilterSection where
  empty := {}
  fields :=
    [Field.once "name_suffix" (·.nameSuffix) (fun v d => { d with nameSuffix := some v })
       (Decoder.optional Decoder.text),
     Field.once "wildcard" (·.wildcard) (fun v d => { d with wildcard := some v })
       (Decoder.optional Decoder.text)]
  finish := fun layout draft => do
    pure { nameSuffix := ← unlessNamed none layout draft.nameSuffix
           wildcard := ← unlessNamed none layout draft.wildcard }

/-- A section whose fields may be missing. -/
structure LookupSection.Draft where
  cacheEnabled : Option (Option Bool) := none
  cacheSeconds : Option (Option Nat) := none
  cacheEntries : Option (Option Nat) := none

/-- How the section of the lookup cache is read. -/
def LookupSection.shape : Shape Draft LookupSection where
  empty := {}
  fields :=
    [Field.once "cache_enabled" (·.cacheEnabled) (fun v d => { d with cacheEnabled := some v })
       (Decoder.optional Decoder.bool),
     Field.once "cache_ttl_secs" (·.cacheSeconds) (fun v d => { d with cacheSeconds := some v })
       (Decoder.optional Decoder.uint64),
     Field.once "cache_max_entries" (·.cacheEntries)
       (fun v d => { d with cacheEntries := some v }) (Decoder.optional Decoder.uint64)]
  finish := fun layout draft => do
    pure { cacheEnabled := ← unlessNamed none layout draft.cacheEnabled
           cacheSeconds := ← unlessNamed none layout draft.cacheSeconds
           cacheEntries := ← unlessNamed none layout draft.cacheEntries }

/-- A section whose fields may be missing. -/
structure WebSection.Draft where
  url : Option (Option String) := none
  token : Option (Option String) := none

/-- How the section of the web service is read. -/
def WebSection.shape : Shape Draft WebSection where
  empty := {}
  fields :=
    [Field.once "url" (·.url) (fun v d => { d with url := some v })
       (Decoder.optional Decoder.text),
     Field.once "token" (·.token) (fun v d => { d with token := some v })
       (Decoder.optional Decoder.text)]
  finish := fun layout draft => do
    pure { url := ← unlessNamed none layout draft.url
           token := ← unlessNamed none layout draft.token }

/-! ## The file -/

/-- A file whose sections may be missing or null. -/
structure ConfigFile.Draft where
  filter : Option (Option FilterSection) := none
  lookup : Option (Option LookupSection) := none
  web : Option (Option WebSection) := none

namespace ConfigFile

/-- How the sections of a file are read. -/
def shape : Shape Draft ConfigFile where
  empty := {}
  fields :=
    [Field.once "filter" (·.filter) (fun v d => { d with filter := some v })
       (Decoder.optional FilterSection.shape.decode),
     Field.once "lookup" (·.lookup) (fun v d => { d with lookup := some v })
       (Decoder.optional LookupSection.shape.decode),
     Field.once "webapi" (·.web) (fun v d => { d with web := some v })
       (Decoder.optional WebSection.shape.decode)]
  finish := fun _ draft =>
    pure { filter := draft.filter.join, lookup := draft.lookup.join, web := draft.web.join }

/-- Is a member a section, or else a value? -/
def isSectionOrValue (member : Option String × Source) : Bool :=
  (shape.fields.any fun field => member.1 == some field.name) || member.2.value?.isSome

/-- Reads a file, which has to be an object. -/
def decode : Decoder ConfigFile
  | .object members =>
    if members.all isSectionOrValue then shape.decodeMembers members else .error .malformed
  | _ => .error .malformed

end ConfigFile

end GridFilter
