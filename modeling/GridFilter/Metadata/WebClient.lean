import GridFilter.Codec.Metadata
import GridFilter.Metadata.Request

/-!
# The web client

A client of the platform's web service reads the definition of an entity or a record at an address
of its own, and takes the answer from the body of the response.  How a request gets there is left to
a transport; without one, every request fails.
-/

namespace GridFilter

/-! ## Transport -/

/-- A request to read what stands at an address. -/
structure WebRequest where
  url : String
  headers : List (String × String)
  deriving DecidableEq, Repr

/-- What the web service sends back. -/
structure WebResponse where
  status : Nat
  /-- The standard words for the status. -/
  words : String
  /-- The text of the body, or why there is none. -/
  body : Except String String

/-- Was the request granted? -/
def WebResponse.isSuccess (response : WebResponse) : Bool :=
  200 ≤ response.status && response.status < 300

/-- How a request is sent and its response comes back, unless that fails. -/
abbrev WebTransport := WebRequest → Except String WebResponse

/-- Nothing can be sent. -/
def WebTransport.absent : WebTransport :=
  fun _ => .error "no transport"

/-! ## Definitions of entities -/

/-- An entity as the web service defines it. -/
structure EntityDefinition where
  logicalName : String
  entitySetName : Option String
  primaryIdAttribute : Option String
  primaryNameAttribute : Option String

namespace EntityDefinition

/-- A definition whose fields may be missing. -/
structure Draft where
  logicalName : Option String := none
  entitySetName : Option (Option String) := none
  primaryIdAttribute : Option (Option String) := none
  primaryNameAttribute : Option (Option String) := none

/-- How a definition is read. -/
def shape : Shape Draft EntityDefinition where
  empty := {}
  fields :=
    [Field.once "LogicalName" (·.logicalName) (fun v d => { d with logicalName := some v })
       Decoder.text,
     Field.once "EntitySetName" (·.entitySetName) (fun v d => { d with entitySetName := some v })
       (Decoder.optional Decoder.text),
     Field.once "PrimaryIdAttribute" (·.primaryIdAttribute)
       (fun v d => { d with primaryIdAttribute := some v }) (Decoder.optional Decoder.text),
     Field.once "PrimaryNameAttribute" (·.primaryNameAttribute)
       (fun v d => { d with primaryNameAttribute := some v }) (Decoder.optional Decoder.text)]
  finish := fun layout draft => do
    pure { logicalName := ← required draft.logicalName
           entitySetName := ← unlessNamed none layout draft.entitySetName
           primaryIdAttribute := ← unlessNamed none layout draft.primaryIdAttribute
           primaryNameAttribute := ← unlessNamed none layout draft.primaryNameAttribute }

/-- The metadata of the entity; what the definition leaves out is as convention has it. -/
def metadata (definition : EntityDefinition) : EntityMetadata :=
  let conventional := EntityMetadata.conventional definition.logicalName
  { logicalName := definition.logicalName
    entitySetName := definition.entitySetName.getD conventional.entitySetName
    primaryIdAttribute := definition.primaryIdAttribute.getD conventional.primaryIdAttribute
    primaryNameAttribute :=
      definition.primaryNameAttribute.getD conventional.primaryNameAttribute }

/-- The attributes that a definition is asked for. -/
def selection : String :=
  "LogicalName,EntitySetName,PrimaryIdAttribute,PrimaryNameAttribute"

end EntityDefinition

/-- Does the member say something about the record instead of belonging to it? -/
def Record.isAnnotation (member : String × Json) : Bool :=
  member.1.toList.head? == some '@'

/-! ## The client -/

/-- A client of the web service. -/
structure WebClient where
  /-- The base address without closing slashes. -/
  base : String
  authorization : Option String
  transport : WebTransport := .absent

namespace WebClient

/-- May the byte stand in a header?  Control characters other than the tab may not. -/
def isHeaderByte (byte : UInt8) : Bool :=
  (0x20 ≤ byte && byte != 0x7F) || byte == 0x09

/-- The header that authorizes with a token, if the token can stand in one. -/
def authorization? (token : String) : Except MetadataError String :=
  let header := "Bearer " ++ token
  if header.toUTF8.toList.all isHeaderByte then .ok header
  else .error (.config "invalid web api token: failed to parse header value")

/-- A client of an address; the address is not looked at. -/
def make (url : String) (token : Option String) : Except MetadataError WebClient := do
  let base := String.ofList (Text.dropEnd (· == '/') url.toList)
  match token with
  | none => pure { base := base, authorization := none }
  | some token => pure { base := base, authorization := some (← authorization? token) }

/-- The headers of every request. -/
def headers (client : WebClient) : List (String × String) :=
  [("accept", "application/json"), ("odata-maxversion", "4.0"), ("odata-version", "4.0")] ++
    client.authorization.toList.map fun value => ("authorization", value)

/-- The address of a path. -/
def address (client : WebClient) (path : String) : String :=
  client.base ++ "/api/data/v9.2/" ++ path

/-- The request for a path. -/
def request (client : WebClient) (path : String) : WebRequest where
  url := client.address path
  headers := client.headers

/-- The name that failures of the web service go by. -/
def serviceName : String := "webapi"

/-- The value in the body of a granted response. -/
def readBody (response : WebResponse) : Except MetadataError Json :=
  match response.body with
  | .error detail => .error (.http detail)
  | .ok text =>
    match readDocument Decoder.value text with
    | .ok value => .ok value
    | .error _ => .error (.http "error decoding response body")

/-- The value at a path, if anything stands there. -/
def get (client : WebClient) (path : String) : Except MetadataError (Option Json) :=
  match client.transport (client.request path) with
  | .error detail => .error (.http detail)
  | .ok response =>
    if response.status = 404 then .ok none
    else if response.isSuccess then (readBody response).map some
    else
      .error (.backend serviceName
        ("GET " ++ client.address path ++ " returned " ++ Text.natText response.status ++ " " ++
          response.words))

/-- The path of the definition of an entity. -/
def entityPath (name : String) : String :=
  "EntityDefinitions(LogicalName='" ++ name ++ "')?$select=" ++ EntityDefinition.selection

/-- The metadata of an entity. -/
def entity (client : WebClient) (name : String) : Except MetadataError EntityMetadata :=
  match client.get (entityPath name) with
  | .error failure => .error failure
  | .ok none => .error (.unknownEntity name)
  | .ok (some body) =>
    match EntityDefinition.shape.decode (.ofJson body) with
    | .ok definition => .ok definition.metadata
    | .error _ => .error (.serialization "the body defines no entity")

/-- The path of a record with the named attributes, all when none is named. -/
def recordPath (entity : EntityMetadata) (id : String) (columns : List String) : String :=
  let path :=
    entity.entitySetName ++ "(" ++ String.ofList (RecordId.bareChars id.toList) ++ ")"
  if columns.isEmpty then path else path ++ "?$select=" ++ String.intercalate "," columns

/-- The record of an id, if the entity has one. -/
def record (client : WebClient) (entity : EntityMetadata) (id : String) (columns : List String) :
    Except MetadataError (Option Record) :=
  let path := recordPath entity id columns
  match client.get path with
  | .error failure => .error failure
  | .ok none => .ok none
  | .ok (some (.object members)) =>
    .ok (some (members.filter fun member => !Record.isAnnotation member))
  | .ok (some _) =>
    .error (.serialization ("GET " ++ client.address path ++ " did not return an object"))

/-- The answer to a request. -/
def answer (client : WebClient) : (request : Request) → request.Answer
  | .entity name => client.entity name
  | .record entity id columns => client.record entity id columns

end WebClient

end GridFilter
