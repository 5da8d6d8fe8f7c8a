import GridFilter.Metadata.Cache
import GridFilter.Metadata.Store
import GridFilter.Metadata.WebClient

/-!
# Metadata services

A service answers requests from records in memory or over the web, with or without a cache in
front.  `Service.answer` is one whole request: the cache is asked first, and what the source finds
is kept.
-/

namespace GridFilter

/-- Where answers come from. -/
inductive MetadataSource where
  | memory (store : MemoryStore)
  | web (client : WebClient)

namespace MetadataSource

/-- The name of a source. -/
def name : MetadataSource → String
  | memory _ => "memory"
  | web _ => WebClient.serviceName

/-- The answer of a store, which counts the records it is asked for. -/
def answerFrom (store : MemoryStore) : (request : Request) → request.Answer × MemoryStore
  | .entity name => (store.entity name, store)
  | .record entity id columns =>
    (store.record entity.logicalName id columns, store.countRetrieval)

/-- The answer of a source, and the source afterwards. -/
def answer (source : MetadataSource) (request : Request) : request.Answer × MetadataSource :=
  match source with
  | memory store =>
    let (reply, store) := answerFrom store request
    (reply, memory store)
  | web client => (client.answer request, web client)

/-- Changes the store of a source in memory. -/
def updateStore (change : MemoryStore → MemoryStore) : MetadataSource → MetadataSource
  | memory store => memory (change store)
  | web client => web client

/-- The same source, with a transport for what it has to send. -/
def through (transport : WebTransport) : MetadataSource → MetadataSource
  | memory store => memory store
  | web client => web { client with transport := transport }

/-- The number of records asked of a source in memory. -/
def retrievals : MetadataSource → Nat
  | memory store => store.retrievals
  | web _ => 0

end MetadataSource

/-- A source and the cache in front of it, if there is one. -/
structure MetadataService where
  source : MetadataSource
  cache : Option Cache := none

namespace MetadataService

/-- The name of the service: that of its source. -/
def name (service : MetadataService) : String :=
  service.source.name

/-- The same service with a transport. -/
def through (transport : WebTransport) (service : MetadataService) : MetadataService :=
  { service with source := service.source.through transport }

/-- What the cache holds for a request. -/
def cached? (service : MetadataService) (request : Request) : Option request.Found :=
  service.cache.bind fun cache => cache.find? request

/-- Keeps an answer in the cache, unless it is a failure. -/
def remember (service : MetadataService) (request : Request) (answer : request.Answer) :
    MetadataService :=
  match answer with
  | .ok found => { service with cache := service.cache.map fun cache => cache.keep request found }
  | .error _ => service

/-- Asks the source, past the cache, and keeps what it finds. -/
def fetch (service : MetadataService) (request : Request) : request.Answer × MetadataService :=
  let (answer, source) := service.source.answer request
  (answer, { service with source := source }.remember request answer)

/-- The answer of the cache, or else of the source. -/
def answer (service : MetadataService) (request : Request) : request.Answer × MetadataService :=
  match service.cached? request with
  | some found => (.ok found, service)
  | none => service.fetch request

/-- Runs an inquiry to its end. -/
def run {α : Type} (service : MetadataService) : Inquiry α → α × MetadataService
  | .done value => (value, service)
  | .ask request next =>
    let (answer, service) := service.answer request
    service.run (next answer)

end MetadataService

end GridFilter
