import GridFilter.Metadata.Service

/-!
# Connections

A connection passes requests on to a service, one at a time, and keeps a journal of those that got
past the cache.  While it is held, a request that the cache cannot answer waits; it has missed the
cache then, and goes straight to the source once the connection is released.
-/

namespace GridFilter

/-- A connection to a metadata service. -/
structure Connection where
  service : MetadataService
  held : Bool := false
  /-- The requests that reached the source, in order. -/
  journal : List Request := []

/-- How far an inquiry has come. -/
inductive Progress (α : Type) where
  | finished (value : α)
  | waiting (request : Request) (next : request.Answer → Inquiry α)

/-- The value of an inquiry that has come to its end. -/
def Progress.value? {α : Type} : Progress α → Option α
  | finished value => some value
  | waiting _ _ => none

namespace Connection

variable {α : Type}

/-- Passes a request to the source. -/
def fetch (connection : Connection) (request : Request) : request.Answer × Connection :=
  let (answer, service) := connection.service.fetch request
  (answer, { connection with
    service := service, journal := connection.journal ++ [request] })

/-- Runs an inquiry until it ends or has to wait. -/
def advance (connection : Connection) : Inquiry α → Progress α × Connection
  | .done value => (.finished value, connection)
  | .ask request next =>
    match connection.service.cached? request with
    | some found => connection.advance (next (.ok found))
    | none =>
      if connection.held then (.waiting request next, connection)
      else
        let (answer, connection) := connection.fetch request
        connection.advance (next answer)

/-- Goes on with an inquiry that had to wait. -/
def resume (connection : Connection) : Progress α → Progress α × Connection
  | .finished value => (.finished value, connection)
  | .waiting request next =>
    if connection.held then (.waiting request next, connection)
    else
      let (answer, connection) := connection.fetch request
      connection.advance (next answer)

/-- Runs inquiries one after another, each until it ends or has to wait. -/
def advanceAll (connection : Connection) : List (Inquiry α) → List (Progress α) × Connection
  | [] => ([], connection)
  | inquiry :: rest =>
    let (progress, connection) := connection.advance inquiry
    let (others, connection) := connection.advanceAll rest
    (progress :: others, connection)

/-- Goes on with inquiries one after another. -/
def resumeAll (connection : Connection) : List (Progress α) → List (Progress α) × Connection
  | [] => ([], connection)
  | progress :: rest =>
    let (progress, connection) := connection.resume progress
    let (others, connection) := connection.resumeAll rest
    (progress :: others, connection)

end Connection

end GridFilter
