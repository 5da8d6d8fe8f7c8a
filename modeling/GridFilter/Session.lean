import GridFilter.Condition.Editing
import GridFilter.Condition.Loading
import GridFilter.Feed
import GridFilter.Grid.Basic
import GridFilter.Metadata.Connection

/-!
# Sessions

A session is a grid in use: beside the grid's filters it has the conditions that left the grid while
an editor still held them, the subscribers' feeds, and the connection through which names are
loaded.  A load is started and, when its requests had to wait, finished later; in between the
session goes on.
-/

namespace GridFilter

/-- A grid in use. -/
structure Session where
  grid : Grid := {}
  /-- Conditions that are no longer in the grid. -/
  detached : List Condition := []
  /-- The connection to the metadata service, if names can be looked up at all. -/
  connection : Option Connection := none
  /-- What each subscriber has not read yet of the condition it listens to. -/
  feeds : Association String (Nat × Feed Change) := []

/-- A load of a condition's control value. -/
inductive Load where
  | finished (value : ControlValue)
  /-- The searches for the ids of the batch, in order. -/
  | underWay (handle : Nat) (batch : Batch) (searches : List (Progress (Option Reference)))

namespace Session

/-! ## Conditions -/

/-- The condition of a handle, in the grid or out of it. -/
def condition? (session : Session) (handle : Nat) : Option Condition :=
  (session.grid.condition? handle).or
    (session.detached.find? fun condition => condition.handle = handle)

/-- Puts a condition in the place of the one with its handle. -/
def replace (session : Session) (condition : Condition) : Session :=
  { session with
    grid := session.grid.replace condition
    detached := session.detached.map fun other =>
      if other.handle = condition.handle then condition else other }

/-- Goes on with another grid and keeps the conditions that it no longer has. -/
def withGrid (session : Session) (grid : Grid) : Session :=
  let gone := session.grid.conditions.filter fun condition =>
    (grid.condition? condition.handle).isNone
  { session with grid := grid, detached := session.detached ++ gone }

/-- Tells the subscribers of a condition its changes. -/
def publish (session : Session) (handle : Nat) (changes : List Change) : Session :=
  { session with
    feeds := session.feeds.map fun (name, listened, feed) =>
      if listened = handle then (name, listened, feed.pushAll changes)
      else (name, listened, feed) }

/-- Edits a condition and tells its subscribers; the changes are returned too. -/
def edit (session : Session) (handle : Nat) (change : Condition → List Change × Condition) :
    List Change × Session :=
  match session.condition? handle with
  | none => ([], session)
  | some condition =>
    let (changes, condition) := change condition
    (changes, (session.replace condition).publish handle changes)

/-- Sets the operator of a condition. -/
def setOperator (session : Session) (handle : Nat) (operator : Operator) :
    List Change × Session :=
  session.edit handle fun condition => condition.setOperator operator

/-- Sets the value of a condition. -/
def setValue (session : Session) (handle : Nat) (value : ControlValue) : List Change × Session :=
  session.edit handle fun condition => condition.setValue value

/-- The control value of a condition. -/
def controlValue (session : Session) (handle : Nat) : ControlValue × Session :=
  match session.condition? handle with
  | none => (.null, session)
  | some condition =>
    let (value, condition) := condition.current
    (value, session.replace condition)

/-! ## Subscribers -/

/-- A subscriber listens to a condition from now on. -/
def subscribe (session : Session) (name : String) (handle : Nat) : Session :=
  { session with feeds := session.feeds.put name (handle, {}) }

/-- What a subscriber has not read, and the condition it listens to. -/
def drain (session : Session) (name : String) : Option (Nat × Feed Change) × Session :=
  match session.feeds.get? name with
  | none => (none, session)
  | some (handle, feed) =>
    (some (handle, feed), { session with feeds := session.feeds.put name (handle, {}) })

/-! ## Loading -/

/-- Ends a load all of whose searches are finished; one that still waits goes on waiting. -/
def settle (session : Session) (handle : Nat) (batch : Batch)
    (searches : List (Progress (Option Reference))) : Load × Session :=
  if searches.all fun search => search.value?.isSome then
    let results := searches.filterMap Progress.value?
    let (_, session) := session.edit handle fun condition => condition.finishLoad batch results
    let (value, session) := session.controlValue handle
    (.finished value, session)
  else (.underWay handle batch searches, session)

/-- Starts a load and runs it until it ends or has to wait. -/
def startLoad (session : Session) (handle : Nat) : Load × Session :=
  match session.connection, session.condition? handle with
  | some connection, some condition =>
    match condition.beginLoad with
    | (some batch, changes, begun) =>
      let session := (session.replace begun).publish handle changes
      let (searches, connection) := connection.advanceAll
        (batch.pending.map (Inquiry.resolve condition.column.details.targets))
      { session with connection := some connection }.settle handle batch searches
    | (none, _, _) =>
      let (value, session) := session.controlValue handle
      (.finished value, session)
  | _, _ =>
    let (value, session) := session.controlValue handle
    (.finished value, session)

/-- Goes on with a load that had to wait. -/
def finishLoad (session : Session) : Load → Load × Session
  | .finished value => (.finished value, session)
  | .underWay handle batch searches =>
    match session.connection with
    | none => (.underWay handle batch searches, session)
    | some connection =>
      let (searches, connection) := connection.resumeAll searches
      { session with connection := some connection }.settle handle batch searches

/-! ## The connection -/

/-- Changes the connection, if there is one. -/
def updateConnection (session : Session) (change : Connection → Connection) : Session :=
  { session with connection := session.connection.map change }

end Session

end GridFilter
