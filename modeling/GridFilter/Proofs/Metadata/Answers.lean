import GridFilter.Metadata.Connection
import Mathlib.Data.List.Basic

/-!
# What a cache answers over a whole run

A service with a cache in front of a store is asked one call after another, and between the calls
entities and records are added behind the cache's back.  The calls are the two requests and the
look-up that is made of both.  This module says what every one of them is answered, in terms of
nothing but the requests that have reached the source so far and what the source answered then: a
request is given what the source found for the first request of its key, and while the source has
found nothing for it yet, the request reaches the source and is given its answer as of now.

That a record was not found is something found, and it stays so though the record is added later.
A failure is not, so it is passed on and the next request of the key reaches the source again.

## The argument

`ServiceHistory` is a connection beside the exchanges that the source took part in; both are read
off the connection's journal, not off the cache.  The invariant `ServiceHistory.Kept` says that the
cache holds for each request what the first exchange of its key has found.  Passing on a request
keeps it (`ServiceHistory.Kept.fetched`), so every program over requests does
(`ServiceHistory.Kept.ask`).  A look-up goes through two requests, and each of them is answered by
the same rule: it may put a stale entity and a fresh record together, or the other way round.
-/

namespace GridFilter

/-! ## Exchanges with the source -/

/-- A request that reached the source, and what the source answered. -/
structure Exchange where
  request : Request
  answer : request.Answer

/-- What an exchange has found, seen from a request of the same key. -/
def Exchange.foundFor? : Exchange → (request : Request) → Option request.Found
  | ⟨.entity name, .ok found⟩, .entity other => if name = other then some found else none
  | ⟨.record entity id columns, .ok found⟩, .record other otherId otherColumns =>
    if Cache.key entity.logicalName id columns =
        Cache.key other.logicalName otherId otherColumns then some found
    else none
  | _, _ => none

namespace Cache

/-- A cache that keeps one answer more holds it for the requests of the same key. -/
lemma find?_keep (cache : Cache) (request other : Request) (found : request.Found) :
    (cache.keep request found).find? other =
      (Exchange.foundFor? ⟨request, .ok found⟩ other).or (cache.find? other) := by
  cases request with
  | entity name =>
      cases other with
      | entity otherName =>
          by_cases hname : name = otherName <;> simp [keep, find?, Exchange.foundFor?, hname]
      | record entity id columns => rfl
  | record entity id columns =>
      cases other with
      | entity otherName => rfl
      | record otherEntity otherId otherColumns =>
          simp only [keep, find?, Exchange.foundFor?, Association.get?_put]
          split <;> rfl

/-- Requests of one key are both kept or both not. -/
lemma find?_eq_none_of_foundFor? {cache : Cache} {request other : Request} {answer : request.Answer}
    {found : other.Found} (h : cache.find? request = none)
    (hfound : Exchange.foundFor? ⟨request, answer⟩ other = some found) :
    cache.find? other = none := by
  cases request with
  | entity name =>
      cases other with
      | entity otherName =>
          cases answer <;> simp_all [Exchange.foundFor?, find?]
      | record entity id columns => cases answer <;> simp [Exchange.foundFor?] at hfound
  | record entity id columns =>
      cases other with
      | entity otherName => cases answer <;> simp [Exchange.foundFor?] at hfound
      | record otherEntity otherId otherColumns =>
          cases answer <;> simp_all [Exchange.foundFor?, find?]

end Cache

/-! ## Connections that are not held -/

namespace Connection

variable {α : Type} {connection : Connection} {request : Request}

lemma advance_ask_of_cached {found : request.Found}
    (h : connection.service.cached? request = some found) (next : request.Answer → Inquiry α) :
    connection.advance (.ask request next) = connection.advance (next (.ok found)) := by
  rw [advance, h]

lemma advance_ask_of_not_cached (h : connection.service.cached? request = none)
    (hopen : connection.held = false) (next : request.Answer → Inquiry α) :
    connection.advance (.ask request next) =
      (connection.fetch request).2.advance (next (connection.fetch request).1) := by
  rw [advance, h]
  simp [hopen]

/-- The answer of the source now. -/
def sourceAnswer (connection : Connection) (request : Request) : request.Answer :=
  (connection.service.source.answer request).1

lemma fst_fetch (connection : Connection) (request : Request) :
    (connection.fetch request).1 = connection.sourceAnswer request := rfl

lemma journal_fetch (connection : Connection) (request : Request) :
    (connection.fetch request).2.journal = connection.journal ++ [request] := rfl

lemma source_fetch (connection : Connection) (request : Request) :
    (connection.fetch request).2.service.source = (connection.service.source.answer request).2 := by
  rw [fetch, MetadataService.fetch]
  dsimp only
  unfold MetadataService.remember
  split <;> rfl

/-- A request changes no answer of the source. -/
lemma sourceAnswer_fetch (connection : Connection) (request other : Request) :
    (connection.fetch request).2.sourceAnswer other = connection.sourceAnswer other := by
  rw [sourceAnswer, source_fetch, sourceAnswer]
  cases connection.service.source with
  | web client => rfl
  | memory store => cases request <;> cases other <;> rfl

/-- The cache after a request has reached the source. -/
lemma cache_fetch (connection : Connection) (request : Request) :
    (connection.fetch request).2.service.cache =
      match connection.sourceAnswer request with
      | .ok found => connection.service.cache.map (·.keep request found)
      | .error _ => connection.service.cache := by
  rw [fetch, MetadataService.fetch, sourceAnswer]
  dsimp only
  unfold MetadataService.remember
  split <;> simp_all

/-- Whatever is asked, the journal only grows and no answer of the source changes. -/
lemma advance_extends (connection : Connection) (inquiry : Inquiry α) :
    (∃ more, (connection.advance inquiry).2.journal = connection.journal ++ more) ∧
      ∀ other, (connection.advance inquiry).2.sourceAnswer other =
        connection.sourceAnswer other := by
  induction inquiry generalizing connection with
  | done value => exact ⟨⟨[], (List.append_nil _).symm⟩, fun _ => rfl⟩
  | ask request next ih =>
      rw [advance]
      split
      · exact ih _ connection
      · split
        · exact ⟨⟨[], (List.append_nil _).symm⟩, fun _ => rfl⟩
        · obtain ⟨⟨more, hjournal⟩, hanswers⟩ :=
            ih (connection.fetch request).1 (connection.fetch request).2
          refine ⟨⟨request :: more, ?_⟩, fun other => ?_⟩
          · rw [hjournal, journal_fetch, List.append_assoc, List.singleton_append]
          · rw [hanswers, sourceAnswer_fetch]

/-- The exchanges that the source took part in from one state of a connection to a later one. -/
def exchangesTo (before after : Connection) : List Exchange :=
  (after.journal.drop before.journal.length).map fun request =>
    ⟨request, before.sourceAnswer request⟩

end Connection

/-! ## Histories -/

/-- A connection, with the exchanges that its source took part in so far. -/
structure ServiceHistory where
  connection : Connection
  exchanges : List Exchange := []

/-- A call of a service, or a change of the store behind it. -/
inductive ServiceCall where
  | entity (name : String)
  | record (entity : EntityMetadata) (id : String) (columns : List String)
  | lookup (name id : String)
  | addEntity (entity : EntityMetadata)
  | addRecord (entity id : String) (record : Record)

namespace ServiceHistory

variable {α : Type} {history : ServiceHistory} {request : Request}

/-- A program of requests is carried out. -/
def ask (history : ServiceHistory) (inquiry : Inquiry α) : ServiceHistory where
  connection := (history.connection.advance inquiry).2
  exchanges := history.exchanges ++
    history.connection.exchangesTo (history.connection.advance inquiry).2

/-- The store behind the service changes. -/
def updateStore (history : ServiceHistory) (change : MemoryStore → MemoryStore) : ServiceHistory :=
  let service := history.connection.service
  { history with connection := { history.connection with
      service := { service with source := service.source.updateStore change } } }

/-- What a call does. -/
def act (history : ServiceHistory) : ServiceCall → ServiceHistory
  | .entity name => history.ask (.entity name)
  | .record entity id columns => history.ask (.record entity id columns)
  | .lookup name id => history.ask (.lookup name id)
  | .addEntity entity => history.updateStore (·.addEntity entity)
  | .addRecord entity id record => history.updateStore (·.addRecord entity id record)

/-- What calls do, one after another. -/
def run (history : ServiceHistory) (calls : List ServiceCall) : ServiceHistory :=
  calls.foldl act history

/-- A source with an empty cache in front. -/
def start (source : MetadataSource) : ServiceHistory where
  connection := { service := ⟨source, some {}⟩ }

/-- What the source found at the first request of the same key for which it found anything. -/
def first? (history : ServiceHistory) (request : Request) : Option request.Found :=
  history.exchanges.findSome? (·.foundFor? request)

/-- How a request is answered after a history, and what it leaves behind. -/
structure Answers (history : ServiceHistory) (request : Request) (answer : request.Answer)
    (after : Connection) : Prop where
  /-- What was found first is given again, and nothing else happens. -/
  kept : ∀ found, history.first? request = some found →
    answer = .ok found ∧ after = history.connection
  /-- Otherwise the source is asked, once, and its answer is passed on. -/
  asked : history.first? request = none →
    answer = history.connection.sourceAnswer request ∧
      after.journal = history.connection.journal ++ [request] ∧
      after.service.source = (history.connection.service.source.answer request).2
  /-- A failure leaves the cache as it was. -/
  failed : ∀ failure, answer = .error failure →
    after.service.cache = history.connection.service.cache

/-! ### The invariant -/

/-- The connection is not held, and its cache holds what was found first. -/
structure Kept (history : ServiceHistory) : Prop where
  not_held : history.connection.held = false
  cache : ∃ cache, history.connection.service.cache = some cache ∧
    ∀ request, cache.find? request = history.first? request

lemma Kept.cached? (h : history.Kept) (request : Request) :
    history.connection.service.cached? request = history.first? request := by
  obtain ⟨cache, hcache, hfind⟩ := h.cache
  rw [MetadataService.cached?, hcache, Option.bind_some, hfind]

/-- The history after a request that reached the source. -/
def fetched (history : ServiceHistory) (request : Request) : ServiceHistory where
  connection := (history.connection.fetch request).2
  exchanges := history.exchanges ++ [⟨request, history.connection.sourceAnswer request⟩]

/-- Keeping the answer of the source to a request for which nothing was found yet. -/
lemma Kept.fetched (h : history.Kept) (hnew : history.first? request = none) :
    (history.fetched request).Kept := by
  refine ⟨h.not_held, ?_⟩
  obtain ⟨cache, hcache, hfind⟩ := h.cache
  have hfirst : ∀ other, (history.fetched request).first? other =
      (cache.find? other).or
        (Exchange.foundFor? ⟨request, history.connection.sourceAnswer request⟩ other) := by
    intro other
    rw [first?, ServiceHistory.fetched, List.findSome?_append, hfind]
    simp [first?]
  have hafter := history.connection.cache_fetch request
  rw [hcache] at hafter
  cases hanswer : history.connection.sourceAnswer request with
  | error failure =>
      rw [hanswer] at hafter
      refine ⟨cache, hafter, fun other => ?_⟩
      rw [hfirst, hanswer]
      cases request <;> cases other <;> simp [Exchange.foundFor?]
  | ok found =>
      rw [hanswer] at hafter
      refine ⟨cache.keep request found, hafter, fun other => ?_⟩
      rw [hfirst, hanswer, Cache.find?_keep]
      -- For a request of this key nothing was kept before.
      cases hfor : Exchange.foundFor? ⟨request, .ok found⟩ other with
      | none => simp
      | some again =>
          rw [Cache.find?_eq_none_of_foundFor? ((hfind request).trans hnew) hfor]
          rfl

lemma ask_of_kept {found : request.Found} (h : history.Kept)
    (hfound : history.first? request = some found) (next : request.Answer → Inquiry α) :
    history.ask (.ask request next) = history.ask (next (.ok found)) := by
  have hcached := (h.cached? request).trans hfound
  rw [ask, ask, Connection.advance_ask_of_cached hcached]

lemma ask_of_new (h : history.Kept) (hnew : history.first? request = none)
    (next : request.Answer → Inquiry α) :
    history.ask (.ask request next) =
      (history.fetched request).ask (next (history.connection.sourceAnswer request)) := by
  have hcached := (h.cached? request).trans hnew
  obtain ⟨⟨more, hjournal⟩, -⟩ := (history.connection.fetch request).2.advance_extends
    (next (history.connection.sourceAnswer request))
  rw [ask, ask, Connection.advance_ask_of_not_cached hcached h.not_held, Connection.fst_fetch]
  congr 1
  rw [Connection.exchangesTo, Connection.exchangesTo, ServiceHistory.fetched]
  dsimp only
  rw [hjournal, Connection.journal_fetch]
  simp [Connection.sourceAnswer_fetch]

/-- Whatever is asked, the cache goes on holding what was found first. -/
lemma Kept.ask (h : history.Kept) (inquiry : Inquiry α) : (history.ask inquiry).Kept := by
  induction inquiry generalizing history with
  | done value =>
      have hsame : history.ask (.done value) = history := by
        simp [ServiceHistory.ask, Connection.advance, Connection.exchangesTo]
      rwa [hsame]
  | ask request next ih =>
      cases hfirst : history.first? request with
      | some found =>
          rw [ask_of_kept h hfirst]
          exact ih _ h
      | none =>
          rw [ask_of_new h hfirst]
          exact ih _ (h.fetched hfirst)

lemma Kept.act (h : history.Kept) (call : ServiceCall) : (history.act call).Kept := by
  cases call with
  | entity name => exact h.ask _
  | record entity id columns => exact h.ask _
  | lookup name id => exact h.ask _
  | addEntity entity => exact ⟨h.not_held, h.cache⟩
  | addRecord entity id record => exact ⟨h.not_held, h.cache⟩

lemma Kept.run (h : history.Kept) (calls : List ServiceCall) : (history.run calls).Kept := by
  induction calls generalizing history with
  | nil => exact h
  | cons call rest ih => exact ih (h.act call)

lemma kept_start (source : MetadataSource) : (start source).Kept where
  not_held := rfl
  cache := ⟨{}, rfl, fun request => by cases request <;> rfl⟩

/-! ### Every call -/

/-- One request of a program: how it is answered, and how the program goes on. -/
lemma Kept.answers (h : history.Kept) (request : Request) :
    ∃ answer,
      history.Answers request answer (history.ask (.ask request .done)).connection ∧
      ∀ {α : Type} (next : request.Answer → Inquiry α),
        history.connection.advance (.ask request next) =
          (history.ask (.ask request .done)).connection.advance (next answer) := by
  cases hfirst : history.first? request with
  | some found =>
      have hcached := (h.cached? request).trans hfirst
      have hafter : (history.ask (.ask request .done)).connection = history.connection := by
        rw [ServiceHistory.ask, Connection.advance_ask_of_cached hcached]
        rfl
      rw [hafter]
      refine ⟨.ok found, ⟨?_, ?_, ?_⟩, Connection.advance_ask_of_cached hcached⟩
      · intro again hagain
        rw [hfirst, Option.some_inj] at hagain
        exact ⟨by rw [hagain], rfl⟩
      · intro hnone
        exact absurd (hfirst.symm.trans hnone) (Option.some_ne_none found)
      · intro failure hfailure
        exact absurd hfailure (by simp)
  | none =>
      have hcached := (h.cached? request).trans hfirst
      have hafter : (history.ask (.ask request .done)).connection =
          (history.connection.fetch request).2 := by
        rw [ServiceHistory.ask, Connection.advance_ask_of_not_cached hcached h.not_held]
        rfl
      rw [hafter]
      refine ⟨history.connection.sourceAnswer request, ⟨?_, ?_, ?_⟩,
        Connection.advance_ask_of_not_cached hcached h.not_held⟩
      · intro again hagain
        exact absurd (hagain.symm.trans hfirst) (Option.some_ne_none again)
      · intro _
        exact ⟨rfl, rfl, history.connection.source_fetch request⟩
      · intro failure hfailure
        rw [Connection.cache_fetch, hfailure]

/-- A service called by itself gives what it gives over a connection that is not held. -/
lemma run_eq_advance (connection : Connection) (hopen : connection.held = false)
    (inquiry : Inquiry α) :
    ∃ after, connection.advance inquiry = (.finished (connection.service.run inquiry).1, after) ∧
      after.service = (connection.service.run inquiry).2 := by
  induction inquiry generalizing connection with
  | done value => exact ⟨connection, rfl, rfl⟩
  | ask request next ih =>
      rw [MetadataService.run, MetadataService.answer]
      cases hcached : connection.service.cached? request with
      | some found =>
          rw [Connection.advance_ask_of_cached hcached]
          exact ih _ connection hopen
      | none =>
          rw [Connection.advance_ask_of_not_cached hcached hopen]
          exact ih _ (connection.fetch request).2 hopen

/-- After any calls and changes of the store, every request is answered with what was found first
for its key or else by the source now, and a look-up goes through both its requests by that rule.
A service that is called by itself gives the same answers as over a connection. -/
theorem answers_run (source : MetadataSource) (calls : List ServiceCall) :
    let history := (start source).run calls
    (∀ request : Request, ∃ answer after,
      history.connection.advance (.ask request .done) = (.finished answer, after) ∧
        history.Answers request answer after) ∧
      (∀ name id, ∃ answer,
        history.Answers (.entity name) answer (history.act (.entity name)).connection ∧
          match answer with
          | .error failure =>
            history.connection.advance (Inquiry.lookup name id) =
              (.finished (.error failure), (history.act (.entity name)).connection)
          | .ok metadata => ∃ found after,
            (history.act (.entity name)).Answers
                (.record metadata id [metadata.primaryNameAttribute]) found after ∧
              history.connection.advance (Inquiry.lookup name id) =
                (.finished (found.map (Option.map (Inquiry.found metadata name id))), after)) ∧
      ∀ {α : Type} (inquiry : Inquiry α), ∃ after,
        history.connection.advance inquiry =
            (.finished (history.connection.service.run inquiry).1, after) ∧
          after.service = (history.connection.service.run inquiry).2 := by
  intro history
  have hkept : history.Kept := (kept_start source).run calls
  refine ⟨fun request => ?_, fun name id => ?_, fun inquiry => ?_⟩
  · obtain ⟨answer, hanswers, hadvance⟩ := hkept.answers request
    exact ⟨answer, _, hadvance .done, hanswers⟩
  · obtain ⟨answer, hanswers, hadvance⟩ := hkept.answers (.entity name)
    refine ⟨answer, hanswers, ?_⟩
    cases answer with
    | error failure => exact hadvance _
    | ok metadata =>
        obtain ⟨found, hfound, hnext⟩ := (hkept.act (.entity name)).answers
          (.record metadata id [metadata.primaryNameAttribute])
        refine ⟨found, _, hfound, (hadvance _).trans ((hnext _).trans ?_)⟩
        cases found <;> rfl
  · exact run_eq_advance history.connection hkept.not_held inquiry

/-- A record that was not found stays so although it was added since, under its key: another
spelling of its id with the same key misses too, and the entity's description is the one given
before the entity was described anew. -/
example :
    let described : EntityMetadata := ⟨"account", "accounts", "accountid", "title"⟩
    let history := (start (.memory {})).run
      [.entity "account", .addEntity (.conventional "account"), .lookup "account" "\x7bG\x7d",
       .addEntity described, .addRecord "account" "g" [("name", .string "Ada")]]
    (history.connection.advance (Inquiry.lookup "account" "g")).1.value? = some (.ok none) ∧
      (history.connection.advance (Inquiry.entity "account")).1.value? =
        some (.ok (.conventional "account")) ∧
      history.connection.journal.length = 3 := by
  exact ⟨rfl, rfl, rfl⟩

end ServiceHistory

end GridFilter
