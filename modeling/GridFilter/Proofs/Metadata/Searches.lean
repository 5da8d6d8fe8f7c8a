import GridFilter.Condition.Loading
import GridFilter.Proofs.Metadata.Search
import Mathlib.Data.List.Induction

/-!
# Searches side by side

A load looks up the ids of its batch side by side.  Each search waits at every request, and which
one has its request answered next is up to the metadata service: a `Turn` names a search and says
what the service answers at that moment.  This module says what the searches have found and asked
once all of them are through, for every list of turns (`Search.declaredOrder_run`): under an id
stands the record of the first declared target that has one, and no target after that was probed.

Where the result is to depend on the service alone, its answers have to stay what they are
meanwhile.  `Search.Steady` asks this of whole probes, and only of those that were made.

A session takes its searches one after another over a connection, and stops all of them while the
connection is held.  What it does is among the lists of turns (`Search.exists_run_session`).

## The argument

A turn of one search leaves the others alone, so each search is what its own turns make of it
(`Search.getElem?_run`), and that is known (`Search.ends_follow`).  Searches for the same id have
found the same, so it does not matter which of them comes last in the map of what was found.
-/

namespace GridFilter

/-- The request of one search is answered. -/
structure Turn where
  index : Nat
  replies : Replies

/-- What is left of an inquiry that has come this far. -/
def Progress.inquiry {α : Type} : Progress α → Inquiry α
  | .finished value => .done value
  | .waiting request next => .ask request next

namespace Search

/-- The searches for a list of ids. -/
def all (targets ids : List String) : List Search :=
  ids.map (start targets)

/-- What turns, one after another, make of searches. -/
def run (searches : List Search) (turns : List Turn) : List Search :=
  turns.foldl (fun searches turn => searches.modify turn.index (goOn · turn.replies)) searches

/-- The moments of the turns of one search. -/
def momentsOf (turns : List Turn) (index : Nat) : List Replies :=
  (turns.filter fun turn => turn.index = index).map Turn.replies

/-- Every search is through. -/
def Finished (searches : List Search) : Prop :=
  ∀ search ∈ searches, search.result?.isSome = true

/-- What searches have found, in order. -/
def results (searches : List Search) : List (Option Reference) :=
  searches.filterMap result?

/-- The references that the searches for a list of ids have found, by id. -/
def foundBy (targets ids : List String) (turns : List Turn) : Association String Reference :=
  Batch.found ⟨0, ids⟩ (results (run (all targets ids) turns))

/-- Whichever probe was made, its answer is the one that the target always gives for the id. -/
def Steady (answers : String → String → ProbeAnswer) (targets ids : List String)
    (turns : List Turn) : Prop :=
  ∀ (index : Nat) (id : String) (search : Search), ids[index]? = some id →
    (run (all targets ids) turns)[index]? = some search →
      ∀ probe ∈ search.probes, probe.answer = answers probe.target id

/-! ## Each search by itself -/

variable {targets ids probed : List String} {id : String} {result : Option Reference}
  {searches : List Search} {turns : List Turn} {answers : String → String → ProbeAnswer}

lemma run_append (searches : List Search) (before after : List Turn) :
    run searches (before ++ after) = run (run searches before) after :=
  List.foldl_append

/-- Turns of other searches leave a search alone. -/
lemma getElem?_run (searches : List Search) (turns : List Turn) (index : Nat) :
    (run searches turns)[index]? = searches[index]?.map (·.follow (momentsOf turns index)) := by
  induction turns generalizing searches with
  | nil =>
      show searches[index]? = searches[index]?.map (·.follow [])
      simp only [follow_nil, Option.map_id']
  | cons turn rest ih =>
      have hrun : run searches (turn :: rest) =
          run (searches.modify turn.index (goOn · turn.replies)) rest := rfl
      rw [hrun, ih, List.getElem?_modify]
      by_cases hindex : turn.index = index
      · have hmoments : momentsOf (turn :: rest) index =
            turn.replies :: momentsOf rest index := by
          simp [momentsOf, hindex]
        simp only [if_pos hindex, hmoments, Option.map_eq_map, Option.map_map]
        rfl
      · have hmoments : momentsOf (turn :: rest) index = momentsOf rest index := by
          simp [momentsOf, hindex]
        simp [hmoments, hindex]

/-- What is left of a search for an id after turns. -/
lemma getElem?_run_all {index : Nat} {search : Search} (hid : ids[index]? = some id)
    (hsearch : (run (all targets ids) turns)[index]? = some search) :
    search = (start targets id).follow (momentsOf turns index) := by
  rw [getElem?_run, all, List.getElem?_map, hid, Option.map_some, Option.map_some] at hsearch
  exact (Option.some.inj hsearch).symm

lemma exists_id_of_mem_run {search : Search} (hmem : search ∈ run (all targets ids) turns) :
    ∃ (index : Nat) (id : String), ids[index]? = some id ∧
      (run (all targets ids) turns)[index]? = some search := by
  obtain ⟨index, hindex⟩ := List.mem_iff_getElem?.mp hmem
  have hsearch := hindex
  rw [getElem?_run, all, List.getElem?_map] at hsearch
  cases hid : ids[index]? with
  | none =>
      rw [hid] at hsearch
      exact absurd hsearch.symm (Option.some_ne_none search)
  | some id => exact ⟨index, id, hid, hindex⟩

lemma ends_of_result? {index : Nat} {search : Search} (hid : ids[index]? = some id)
    (hsearch : (run (all targets ids) turns)[index]? = some search)
    (hresult : search.result? = some result) : Ends id targets search.probes result := by
  have hfollow := getElem?_run_all hid hsearch
  rw [hfollow] at hresult
  obtain ⟨more, hmore, hends⟩ := ends_follow _ hresult
  have hprobes : search.probes = Probe.ofExchanges more := by
    rw [hfollow, probes, start, hmore]
    rfl
  rwa [hprobes]

/-- A service whose answers stay the same answers every probe steadily. -/
lemma steady_of_same {replies : Replies} (hsame : ∀ turn ∈ turns, turn.replies = replies)
    (targets ids : List String) : Steady replies.probe targets ids turns := by
  intro index id search hid hsearch
  rw [getElem?_run_all hid hsearch]
  have hmoments : ∀ now ∈ momentsOf turns index, now = replies := by
    intro now hnow
    obtain ⟨turn, hturn, rfl⟩ := List.mem_map.mp hnow
    exact hsame turn (List.mem_of_mem_filter hturn)
  obtain ⟨more, hmore, hprobes⟩ := @answer_of_mem_probes targets id [] replies _ hmoments
  intro probe hmem
  apply hprobes
  rw [probes, start, hmore] at hmem
  exact hmem

/-! ## The first declared target -/

/-- The reference that the first declared target with a record gives for an id. -/
def firstReference? (answers : String → String → ProbeAnswer) (targets : List String)
    (id : String) : Option Reference :=
  targets.findSome? fun target =>
    (answers target id).record?.map fun record => ⟨id, some target, record.primaryName⟩

/-- The reference for an id is the one of the first declared target that has a record, and the
targets that were probed are those up to it. -/
inductive FirstDeclared (answers : String → String → ProbeAnswer) (targets : List String)
    (id : String) : Option Reference → List String → Prop where
  | found (before : List String) (target : String) (after : List String) (record : FoundRecord)
      (htargets : targets = before ++ target :: after)
      (hbefore : ∀ earlier ∈ before, (answers earlier id).record? = none)
      (hrecord : answers target id = .ok (some record)) :
      FirstDeclared answers targets id (some ⟨id, some target, record.primaryName⟩)
        (before ++ [target])
  | nowhere (hnone : ∀ target ∈ targets, (answers target id).record? = none) :
      FirstDeclared answers targets id none targets

lemma firstReference?_eq_none_iff : firstReference? answers targets id = none ↔
    ∀ target ∈ targets, (answers target id).record? = none := by
  rw [firstReference?, List.findSome?_eq_none_iff]
  simp only [Option.map_eq_none_iff]

lemma FirstDeclared.eq_firstReference? (h : FirstDeclared answers targets id result probed) :
    result = firstReference? answers targets id := by
  cases h with
  | nowhere hnone => exact (firstReference?_eq_none_iff.mpr hnone).symm
  | found before target after record htargets hbefore hrecord =>
      have hearlier : before.findSome? (fun target => (answers target id).record?.map
          fun record => (⟨id, some target, record.primaryName⟩ : Reference)) = none :=
        firstReference?_eq_none_iff.mpr hbefore
      have hfirst : (answers target id).record? = some record := by
        rw [hrecord]
        rfl
      rw [firstReference?, htargets, List.findSome?_append, hearlier, Option.none_or,
        List.findSome?_cons, hfirst]
      rfl

/-- The reference that is given has the id that it is given for. -/
lemma id_of_firstReference? {reference : Reference}
    (h : firstReference? answers targets id = some reference) : reference.id = id := by
  obtain ⟨target, -, hrecord⟩ := List.exists_of_findSome?_eq_some h
  obtain ⟨record, -, rfl⟩ := Option.map_eq_some_iff.mp hrecord
  rfl

/-- A target without a record in front changes nothing but that it is probed too. -/
lemma FirstDeclared.cons {target : String} (h : FirstDeclared answers targets id result probed)
    (hmiss : (answers target id).record? = none) :
    FirstDeclared answers (target :: targets) id result (target :: probed) := by
  cases h with
  | nowhere hnone => exact .nowhere (List.forall_mem_cons.mpr ⟨hmiss, hnone⟩)
  | found before last after record htargets hbefore hrecord =>
      refine .found (target :: before) last after record ?_ ?_ hrecord
      · rw [htargets, List.cons_append]
      · exact List.forall_mem_cons.mpr ⟨hmiss, hbefore⟩

/-- The probes of a search that is through, if each was answered as it always is. -/
lemma Ends.firstDeclared {probes : List Probe} (h : Ends id targets probes result)
    (hsteady : ∀ probe ∈ probes, probe.answer = answers probe.target id) :
    FirstDeclared answers targets id result (probes.map Probe.target) := by
  induction h with
  | missed => exact .nowhere (by simp)
  | found target rest record =>
      have hrecord := hsteady _ (List.mem_singleton.mpr rfl)
      exact .found [] target rest record rfl (by simp) hrecord.symm
  | passed hmiss hrest ih =>
      have hanswer := hsteady _ List.mem_cons_self
      rw [List.map_cons]
      refine (ih fun probe hmem => hsteady probe (List.mem_cons_of_mem _ hmem)).cons ?_
      rw [← hanswer]
      exact hmiss

/-- Every search that is through has gone by the declared order. -/
lemma firstDeclared_of_result? {index : Nat} {search : Search}
    (hsteady : Steady answers targets ids turns) (hid : ids[index]? = some id)
    (hsearch : (run (all targets ids) turns)[index]? = some search)
    (hresult : search.result? = some result) :
    FirstDeclared answers targets id result (search.probes.map Probe.target) :=
  (ends_of_result? hid hsearch hresult).firstDeclared (hsteady index id search hid hsearch)

/-! ## The map of what was found -/

/-- Of results that depend on the id only, each is found under its id. -/
lemma get?_found {entry : String → Option Reference}
    (hkeyed : ∀ id reference, entry id = some reference → reference.id = id)
    (revision : Nat) (ids : List String) (id : String) :
    (Batch.found ⟨revision, ids⟩ (ids.map entry)).get? id =
      if id ∈ ids then entry id else none := by
  induction ids using List.reverseRecOn with
  | nil => rfl
  | append_singleton rest last ih =>
      have hzip : (rest ++ [last]).zip ((rest ++ [last]).map entry) =
          rest.zip (rest.map entry) ++ [(last, entry last)] := by
        rw [List.map_append, List.map_singleton, List.zip_append (by rw [List.length_map])]
        rfl
      -- The last result is the last to be put into the map.
      unfold Batch.found at ih ⊢
      rw [hzip, List.foldl_append, List.foldl_cons, List.foldl_nil]
      cases hlast : entry last with
      | none =>
          dsimp only at ih ⊢
          rw [ih]
          by_cases hid : id = last
          · rw [hid, hlast, ite_self, ite_self]
          · simp only [List.mem_append, List.mem_singleton, hid, or_false]
      | some reference =>
          dsimp only at ih ⊢
          rw [Association.get?_put, ih, hkeyed last reference hlast]
          by_cases hid : last = id
          · rw [if_pos hid, ← hid, if_pos (by simp), hlast]
          · simp only [hid, Ne.symm hid, List.mem_append, List.mem_singleton, or_false, if_false]

/-- Of searches that are through, each has its result in its place. -/
lemma getElem?_results (hfinished : Finished searches) (index : Nat) :
    (results searches)[index]? = searches[index]?.bind result? := by
  induction searches generalizing index with
  | nil => rfl
  | cons search rest ih =>
      obtain ⟨result, hresult⟩ := Option.isSome_iff_exists.mp
        (hfinished search List.mem_cons_self)
      have hrest : Finished rest := fun other hmem =>
        hfinished other (List.mem_cons_of_mem search hmem)
      have hresults : results (search :: rest) = result :: results rest :=
        List.filterMap_cons_some hresult
      rw [hresults]
      cases index with
      | zero => exact hresult.symm
      | succ index => exact ih hrest index

/-- The results of searches that are through depend on their ids only. -/
lemma results_run (hsteady : Steady answers targets ids turns)
    (hfinished : Finished (run (all targets ids) turns)) :
    results (run (all targets ids) turns) = ids.map (firstReference? answers targets) := by
  apply List.ext_getElem?
  intro index
  have hrun := getElem?_run (all targets ids) turns index
  rw [all, List.getElem?_map, ← all] at hrun
  rw [getElem?_results hfinished, List.getElem?_map]
  cases hid : ids[index]? with
  | none =>
      rw [hrun, hid]
      rfl
  | some id =>
      rw [hid, Option.map_some, Option.map_some] at hrun
      obtain ⟨result, hresult⟩ := Option.isSome_iff_exists.mp
        (hfinished _ (List.mem_of_getElem? hrun))
      have hdeclared := firstDeclared_of_result? hsteady hid hrun hresult
      rw [hrun, Option.bind_some, hresult, hdeclared.eq_firstReference?, Option.map_some]

/-- Under an id that was looked up stands the reference that the first declared target gives. -/
lemma get?_foundBy (hsteady : Steady answers targets ids turns)
    (hfinished : Finished (run (all targets ids) turns)) (id : String) :
    (foundBy targets ids turns).get? id =
      if id ∈ ids then firstReference? answers targets id else none := by
  rw [foundBy, results_run hsteady hfinished]
  exact get?_found (fun _ _ => id_of_firstReference?) 0 ids id

/-! ## Every order of answers -/

/-- The declared order of the targets decides, and nothing else does. -/
structure DeclaredOrder (answers : String → String → ProbeAnswer) (targets ids : List String)
    (turns : List Turn) : Prop where
  /-- The searches are through once each had two turns a target. -/
  finished : (∀ index < ids.length, 2 * targets.length ≤ (momentsOf turns index).length) →
    Finished (run (all targets ids) turns)
  /-- Under an id stands the reference of the first declared target that has a record, and its
  searches have probed the targets up to that one. -/
  declared : Finished (run (all targets ids) turns) →
    ∀ (index : Nat) (id : String) (search : Search), ids[index]? = some id →
      (run (all targets ids) turns)[index]? = some search →
        FirstDeclared answers targets id ((foundBy targets ids turns).get? id)
          (search.probes.map Probe.target)
  /-- The map holds the ids that some target has a record for. -/
  has_iff : Finished (run (all targets ids) turns) → ∀ id : String,
    (foundBy targets ids turns).has id = true ↔
      id ∈ ids ∧ ∃ target ∈ targets, ∃ record, answers target id = .ok (some record)
  /-- Beside other ids, in another order and with other turns, an id has the same entry. -/
  independent : Finished (run (all targets ids) turns) →
    ∀ (others : List String) (otherTurns : List Turn), Steady answers targets others otherTurns →
      Finished (run (all targets others) otherTurns) → ∀ id ∈ ids, id ∈ others →
        (foundBy targets others otherTurns).get? id = (foundBy targets ids turns).get? id

lemma isSome_firstReference?_iff : (firstReference? answers targets id).isSome = true ↔
    ∃ target ∈ targets, ∃ record, answers target id = .ok (some record) := by
  rw [firstReference?, List.findSome?_isSome_iff]
  simp only [Option.isSome_map]
  refine exists_congr fun target => and_congr_right fun _ => ?_
  rcases answers target id with failure | _ | record <;> simp [ProbeAnswer.record?]

/-- Whichever search has its request answered next, and whether other probes miss or fail, each id
is resolved by the first declared target that has a record for it. -/
theorem declaredOrder_run (answers : String → String → ProbeAnswer) (targets ids : List String)
    (turns : List Turn) (hsteady : Steady answers targets ids turns) :
    DeclaredOrder answers targets ids turns := by
  refine ⟨?_, ?_, ?_, ?_⟩
  · intro hturns search hmem
    obtain ⟨index, id, hid, hsearch⟩ := exists_id_of_mem_run hmem
    rw [getElem?_run_all hid hsearch]
    exact isSome_result?_follow _ (hturns index (List.getElem?_eq_some_iff.mp hid).1)
  · intro hfinished index id search hid hsearch
    obtain ⟨result, hresult⟩ := Option.isSome_iff_exists.mp
      (hfinished search (List.mem_of_getElem? hsearch))
    have hdeclared := firstDeclared_of_result? hsteady hid hsearch hresult
    rw [get?_foundBy hsteady hfinished, if_pos (List.mem_of_getElem? hid),
      ← hdeclared.eq_firstReference?]
    exact hdeclared
  · intro hfinished id
    rw [Association.has, get?_foundBy hsteady hfinished, ← isSome_firstReference?_iff]
    by_cases hid : id ∈ ids <;> simp [hid]
  · intro hfinished others otherTurns hothers hthrough id hid hother
    rw [get?_foundBy hothers hthrough, get?_foundBy hsteady hfinished, if_pos hid, if_pos hother]

/-- Two searches for one id and one for another, with a target that nobody can describe. -/
theorem declaredOrder_run_teams :
    let store := (({} : MemoryStore).addEntity (.conventional "contact")).addRecord "account" "a1"
      [("name", .string "Ann")]
    let replies : Replies := fun request => (MetadataSource.answerFrom store request).1
    let turns : List Turn :=
      [2, 0, 1, 1, 0, 2, 2, 1, 0, 0, 1, 2, 2, 1, 0].map fun index => ⟨index, replies⟩
    let targets := ["team", "contact", "account"]
    Steady replies.probe targets ["a1", "b2", "a1"] turns ∧
      Finished (run (all targets ["a1", "b2", "a1"]) turns) ∧
      foundBy targets ["a1", "b2", "a1"] turns = [("a1", ⟨"a1", some "account", some "Ann"⟩)] ∧
      DeclaredOrder replies.probe targets ["a1", "b2", "a1"] turns := by
  intro store replies turns targets
  have hsteady : Steady replies.probe targets ["a1", "b2", "a1"] turns := by
    apply steady_of_same
    intro turn hturn
    obtain ⟨index, -, rfl⟩ := List.mem_map.mp hturn
    rfl
  have horder := declaredOrder_run replies.probe targets ["a1", "b2", "a1"] turns hsteady
  refine ⟨hsteady, ?_, ?_, horder⟩
  · unfold Finished
    decide +kernel
  · decide +kernel

/-! ## What a session does -/

/-- What a connection does with an inquiry is done by turns. -/
lemma exists_follow_advance (connection : Connection) (search : Search) :
    ∃ moments, (search.follow moments).inquiry =
      Progress.inquiry (connection.advance search.inquiry).1 := by
  obtain ⟨inquiry, exchanges⟩ := search
  induction inquiry generalizing connection exchanges with
  | done value => exact ⟨[], rfl⟩
  | ask request next ih =>
      have hnow : ∀ (now : Replies) (after : Connection),
          connection.advance (.ask request next) = after.advance (next (now request)) →
            ∃ moments, (follow ⟨.ask request next, exchanges⟩ moments).inquiry =
              Progress.inquiry (connection.advance (.ask request next)).1 := by
        intro now after hadvance
        obtain ⟨moments, hmoments⟩ := ih (now request) after
          (exchanges ++ [⟨request, now request⟩])
        rw [hadvance]
        exact ⟨now :: moments, hmoments⟩
      cases hcached : connection.service.cached? request with
      | some found =>
          apply hnow fun other => (connection.service.answer other).1
          rw [Connection.advance_ask_of_cached hcached, MetadataService.answer, hcached]
      | none =>
          cases hheld : connection.held with
          | true =>
              refine ⟨[], ?_⟩
              rw [Connection.advance, hcached]
              dsimp only
              rw [hheld, if_pos rfl]
              rfl
          | false =>
              apply hnow fun other => (connection.fetch other).1
              rw [Connection.advance_ask_of_not_cached hcached hheld]

/-- So is what it does with one that had to wait. -/
lemma exists_follow_resume (connection : Connection) (search : Search)
    (progress : Progress (Option Reference)) (h : search.inquiry = Progress.inquiry progress) :
    ∃ moments, (search.follow moments).inquiry =
      Progress.inquiry (connection.resume progress).1 := by
  cases progress with
  | finished value => exact ⟨[], h⟩
  | waiting request next =>
      rw [Connection.resume]
      cases connection.held with
      | true => exact ⟨[], h⟩
      | false =>
          obtain ⟨inquiry, exchanges⟩ := search
          obtain rfl : inquiry = .ask request next := h
          obtain ⟨moments, hmoments⟩ := exists_follow_advance (connection.fetch request).2
            ⟨next (connection.fetch request).1,
              exchanges ++ [⟨request, (connection.fetch request).1⟩]⟩
          exact ⟨(fun other => (connection.fetch other).1) :: moments, hmoments⟩

/-- Turns of the first search and turns of the others make up one list. -/
lemma exists_run_cons (first : Search) (rest : List Search) (moments : List Replies)
    (turns : List Turn) :
    ∃ both, run (first :: rest) both = first.follow moments :: run rest turns := by
  have hfirst : ∀ (moments : List Replies) (first : Search),
      run (first :: rest) (moments.map fun now => ⟨0, now⟩) = first.follow moments :: rest := by
    intro moments
    induction moments with
    | nil => exact fun _ => rfl
    | cons now later ih => exact fun first => ih (first.goOn now)
  have hothers : ∀ (turns : List Turn) (rest : List Search) (first : Search),
      run (first :: rest) (turns.map fun turn => ⟨turn.index + 1, turn.replies⟩) =
        first :: run rest turns := by
    intro turns
    induction turns with
    | nil => exact fun _ _ => rfl
    | cons turn later ih =>
        exact fun rest first => ih (rest.modify turn.index (goOn · turn.replies)) first
  refine ⟨moments.map (fun now => ⟨0, now⟩) ++
    turns.map fun turn => ⟨turn.index + 1, turn.replies⟩, ?_⟩
  rw [run_append, hfirst, hothers]

/-- The order in which a connection takes searches is one of the orders. -/
lemma exists_run_advanceAll (connection : Connection) (searches : List Search) :
    ∃ turns, (run searches turns).map Search.inquiry =
      (connection.advanceAll (searches.map Search.inquiry)).1.map Progress.inquiry := by
  induction searches generalizing connection with
  | nil => exact ⟨[], rfl⟩
  | cons first rest ih =>
      obtain ⟨moments, hfirst⟩ := exists_follow_advance connection first
      obtain ⟨turns, hrest⟩ := ih (connection.advance first.inquiry).2
      obtain ⟨both, hboth⟩ := exists_run_cons first rest moments turns
      refine ⟨both, ?_⟩
      rw [hboth, List.map_cons, hfirst, hrest]
      rfl

/-- So is the one in which it goes on with them. -/
lemma exists_run_resumeAll (connection : Connection) (searches : List Search)
    (progress : List (Progress (Option Reference)))
    (h : searches.map Search.inquiry = progress.map Progress.inquiry) :
    ∃ turns, (run searches turns).map Search.inquiry =
      (connection.resumeAll progress).1.map Progress.inquiry := by
  induction progress generalizing connection searches with
  | nil => exact ⟨[], h⟩
  | cons head tail ih =>
      obtain ⟨first, rest, rfl, hfirst, hrest⟩ := List.map_eq_cons_iff.mp h
      obtain ⟨moments, hmoments⟩ := exists_follow_resume connection first head hfirst
      obtain ⟨turns, hturns⟩ := ih (connection.resume head).2 rest hrest
      obtain ⟨both, hboth⟩ := exists_run_cons first rest moments turns
      refine ⟨both, ?_⟩
      rw [hboth, List.map_cons, hmoments, hturns]
      rfl

/-- So is every order in which they are gone on with again and again, over any connection. -/
lemma exists_run_resumed (later : List Connection) (searches : List Search)
    (progress : List (Progress (Option Reference)))
    (h : searches.map Search.inquiry = progress.map Progress.inquiry) :
    ∃ turns, (run searches turns).map Search.inquiry =
      (later.foldl (fun progress next => (next.resumeAll progress).1) progress).map
        Progress.inquiry := by
  induction later generalizing searches progress with
  | nil => exact ⟨[], h⟩
  | cons next rest ih =>
      obtain ⟨turns, hturns⟩ := exists_run_resumeAll next searches progress h
      obtain ⟨more, hmore⟩ := ih (run searches turns) (next.resumeAll progress).1 hturns
      refine ⟨turns ++ more, ?_⟩
      rw [run_append]
      exact hmore

lemma results_eq_filterMap {progress : List (Progress (Option Reference))}
    (h : searches.map Search.inquiry = progress.map Progress.inquiry) :
    results searches = progress.filterMap Progress.value? := by
  induction progress generalizing searches with
  | nil =>
      obtain rfl := List.map_eq_nil_iff.mp h
      rfl
  | cons head tail ih =>
      obtain ⟨first, rest, rfl, hfirst, hrest⟩ := List.map_eq_cons_iff.mp h
      have hvalue : first.result? = head.value? := by
        rw [result?, hfirst]
        cases head <;> rfl
      rw [results, List.filterMap_cons, List.filterMap_cons, hvalue, ← ih hrest, results]

/-- Whatever becomes of the connection while searches wait, what a session has of them is what some
turns have made of them. -/
theorem exists_run_session (targets ids : List String) (connection : Connection)
    (later : List Connection) :
    let begun := (connection.advanceAll (ids.map (Inquiry.resolve targets))).1
    let progress := later.foldl (fun progress next => (next.resumeAll progress).1) begun
    ∃ turns, (run (all targets ids) turns).map Search.inquiry = progress.map Progress.inquiry ∧
      results (run (all targets ids) turns) = progress.filterMap Progress.value? := by
  intro begun progress
  obtain ⟨first, hfirst⟩ : ∃ turns, (run (all targets ids) turns).map Search.inquiry =
      begun.map Progress.inquiry := by
    have hinquiries : (all targets ids).map Search.inquiry = ids.map (Inquiry.resolve targets) := by
      rw [all, List.map_map]
      rfl
    have hadvance := exists_run_advanceAll connection (all targets ids)
    rwa [hinquiries] at hadvance
  obtain ⟨turns, hturns⟩ := exists_run_resumed later _ begun hfirst
  rw [← run_append] at hturns
  exact ⟨first ++ turns, hturns, results_eq_filterMap hturns⟩

end Search

end GridFilter
