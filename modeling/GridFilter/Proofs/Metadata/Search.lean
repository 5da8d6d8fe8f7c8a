import GridFilter.Proofs.Metadata.Answers

/-!
# The search for one id

A search probes the target entities for an id in declared order, each by one or two requests, and it
waits at every request.  What the metadata service answers is up to the moment at which it does, so
a search is followed from moment to moment (`Search.follow`), and nothing ties the answers of one
moment to those of another.

Two things hold all the same.  The probes of a search that is through are misses and failures, up
to the first target that had a record (`Search.ends_follow`).  And two turns a target are always
enough (`Search.isSome_result?_follow`).

## The argument

Both are inductions over the targets.  What the turns of a search do to its first target is said
once (`Search.firstProbe_follow`): they are too few, or its record is found, or the search goes on
with the rest of the targets as if it had begun with them.
-/

namespace GridFilter

/-- The answers of a metadata service at one moment. -/
abbrev Replies := (request : Request) → request.Answer

/-! ## Probes -/

/-- The answer of one target for one id: a record, no record, or a failure. -/
abbrev ProbeAnswer := Except MetadataError (Option FoundRecord)

/-- The record in the answer of a target. -/
def ProbeAnswer.record? : ProbeAnswer → Option FoundRecord
  | .ok record => record
  | .error _ => none

/-- A target that was asked for an id, and its answer. -/
structure Probe where
  target : String
  answer : ProbeAnswer
  deriving DecidableEq

/-- The probes that exchanges make up.  A probe is over when its entity could not be described, and
else when its record was asked for. -/
def Probe.ofExchanges : List Exchange → List Probe
  | ⟨.entity target, .error failure⟩ :: rest => ⟨target, .error failure⟩ :: ofExchanges rest
  | ⟨.entity target, .ok metadata⟩ :: ⟨.record _ id _, answer⟩ :: rest =>
    ⟨target, answer.map (Option.map (Inquiry.found metadata target id))⟩ :: ofExchanges rest
  | _ => []

/-- The answer to a probe of a service whose answers stay the same. -/
def Replies.probe (replies : Replies) (target id : String) : ProbeAnswer :=
  match replies (.entity target) with
  | .error failure => .error failure
  | .ok metadata =>
    (replies (.record metadata id [metadata.primaryNameAttribute])).map
      (Option.map (Inquiry.found metadata target id))

/-! ## Searches -/

/-- The search for one id: what is left of it, and the exchanges that it took part in. -/
structure Search where
  inquiry : Inquiry (Option Reference)
  exchanges : List Exchange := []

namespace Search

/-- The search for an id, before its first request. -/
def start (targets : List String) (id : String) : Search where
  inquiry := .resolve targets id

/-- The request that the search waits for is answered, and it goes on to the next one. -/
def goOn (search : Search) (replies : Replies) : Search :=
  match search.inquiry with
  | .done _ => search
  | .ask request next =>
    ⟨next (replies request), search.exchanges ++ [⟨request, replies request⟩]⟩

/-- The search goes on at these moments. -/
def follow (search : Search) (moments : List Replies) : Search :=
  moments.foldl goOn search

/-- What the search has found, if it is through. -/
def result? (search : Search) : Option (Option Reference) :=
  match search.inquiry with
  | .done result => some result
  | .ask _ _ => none

/-- The probes that the search has made, in order. -/
def probes (search : Search) : List Probe :=
  Probe.ofExchanges search.exchanges

/-! ## Going on -/

variable {targets : List String} {id target : String} {result : Option Reference}
  {exchanges : List Exchange}

/-- How a search for an id ends, and the probes it has made by then. -/
inductive Ends (id : String) : List String → List Probe → Option Reference → Prop where
  | missed : Ends id [] [] none
  | found (target : String) (rest : List String) (record : FoundRecord) :
      Ends id (target :: rest) [⟨target, .ok (some record)⟩]
        (some ⟨id, some target, record.primaryName⟩)
  | passed {target : String} {rest : List String} {answer : ProbeAnswer} {probes : List Probe}
      {result : Option Reference} (hmiss : ProbeAnswer.record? answer = none)
      (hrest : Ends id rest probes result) :
      Ends id (target :: rest) (⟨target, answer⟩ :: probes) result

@[simp] lemma follow_nil (search : Search) : search.follow [] = search := rfl

@[simp] lemma follow_cons (search : Search) (now : Replies) (later : List Replies) :
    search.follow (now :: later) = (search.goOn now).follow later := rfl

@[simp] lemma follow_done (result : Option Reference) (exchanges : List Exchange)
    (moments : List Replies) :
    follow ⟨.done result, exchanges⟩ moments = ⟨.done result, exchanges⟩ := by
  induction moments with
  | nil => rfl
  | cons now later ih => exact ih

/-- What is left of a search once the entity of its first target is described. -/
def afterEntity (metadata : EntityMetadata) (target : String) (rest : List String) (id : String) :
    Inquiry (Option Reference) :=
  .ask (.record metadata id [metadata.primaryNameAttribute]) fun
    | .ok (some record) =>
      .done (some (Inquiry.resolved (Inquiry.found metadata target id record)))
    | .ok none | .error _ => .resolve rest id

lemma goOn_of_error {now : Replies} {failure : MetadataError}
    (h : now (.entity target) = .error failure) (rest : List String) (id : String)
    (exchanges : List Exchange) :
    goOn ⟨.resolve (target :: rest) id, exchanges⟩ now =
      ⟨.resolve rest id, exchanges ++ [⟨.entity target, .error failure⟩]⟩ := by
  unfold goOn
  simp only [Inquiry.resolve, Inquiry.lookup, Inquiry.bind]
  rw [h]
  rfl

lemma goOn_of_ok {now : Replies} {metadata : EntityMetadata}
    (h : now (.entity target) = .ok metadata) (rest : List String) (id : String)
    (exchanges : List Exchange) :
    goOn ⟨.resolve (target :: rest) id, exchanges⟩ now =
      ⟨afterEntity metadata target rest id, exchanges ++ [⟨.entity target, .ok metadata⟩]⟩ := by
  unfold goOn
  simp only [Inquiry.resolve, Inquiry.lookup, Inquiry.bind]
  rw [h]
  simp only [Inquiry.bind, afterEntity]
  congr
  funext answer
  rcases answer with failure | _ | record <;> rfl

/-- A search that has got this far goes on with the next target, or it has found its record. -/
lemma goOn_afterEntity (metadata : EntityMetadata) (target : String) (rest : List String)
    (id : String) (exchanges : List Exchange) (now : Replies) :
    let answer := now (.record metadata id [metadata.primaryNameAttribute])
    let next : List Exchange := exchanges ++
      [⟨.record metadata id [metadata.primaryNameAttribute], answer⟩]
    (∃ record, answer = .ok (some record) ∧
        goOn ⟨afterEntity metadata target rest id, exchanges⟩ now =
          ⟨.done (some (Inquiry.resolved (Inquiry.found metadata target id record))), next⟩) ∨
      ProbeAnswer.record? (answer.map (Option.map (Inquiry.found metadata target id))) = none ∧
        goOn ⟨afterEntity metadata target rest id, exchanges⟩ now =
          ⟨.resolve rest id, next⟩ := by
  intro answer next
  have hgoOn : goOn ⟨afterEntity metadata target rest id, exchanges⟩ now =
      ⟨(match answer with
        | .ok (some record) =>
          .done (some (Inquiry.resolved (Inquiry.found metadata target id record)))
        | .ok none | .error _ => .resolve rest id), next⟩ := rfl
  rw [hgoOn]
  rcases answer with failure | _ | record
  · exact .inr ⟨rfl, rfl⟩
  · exact .inr ⟨rfl, rfl⟩
  · exact .inl ⟨record, rfl, rfl⟩

/-- How far turns take a search with its first target. -/
inductive FirstProbe (target : String) (rest : List String) (id : String)
    (exchanges : List Exchange) (moments : List Replies) (search : Search) : Prop where
  /-- The turns were too few. -/
  | waiting (made : List Exchange) (hprobes : Probe.ofExchanges made = [])
      (hexchanges : search.exchanges = exchanges ++ made) (hresult : search.result? = none)
      (hfew : moments.length < 2)
  /-- The target has a record, and the search is through. -/
  | found (made : List Exchange) (record : FoundRecord)
      (hprobes : Probe.ofExchanges made = [⟨target, .ok (some record)⟩])
      (hsearch : search =
        ⟨.done (some ⟨id, some target, record.primaryName⟩), exchanges ++ made⟩)
      (hsteady : ∀ replies, (∀ now ∈ moments, now = replies) →
        .ok (some record) = replies.probe target id)
  /-- The target has none, and the search goes on with the other targets. -/
  | passed (made : List Exchange) (answer : ProbeAnswer) (later : List Replies)
      (hmiss : answer.record? = none)
      (hprobes : ∀ more, Probe.ofExchanges (made ++ more) =
        ⟨target, answer⟩ :: Probe.ofExchanges more)
      (hsearch : search = follow ⟨.resolve rest id, exchanges ++ made⟩ later)
      (hlater : later <:+ moments ∧ moments.length ≤ later.length + 2)
      (hsteady : ∀ replies, (∀ now ∈ moments, now = replies) →
        answer = replies.probe target id)

lemma firstProbe_follow (target : String) (rest : List String) (id : String)
    (exchanges : List Exchange) (moments : List Replies) :
    FirstProbe target rest id exchanges moments
      (follow ⟨.resolve (target :: rest) id, exchanges⟩ moments) := by
  rcases moments with _ | ⟨now, later⟩
  · exact .waiting [] rfl (List.append_nil _).symm rfl (by simp)
  rw [follow_cons]
  cases hnow : now (.entity target) with
  | error failure =>
      rw [goOn_of_error hnow]
      refine .passed [⟨.entity target, .error failure⟩] (.error failure) later rfl (fun _ => rfl)
        rfl ⟨List.suffix_cons now later, by simp⟩ fun replies hsame => ?_
      rw [← hsame now List.mem_cons_self, Replies.probe, hnow]
  | ok metadata =>
      rw [goOn_of_ok hnow]
      rcases later with _ | ⟨second, later⟩
      · exact .waiting [⟨.entity target, .ok metadata⟩] rfl rfl rfl (by simp)
      rw [follow_cons]
      have hsteady : ∀ replies, (∀ moment ∈ now :: second :: later, moment = replies) →
          (second (.record metadata id [metadata.primaryNameAttribute])).map
              (Option.map (Inquiry.found metadata target id)) = replies.probe target id := by
        intro replies hsame
        obtain rfl := hsame now (by simp)
        obtain rfl := hsame second (by simp)
        rw [Replies.probe, hnow]
      have hafter := goOn_afterEntity metadata target rest id
        (exchanges ++ [⟨.entity target, .ok metadata⟩]) second
      dsimp only at hafter
      rw [List.append_assoc, List.singleton_append] at hafter
      rcases hafter with ⟨record, hanswer, hnext⟩ | ⟨hmiss, hnext⟩
      · rw [hnext, follow_done]
        rw [hanswer] at hsteady
        refine .found _ (Inquiry.found metadata target id record) ?_ rfl hsteady
        rw [hanswer]
        rfl
      · rw [hnext]
        refine .passed _ _ later hmiss (fun _ => rfl) rfl ⟨?_, by simp⟩ hsteady
        exact (List.suffix_cons second later).trans (List.suffix_cons now _)

/-- A search that is through ends as `Ends` says. -/
lemma ends_follow (moments : List Replies)
    (hresult : (follow ⟨.resolve targets id, exchanges⟩ moments).result? = some result) :
    ∃ more, (follow ⟨.resolve targets id, exchanges⟩ moments).exchanges = exchanges ++ more ∧
      Ends id targets (Probe.ofExchanges more) result := by
  induction targets generalizing exchanges moments with
  | nil =>
      rw [Inquiry.resolve, follow_done] at hresult ⊢
      refine ⟨[], (List.append_nil _).symm, ?_⟩
      rw [← Option.some.inj hresult]
      exact .missed
  | cons target rest ih =>
      cases firstProbe_follow target rest id exchanges moments with
      | waiting _ _ _ hnone =>
          rw [hnone] at hresult
          exact absurd hresult.symm (Option.some_ne_none result)
      | found made record hprobes hsearch _ =>
          rw [hsearch] at hresult ⊢
          refine ⟨made, rfl, ?_⟩
          rw [← Option.some.inj hresult, hprobes]
          exact .found target rest record
      | passed made answer later hmiss hprobes hsearch _ _ =>
          rw [hsearch] at hresult ⊢
          obtain ⟨more, hmore, hends⟩ := ih later hresult
          refine ⟨made ++ more, ?_, ?_⟩
          · rw [hmore, List.append_assoc]
          · rw [hprobes]
            exact .passed hmiss hends

/-- A search is through after two turns a target. -/
lemma isSome_result?_follow (moments : List Replies)
    (hturns : 2 * targets.length ≤ moments.length) :
    (follow ⟨.resolve targets id, exchanges⟩ moments).result?.isSome = true := by
  induction targets generalizing exchanges moments with
  | nil =>
      rw [Inquiry.resolve, follow_done]
      rfl
  | cons target rest ih =>
      rw [List.length_cons] at hturns
      cases firstProbe_follow target rest id exchanges moments with
      | waiting _ _ _ _ hfew => omega
      | found made record _ hsearch _ =>
          rw [hsearch]
          rfl
      | passed made answer later _ _ hsearch hlater _ =>
          rw [hsearch]
          have hfewer := hlater.2
          apply ih
          omega

/-- What a service answers to a probe is what it always answers, if its answers stay the same. -/
lemma answer_of_mem_probes {replies : Replies} (moments : List Replies)
    (hsame : ∀ now ∈ moments, now = replies) :
    ∃ more, (follow ⟨.resolve targets id, exchanges⟩ moments).exchanges = exchanges ++ more ∧
      ∀ probe ∈ Probe.ofExchanges more, probe.answer = replies.probe probe.target id := by
  induction targets generalizing exchanges moments with
  | nil =>
      rw [Inquiry.resolve, follow_done]
      exact ⟨[], (List.append_nil _).symm, by simp [Probe.ofExchanges]⟩
  | cons target rest ih =>
      cases firstProbe_follow target rest id exchanges moments with
      | waiting made hprobes hexchanges _ _ => exact ⟨made, hexchanges, by simp [hprobes]⟩
      | found made record hprobes hsearch hsteady =>
          rw [hsearch]
          refine ⟨made, rfl, fun probe hmem => ?_⟩
          rw [hprobes, List.mem_singleton] at hmem
          rw [hmem]
          exact hsteady replies hsame
      | passed made answer later _ hprobes hsearch hlater hsteady =>
          obtain ⟨more, hmore, hrest⟩ := @ih (exchanges ++ made) later
            fun now hnow => hsame now (hlater.1.mem hnow)
          rw [hsearch]
          refine ⟨made ++ more, by rw [hmore, List.append_assoc], fun probe hmem => ?_⟩
          rw [hprobes, List.mem_cons] at hmem
          rcases hmem with rfl | hmem
          · exact hsteady replies hsame
          · exact hrest probe hmem

end Search

end GridFilter
