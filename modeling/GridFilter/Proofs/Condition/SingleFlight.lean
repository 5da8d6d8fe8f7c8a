import GridFilter.Proofs.Condition.Activity
import GridFilter.Session

/-!
# One resolution at a time

Names are looked up while the editor goes on.  Two things could go wrong: a second look-up could
start beside the first, or a late answer could overwrite what was entered in the meantime.
`Activity.SingleFlight` says that neither happens, and `Activity.singleFlight_run` that it holds
after every list of moves on a new condition.

The proof is the distinction of phases (`Activity.Phase`).  The first danger is excluded by the flag
`resolving`, which is up exactly while a resolution is under way.  The second is excluded by the
revision: every edit begins a new one, also an edit that brings back the value that was there
before, so a resolution that was overtaken finds another revision than the one it began with.
-/

namespace GridFilter

/-! ## Starting over in a session -/

lemma Session.controlValue_eq {session : Session} {handle : Nat} {condition : Condition}
    (h : session.condition? handle = some condition) :
    session.controlValue handle = (condition.current.1, session.replace condition.current.2) := by
  rw [controlValue, h]

/-- A load that is called while another one is under way reads the control value and does nothing
else: it asks nothing of the connection and tells the subscribers nothing. -/
lemma Session.startLoad_of_resolving {session : Session} {handle : Nat} {condition : Condition}
    (h : session.condition? handle = some condition) (hresolving : condition.resolving = true) :
    session.startLoad handle =
      (.finished condition.current.1, session.replace condition.current.2) := by
  have hread := Session.controlValue_eq h
  rw [startLoad, h]
  cases session.connection with
  | none =>
      dsimp only
      rw [hread]
  | some connection =>
      dsimp only
      rw [Condition.beginLoad_of_resolving hresolving]
      dsimp only
      rw [hread]

namespace Activity

/-! ## The guarantees -/

/-- What an editor may rely on while names are looked up. -/
structure SingleFlight (activity : Activity) : Prop where
  /-- At most one resolution is under way. -/
  at_most_one : activity.underWay.length ≤ 1
  /-- The condition says that it is loading exactly while one is. -/
  loading_iff : activity.condition.resolving = true ↔ activity.underWay ≠ []
  /-- Subscribers hear of loading in turn: that it begins, that it ends, and so on. -/
  alternating : ∃ count, activity.loadings = alternation count
  /-- A load called while one is under way begins nothing and publishes nothing. -/
  restart : activity.underWay ≠ [] →
    activity.act .startLoad = { activity with condition := activity.condition.current.2 }
  /-- Such a load hands out the current control value, without a request to the metadata
  service. -/
  restart_session : activity.underWay ≠ [] → ∀ (session : Session) (handle : Nat),
    session.condition? handle = some activity.condition →
      (session.startLoad handle).1 = .finished activity.condition.current.1 ∧
        (session.startLoad handle).2.connection = session.connection
  /-- No answer of the service changes the operator or the value on the wire. -/
  finish_criterion : ∀ (index : Nat) (results : List (Option Reference)),
    (activity.act (.finishLoad index results)).condition.operator = activity.condition.operator ∧
      (activity.act (.finishLoad index results)).condition.wire = activity.condition.wire
  /-- An answer that comes after an edit leaves everything as the edits left it. -/
  finish_edited : ∀ (index : Nat) (results : List (Option Reference)) (resolution : Resolution),
    activity.underWay[index]? = some resolution → resolution.edited = true →
      let after := (activity.act (.finishLoad index results)).condition
      after.operator = activity.condition.operator ∧ after.wire = activity.condition.wire ∧
        after.remembered = activity.condition.remembered ∧
        after.current.1 = activity.condition.current.1

variable {activity : Activity}

/-- An answer never changes the criterion, whatever came before it. -/
lemma criterion_finishLoad (activity : Activity) (index : Nat)
    (results : List (Option Reference)) :
    (activity.act (.finishLoad index results)).condition.criterion =
      activity.condition.criterion := by
  rw [act]
  cases activity.underWay[index]? with
  | none => rfl
  | some resolution =>
      dsimp only
      rw [Condition.criterion_snd_current]
      exact (Condition.finishLoad_spec activity.condition resolution.batch results).1

/-- A resolution that was overtaken by an edit finds another revision than its own. -/
lemma Phase.revision_ne (h : activity.Phase) {resolution : Resolution}
    (hmem : resolution ∈ activity.underWay) (hedited : resolution.edited = true) :
    activity.condition.revision ≠ resolution.batch.revision := by
  cases h with
  | idle count _ hnone =>
      rw [hnone] at hmem
      exact absurd hmem List.not_mem_nil
  | loading count only _ hone _ _ hahead =>
      rw [hone, List.mem_singleton] at hmem
      subst hmem
      exact (Nat.ne_of_lt (hahead hedited)).symm

/-- An answer that comes after an edit is dropped. -/
lemma Phase.finishLoad_edited (h : activity.Phase) {index : Nat} {resolution : Resolution}
    (hfound : activity.underWay[index]? = some resolution) (hedited : resolution.edited = true)
    (results : List (Option Reference)) :
    let after := (activity.act (.finishLoad index results)).condition
    after.operator = activity.condition.operator ∧ after.wire = activity.condition.wire ∧
      after.remembered = activity.condition.remembered ∧
      after.current.1 = activity.condition.current.1 := by
  have hstale := h.revision_ne (List.mem_of_getElem? hfound) hedited
  obtain ⟨missed, heq⟩ := Condition.finishLoad_of_stale hstale results
  intro after
  have hafter : after = { activity.condition with
      resolving := false
      unresolvable := activity.condition.unresolvable ++ missed }.current.2 := by
    show (activity.act (.finishLoad index results)).condition = _
    rw [Activity.act, hfound]
    dsimp only
    rw [heq]
  refine ⟨?_, ?_, ?_, ?_⟩
  · rw [hafter, Condition.snd_current]
  · rw [hafter, Condition.snd_current]
  · rw [hafter, Condition.snd_current]
  · rw [hafter, Condition.fst_current_snd, Condition.fst_current, Condition.fst_current]
    rfl

/-- The two phases give all the guarantees. -/
lemma Phase.singleFlight (h : activity.Phase) : activity.SingleFlight := by
  have hloading : activity.condition.resolving = true ↔ activity.underWay ≠ [] := by
    cases h with
    | idle count hresolving hnone => simp [hresolving, hnone]
    | loading count resolution hresolving hone => simp [hresolving, hone]
  refine ⟨?_, hloading, ?_, ?_, ?_, ?_, ?_⟩
  · cases h with
    | idle count _ hnone => simp [hnone]
    | loading count resolution _ hone => simp [hone]
  · cases h with
    | idle count _ _ hcount => exact ⟨_, hcount⟩
    | loading count resolution _ _ hcount => exact ⟨_, hcount⟩
  · intro hbusy
    rw [Activity.act, Condition.beginLoad_of_resolving (hloading.mpr hbusy)]
    simp only [Option.toList_none, List.map_nil, List.append_nil]
  · intro hbusy session handle hcondition
    rw [Session.startLoad_of_resolving hcondition (hloading.mpr hbusy)]
    exact ⟨rfl, rfl⟩
  · intro index results
    have hcriterion := criterion_finishLoad activity index results
    exact ⟨congrArg Criterion.operator hcriterion, congrArg Criterion.wire hcriterion⟩
  · intro index results resolution hfound hedited
    exact h.finishLoad_edited hfound hedited results

lemma phase_run {condition : Condition} (hnew : condition.IsNew) (moves : List Move) :
    (Activity.run { condition := condition } moves).Phase :=
  (Phase.idle 0 hnew.resolving rfl rfl).run moves

/-- Whatever is done with a new condition, and whenever and with whatever results the resolutions
that were begun for it go on, at most one is under way at a time, and none overwrites an edit. -/
theorem singleFlight_run {condition : Condition} (hnew : condition.IsNew)
    (moves : List Move) : (Activity.run { condition := condition } moves).SingleFlight :=
  (phase_run hnew moves).singleFlight

/-- One reference is being looked up when the value is cleared and entered again: the resolution
that is under way has been overtaken. -/
theorem singleFlight_run_overtaken :
    let column : Column := ⟨"ownerid", .owner, { targets := ["contact"] }⟩
    let condition := Condition.hydrated 0 "owner" column ⟨.equal, .list [some "a1"]⟩
    let moves : List Move :=
      [.startLoad, .setValue .null, .startLoad, .setValue (.references [.bare "a1"])]
    condition.IsNew ∧
      (Activity.run { condition := condition } moves).underWay = [⟨⟨0, ["a1"]⟩, true⟩] ∧
      (Activity.run { condition := condition } moves).SingleFlight := by
  intro column condition moves
  have hnew : condition.IsNew := .hydrated 0 "owner" column ⟨.equal, .list [some "a1"]⟩
  exact ⟨hnew, by decide +kernel, singleFlight_run hnew moves⟩

end Activity

end GridFilter
