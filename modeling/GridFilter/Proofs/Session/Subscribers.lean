import GridFilter.Proofs.Condition.Deltas
import GridFilter.Proofs.Session.Revision

/-!
# What subscribers know

A subscriber has a feed, and in it the changes of one condition that it has not read.  A feed keeps
so many and no more, so a subscriber that waits too long loses the oldest; how many it lost, it is
told.  One that lost nothing knows everything: the changes that it read and those in its feed,
applied to what it knew when it subscribed, give the condition as it is
(`Listener.completeDeltas_of_steps`).

That the operations on a condition tell all is the matter of `Condition.TellsAll`.  Here it is
carried through a session, where many conditions are edited and loaded side by side, columns come
and go, other subscribers come and read, and a condition may have left the grid long before its
subscriber looks.

## Steps and parts

`Session.Step` lists what an application does with a session.  A load is one step up to where it has
to wait, and it goes on in another.  Such a step is made of parts (`Session.Part`): an edit that
tells all, a read, and what happens to the connection.  What the parts keep, the steps keep.

## Loads

A step may go on with any load, begun or not, for any condition and with any results.  So nothing is
assumed about which loads are under way or about the order in which they go on.
-/

namespace GridFilter

/-! ## Feeds -/

namespace Feed

variable {α : Type} {feed : Feed α}

/-- The latest items, as many as a feed has room for. -/
def latest (items : List α) : List α :=
  items.drop (items.length - capacity)

/-- What becomes of a feed when items arrive: the latest stay, and the others are counted. -/
def after (feed : Feed α) (items : List α) : Feed α where
  unread := latest (feed.unread ++ items)
  lost := feed.lost + ((feed.unread ++ items).length - capacity)

lemma length_latest (items : List α) : (latest items).length = min items.length capacity := by
  rw [latest, List.length_drop]
  omega

lemma latest_eq_self {items : List α} (h : items.length ≤ capacity) : latest items = items := by
  rw [latest, Nat.sub_eq_zero_of_le h, List.drop_zero]

/-- What was too old before is too old afterwards. -/
lemma latest_latest_append (items later : List α) :
    latest (latest items ++ later) = latest (items ++ later) := by
  have hearlier : latest items ++ later = (items ++ later).drop (items.length - capacity) :=
    (List.drop_append_of_le_length (Nat.sub_le _ _)).symm
  have hdropped : items.length - capacity +
      ((items ++ later).length - (items.length - capacity) - capacity) =
        (items ++ later).length - capacity := by
    rw [List.length_append]
    omega
  rw [latest, hearlier, List.drop_drop, List.length_drop, hdropped, latest]

lemma push_eq (h : feed.unread.length ≤ capacity) (item : α) :
    feed.push item = feed.after [item] := by
  have hlength : (feed.unread ++ [item]).length = feed.unread.length + 1 := by simp
  rw [push, after]
  split
  · next hroom => rw [latest_eq_self hroom, Nat.sub_eq_zero_of_le hroom, Nat.add_zero]
  · next hfull =>
      have hone : (feed.unread ++ [item]).length - capacity = 1 := by omega
      rw [latest, hone, List.drop_one]

/-- Adding items one by one comes to the same as adding them at once. -/
lemma pushAll_eq (h : feed.unread.length ≤ capacity) (items : List α) :
    feed.pushAll items = feed.after items := by
  induction items generalizing feed with
  | nil =>
      rw [after, List.append_nil, latest_eq_self h, Nat.sub_eq_zero_of_le h, Nat.add_zero]
      rfl
  | cons item rest ih =>
      have hpushed : (feed.after [item]).unread.length ≤ capacity := by
        rw [after, length_latest]
        exact Nat.min_le_right _ _
      have hlost : (feed.unread ++ [item]).length - capacity +
          ((latest (feed.unread ++ [item]) ++ rest).length - capacity) =
            (feed.unread ++ [item] ++ rest).length - capacity := by
        have hlatest := length_latest (feed.unread ++ [item])
        simp only [List.length_append] at hlatest ⊢
        omega
      show (feed.push item).pushAll rest = feed.after (item :: rest)
      rw [push_eq h, ih hpushed, ← List.singleton_append (l := rest), after, after, after]
      dsimp only
      rw [latest_latest_append, Nat.add_assoc, hlost, List.append_assoc]

/-- A feed that lost nothing has everything that arrived. -/
lemma unread_after {items : List α} (h : (feed.after items).lost = 0) :
    feed.lost = 0 ∧ (feed.after items).unread = feed.unread ++ items := by
  rw [after, Nat.add_eq_zero_iff] at h
  exact ⟨h.1, latest_eq_self (Nat.le_of_sub_eq_zero h.2)⟩

end Feed

namespace Session

variable {session next : Session} {settings : FilterSettings} {name : String} {handle : Nat}
  {condition : Condition} {change : Condition → List Change × Condition}

/-! ## What is told -/

/-- The entry of a subscriber after changes of a condition were published. -/
lemma get?_publish (session : Session) (handle : Nat) (changes : List Change) (name : String) :
    (session.publish handle changes).feeds.get? name =
      (session.feeds.get? name).map fun entry =>
        if entry.1 = handle then (entry.1, entry.2.pushAll changes) else entry := by
  unfold publish
  dsimp only
  generalize session.feeds = feeds
  induction feeds with
  | nil => rfl
  | cons first rest ih =>
      obtain ⟨other, listened, feed⟩ := first
      by_cases hname : other = name
      · by_cases hlistened : listened = handle <;>
          simp [Association.get?, hname, hlistened]
      · by_cases hlistened : listened = handle <;>
          simp [Association.get?, hname, hlistened, ih]

lemma publish_nil (session : Session) (handle : Nat) : session.publish handle [] = session := by
  have hentry : ∀ entry : String × Nat × Feed Change,
      (if entry.2.1 = handle then (entry.1, entry.2.1, entry.2.2.pushAll [])
        else (entry.1, entry.2.1, entry.2.2)) = entry :=
    fun entry => ite_self entry
  rw [publish]
  exact congrArg (fun feeds => { session with feeds := feeds })
    ((List.map_congr_left fun entry _ => hentry entry).trans (List.map_id _))

lemma edit_eq (h : session.condition? handle = some condition) :
    session.edit handle change =
      ((change condition).1,
        (session.replace (change condition).2).publish handle (change condition).1) := by
  rw [edit, h]

/-- Whoever listens to the condition that is edited is told what the edit returns, and whoever
listens to another one is told nothing. -/
lemma get?_edit (h : session.condition? handle = some condition)
    (change : Condition → List Change × Condition) {listened : Nat} {feed : Feed Change}
    (hfeed : session.feeds.get? name = some (listened, feed))
    (hroom : feed.unread.length ≤ Feed.capacity) :
    (session.edit handle change).2.feeds.get? name =
      some (listened,
        if listened = handle then feed.after (session.edit handle change).1 else feed) := by
  have hfeeds : (session.replace (change condition).2).feeds.get? name = some (listened, feed) :=
    hfeed
  rw [edit_eq h]
  dsimp only
  rw [get?_publish, hfeeds, Option.map_some, Feed.pushAll_eq hroom]
  split <;> rfl

/-- A subscriber that reads leaves the feeds of the others alone. -/
lemma get?_drain_of_ne {other : String} (h : other ≠ name) :
    (session.drain other).2.feeds.get? name = session.feeds.get? name := by
  rw [drain]
  split
  · rfl
  · dsimp only
    rw [Association.get?_put, if_neg h]

/-- Setting the operator that is set already leaves the whole session as it is. -/
lemma setOperator_self (hsound : session.Sound settings)
    (h : session.condition? handle = some condition) :
    session.setOperator handle condition.operator = ([], session) := by
  have htouch : touch condition.handle id = id := by
    funext other
    exact ite_self other
  have hrevises : session.Revises id (session.replace condition) := by
    have hreplaced := hsound.replace id (mem_stock_of_condition? h).1 rfl
    rwa [htouch] at hreplaced
  have hreplace : session.replace condition = session := by
    have hgrid := hrevises.grid.trans (Grid.mapConditions_id session.grid)
    have hdetached := hrevises.detached.trans (List.map_id session.detached)
    calc session.replace condition
        = { session with
            grid := (session.replace condition).grid
            detached := (session.replace condition).detached } := rfl
      _ = session := by rw [hgrid, hdetached]
  rw [setOperator, edit_eq h, Condition.setOperator_self]
  dsimp only
  rw [hreplace, publish_nil]

/-! ## What happens to a session -/

/-- No column is open, and nobody listens. -/
def start (settings : FilterSettings) (connection : Option Connection) : Session where
  grid := { settings := settings }
  connection := connection

/-- One thing that an application does with the columns, the conditions or the connection. -/
inductive Step (session : Session) : Session → Prop where
  | grid {grid : Grid} (h : session.grid.Step grid) : Step session (session.withGrid grid)
  | setOperator (handle : Nat) (operator : Operator) :
      Step session (session.setOperator handle operator).2
  | setValue (handle : Nat) (value : ControlValue) : Step session (session.setValue handle value).2
  | controlValue (handle : Nat) : Step session (session.controlValue handle).2
  | startLoad (handle : Nat) : Step session (session.startLoad handle).2
  | finishLoad (load : Load) : Step session (session.finishLoad load).2
  | updateConnection (change : Connection → Connection) :
      Step session (session.updateConnection change)

/-- A step, or something that a subscriber does. -/
inductive Move (session : Session) : Session → Prop where
  | step {next : Session} (h : session.Step next) : Move session next
  | subscribe (name : String) (handle : Nat) : Move session (session.subscribe name handle)
  | drain (name : String) : Move session (session.drain name).2

/-- What the steps are made of. -/
inductive Part (session : Session) : Session → Prop where
  | grid {grid : Grid} (h : session.grid.Step grid) : Part session (session.withGrid grid)
  | edit (handle : Nat) {change : Condition → List Change × Condition}
      (h : Condition.TellsAll change) : Part session (session.edit handle change).2
  | controlValue (handle : Nat) : Part session (session.controlValue handle).2
  | connection (connection : Option Connection) :
      Part session { session with connection := connection }

/-! ### The parts of a load -/

lemma parts_settle (session : Session) (handle : Nat) (batch : Batch)
    (searches : List (Progress (Option Reference))) :
    Relation.ReflTransGen Part session (session.settle handle batch searches).2 := by
  rw [settle]
  split
  · exact (Relation.ReflTransGen.single (.edit handle (.finishLoad batch _))).tail
      (.controlValue handle)
  · exact .refl

lemma parts_startLoad (session : Session) (handle : Nat) :
    Relation.ReflTransGen Part session (session.startLoad handle).2 := by
  have hread : Relation.ReflTransGen Part session (session.controlValue handle).2 :=
    .single (.controlValue handle)
  rw [startLoad]
  cases session.connection with
  | none => exact hread
  | some connection =>
      cases hfound : session.condition? handle with
      | none => exact hread
      | some condition =>
          dsimp only
          cases hbegin : condition.beginLoad with
          | mk batch? rest =>
              cases batch? with
              | none => exact hread
              | some batch =>
                  obtain ⟨changes, begun⟩ := rest
                  have hedit : (session.edit handle (·.beginLoad.2)).2 =
                      (session.replace begun).publish handle changes := by
                    rw [edit_eq hfound]
                    dsimp only
                    rw [hbegin]
                  have hbegun : Relation.ReflTransGen Part session
                      ((session.replace begun).publish handle changes) := by
                    rw [← hedit]
                    exact .single (.edit handle .beginLoad)
                  exact (hbegun.tail (.connection _)).trans (parts_settle _ handle batch _)

lemma parts_finishLoad (session : Session) (load : Load) :
    Relation.ReflTransGen Part session (session.finishLoad load).2 := by
  cases load with
  | finished value => exact .refl
  | underWay handle batch searches =>
      rw [finishLoad]
      cases session.connection with
      | none => exact .refl
      | some connection =>
          exact (Relation.ReflTransGen.single (.connection _)).trans (parts_settle _ handle batch _)

lemma Step.parts (h : session.Step next) : Relation.ReflTransGen Part session next := by
  cases h with
  | grid hgrid => exact .single (.grid hgrid)
  | setOperator handle operator => exact .single (.edit handle (.setOperator operator))
  | setValue handle value => exact .single (.edit handle (.setValue value))
  | controlValue handle => exact .single (.controlValue handle)
  | startLoad handle => exact parts_startLoad session handle
  | finishLoad load => exact parts_finishLoad session load
  | updateConnection change => exact .single (.connection _)

/-! ### Sound sessions -/

/-- Feeds and connection are no matter of soundness. -/
lemma Sound.of_same (h : session.Sound settings) (hgrid : next.grid = session.grid)
    (hdetached : next.detached = session.detached) : next.Sound settings := by
  have hrevises : session.Revises id next :=
    ⟨hgrid.trans (Grid.mapConditions_id session.grid).symm,
      hdetached.trans (List.map_id session.detached).symm⟩
  exact h.of_revises hrevises fun _ _ => .refl

lemma Sound.drain (h : session.Sound settings) (name : String) :
    (session.drain name).2.Sound settings := by
  rw [Session.drain]
  split
  · exact h
  · exact h.of_same rfl rfl

lemma Sound.part (h : session.Sound settings) (hpart : session.Part next) :
    next.Sound settings := by
  cases hpart with
  | grid hgrid => exact h.withGrid hgrid
  | edit handle htells => exact h.of_edit htells.step handle
  | controlValue handle =>
      refine h.of_revises (h.controlValue handle) fun condition _ => ?_
      exact related_touch _ (fun _ => .refl) (fun _ => .single .read) condition
  | connection connection => exact h.of_same rfl rfl

lemma Sound.parts (h : session.Sound settings) (hparts : Relation.ReflTransGen Part session next) :
    next.Sound settings := by
  induction hparts with
  | refl => exact h
  | tail _ hpart ih => exact ih.part hpart

lemma Sound.moves (h : session.Sound settings)
    (hmoves : Relation.ReflTransGen Move session next) : next.Sound settings := by
  induction hmoves with
  | refl => exact h
  | tail _ hmove ih =>
      cases hmove with
      | step hstep => exact ih.parts hstep.parts
      | subscribe name handle => exact ih.of_same rfl rfl
      | drain name => exact ih.drain name

/-- A condition that leaves the grid stays with the session. -/
lemma Sound.mem_withGrid (h : session.Sound settings) {grid : Grid}
    (hstep : session.grid.Step grid) (hmem : condition ∈ session.stock) :
    condition ∈ (session.withGrid grid).stock := by
  rcases List.mem_append.mp hmem with hgrid | hdetached
  · cases hfound : grid.condition? condition.handle with
    | none =>
        refine List.mem_append_right _ (List.mem_append_right _ ?_)
        exact List.mem_filter.mpr ⟨hgrid, by rw [hfound]; rfl⟩
    | some found =>
        have hin : found ∈ (session.withGrid grid).stock :=
          List.mem_append_left _ (List.mem_of_find?_eq_some hfound)
        have hhandle : found.handle = condition.handle := by
          rw [Grid.condition?] at hfound
          have hsame := List.find?_some hfound
          exact of_decide_eq_true hsame
        -- No new condition has a handle that was given out.
        obtain ⟨-, new, hnumbered, hconditions⟩ := hstep.grows h.orderly
        have hold : found ∈ session.stock := by
          rcases mem_stock_withGrid hconditions hin with hold | hnew
          · exact hold
          · have hlow := hnumbered.lower found hnew
            have hhigh := h.handle_lt condition hmem
            omega
        rwa [h.handle_unique found hold condition hmem hhandle] at hin
  · exact List.mem_append_right _ (List.mem_append_left _ hdetached)

end Session

/-! ## Listening -/

/-- A session, one of its subscribers, and what that subscriber has read and was told it lost. -/
structure Listener where
  session : Session
  name : String
  heard : List Change := []
  lost : Nat := 0

/-- Somebody subscribes to a condition, and listens from now on. -/
def Session.listenedBy (session : Session) (name : String) (handle : Nat) : Listener where
  session := session.subscribe name handle
  name := name

namespace Listener

variable {listener next : Listener} {settings : FilterSettings} {handle : Nat}
  {known : Observation} {feed : Feed Change} {condition : Condition}

/-- The same subscriber, with the session as it is now. -/
def on (listener : Listener) (session : Session) : Listener :=
  { listener with session := session }

/-- The subscriber reads its feed. -/
def read (listener : Listener) : Listener :=
  match listener.session.drain listener.name with
  | (none, session) => listener.on session
  | (some (_, feed), session) =>
    { session := session
      name := listener.name
      heard := listener.heard ++ feed.unread
      lost := listener.lost + feed.lost }

/-- What happens while somebody listens: a step of the session, a read, or something that another
subscriber does. -/
inductive Step (listener : Listener) : Listener → Prop where
  | session {next : Session} (h : listener.session.Step next) : Step listener (listener.on next)
  | read : Step listener listener.read
  | subscribe (other : String) (handle : Nat) (h : other ≠ listener.name) :
      Step listener (listener.on (listener.session.subscribe other handle))
  | drain (other : String) (h : other ≠ listener.name) :
      Step listener (listener.on (listener.session.drain other).2)

/-! ### The invariant -/

/-- A subscriber that lost nothing knows the condition from what it read and what it has not. -/
structure Informed (listener : Listener) (handle : Nat) (known : Observation) (feed : Feed Change)
    (condition : Condition) : Prop where
  listens : listener.session.feeds.get? listener.name = some (handle, feed)
  mem : condition ∈ listener.session.stock
  handle_eq : condition.handle = handle
  room : feed.unread.length ≤ Feed.capacity
  full_of_lost : feed.lost ≠ 0 → feed.unread.length = Feed.capacity
  heard_of_lost : listener.lost ≠ 0 → Feed.capacity ≤ listener.heard.length
  replay : listener.lost = 0 → feed.lost = 0 →
    known.follow (listener.heard ++ feed.unread) = condition.observation

lemma Informed.found (h : listener.Informed handle known feed condition)
    (hsound : listener.session.Sound settings) :
    listener.session.condition? handle = some condition := by
  rw [← h.handle_eq]
  exact hsound.condition?_eq_some h.mem

/-- What becomes of the condition without anything being told must not be observable. -/
lemma Informed.of_untold (h : listener.Informed handle known feed condition) {session : Session}
    {after : Condition} (hfeed : session.feeds.get? listener.name = listener.session.feeds.get?
      listener.name) (hmem : after ∈ session.stock) (hhandle : after.handle = condition.handle)
    (hobservation : after.observation = condition.observation) :
    (listener.on session).Informed handle known feed after where
  listens := hfeed.trans h.listens
  mem := hmem
  handle_eq := hhandle.trans h.handle_eq
  room := h.room
  full_of_lost := h.full_of_lost
  heard_of_lost := h.heard_of_lost
  replay := fun hlost hfeed => (h.replay hlost hfeed).trans hobservation.symm

/-- What is told of the condition must lead from what was to be observed to what is. -/
lemma Informed.of_told (h : listener.Informed handle known feed condition) {session : Session}
    {after : Condition} {changes : List Change}
    (hfeed : session.feeds.get? listener.name = some (handle, feed.after changes))
    (hmem : after ∈ session.stock) (hhandle : after.handle = condition.handle)
    (hfollow : condition.observation.follow changes = after.observation) :
    (listener.on session).Informed handle known (feed.after changes) after where
  listens := hfeed
  mem := hmem
  handle_eq := hhandle.trans h.handle_eq
  room := by
    rw [Feed.after, Feed.length_latest]
    exact Nat.min_le_right _ _
  full_of_lost := by
    intro hlost
    rw [Feed.after, Feed.length_latest, List.length_append]
    rw [Feed.after, List.length_append] at hlost
    -- A feed that lost something before is still full.
    have hfull := h.full_of_lost
    dsimp only at hlost ⊢
    omega
  heard_of_lost := h.heard_of_lost
  replay := by
    intro hlost hfeed
    obtain ⟨hbefore, hunread⟩ := Feed.unread_after hfeed
    have hreplay := h.replay hlost hbefore
    show known.follow (listener.heard ++ (feed.after changes).unread) = after.observation
    rw [hunread, ← List.append_assoc, Observation.follow_append, hreplay, hfollow]

lemma Informed.edit (h : listener.Informed handle known feed condition)
    (hsound : listener.session.Sound settings) {change : Condition → List Change × Condition}
    (htells : Condition.TellsAll change) (edited : Nat) :
    ∃ feed condition,
      (listener.on (listener.session.edit edited change).2).Informed handle known feed
        condition := by
  have hhandle : ∀ condition, (change condition).2.handle = condition.handle :=
    fun condition => (htells.step condition).identity.handle
  have hin : Session.touch edited (fun condition => (change condition).2) condition ∈
      (listener.session.edit edited change).2.stock := by
    rw [(hsound.edit hhandle edited).stock]
    exact List.mem_map_of_mem h.mem
  by_cases hsame : edited = handle
  · subst hsame
    have hfound := h.found hsound
    have hentry := Session.get?_edit hfound change h.listens h.room
    have htold : (listener.session.edit edited change).1 = (change condition).1 := by
      rw [Session.edit_eq hfound]
    rw [if_pos rfl, htold] at hentry
    rw [Session.touch_of_handle_eq h.handle_eq] at hin
    exact ⟨_, _, h.of_told hentry hin (hhandle condition) (htells.follow condition)⟩
  · rw [Session.touch_of_handle_ne fun heq => hsame (heq.symm.trans h.handle_eq)] at hin
    refine ⟨feed, condition, h.of_untold ?_ hin rfl rfl⟩
    cases hfound : listener.session.condition? edited with
    | none => rw [Session.edit, hfound]
    | some found =>
        rw [Session.get?_edit hfound change h.listens h.room, if_neg (Ne.symm hsame), h.listens]

lemma Informed.part (h : listener.Informed handle known feed condition)
    (hsound : listener.session.Sound settings) {session : Session}
    (hpart : listener.session.Part session) :
    ∃ feed condition, (listener.on session).Informed handle known feed condition := by
  cases hpart with
  | grid hgrid => exact ⟨feed, condition, h.of_untold rfl (hsound.mem_withGrid hgrid h.mem) rfl rfl⟩
  | edit edited htells => exact h.edit hsound htells edited
  | controlValue read =>
      let after := Session.touch read (fun condition => condition.current.2) condition
      have hin : after ∈ (listener.session.controlValue read).2.stock := by
        rw [(hsound.controlValue read).stock]
        exact List.mem_map_of_mem h.mem
      have hsame : after.handle = condition.handle ∧ after.observation = condition.observation :=
        Session.related_touch
          (fun before after => after.handle = before.handle ∧
            after.observation = before.observation)
          (fun _ => ⟨rfl, rfl⟩)
          (fun condition => ⟨Condition.Step.read.identity.handle,
            Condition.observation_snd_current condition⟩) condition
      refine ⟨feed, after, h.of_untold ?_ hin hsame.1 hsame.2⟩
      rw [Session.controlValue]
      split <;> rfl
  | connection connection => exact ⟨feed, condition, h.of_untold rfl h.mem rfl rfl⟩

lemma Informed.parts (h : listener.Informed handle known feed condition)
    (hsound : listener.session.Sound settings) {session : Session}
    (hparts : Relation.ReflTransGen Session.Part listener.session session) :
    ∃ feed condition, (listener.on session).Informed handle known feed condition := by
  induction hparts with
  | refl => exact ⟨feed, condition, h⟩
  | tail hbefore hpart ih =>
      obtain ⟨feed, condition, hinformed⟩ := ih
      exact Informed.part hinformed (hsound.parts hbefore) hpart

/-- What was read is known, and the feed is empty. -/
lemma Informed.read (h : listener.Informed handle known feed condition) :
    listener.read.Informed handle known {} condition := by
  have hread : listener.read =
      { session := { listener.session with
          feeds := listener.session.feeds.put listener.name (handle, {}) }
        name := listener.name
        heard := listener.heard ++ feed.unread
        lost := listener.lost + feed.lost } := by
    rw [Listener.read, Session.drain, h.listens]
  rw [hread]
  refine ⟨?_, h.mem, h.handle_eq, Nat.zero_le _, fun hlost => absurd rfl hlost, ?_, ?_⟩
  · dsimp only
    rw [Association.get?_put, if_pos rfl]
  · intro hlost
    dsimp only at hlost ⊢
    have hbefore := h.heard_of_lost
    have hfeed := h.full_of_lost
    rw [List.length_append]
    omega
  · intro hlost _
    obtain ⟨hbefore, hfeed⟩ := Nat.add_eq_zero_iff.mp hlost
    dsimp only
    rw [List.append_nil]
    exact h.replay hbefore hfeed

/-- Whatever happens, the subscriber stays informed. -/
lemma Informed.step (h : listener.Informed handle known feed condition)
    (hsound : listener.session.Sound settings) (hstep : listener.Step next) :
    next.session.Sound settings ∧ ∃ feed condition, next.Informed handle known feed condition := by
  cases hstep with
  | session hsession => exact ⟨hsound.parts hsession.parts, h.parts hsound hsession.parts⟩
  | read =>
      refine ⟨?_, {}, condition, h.read⟩
      rw [Listener.read, Session.drain, h.listens]
      exact hsound.of_same rfl rfl
  | subscribe other otherHandle hother =>
      refine ⟨hsound.of_same rfl rfl, feed, condition, h.of_untold ?_ h.mem rfl rfl⟩
      rw [Session.subscribe, Association.get?_put, if_neg hother]
  | drain other hother =>
      refine ⟨hsound.drain other, feed, condition, h.of_untold
        (Session.get?_drain_of_ne hother) ?_ rfl rfl⟩
      rw [Session.drain]
      split <;> exact h.mem

lemma Informed.steps (h : listener.Informed handle known feed condition)
    (hsound : listener.session.Sound settings)
    (hsteps : Relation.ReflTransGen Step listener next) :
    next.session.Sound settings ∧ ∃ feed condition, next.Informed handle known feed condition := by
  induction hsteps with
  | refl => exact ⟨hsound, feed, condition, h⟩
  | tail _ hstep ih =>
      obtain ⟨hbefore, feed, condition, hinformed⟩ := ih
      exact hinformed.step hbefore hstep

lemma informed_listenedBy {session : Session} (h : session.condition? handle = some condition)
    (name : String) :
    (session.listenedBy name handle).Informed handle condition.observation {} condition := by
  obtain ⟨hmem, hhandle⟩ := Session.mem_stock_of_condition? h
  refine ⟨?_, hmem, hhandle, Nat.zero_le _, fun hlost => absurd rfl hlost,
    fun hlost => absurd rfl hlost, fun _ _ => rfl⟩
  show (session.feeds.put name (handle, {})).get? name = some (handle, {})
  rw [Association.get?_put, if_pos rfl]

/-! ### The guarantees -/

/-- What a subscriber of a condition and those who edit it may rely on. -/
structure CompleteDeltas (listener : Listener) (handle : Nat) (known : Observation)
    (feed : Feed Change) (condition : Condition) : Prop where
  /-- The subscriber has a feed of the condition, which is still there. -/
  listens : listener.session.feeds.get? listener.name = some (handle, feed)
  found : listener.session.condition? handle = some condition
  /-- If nothing was lost, all changes that the subscriber read or has yet to read, applied in order
  to what it knew, leave the present operator, value and flag. -/
  replay : listener.lost = 0 → feed.lost = 0 →
    known.follow (listener.heard ++ feed.unread) =
      ⟨condition.operator, condition.wire, condition.resolving⟩
  /-- A feed loses nothing before it is full, and a subscriber that lost something has read a full
  one. -/
  full_of_lost : feed.lost ≠ 0 → feed.unread.length = Feed.capacity
  heard_of_lost : listener.lost ≠ 0 → Feed.capacity ≤ listener.heard.length
  /-- Setting the operator returns the changes that arrive in the feed, in that order. -/
  setOperator_returns : ∀ operator,
    (listener.session.setOperator handle operator).2.feeds.get? listener.name =
      some (handle, feed.after (listener.session.setOperator handle operator).1)
  /-- So does setting the value. -/
  setValue_returns : ∀ value,
    (listener.session.setValue handle value).2.feeds.get? listener.name =
      some (handle, feed.after (listener.session.setValue handle value).1)
  /-- Setting the operator that is set tells nobody anything and leaves everything as it is. -/
  setOperator_same :
    listener.session.setOperator handle condition.operator = ([], listener.session)

lemma Informed.completeDeltas (h : listener.Informed handle known feed condition)
    (hsound : listener.session.Sound settings) :
    listener.CompleteDeltas handle known feed condition := by
  have hfound := h.found hsound
  have hreturns : ∀ change : Condition → List Change × Condition,
      (listener.session.edit handle change).2.feeds.get? listener.name =
        some (handle, feed.after (listener.session.edit handle change).1) := by
    intro change
    rw [Session.get?_edit hfound change h.listens h.room, if_pos rfl]
  exact
    { listens := h.listens
      found := hfound
      replay := h.replay
      full_of_lost := h.full_of_lost
      heard_of_lost := h.heard_of_lost
      setOperator_returns := fun operator => hreturns (·.setOperator operator)
      setValue_returns := fun value => hreturns (·.setValue value)
      setOperator_same := Session.setOperator_self hsound hfound }

/-- Whatever happens to a session before and after somebody subscribes to a condition, and whenever
loads go on, the subscriber knows from the changes alone where the condition stands.  It begins with
the condition as it is when it subscribes; a new condition is not loading. -/
theorem completeDeltas_of_steps (settings : FilterSettings) (connection : Option Connection)
    {session : Session}
    (hmoves : Relation.ReflTransGen Session.Move (.start settings connection) session)
    (hfound : session.condition? handle = some condition) (name : String)
    (hsteps : Relation.ReflTransGen Step (session.listenedBy name handle) listener) :
    (condition.IsNew → condition.resolving = false) ∧
      ∃ feed present, listener.CompleteDeltas handle
        ⟨condition.operator, condition.wire, condition.resolving⟩ feed present := by
  have hstart : (Session.start settings connection).Sound settings :=
    Session.sound_of_empty rfl rfl
  have hsound := hstart.moves hmoves
  have hsubscribed : (session.listenedBy name handle).session.Sound settings :=
    hsound.of_same rfl rfl
  obtain ⟨hnow, feed, present, hinformed⟩ :=
    (informed_listenedBy hfound name).steps hsubscribed hsteps
  exact ⟨fun hnew => hnew.resolving, feed, present, hinformed.completeDeltas hnow⟩

/-- While the name of a reference is sought, the operator is switched to a pattern and back.  The
list that comes back is told, and the load, now overtaken, tells no value. -/
theorem completeDeltas_of_steps_restored :
    let owner : Column := ⟨"ownerid", .owner, { targets := ["contact"] }⟩
    let report : FilterExpression :=
      { conditions := [⟨"ownerid", none, .equal, .list [some "a1"]⟩] }
    let connection : Connection := { service := { source := .memory {} }, held := true }
    let hydrated := (Session.start {} (some connection)).withGrid
      ((Session.start {} (some connection)).grid.datasetChanged report)
    let opened := hydrated.withGrid (hydrated.grid.openColumn owner)
    let listening := opened.listenedBy "editor" 0
    let loading := listening.on (listening.session.startLoad 0).2
    let matching := (loading.on (loading.session.setOperator 0 .containsData).2).read
    let restored := matching.on (matching.session.setOperator 0 .equal).2
    let released := restored.on
      (restored.session.updateConnection fun connection => { connection with held := false })
    let finished := released.on (released.session.finishLoad (listening.session.startLoad 0).1).2
    let unread : List Change :=
      [.operatorChanged .equal, .valueChanged (.list [some "a1"]), .loadingChanged false]
    (opened.condition? 0).map (·.observation) = some ⟨.equal, .list [some "a1"], false⟩ ∧
      finished.heard =
        [.loadingChanged true, .operatorChanged .containsData, .valueChanged .null] ∧
      finished.lost = 0 ∧
      finished.session.feeds.get? "editor" = some (0, { unread := unread }) ∧
      ∃ present, finished.CompleteDeltas 0 ⟨.equal, .list [some "a1"], false⟩ { unread := unread }
        present := by
  intro owner report connection hydrated opened listening loading matching restored released
    finished unread
  have hmoves : Relation.ReflTransGen Session.Move (.start {} (some connection)) opened :=
    (Relation.ReflTransGen.single (.step (.grid (.datasetChanged report)))).tail
      (.step (.grid (.openColumn owner)))
  have hsteps : Relation.ReflTransGen Step listening finished :=
    (((((Relation.ReflTransGen.single (.session (.startLoad 0))).tail
      (.session (.setOperator 0 .containsData))).tail .read).tail
        (.session (.setOperator 0 .equal))).tail (.session (.updateConnection _))).tail
          (.session (.finishLoad _))
  have hobservation : (opened.condition? 0).map (·.observation) =
      some ⟨.equal, .list [some "a1"], false⟩ := by decide +kernel
  have hfeed : finished.session.feeds.get? "editor" = some (0, { unread := unread }) := by
    decide +kernel
  obtain ⟨condition, hfound, hknown⟩ := Option.map_eq_some_iff.mp hobservation
  obtain ⟨-, feed, present, hdeltas⟩ :=
    completeDeltas_of_steps {} (some connection) hmoves hfound "editor" hsteps
  obtain rfl : feed = { unread := unread } :=
    congrArg Prod.snd (Option.some.inj (hdeltas.listens.symm.trans hfeed))
  refine ⟨hobservation, by decide +kernel, by decide +kernel, hfeed, present, ?_⟩
  rwa [← hknown]

end Listener

end GridFilter
