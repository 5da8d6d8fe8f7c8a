import GridFilter.Proofs.Session.Revision

/-!
# Sessions in use

A `Workspace` is a session with the loads that wait for the metadata service.  Its actions are what
an application can do with a grid: open and close columns, report the dataset's expression, read a
column anew, add and remove conditions, edit a condition, read its control value, start a load and
go on with one that waits.  `Workspace.run` carries out a list of actions; what is *reachable* is
what some list of actions reaches from the empty grid.

## The service

A load goes on with any results at any time, so nothing is assumed about the metadata service or
about the order of its answers.  A session's own loads, which ask a connection, are among the runs:
`exists_run_startLoad` and `exists_run_finishLoad` give the actions that do the same to everything
but the connection.

## What holds of every run

`sound_run` says that every reachable session is `Session.Sound`.  Each action either goes on with
the grid or touches one condition (`act_cases`), and both keep the invariant.
-/

namespace GridFilter

/-- A session and the loads that wait, each with the handle of its condition. -/
structure Workspace where
  session : Session
  underWay : List (Nat × Batch) := []

namespace Workspace

/-! ## Actions -/

/-- What an application can do. -/
inductive Action where
  | openColumn (column : Column)
  /-- The dataset reports its expression. -/
  | datasetChanged (expression : FilterExpression)
  | rebuildColumn (name : String) (expression : FilterExpression)
  | addCondition (name id : String)
  | removeCondition (name id : String)
  | clearColumn (name : String)
  /-- Every column is closed. -/
  | clear
  | setOperator (handle : Nat) (operator : Operator)
  | setValue (handle : Nat) (value : ControlValue)
  | controlValue (handle : Nat)
  | startLoad (handle : Nat)
  /-- The load at a place in the order goes on with the results for its ids. -/
  | finishLoad (index : Nat) (results : List (Option Reference))

/-- The grid goes on. -/
def withGrid (workspace : Workspace) (grid : Grid) : Workspace :=
  { workspace with session := workspace.session.withGrid grid }

/-- The batch of ids that a load of a condition has to look up, if it has to. -/
def batch? (session : Session) (handle : Nat) : Option Batch :=
  (session.condition? handle).bind fun condition => condition.beginLoad.1

/-- What an action does. -/
def act (workspace : Workspace) : Action → Workspace
  | .openColumn column => workspace.withGrid (workspace.session.grid.openColumn column)
  | .datasetChanged expression =>
    workspace.withGrid (workspace.session.grid.datasetChanged expression)
  | .rebuildColumn name expression =>
    workspace.withGrid (workspace.session.grid.rebuildColumn name expression)
  | .addCondition name id => workspace.withGrid (workspace.session.grid.addCondition name id)
  | .removeCondition name id =>
    workspace.withGrid (workspace.session.grid.removeCondition name id)
  | .clearColumn name => workspace.withGrid (workspace.session.grid.clearColumn name)
  | .clear => workspace.withGrid workspace.session.grid.clear
  | .setOperator handle operator =>
    { workspace with session := (workspace.session.setOperator handle operator).2 }
  | .setValue handle value =>
    { workspace with session := (workspace.session.setValue handle value).2 }
  | .controlValue handle =>
    { workspace with session := (workspace.session.controlValue handle).2 }
  | .startLoad handle =>
    { session := (workspace.session.edit handle fun condition => condition.beginLoad.2).2
      underWay :=
        workspace.underWay ++ (batch? workspace.session handle).toList.map (handle, ·) }
  | .finishLoad index results =>
    match workspace.underWay[index]? with
    | none => workspace
    | some (handle, batch) =>
      let session := (workspace.session.edit handle (·.finishLoad batch results)).2
      { session := (session.controlValue handle).2
        underWay := workspace.underWay.eraseIdx index }

/-- What a list of actions does. -/
def run (workspace : Workspace) (actions : List Action) : Workspace :=
  actions.foldl act workspace

/-- No column is open, and the dataset has not reported anything. -/
def start (settings : FilterSettings) : Workspace where
  session := { grid := { settings := settings } }

@[simp] lemma run_nil (workspace : Workspace) : workspace.run [] = workspace := rfl

@[simp] lemma run_cons (workspace : Workspace) (action : Action) (rest : List Action) :
    workspace.run (action :: rest) = (workspace.act action).run rest := rfl

lemma run_append (workspace : Workspace) (actions others : List Action) :
    workspace.run (actions ++ others) = (workspace.run actions).run others :=
  List.foldl_append

/-! ## Actions on a condition -/

/-- The condition that an action touches, and what the action does to it. -/
def touched? (workspace : Workspace) : Action → Option (Nat × (Condition → Condition))
  | .setOperator handle operator =>
    some (handle, fun condition => (condition.setOperator operator).2)
  | .setValue handle value => some (handle, fun condition => (condition.setValue value).2)
  | .controlValue handle => some (handle, fun condition => condition.current.2)
  | .startLoad handle => some (handle, fun condition => condition.beginLoad.2.2)
  | .finishLoad index results =>
    workspace.underWay[index]?.map fun load =>
      (load.1, fun condition => (condition.finishLoad load.2 results).2.current.2)
  | _ => none

variable {workspace : Workspace} {settings : FilterSettings} {action : Action}

/-- What an action does to the condition that it touches is a number of steps. -/
lemma steps_of_touched? {handle : Nat} {change : Condition → Condition}
    (h : workspace.touched? action = some (handle, change)) (condition : Condition) :
    Relation.ReflTransGen Condition.Step condition (change condition) := by
  cases action with
  | setOperator other operator =>
      obtain ⟨rfl, rfl⟩ := Prod.mk.inj (Option.some.inj h)
      exact .single (.setOperator operator)
  | setValue other value =>
      obtain ⟨rfl, rfl⟩ := Prod.mk.inj (Option.some.inj h)
      exact .single (.setValue value)
  | controlValue other =>
      obtain ⟨rfl, rfl⟩ := Prod.mk.inj (Option.some.inj h)
      exact .single .read
  | startLoad other =>
      obtain ⟨rfl, rfl⟩ := Prod.mk.inj (Option.some.inj h)
      exact .single .beginLoad
  | finishLoad index results =>
      obtain ⟨load, -, hload⟩ := Option.map_eq_some_iff.mp h
      obtain ⟨rfl, rfl⟩ := Prod.mk.inj hload
      exact .tail (.single (.finishLoad load.2 results)) .read
  | _ => exact absurd h.symm (Option.some_ne_none _)

/-- An action that touches a condition does nothing else to the session. -/
lemma revises_of_touched? (h : workspace.session.Sound settings) {handle : Nat}
    {change : Condition → Condition}
    (htouched : workspace.touched? action = some (handle, change)) :
    workspace.session.Revises (Session.touch handle change) (workspace.act action).session := by
  cases action with
  | setOperator other operator =>
      obtain ⟨rfl, rfl⟩ := Prod.mk.inj (Option.some.inj htouched)
      exact h.edit (fun _ => (Condition.Step.setOperator operator).identity.handle) other
  | setValue other value =>
      obtain ⟨rfl, rfl⟩ := Prod.mk.inj (Option.some.inj htouched)
      exact h.edit (fun _ => (Condition.Step.setValue value).identity.handle) other
  | controlValue other =>
      obtain ⟨rfl, rfl⟩ := Prod.mk.inj (Option.some.inj htouched)
      exact h.controlValue other
  | startLoad other =>
      obtain ⟨rfl, rfl⟩ := Prod.mk.inj (Option.some.inj htouched)
      exact h.edit (fun _ => Condition.Step.beginLoad.identity.handle) other
  | finishLoad index results =>
      obtain ⟨⟨other, batch⟩, hfound, hload⟩ := Option.map_eq_some_iff.mp htouched
      obtain ⟨rfl, rfl⟩ := Prod.mk.inj hload
      have hhandle : ∀ condition : Condition,
          (condition.finishLoad batch results).2.handle = condition.handle :=
        fun condition => (Condition.Step.finishLoad batch results).identity.handle
      have hsound := h.of_edit (fun _ => .finishLoad batch results) other
      rw [act, hfound]
      have hread := (h.edit hhandle other).trans (hsound.controlValue other)
      rwa [Session.touch_comp_touch hhandle] at hread
  | _ => exact absurd htouched.symm (Option.some_ne_none _)

/-! ## Every action -/

/-- An action goes on with the grid, or it touches a condition, or it does nothing. -/
lemma act_cases (workspace : Workspace) (action : Action) :
    (∃ grid, workspace.session.grid.Step grid ∧
        workspace.act action = workspace.withGrid grid) ∨
      (∃ handle change, workspace.touched? action = some (handle, change)) ∨
      workspace.act action = workspace := by
  cases action with
  | openColumn column => exact .inl ⟨_, .openColumn column, rfl⟩
  | datasetChanged expression => exact .inl ⟨_, .datasetChanged expression, rfl⟩
  | rebuildColumn name expression => exact .inl ⟨_, .rebuildColumn name expression, rfl⟩
  | addCondition name id => exact .inl ⟨_, .addCondition name id, rfl⟩
  | removeCondition name id => exact .inl ⟨_, .removeCondition name id, rfl⟩
  | clearColumn name => exact .inl ⟨_, .clearColumn name, rfl⟩
  | clear => exact .inl ⟨_, .clear, rfl⟩
  | setOperator handle operator => exact .inr (.inl ⟨_, _, rfl⟩)
  | setValue handle value => exact .inr (.inl ⟨_, _, rfl⟩)
  | controlValue handle => exact .inr (.inl ⟨_, _, rfl⟩)
  | startLoad handle => exact .inr (.inl ⟨_, _, rfl⟩)
  | finishLoad index results =>
      cases hfound : workspace.underWay[index]? with
      | none =>
          right
          right
          rw [act, hfound]
      | some load =>
          right
          left
          rw [touched?, hfound]
          exact ⟨_, _, rfl⟩

lemma sound_act (h : workspace.session.Sound settings) (action : Action) :
    (workspace.act action).session.Sound settings := by
  rcases act_cases workspace action with ⟨grid, hstep, heq⟩ | ⟨handle, change, htouched⟩ | hsame
  · rw [heq]
    exact h.withGrid hstep
  · refine h.of_revises (revises_of_touched? h htouched) fun condition _ => ?_
    exact Session.related_touch _ (fun _ => .refl) (steps_of_touched? htouched) condition
  · rw [hsame]
    exact h

lemma sound_start (settings : FilterSettings) : (start settings).session.Sound settings :=
  Session.sound_of_empty rfl rfl

lemma sound_run_of_sound (h : workspace.session.Sound settings) (actions : List Action) :
    (workspace.run actions).session.Sound settings := by
  induction actions generalizing workspace with
  | nil => exact h
  | cons action rest ih => exact ih (sound_act h action)

/-- Every reachable session is sound. -/
theorem sound_run (settings : FilterSettings) (actions : List Action) :
    ((start settings).run actions).session.Sound settings :=
  sound_run_of_sound (sound_start settings) actions

/-! ## A session's own loads -/

/-- A session on another connection. -/
def onConnection (session : Session) (connection : Option Connection) : Session :=
  { session with connection := connection }

lemma edit_onConnection (session : Session) (connection : Option Connection) (handle : Nat)
    (change : Condition → List Change × Condition) :
    ((onConnection session connection).edit handle change).2 =
      onConnection (session.edit handle change).2 connection := by
  have hsame : (onConnection session connection).condition? handle = session.condition? handle :=
    rfl
  rw [Session.edit, Session.edit, hsame]
  cases session.condition? handle <;> rfl

lemma controlValue_onConnection (session : Session) (connection : Option Connection)
    (handle : Nat) :
    ((onConnection session connection).controlValue handle).2 =
      onConnection (session.controlValue handle).2 connection := by
  have hsame : (onConnection session connection).condition? handle = session.condition? handle :=
    rfl
  rw [Session.controlValue, Session.controlValue, hsame]
  cases session.condition? handle <;> rfl

/-- When the searches of a load have gone on, the load ends with what they found, or it waits as
before. -/
lemma exists_run_settle (workspace : Workspace) (index : Nat) {handle : Nat} {batch : Batch}
    (h : workspace.underWay[index]? = some (handle, batch)) (connection : Option Connection)
    (searches : List (Progress (Option Reference))) :
    ∃ actions,
      ((onConnection workspace.session connection).settle handle batch searches).2 =
          onConnection (workspace.run actions).session connection ∧
        ∀ waiting again rest,
          ((onConnection workspace.session connection).settle handle batch searches).1 =
              .underWay waiting again rest →
            (workspace.run actions).underWay = workspace.underWay ∧
              waiting = handle ∧ again = batch := by
  rw [Session.settle]
  split
  · refine ⟨[.finishLoad index (searches.filterMap Progress.value?)], ?_, nofun⟩
    rw [run_cons, run_nil, act, h]
    dsimp only
    rw [edit_onConnection, controlValue_onConnection]
  · refine ⟨[], rfl, fun waiting again rest hload => ?_⟩
    rw [Load.underWay.injEq] at hload
    exact ⟨rfl, hload.1.symm, hload.2.1.symm⟩

/-- Starting a load is a run of actions, but for what it does to the connection.  When the load has
to wait, it is the last of the loads under way. -/
theorem exists_run_startLoad (workspace : Workspace) (handle : Nat) :
    ∃ actions connection, (workspace.session.startLoad handle).2 =
        onConnection (workspace.run actions).session connection ∧
      ∀ waiting batch searches,
        (workspace.session.startLoad handle).1 = .underWay waiting batch searches →
          (workspace.run actions).underWay = workspace.underWay ++ [(waiting, batch)] := by
  have hread : (workspace.session.controlValue handle).2 = onConnection
      (workspace.run [.controlValue handle]).session
      (workspace.session.controlValue handle).2.connection := rfl
  rw [Session.startLoad]
  cases hconnection : workspace.session.connection with
  | none => exact ⟨_, _, hread, nofun⟩
  | some connection =>
      cases hcondition : workspace.session.condition? handle with
      | none => exact ⟨_, _, hread, nofun⟩
      | some condition =>
          dsimp only
          cases hbegin : condition.beginLoad with
          | mk batch? rest =>
              cases batch? with
              | none => exact ⟨_, _, hread, nofun⟩
              | some batch =>
                  obtain ⟨changes, begun⟩ := rest
                  have hstart : workspace.act (.startLoad handle) =
                      { session := (workspace.session.replace begun).publish handle changes
                        underWay := workspace.underWay ++ [(handle, batch)] } := by
                    rw [act, batch?, Session.edit, hcondition]
                    dsimp only [Option.bind_some]
                    rw [hbegin]
                    rfl
                  have hlast : (workspace.act (.startLoad handle)).underWay[
                      workspace.underWay.length]? = some (handle, batch) := by
                    rw [hstart, List.getElem?_concat_length]
                  dsimp only
                  cases hadvance : connection.advanceAll (batch.pending.map
                      (Inquiry.resolve condition.column.details.targets)) with
                  | mk searches after =>
                      obtain ⟨actions, hsession, hwaits⟩ :=
                        exists_run_settle _ _ hlast (some after) searches
                      rw [hstart] at hsession hwaits
                      refine ⟨.startLoad handle :: actions, some after, ?_, ?_⟩
                      · rw [run_cons, hstart]
                        exact hsession
                      · intro waiting again rest hload
                        obtain ⟨hkept, rfl, rfl⟩ := hwaits waiting again rest hload
                        rw [run_cons, hstart, hkept]

/-- Going on with a load that waits is a run of actions, but for what it does to the connection.
When the load has to wait once more, it stays in its place. -/
theorem exists_run_finishLoad (workspace : Workspace) (index : Nat) {handle : Nat} {batch : Batch}
    (h : workspace.underWay[index]? = some (handle, batch))
    (searches : List (Progress (Option Reference))) :
    ∃ actions connection,
      (workspace.session.finishLoad (.underWay handle batch searches)).2 =
          onConnection (workspace.run actions).session connection ∧
        ∀ waiting again rest,
          (workspace.session.finishLoad (.underWay handle batch searches)).1 =
              .underWay waiting again rest →
            (workspace.run actions).underWay = workspace.underWay ∧
              waiting = handle ∧ again = batch := by
  rw [Session.finishLoad]
  cases hconnection : workspace.session.connection with
  | none =>
      refine ⟨[], workspace.session.connection, rfl, fun waiting again rest hload => ?_⟩
      rw [Load.underWay.injEq] at hload
      exact ⟨rfl, hload.1.symm, hload.2.1.symm⟩
  | some connection =>
      obtain ⟨actions, hsession, hwaits⟩ := exists_run_settle workspace index h
        (some (connection.resumeAll searches).2) (connection.resumeAll searches).1
      exact ⟨actions, _, hsession, hwaits⟩

end Workspace

end GridFilter
