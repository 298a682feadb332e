import Castd.Lib.System
import Castd.Main.Daemon

/-!
# The daemon's threads

The threads of `CastDaemon` as one transition system. A thread is a program counter that names
the statement it runs next; one step of the system is one such statement of one thread, or
something the surroundings do. Threads may be interleaved in any order.

* The thread of source session `i` runs `_run_source_session`, and before it
  `_connect_to_authorized_source` when the daemon dials (`SessionPc`).
* A session that starts its pipeline spawns one thread of `_recover_render_cold_start`
  (`RecoveryPc`).
* An AirPlay callback is one locked transition and then its actions (`AirplayPc`).
* A tick of the stream watchdog is one step.

The lock covers only `self.arbiter.handle`, so the actions of a transition are separate steps.
An exception that nothing catches sends a session thread to the `finally` of
`_run_source_session` (`clearSock`) and ends any other thread.

`Trail` records what the statements about runs speak of. No thread reads it.
-/

namespace Castd.Main

open Fsm Render Lib

/-- `RENDER_COLD_START_RETRIES`. -/
def renderColdStartRetries : Nat := 3

/-- Where the thread of a source session stands. -/
inductive SessionPc
  | absent
  /-- `_connect_to_authorized_source`: `if self.arbiter.state is State.MIRACAST`. -/
  | checkState
  /-- Polling the lease file, then `open_control_connection`. -/
  | dial
  /-- `self._active_control_sock = sock`. -/
  | setSock
  /-- The locked `arbiter.handle(Event.MIRACAST_CONNECTED)`. -/
  | connect
  /-- Its `_apply_actions`, with the actions still to run. -/
  | connectActions (actions : List Action)
  /-- `negotiate`. -/
  | negotiate
  | stopRender
  | startRender
  /-- `self._render_pipeline_expected = True`. -/
  | expectRender
  | spawnRecovery
  /-- `run_steady_state`. -/
  | pump
  | closeSock
  /-- The locked `arbiter.handle(Event.MIRACAST_DISCONNECTED)`. -/
  | disconnect
  | disconnectActions (actions : List Action)
  /-- `self._active_control_sock = None`. -/
  | clearSock
  | done
  deriving DecidableEq

/-- Where a `_recover_render_cold_start` thread stands, in its round `attempt`. -/
inductive RecoveryPc
  | absent
  | waitFrame (attempt : Nat)
  | checkState (attempt : Nat)
  | checkExpected (attempt : Nat)
  | checkRunning (attempt : Nat)
  | dropExpected (attempt : Nat)
  | stopRender (attempt : Nat)
  | recheckState (attempt : Nat)
  | startRender (attempt : Nat)
  | raiseExpected (attempt : Nat)
  | done
  deriving DecidableEq

/-- Where an AirPlay callback stands. -/
inductive AirplayPc
  | absent
  | actions (actions : List Action)
  | done
  deriving DecidableEq

/-- How a call ends whose result comes from outside: it returns, it raises one of the exceptions
the caller handles (`NegotiationError`, `OSError`), or it raises another one. -/
inductive Outcome
  | ok
  | fails
  | raises
  deriving DecidableEq

/-- The next statement of the thread of session `i`. -/
def sessionNext (i : Nat) (d : Daemon) : SessionPc → Outcome → Option (SessionPc × Daemon)
  | .checkState, .ok => some (if d.arbiter.state = .miracast then .done else .dial, d)
  | .dial, .ok => some (.setSock, d)
  | .dial, .fails => some (.done, d)
  | .setSock, .ok => some (.connect, { d with activeControlSock := some i })
  | .connect, .ok =>
    some (.connectActions (d.arbiter.handle .miracastConnected).1.actions,
      { d with arbiter := (d.arbiter.handle .miracastConnected).2 })
  | .connectActions (action :: actions), .ok =>
    match d.applyAction action with
    | some d' => some (.connectActions actions, d')
    | none => some (.clearSock, d)
  | .connectActions [], .ok => some (.negotiate, d.reportHealth)
  | .negotiate, .ok => some (.stopRender, d)
  | .negotiate, .fails => some (.disconnect, d)
  | .negotiate, .raises => some (.clearSock, d)
  | .stopRender, .ok => some (.startRender, { d with render := d.render.stop })
  | .startRender, .ok =>
    match d.render.start i with
    | some render => some (.expectRender, { d with render := render })
    | none => some (.clearSock, d)
  -- `Popen` raises after the check that nothing runs, before `_proc` is assigned
  | .startRender, .fails => if d.render.isRunning then none else some (.disconnect, d)
  | .expectRender, .ok => some (.spawnRecovery, { d with renderPipelineExpected := true })
  | .spawnRecovery, .ok => some (.pump, d)
  | .pump, .ok => some (.closeSock, d)
  | .closeSock, .ok => some (.disconnect, d.closeSock i)
  | .disconnect, .ok =>
    some (.disconnectActions (d.arbiter.handle .miracastDisconnected).1.actions,
      { d with arbiter := (d.arbiter.handle .miracastDisconnected).2 })
  | .disconnectActions (action :: actions), .ok =>
    match d.applyAction action with
    | some d' => some (.disconnectActions actions, d')
    | none => some (.clearSock, d)
  | .disconnectActions [], .ok => some (.clearSock, d.reportHealth)
  | .clearSock, .ok => some (.done, { d with activeControlSock := none })
  | _, _ => none

/-- The next statement of the recovery thread of session `i`. -/
def recoveryNext (i : Nat) (d : Daemon) : RecoveryPc → Outcome → Option (RecoveryPc × Daemon)
  | .waitFrame n, .ok => some (if d.render.firstFrame then .done else .checkState n, d)
  | .checkState n, .ok =>
    some (if d.arbiter.state = .miracast then .checkExpected n else .done, d)
  | .checkExpected n, .ok =>
    some (if d.renderPipelineExpected then .checkRunning n else .done, d)
  | .checkRunning n, .ok => some (if d.render.isRunning then .dropExpected n else .done, d)
  | .dropExpected n, .ok => some (.stopRender n, { d with renderPipelineExpected := false })
  | .stopRender n, .ok => some (.recheckState n, { d with render := d.render.stop })
  | .recheckState n, .ok =>
    some (if d.arbiter.state = .miracast then .startRender n else .done, d)
  | .startRender n, .ok =>
    match d.render.start i with
    | some render => some (.raiseExpected n, { d with render := render })
    | none => some (.done, d)
  | .startRender _, .fails => if d.render.isRunning then none else some (.done, d)
  | .raiseExpected n, .ok =>
    some (if n < renderColdStartRetries then .waitFrame (n + 1) else .done,
      { d with renderPipelineExpected := true })
  | _, _ => none

/-- The next statement of an AirPlay callback. -/
def airplayNext (d : Daemon) : AirplayPc → Option (AirplayPc × Daemon)
  | .actions (action :: actions) =>
    match d.applyAction action with
    | some d' => some (.actions actions, d')
    | none => some (.done, d)
  | .actions [] => some (.done, d.reportHealth)
  | _ => none

/-- What the statements remember of a run. -/
structure Trail where
  /-- The session whose connect took the arbiter to MIRACAST, until a disconnect takes it out. -/
  owner : Option Nat := none
  /-- The sessions whose connect the arbiter rejected. -/
  rejected : Nat → Bool := fun _ => false
  /-- The session whose thread last started a pipeline. -/
  lastStarted : Option Nat := none
  /-- The samples the stream watchdog took since then, newest first. -/
  samples : List (Int × ℚ) := []

/-- The trail after the thread of session `i` moves from `pc` to `pc'`. -/
def Trail.afterSession (t : Trail) (d : Daemon) (i : Nat) (pc pc' : SessionPc) : Trail :=
  match pc, pc' with
  | .connect, _ =>
    if Accepts d.arbiter.state .miracastConnected then { t with owner := some i }
    else { t with rejected := Function.update t.rejected i true }
  | .disconnect, _ =>
    if Accepts d.arbiter.state .miracastDisconnected then { t with owner := none } else t
  | .startRender, .expectRender => { t with lastStarted := some i, samples := [] }
  | _, _ => t

/-- The trail after a tick: the tick takes a sample when it reaches `observe`. -/
def Trail.afterTick (t : Trail) (d : Daemon) (rxBytes : Option Int) : Trail :=
  match rxBytes with
  | some rx =>
    if d.arbiter.state = .miracast ∧ d.renderPipelineExpected = true ∧ d.render.isRunning = true
    then { t with samples := (rx, d.now) :: t.samples } else t
  | none => t

/-- The daemon with its threads. -/
structure Threads where
  daemon : Daemon := Daemon.started
  /-- The local object of `_stream_watch_loop`. -/
  watchdog : StreamWatchdog := {}
  sessions : Nat → SessionPc := fun _ => .absent
  recoveries : Nat → RecoveryPc := fun _ => .absent
  airplays : Nat → AirplayPc := fun _ => .absent
  trail : Trail := {}

/-- One step: a statement of a thread, or an event from outside. -/
inductive Label
  /-- `_accept_sources_loop` accepts a connection and starts its thread. -/
  | inbound (i : Nat)
  /-- A station is authorized and a thread is started that will dial it. -/
  | authorized (i : Nat)
  | session (i : Nat) (outcome : Outcome)
  | recovery (i : Nat) (outcome : Outcome)
  /-- An AirPlay callback takes its locked transition. -/
  | airplay (k : Nat) (event : Event)
  | airplayAction (k : Nat)
  | tick (rxBytes : Option Int)
  /-- The render child exits by itself. -/
  | childExits
  /-- A drain thread sees the first-frame markers. -/
  | frameSeen
  | elapse (seconds : ℚ)
  deriving DecidableEq

namespace Threads

/-- The step function. -/
def step (s : Threads) : Label → Option Threads
  | .inbound i =>
    if s.sessions i = .absent then
      some { s with sessions := Function.update s.sessions i .setSock }
    else none
  | .authorized i =>
    if s.sessions i = .absent then
      some { s with sessions := Function.update s.sessions i .checkState }
    else none
  | .session i outcome =>
    (sessionNext i s.daemon (s.sessions i) outcome).map fun next =>
      { s with
        daemon := next.2
        sessions := Function.update s.sessions i next.1
        recoveries :=
          if s.sessions i = .spawnRecovery then Function.update s.recoveries i (.waitFrame 1)
          else s.recoveries
        trail := s.trail.afterSession s.daemon i (s.sessions i) next.1 }
  | .recovery i outcome =>
    (recoveryNext i s.daemon (s.recoveries i) outcome).map fun next =>
      { s with daemon := next.2, recoveries := Function.update s.recoveries i next.1 }
  | .airplay k event =>
    if s.airplays k = .absent ∧ (event = .airplayConnected ∨ event = .airplayDisconnected) then
      some { s with
        daemon := { s.daemon with arbiter := (s.daemon.arbiter.handle event).2 }
        airplays := Function.update s.airplays k
          (.actions (s.daemon.arbiter.handle event).1.actions) }
    else none
  | .airplayAction k =>
    (airplayNext s.daemon (s.airplays k)).map fun next =>
      { s with daemon := next.2, airplays := Function.update s.airplays k next.1 }
  | .tick rxBytes =>
    some { s with
      daemon := (s.daemon.streamWatchTick s.watchdog rxBytes).1
      watchdog := (s.daemon.streamWatchTick s.watchdog rxBytes).2
      trail := s.trail.afterTick s.daemon rxBytes }
  | .childExits => some { s with daemon := { s.daemon with render := s.daemon.render.childExits } }
  | .frameSeen => some { s with daemon := { s.daemon with render := s.daemon.render.frameSeen } }
  | .elapse seconds =>
    if 0 ≤ seconds then some { s with daemon := { s.daemon with now := s.daemon.now + seconds } }
    else none

/-- The system of the daemon's threads, from a started daemon with no thread running. -/
def system : System Threads Label := { init := {}, step := step }

end Threads

/-! ## What a step can do

The step function read as relations, one constructor for each statement and each way it can end.
The invariants are proved from these. -/

/-- A step of the thread of session `i`. -/
inductive SessionStep (i : Nat) (d : Daemon) : SessionPc → SessionPc → Daemon → Prop
  | ignored (busy : d.arbiter.state = .miracast) : SessionStep i d .checkState .done d
  | dialing (free : d.arbiter.state ≠ .miracast) : SessionStep i d .checkState .dial d
  | dialed : SessionStep i d .dial .setSock d
  | undialed : SessionStep i d .dial .done d
  | sockSet : SessionStep i d .setSock .connect { d with activeControlSock := some i }
  | connected :
    SessionStep i d .connect
      (.connectActions (d.arbiter.handle .miracastConnected).1.actions)
      { d with arbiter := (d.arbiter.handle .miracastConnected).2 }
  | connectAction {action : Action} {actions : List Action} {d' : Daemon}
    (applied : d.applyAction action = some d') :
    SessionStep i d (.connectActions (action :: actions)) (.connectActions actions) d'
  | connectRaised {action : Action} {actions : List Action}
    (raised : d.applyAction action = none) :
    SessionStep i d (.connectActions (action :: actions)) .clearSock d
  | connectApplied : SessionStep i d (.connectActions []) .negotiate d.reportHealth
  | negotiated : SessionStep i d .negotiate .stopRender d
  | negotiationFailed : SessionStep i d .negotiate .disconnect d
  | negotiationRaised : SessionStep i d .negotiate .clearSock d
  | renderStopped : SessionStep i d .stopRender .startRender { d with render := d.render.stop }
  | renderStarted {render : RenderProcess} (started : d.render.start i = some render) :
    SessionStep i d .startRender .expectRender { d with render := render }
  | renderRaised (raised : d.render.start i = none) : SessionStep i d .startRender .clearSock d
  | renderFailed (stopped : d.render.isRunning = false) :
    SessionStep i d .startRender .disconnect d
  | renderExpected :
    SessionStep i d .expectRender .spawnRecovery { d with renderPipelineExpected := true }
  | recoverySpawned : SessionStep i d .spawnRecovery .pump d
  | pumpEnded : SessionStep i d .pump .closeSock d
  | sockClosed : SessionStep i d .closeSock .disconnect (d.closeSock i)
  | disconnected :
    SessionStep i d .disconnect
      (.disconnectActions (d.arbiter.handle .miracastDisconnected).1.actions)
      { d with arbiter := (d.arbiter.handle .miracastDisconnected).2 }
  | disconnectAction {action : Action} {actions : List Action} {d' : Daemon}
    (applied : d.applyAction action = some d') :
    SessionStep i d (.disconnectActions (action :: actions)) (.disconnectActions actions) d'
  | disconnectRaised {action : Action} {actions : List Action}
    (raised : d.applyAction action = none) :
    SessionStep i d (.disconnectActions (action :: actions)) .clearSock d
  | disconnectApplied : SessionStep i d (.disconnectActions []) .clearSock d.reportHealth
  | sockCleared : SessionStep i d .clearSock .done { d with activeControlSock := none }

private theorem sessionNext_cases {i : Nat} {d d' : Daemon} {pc pc' : SessionPc} {o : Outcome}
    (h : sessionNext i d pc o = some (pc', d')) : SessionStep i d pc pc' d' := by
  cases pc with
  | checkState =>
    cases o <;> simp only [sessionNext, Option.some.injEq, Prod.mk.injEq, reduceCtorEq] at h
    obtain ⟨rfl, rfl⟩ := h
    split
    · exact .ignored ‹_›
    · exact .dialing ‹_›
  | connectActions actions =>
    cases actions with
    | nil =>
      cases o <;> cases h
      exact .connectApplied
    | cons action actions =>
      cases o <;> simp only [sessionNext, reduceCtorEq] at h
      split at h <;> cases h
      · exact .connectAction ‹_›
      · exact .connectRaised ‹_›
  | disconnectActions actions =>
    cases actions with
    | nil =>
      cases o <;> cases h
      exact .disconnectApplied
    | cons action actions =>
      cases o <;> simp only [sessionNext, reduceCtorEq] at h
      split at h <;> cases h
      · exact .disconnectAction ‹_›
      · exact .disconnectRaised ‹_›
  | startRender =>
    cases o <;> simp only [sessionNext, reduceCtorEq] at h
    · split at h <;> cases h
      · exact .renderStarted ‹_›
      · exact .renderRaised ‹_›
    · split at h <;> cases h
      rename_i stopped
      exact .renderFailed (Bool.eq_false_of_not_eq_true stopped)
  | _ =>
    cases o <;> cases h
    all_goals constructor

/-- A step of the recovery thread of session `i`. -/
inductive RecoveryStep (i : Nat) (d : Daemon) : RecoveryPc → RecoveryPc → Daemon → Prop
  | frame {n : Nat} (seen : d.render.firstFrame = true) : RecoveryStep i d (.waitFrame n) .done d
  | noFrame {n : Nat} (unseen : d.render.firstFrame = false) :
    RecoveryStep i d (.waitFrame n) (.checkState n) d
  | stateOver {n : Nat} (gone : d.arbiter.state ≠ .miracast) :
    RecoveryStep i d (.checkState n) .done d
  | stateHolds {n : Nat} (holds : d.arbiter.state = .miracast) :
    RecoveryStep i d (.checkState n) (.checkExpected n) d
  | unexpected {n : Nat} (dropped : d.renderPipelineExpected = false) :
    RecoveryStep i d (.checkExpected n) .done d
  | expected {n : Nat} (raised : d.renderPipelineExpected = true) :
    RecoveryStep i d (.checkExpected n) (.checkRunning n) d
  | notRunning {n : Nat} (stopped : d.render.isRunning = false) :
    RecoveryStep i d (.checkRunning n) .done d
  | running {n : Nat} (runs : d.render.isRunning = true) :
    RecoveryStep i d (.checkRunning n) (.dropExpected n) d
  | dropped {n : Nat} :
    RecoveryStep i d (.dropExpected n) (.stopRender n) { d with renderPipelineExpected := false }
  | stopped {n : Nat} :
    RecoveryStep i d (.stopRender n) (.recheckState n) { d with render := d.render.stop }
  | recheckOver {n : Nat} (gone : d.arbiter.state ≠ .miracast) :
    RecoveryStep i d (.recheckState n) .done d
  | recheckHolds {n : Nat} (holds : d.arbiter.state = .miracast) :
    RecoveryStep i d (.recheckState n) (.startRender n) d
  | started {n : Nat} {render : RenderProcess} (started : d.render.start i = some render) :
    RecoveryStep i d (.startRender n) (.raiseExpected n) { d with render := render }
  | startRaised {n : Nat} : RecoveryStep i d (.startRender n) .done d
  | again {n : Nat} (more : n < renderColdStartRetries) :
    RecoveryStep i d (.raiseExpected n) (.waitFrame (n + 1))
      { d with renderPipelineExpected := true }
  | givenUp {n : Nat} (last : ¬ n < renderColdStartRetries) :
    RecoveryStep i d (.raiseExpected n) .done { d with renderPipelineExpected := true }

theorem recoveryNext_cases {i : Nat} {d d' : Daemon} {pc pc' : RecoveryPc} {o : Outcome}
    (h : recoveryNext i d pc o = some (pc', d')) : RecoveryStep i d pc pc' d' := by
  cases pc with
  | startRender n =>
    cases o <;> simp only [recoveryNext, reduceCtorEq] at h
    · split at h <;> cases h
      · exact .started ‹_›
      · exact .startRaised
    · split at h <;> cases h
      exact .startRaised
  | absent | done => cases o <;> cases h
  | dropExpected n =>
    cases o <;> cases h
    exact .dropped
  | stopRender n =>
    cases o <;> cases h
    exact .stopped
  | _ =>
    cases o <;> simp only [recoveryNext, Option.some.injEq, Prod.mk.injEq, reduceCtorEq] at h
    obtain ⟨rfl, rfl⟩ := h
    split
    all_goals first
      | (constructor; assumption)
      | (constructor; exact Bool.eq_false_of_not_eq_true ‹_›)

/-- A step of an AirPlay callback. -/
inductive AirplayStep (d : Daemon) : AirplayPc → AirplayPc → Daemon → Prop
  | action {action : Action} {actions : List Action} {d' : Daemon}
    (applied : d.applyAction action = some d') :
    AirplayStep d (.actions (action :: actions)) (.actions actions) d'
  | raised {action : Action} {actions : List Action} (raised : d.applyAction action = none) :
    AirplayStep d (.actions (action :: actions)) .done d
  | applied : AirplayStep d (.actions []) .done d.reportHealth

private theorem airplayNext_cases {d d' : Daemon} {pc pc' : AirplayPc}
    (h : airplayNext d pc = some (pc', d')) : AirplayStep d pc pc' d' := by
  cases pc with
  | absent | done => cases h
  | actions actions =>
    cases actions with
    | nil =>
      cases h
      exact .applied
    | cons action actions =>
      simp only [airplayNext] at h
      split at h <;> cases h
      · exact .action ‹_›
      · exact .raised ‹_›

/-! ## What a step leaves alone -/

/-- Only the two locked transitions of a session move the arbiter. -/
theorem SessionStep.arbiter_eq {i : Nat} {d d' : Daemon} {pc pc' : SessionPc}
    (h : SessionStep i d pc pc' d') (hc : pc ≠ .connect) (hd : pc ≠ .disconnect) :
    d'.arbiter = d.arbiter := by
  cases h with
  | connected => exact absurd rfl hc
  | disconnected => exact absurd rfl hd
  | connectAction applied => exact (Daemon.applyAction_frame applied).1
  | disconnectAction applied => exact (Daemon.applyAction_frame applied).1
  | _ => rfl

/-- A recovery thread never moves the arbiter. -/
theorem RecoveryStep.arbiter_eq {i : Nat} {d d' : Daemon} {pc pc' : RecoveryPc}
    (h : RecoveryStep i d pc pc' d') : d'.arbiter = d.arbiter := by
  cases h <;> rfl

/-- The actions of an AirPlay callback do not move the arbiter. -/
theorem AirplayStep.arbiter_eq {d d' : Daemon} {pc pc' : AirplayPc}
    (h : AirplayStep d pc pc' d') : d'.arbiter = d.arbiter := by
  cases h with
  | action applied => exact (Daemon.applyAction_frame applied).1
  | _ => rfl

/-- Only a session's own first and last statement write the control socket slot. -/
theorem SessionStep.activeControlSock_eq {i : Nat} {d d' : Daemon} {pc pc' : SessionPc}
    (h : SessionStep i d pc pc' d') (hs : pc ≠ .setSock) (hc : pc ≠ .clearSock) :
    d'.activeControlSock = d.activeControlSock := by
  cases h with
  | sockSet => exact absurd rfl hs
  | sockCleared => exact absurd rfl hc
  | connectAction applied => exact (Daemon.applyAction_frame applied).2.1
  | disconnectAction applied => exact (Daemon.applyAction_frame applied).2.1
  | _ => rfl

/-- A recovery thread never writes the control socket slot. -/
theorem RecoveryStep.activeControlSock_eq {i : Nat} {d d' : Daemon} {pc pc' : RecoveryPc}
    (h : RecoveryStep i d pc pc' d') : d'.activeControlSock = d.activeControlSock := by
  cases h <;> rfl

/-- An AirPlay callback never writes the control socket slot. -/
theorem AirplayStep.activeControlSock_eq {d d' : Daemon} {pc pc' : AirplayPc}
    (h : AirplayStep d pc pc' d') : d'.activeControlSock = d.activeControlSock := by
  cases h with
  | action applied => exact (Daemon.applyAction_frame applied).2.1
  | _ => rfl

/-- The owner changes only at a session's two transitions. -/
theorem Trail.afterSession_owner_eq (t : Trail) (d : Daemon) (i : Nat) {pc : SessionPc}
    (pc' : SessionPc) (hc : pc ≠ .connect) (hd : pc ≠ .disconnect) :
    (t.afterSession d i pc pc').owner = t.owner := by
  unfold afterSession
  split
  · exact absurd rfl hc
  · exact absurd rfl hd
  · rfl
  · rfl

/-- A session owns the display after a connect that found the arbiter idle. -/
theorem Trail.afterSession_connect_owner (t : Trail) (d : Daemon) (i : Nat) (pc' : SessionPc) :
    (t.afterSession d i .connect pc').owner =
      if d.arbiter.state = .idle then some i else t.owner := by
  simp only [afterSession, accepts_miracastConnected_iff]
  split <;> rfl

/-- Nobody owns the display after a disconnect that found the arbiter in MIRACAST. -/
theorem Trail.afterSession_disconnect_owner (t : Trail) (d : Daemon) (i : Nat)
    (pc' : SessionPc) :
    (t.afterSession d i .disconnect pc').owner =
      if d.arbiter.state = .miracast then none else t.owner := by
  simp only [afterSession, accepts_miracastDisconnected_iff]
  split <;> rfl

/-- A tick does not change the owner. -/
@[simp] theorem Trail.afterTick_owner (t : Trail) (d : Daemon) (rx : Option Int) :
    (t.afterTick d rx).owner = t.owner := by
  unfold afterTick
  split
  · split <;> rfl
  · rfl

/-- A tick rejects nobody. -/
@[simp] theorem Trail.afterTick_rejected (t : Trail) (d : Daemon) (rx : Option Int) :
    (t.afterTick d rx).rejected = t.rejected := by
  unfold afterTick
  split
  · split <;> rfl
  · rfl

/-- A step of the system. -/
inductive Threads.Step (s : Threads) : Label → Threads → Prop
  | inbound {i : Nat} (fresh : s.sessions i = .absent) :
    Step s (.inbound i) { s with sessions := Function.update s.sessions i .setSock }
  | authorized {i : Nat} (fresh : s.sessions i = .absent) :
    Step s (.authorized i) { s with sessions := Function.update s.sessions i .checkState }
  | session {i : Nat} {o : Outcome} {pc pc' : SessionPc} {d : Daemon} (stands : s.sessions i = pc)
    (next : SessionStep i s.daemon pc pc' d) :
    Step s (.session i o)
      { s with
        daemon := d
        sessions := Function.update s.sessions i pc'
        recoveries :=
          if pc = .spawnRecovery then Function.update s.recoveries i (.waitFrame 1)
          else s.recoveries
        trail := s.trail.afterSession s.daemon i pc pc' }
  | recovery {i : Nat} {o : Outcome} {pc pc' : RecoveryPc} {d : Daemon}
    (stands : s.recoveries i = pc) (next : RecoveryStep i s.daemon pc pc' d) :
    Step s (.recovery i o)
      { s with daemon := d, recoveries := Function.update s.recoveries i pc' }
  | airplay {k : Nat} {event : Event} (fresh : s.airplays k = .absent)
    (event_eq : event = .airplayConnected ∨ event = .airplayDisconnected) :
    Step s (.airplay k event)
      { s with
        daemon := { s.daemon with arbiter := (s.daemon.arbiter.handle event).2 }
        airplays := Function.update s.airplays k
          (.actions (s.daemon.arbiter.handle event).1.actions) }
  | airplayAction {k : Nat} {pc pc' : AirplayPc} {d : Daemon} (stands : s.airplays k = pc)
    (next : AirplayStep s.daemon pc pc' d) :
    Step s (.airplayAction k)
      { s with daemon := d, airplays := Function.update s.airplays k pc' }
  | tick {rxBytes : Option Int} :
    Step s (.tick rxBytes)
      { s with
        daemon := (s.daemon.streamWatchTick s.watchdog rxBytes).1
        watchdog := (s.daemon.streamWatchTick s.watchdog rxBytes).2
        trail := s.trail.afterTick s.daemon rxBytes }
  | childExits :
    Step s .childExits
      { s with daemon := { s.daemon with render := s.daemon.render.childExits } }
  | frameSeen :
    Step s .frameSeen { s with daemon := { s.daemon with render := s.daemon.render.frameSeen } }
  | elapse {seconds : ℚ} (forward : 0 ≤ seconds) :
    Step s (.elapse seconds)
      { s with daemon := { s.daemon with now := s.daemon.now + seconds } }

/-- Every step of the step function is one of the relation. -/
theorem Threads.step_cases {s s' : Threads} {l : Label} (h : Threads.step s l = some s') :
    s.Step l s' := by
  cases l with
  | inbound i =>
    simp only [Threads.step] at h
    split at h <;> cases h
    exact .inbound ‹_›
  | authorized i =>
    simp only [Threads.step] at h
    split at h <;> cases h
    exact .authorized ‹_›
  | session i o =>
    obtain ⟨⟨pc', d⟩, hn, rfl⟩ := Option.map_eq_some_iff.mp h
    exact .session rfl (sessionNext_cases hn)
  | recovery i o =>
    obtain ⟨⟨pc', d⟩, hn, rfl⟩ := Option.map_eq_some_iff.mp h
    exact .recovery rfl (recoveryNext_cases hn)
  | airplay k event =>
    simp only [Threads.step] at h
    split at h <;> cases h
    rename_i fresh
    exact .airplay fresh.1 fresh.2
  | airplayAction k =>
    obtain ⟨⟨pc', d⟩, hn, rfl⟩ := Option.map_eq_some_iff.mp h
    exact .airplayAction rfl (airplayNext_cases hn)
  | tick rxBytes =>
    cases h
    exact .tick
  | childExits =>
    cases h
    exact .childExits
  | frameSeen =>
    cases h
    exact .frameSeen
  | elapse seconds =>
    simp only [Threads.step] at h
    split at h <;> cases h
    exact .elapse ‹_›

end Castd.Main
