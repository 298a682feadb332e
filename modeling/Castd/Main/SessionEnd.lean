import Castd.Main.SourceSession

/-!
# How a source session leaves the room

A session takes the arbiter to MIRACAST and stops uxplay (`Daemon.ServingFrom`), and its disconnect
is to undo both (`Daemon.RestoredFrom`). Two things come between (`source_session_restores_iff`).
`handle_miracast_connected` catches `NegotiationError` and `OSError`: a `ValueError` of the
handshake goes past it, and past `_run_source_session`, which only clears the control socket. And a
recovery thread that has looked at the state for the second time when the session is disconnected
starts its pipeline all the same.

The turns of other threads are dealt with once (`SourceRun.TurnedFrom`): they leave alone what a
disconnect has restored, and bring no pipeline up once the arbiter has left MIRACAST and the
recovery thread is not past its last look at it (`SourceRun.Calm`).
-/

namespace Castd.Main

open Fsm Render Airplay Lib Wfdsink

/-! ## What turns do -/

/-- The arbiter is out of MIRACAST, and the recovery thread not past its last look at it. -/
structure SourceRun.Calm (s : SourceRun) : Prop where
  outside : s.daemon.arbiter.state ≠ .miracast
  notStarting : s.recovery.starting = false

/-- What other threads leave alone while the thread of the session stands. Where the run is calm it
stays so, and nothing brings a pipeline up. -/
structure SourceRun.TurnedFrom (s' s : SourceRun) : Prop where
  arbiter : s'.daemon.arbiter = s.daemon.arbiter
  uxplay : s'.daemon.uxplay = s.daemon.uxplay
  available : s'.daemon.sessionAvailable = s.daemon.sessionAvailable
  reader : s'.reader = s.reader
  pending : s'.restartPending = s.restartPending
  absent : s.recovery = .absent → s'.recovery = .absent
  calm : s.Calm → s'.Calm
  dark : s.Calm → s.daemon.render.isRunning = false → s'.daemon.render.isRunning = false

namespace SourceRun.TurnedFrom

variable {s s' s'' : SourceRun}

private theorem refl (s : SourceRun) : s.TurnedFrom s :=
  ⟨rfl, rfl, rfl, rfl, rfl, id, id, fun _ => id⟩

private theorem trans (h : s'.TurnedFrom s) (h' : s''.TurnedFrom s') : s''.TurnedFrom s where
  arbiter := h'.arbiter.trans h.arbiter
  uxplay := h'.uxplay.trans h.uxplay
  available := h'.available.trans h.available
  reader := h'.reader.trans h.reader
  pending := h'.pending.trans h.pending
  absent := h'.absent ∘ h.absent
  calm := h'.calm ∘ h.calm
  dark := fun calm dark => h'.dark (h.calm calm) (h.dark calm dark)

/-- Nothing brings a pipeline up in the turns of a calm run, nor in an action after them that leaves
the arbiter and the pipeline alone. -/
private theorem stays_dark {f : Daemon → Daemon} (turned : s'.TurnedFrom s)
    (frame : ∀ d, (f d).arbiter = d.arbiter ∧ (f d).render = d.render) (calm : s.Calm)
    (dark : s.daemon.render.isRunning = false) :
    ({ s' with daemon := f s'.daemon } : SourceRun).Calm ∧
      (f s'.daemon).render.isRunning = false := by
  obtain ⟨arbiter, render⟩ := frame s'.daemon
  obtain ⟨outside, notStarting⟩ := turned.calm calm
  rw [← arbiter] at outside
  rw [render]
  exact ⟨⟨outside, notStarting⟩, turned.dark calm dark⟩

end SourceRun.TurnedFrom

/-- A statement of the recovery thread. Its start is the one that brings a pipeline up, and it comes
there through MIRACAST only. -/
private theorem turnedFrom_of_recoveryStep {i : Nat} {s : SourceRun} {pc : RecoveryPc} {d : Daemon}
    (h : RecoveryStep i s.daemon s.recovery pc d) :
    ({ s with daemon := d, recovery := pc } : SourceRun).TurnedFrom s := by
  obtain ⟨daemon, reader, recovery, watchdog, pending⟩ := s
  have sameRest : d.uxplay = daemon.uxplay ∧ d.sessionAvailable = daemon.sessionAvailable := by
    cases h <;> exact ⟨rfl, rfl⟩
  refine ⟨h.arbiter_eq, sameRest.1, sameRest.2, rfl, rfl, ?_, ?_, ?_⟩
  · rintro rfl
    cases h
  · rintro ⟨outside, -⟩
    refine ⟨h.arbiter_eq ▸ outside, ?_⟩
    exact Bool.eq_false_iff.mpr fun starts => outside (h.starting_from starts).2
  · rintro ⟨-, notStarting⟩ dark
    cases h with
    | stopped => exact daemon.render.stop_isRunning
    | started => exact Bool.noConfusion notStarting
    | _ => exact dark

namespace SourceSession

variable {c : SourceSession} {s : SourceRun} {before : Daemon}

private theorem turn_turnedFrom (t : Turn) : (c.turn s t).TurnedFrom s := by
  cases t with
  | recovery outcome =>
    simp only [turn]
    split
    · exact turnedFrom_of_recoveryStep (recoveryNext_cases ‹_›)
    · exact .refl s
  | tick rxBytes =>
    obtain ⟨closed, expected, ticked⟩ := s.daemon.streamWatchTick_frame s.watchdog rxBytes
    simp only [turn, ticked]
    exact ⟨rfl, rfl, rfl, rfl, rfl, id, fun calm => ⟨calm.outside, calm.notStarting⟩, fun _ => id⟩
  | childExits =>
    refine ⟨rfl, rfl, rfl, rfl, rfl, id,
      fun calm => ⟨calm.outside, calm.notStarting⟩, fun _ _ => ?_⟩
    exact s.daemon.render.childExits_isRunning
  | frameSeen =>
    exact ⟨rfl, rfl, rfl, rfl, rfl, id, fun calm => ⟨calm.outside, calm.notStarting⟩, fun _ => id⟩

private theorem takeTurns_eq (c : SourceSession) (pc : SessionPc) (s : SourceRun) :
    c.takeTurns pc s = .ok () (c.afterTurns pc s) := rfl

private theorem afterTurns_turnedFrom (c : SourceSession) (pc : SessionPc) (s : SourceRun) :
    (c.afterTurns pc s).TurnedFrom s := by
  unfold afterTurns
  generalize c.turns pc = turns
  induction turns generalizing s with
  | nil => exact .refl s
  | cons t turns ih => exact (turn_turnedFrom t).trans (ih _)

end SourceSession

/-! ## What the handlers do to the daemon -/

/-- A session has connected and not yet disconnected: uxplay is stopped. -/
structure Daemon.ServingFrom (d before : Daemon) : Prop where
  miracast : d.arbiter.state = .miracast
  uxplayStopped : d.uxplay.isRunning = false
  uxplaySpawned : d.uxplay.spawned = before.uxplay.spawned

private theorem applyEvent_of {s : SourceRun} {event : Event} {d : Daemon}
    (h : s.daemon.handleEvent event = (d, false)) :
    applyEvent event s = .ok () { s with daemon := d } := by
  rw [applyEvent, h]

/-- A connect from idle begins to serve. -/
theorem applyEvent_connected {s : SourceRun} (idle : s.daemon.arbiter.state = .idle) :
    ∃ d, applyEvent .miracastConnected s = .ok () { s with daemon := d } ∧
      d.ServingFrom s.daemon := by
  refine ⟨_, applyEvent_of (Daemon.handleEvent_miracastConnected idle),
    rfl, s.daemon.uxplay.stop_isRunning, ?_⟩
  show s.daemon.uxplay.stop.spawned = _
  unfold UxPlayProcess.stop
  split <;> rfl

namespace Daemon

variable {d before : Daemon} {s s' : SourceRun}

/-- Turns leave a session that is served as it is. -/
theorem ServingFrom.turned (serving : s.daemon.ServingFrom before) (turned : s'.TurnedFrom s) :
    s'.daemon.ServingFrom before := by
  obtain ⟨miracast, stopped, spawned⟩ := serving
  rw [← turned.arbiter] at miracast
  rw [← turned.uxplay] at stopped spawned
  exact ⟨miracast, stopped, spawned⟩

/-- Turns leave a room that is restored as it is, in a calm run. -/
theorem RestoredFrom.turned (restored : s.daemon.RestoredFrom before) (calm : s.Calm)
    (turned : s'.TurnedFrom s) : s'.daemon.RestoredFrom before := by
  obtain ⟨idle, dark, running, restarted, available⟩ := restored
  rw [← turned.arbiter] at idle
  rw [← turned.uxplay] at running restarted
  rw [← turned.available] at available
  exact ⟨idle, turned.dark calm dark, running, restarted, available⟩

end Daemon

/-- A run after the transition of a disconnect from MIRACAST. -/
def SourceRun.disconnected (s : SourceRun) : SourceRun :=
  { s with
    daemon := { s.daemon with arbiter := { state := .idle } }
    restartPending := s.recovery.starting }

namespace SourceSession

variable {c : SourceSession} {s : SourceRun} {before : Daemon}

/-- The actions of the transition from MIRACAST to idle. -/
private def teardown : List Action :=
  [.stopRenderPipeline, .resumeAirplayAdvertising, .resumeMiracastDiscovery, .showIdleScreen]

private theorem applyActions_cons (action : Action) (actions : List Action) (f : Daemon → Daemon)
    (applied : ∀ d : Daemon, d.uxplay = s.daemon.uxplay → d.applyAction action = some (f d)) :
    ∃ s' : SourceRun, s'.TurnedFrom s ∧ c.applyActions (action :: actions) s =
      c.applyActions actions { s' with daemon := f s'.daemon } := by
  have turned := c.afterTurns_turnedFrom (.disconnectActions (action :: actions)) s
  generalize hturned : c.afterTurns (.disconnectActions (action :: actions)) s = s' at turned
  have done : applyAction action s' = .ok () { s' with daemon := f s'.daemon } := by
    rw [applyAction, applied _ turned.uxplay]
  refine ⟨s', turned, ?_⟩
  rw [applyActions, bind_of_ok (c.takeTurns_eq _ _), hturned, bind_of_ok done]

private theorem applyActions_ok (c : SourceSession) (before : Daemon)
    (idle : s.daemon.arbiter.state = .idle)
    (stopped : s.daemon.uxplay.isRunning = false)
    (spawned : s.daemon.uxplay.spawned = before.uxplay.spawned) :
    ∃ s', c.applyActions teardown s = .ok () s' ∧ s'.reader = s.reader ∧
      s'.restartPending = s.restartPending ∧
      (s.Calm → s'.Calm ∧ s'.daemon.RestoredFrom before) := by
  obtain ⟨s₁, turned₁, stops⟩ := applyActions_cons (c := c) (s := s) .stopRenderPipeline
    [.resumeAirplayAdvertising, .resumeMiracastDiscovery, .showIdleScreen]
    (fun d => { d with render := d.render.stop }) fun d _ => rfl
  obtain ⟨uxplay, hstart⟩ : ∃ uxplay, s.daemon.uxplay.start = some uxplay := by
    rw [← Option.ne_none_iff_exists', Ne, UxPlayProcess.start_eq_none_iff, stopped]
    exact Bool.false_ne_true
  obtain ⟨s₂, turned₂, resumes⟩ := applyActions_cons (c := c)
    (s := { s₁ with daemon := { s₁.daemon with render := s₁.daemon.render.stop } })
    .resumeAirplayAdvertising [.resumeMiracastDiscovery, .showIdleScreen]
    (fun d => { d with uxplay := uxplay })
    fun d same => by rw [Daemon.applyAction, same, turned₁.uxplay, hstart, Option.map_some]
  obtain ⟨s₃, turned₃, advertises⟩ := applyActions_cons (c := c)
    (s := { s₂ with daemon := { s₂.daemon with uxplay := uxplay } }) .resumeMiracastDiscovery
    [.showIdleScreen] (·.setSessionAvailable true) fun d _ => rfl
  obtain ⟨s₄, turned₄, shows⟩ := applyActions_cons (c := c)
    (s := { s₃ with daemon := s₃.daemon.setSessionAvailable true }) .showIdleScreen []
    (·.showIdleScreen) fun d _ => rfl
  have turned₅ := c.afterTurns_turnedFrom (.disconnectActions [])
    { s₄ with daemon := s₄.daemon.showIdleScreen }
  generalize hs₅ : c.afterTurns (.disconnectActions []) _ = s₅ at turned₅
  refine ⟨{ s₅ with daemon := s₅.daemon.reportHealth }, ?_,
    turned₅.reader.trans (turned₄.reader.trans (turned₃.reader.trans
      (turned₂.reader.trans turned₁.reader))),
    turned₅.pending.trans (turned₄.pending.trans (turned₃.pending.trans
      (turned₂.pending.trans turned₁.pending))), fun calm => ?_⟩
  · rw [teardown, stops, resumes, advertises, shows, applyActions, bind_of_ok (c.takeTurns_eq _ _),
      onDaemon_ok, hs₅]
  -- once the pipeline is stopped, no turn of a calm run brings another up
  obtain ⟨outside, notStarting⟩ := turned₁.calm calm
  obtain ⟨calm₂, dark₂⟩ := turned₂.stays_dark (f := fun d => { d with uxplay := uxplay })
    (fun _ => ⟨rfl, rfl⟩) ⟨outside, notStarting⟩ s₁.daemon.render.stop_isRunning
  obtain ⟨calm₃, dark₃⟩ := turned₃.stays_dark (f := (·.setSessionAvailable true))
    (fun _ => ⟨rfl, rfl⟩) calm₂ dark₂
  obtain ⟨calm₄, dark₄⟩ := turned₄.stays_dark (f := (·.showIdleScreen)) (fun _ => ⟨rfl, rfl⟩)
    calm₃ dark₃
  obtain ⟨calm₅, dark₅⟩ := turned₅.stays_dark (f := (·.reportHealth)) (fun _ => ⟨rfl, rfl⟩)
    calm₄ dark₄
  have arbiter₅ : s₅.daemon.arbiter = s.daemon.arbiter := turned₅.arbiter.trans
    (turned₄.arbiter.trans (turned₃.arbiter.trans (turned₂.arbiter.trans turned₁.arbiter)))
  have uxplay₅ : s₅.daemon.uxplay = uxplay :=
    turned₅.uxplay.trans (turned₄.uxplay.trans turned₃.uxplay)
  obtain ⟨running, -, restarted⟩ := UxPlayProcess.start_spec hstart
  rw [spawned] at restarted
  rw [← arbiter₅] at idle
  rw [← uxplay₅] at running restarted
  exact ⟨calm₅, idle, dark₅, running, restarted, turned₅.available.trans turned₄.available⟩

/-- The disconnect of a session that is served takes the arbiter to idle and runs the actions of the
teardown. -/
private theorem handleMiracastDisconnected_eq (c : SourceSession)
    (serving : s.daemon.ServingFrom before) : c.handleMiracastDisconnected s =
      c.applyActions teardown (c.afterTurns .disconnect s).disconnected := by
  have miracast := (serving.turned (c.afterTurns_turnedFrom .disconnect s)).miracast
  have transition : disconnect (c.afterTurns .disconnect s) =
      .ok teardown (c.afterTurns .disconnect s).disconnected := by
    simp only [disconnect, CastArbiter.handle, CastArbiter.transition, miracast, table, teardown,
      SourceRun.disconnected]
  rw [handleMiracastDisconnected, bind_of_ok (c.takeTurns_eq _ _), bind_of_ok transition]

/-- A disconnect returns. It restores the room unless the recovery thread was about to start a
pipeline. -/
private theorem handleMiracastDisconnected_ok (c : SourceSession)
    (serving : s.daemon.ServingFrom before) :
    ∃ s', c.handleMiracastDisconnected s = .ok () s' ∧ s'.reader = s.reader ∧
      (s.recovery = .absent → s'.restartPending = false) ∧
      (s'.restartPending = false → s'.Calm ∧ s'.daemon.RestoredFrom before) := by
  have turned := c.afterTurns_turnedFrom .disconnect s
  obtain ⟨-, stopped, spawned⟩ := serving.turned turned
  obtain ⟨s', applied, reader, pending, restores⟩ := c.applyActions_ok before
    (s := (c.afterTurns .disconnect s).disconnected) rfl stopped spawned
  rw [c.handleMiracastDisconnected_eq serving]
  refine ⟨s', applied, reader.trans turned.reader, fun absent => ?_, fun inTime => ?_⟩
  · rw [pending, SourceRun.disconnected, turned.absent absent]
    rfl
  · rw [pending] at inTime
    exact restores ⟨nofun, inTime⟩

/-! ## What a session does to the daemon -/

/-- The handshake of a session raises `ValueError`. -/
def RaisesValueError (c : SourceSession) (reader : RtspReader) : Prop :=
  ∃ t, c.boundedHandshake { reader := reader, negotiator := c.newNegotiator } =
    .error .valueError t

/-- A handshake that raises takes the exception to the `except` clause. -/
theorem startStreaming_of_error {e : PyError} {t : ControlSession}
    (h : c.boundedHandshake { reader := s.reader, negotiator := c.newNegotiator } = .error e t) :
    c.startStreaming s = .error (.session e) { s with reader := t.reader } :=
  bind_of_error (by rw [onSession, h])

/-- After a handshake that returns the pipeline starts, or `Popen` raises before the recovery thread
is spawned. -/
theorem startStreaming_of_ok {session : WfdSessionParams} {t : ControlSession}
    (h : c.boundedHandshake { reader := s.reader, negotiator := c.newNegotiator } =
      .ok session t) :
    c.launches = true ∧ c.startStreaming s = .ok (some t.negotiator)
        { s with
          daemon := { s.daemon with
            render := { proc := some { session := c.session } }
            renderPipelineExpected := true }
          reader := t.reader
          recovery := .waitFrame 1 } ∨
      c.launches = false ∧ c.startStreaming s = .error (.session .osError)
        { s with
          daemon := { s.daemon with render := s.daemon.render.stop }
          reader := t.reader } := by
  have negotiated : onSession c.boundedHandshake c.newNegotiator s =
      .ok (session, t.negotiator) { s with reader := t.reader } := by
    rw [onSession, h]
  rw [startStreaming, bind_of_ok negotiated]
  dsimp only
  rw [onDaemon_bind]
  -- the display is free after the stop
  have display := s.daemon.render.start_stop c.session
  cases hlaunches : c.launches with
  | true =>
    refine .inl ⟨rfl, ?_⟩
    have started : startRender c.session true
        { s with
          daemon := { s.daemon with render := s.daemon.render.stop }
          reader := t.reader } =
        .ok () { s with
          daemon := { s.daemon with render := { proc := some { session := c.session } } }
          reader := t.reader } := by
      rw [startRender, display]
      rfl
    rw [bind_of_ok started, onDaemon_bind]
    rfl
  | false =>
    refine .inr ⟨rfl, bind_of_error ?_⟩
    rw [startRender, display]
    rfl

/-- The `except` clause restores the room after every exception but `ValueError`. -/
theorem negotiationFailed_restores {e : PyError} (caught : e ≠ .valueError)
    (absent : s.recovery = .absent) (serving : s.daemon.ServingFrom before) :
    ∃ s', c.negotiationFailed (.session e) s = .ok none s' ∧ s'.reader = s.reader ∧
      s'.restartPending = false ∧ s'.Calm ∧ s'.daemon.RestoredFrom before := by
  obtain ⟨s', disconnected, reader, never, restores⟩ := c.handleMiracastDisconnected_ok serving
  refine ⟨s', ?_, reader, never absent, restores (never absent)⟩
  cases e with
  | valueError => exact absurd rfl caught
  | _ => exact bind_of_ok disconnected

/-- How the handler of a connect ends: with the `ValueError` of the handshake and the room stuck,
with the room restored, or with a session to pump. -/
private theorem handleMiracastConnected_cases (c : SourceSession)
    (idle : s.daemon.arbiter.state = .idle) (absent : s.recovery = .absent) :
    (c.RaisesValueError s.reader ∧
        ∃ s', c.handleMiracastConnected s = .error (.session .valueError) s' ∧
          s'.daemon.ServingFrom s.daemon ∧ s'.restartPending = s.restartPending) ∨
      ¬ c.RaisesValueError s.reader ∧
        ((∃ s', c.handleMiracastConnected s = .ok none s' ∧ s'.restartPending = false ∧
            s'.Calm ∧ s'.daemon.RestoredFrom s.daemon) ∨
          ∃ n s', c.handleMiracastConnected s = .ok (some n) s' ∧
            s'.daemon.ServingFrom s.daemon) := by
  obtain ⟨d, connected, serving⟩ := applyEvent_connected idle
  unfold handleMiracastConnected RaisesValueError
  rw [bind_of_ok connected]
  cases hnegotiate : c.boundedHandshake { reader := s.reader, negotiator := c.newNegotiator } with
  | error e t =>
    have raised := startStreaming_of_error (s := { s with daemon := d }) hnegotiate
    rw [tryCatch_of_error raised]
    by_cases caught : e = .valueError
    · subst caught
      exact .inl ⟨⟨t, rfl⟩, _, rfl, serving, rfl⟩
    · refine .inr ⟨?_, .inl ?_⟩
      · rintro ⟨t', same⟩
        cases same
        exact caught rfl
      · obtain ⟨s', handled, -, restored⟩ := negotiationFailed_restores
          (s := { s with daemon := d, reader := t.reader }) caught absent serving
        exact ⟨s', handled, restored⟩
  | ok session t =>
    refine .inr ⟨?_, ?_⟩
    · rintro ⟨t', same⟩
      cases same
    have serving' (render : RenderProcess) (expected : Bool) : Daemon.ServingFrom
        { d with render := render, renderPipelineExpected := expected } s.daemon :=
      ⟨serving.miracast, serving.uxplayStopped, serving.uxplaySpawned⟩
    rcases startStreaming_of_ok (s := { s with daemon := d }) hnegotiate with
      ⟨-, streaming⟩ | ⟨-, raised⟩
    · exact .inr ⟨_, _, tryCatch_of_ok streaming, serving' _ _⟩
    · rw [tryCatch_of_error raised]
      obtain ⟨s', handled, -, restored⟩ := negotiationFailed_restores
        (s := { s with
          daemon := { d with render := d.render.stop }
          reader := t.reader }) (c := c) (e := .osError) nofun absent (serving' _ _)
      exact .inl ⟨s', handled, restored⟩

/-- A session that is pumped, right before the transition of its disconnect. -/
def beforeDisconnect (c : SourceSession) (n : WfdNegotiator) (s : SourceRun) : SourceRun :=
  let pumped := stateAfter (onSession runSteadyState n (c.afterTurns .pump s))
  let closed := c.afterTurns .closeSock pumped
  c.afterTurns .disconnect { closed with daemon := closed.daemon.closeSock c.session }

private theorem pumpControlChannel_left (n : WfdNegotiator)
    (serving : s.daemon.ServingFrom before) :
    stateAfter (c.pumpControlChannel n s) =
        stateAfter (c.applyActions teardown (c.beforeDisconnect n s).disconnected) ∧
      (c.beforeDisconnect n s).daemon.ServingFrom before := by
  have untouched : ∀ s₁ : SourceRun,
      (stateAfter (onSession runSteadyState n s₁)).daemon = s₁.daemon := by
    intro s₁
    unfold onSession
    split <;> rfl
  have pumped := serving.turned (c.afterTurns_turnedFrom .pump s)
  rw [← untouched] at pumped
  obtain ⟨miracast, stopped, spawned⟩ := pumped.turned (c.afterTurns_turnedFrom .closeSock _)
  generalize hclosed : c.afterTurns .closeSock
    (stateAfter (onSession runSteadyState n (c.afterTurns .pump s))) = closed
    at miracast stopped spawned
  have serving' : (closed.daemon.closeSock c.session).ServingFrom before :=
    ⟨miracast, stopped, spawned⟩
  have before_eq : c.beforeDisconnect n s = c.afterTurns .disconnect
      { closed with daemon := closed.daemon.closeSock c.session } := by
    rw [beforeDisconnect, hclosed]
  have disconnects := c.handleMiracastDisconnected_eq
    (s := { closed with daemon := closed.daemon.closeSock c.session }) serving'
  obtain ⟨s', done, -⟩ := c.handleMiracastDisconnected_ok
    (s := { closed with daemon := closed.daemon.closeSock c.session }) serving'
  refine ⟨?_, before_eq ▸ serving'.turned (s := { closed with
    daemon := closed.daemon.closeSock c.session }) (c.afterTurns_turnedFrom .disconnect _)⟩
  have ended : c.endSession (stateAfter (onSession runSteadyState n (c.afterTurns .pump s))) =
      .ok () s' := by
    rw [endSession, bind_of_ok (c.takeTurns_eq _ _), hclosed, onDaemon_bind]
    exact done
  rw [pumpControlChannel, bind_of_ok (c.takeTurns_eq _ _), stateAfter_finally ended, before_eq,
    ← disconnects, done]
  rfl

/-- What a session sends while it is pumped is what its steady state sends. -/
theorem pumpControlChannel_reader (n : WfdNegotiator) (serving : s.daemon.ServingFrom before) :
    (stateAfter (c.pumpControlChannel n s)).reader =
      (stateAfter (runSteadyState { reader := s.reader, negotiator := n })).reader := by
  obtain ⟨left, -, stopped, spawned⟩ := pumpControlChannel_left (c := c) n serving
  obtain ⟨s', applied, same, -⟩ := applyActions_ok c before
    (s := (c.beforeDisconnect n s).disconnected) rfl stopped spawned
  have steady : ∀ s₁ : SourceRun, (stateAfter (onSession runSteadyState n s₁)).reader =
      (stateAfter (runSteadyState { reader := s₁.reader, negotiator := n })).reader := by
    intro s₁
    unfold onSession
    split <;> rename_i h <;> rw [h] <;> rfl
  have turned := c.afterTurns_turnedFrom .closeSock
    (stateAfter (onSession runSteadyState n (c.afterTurns .pump s)))
  have turned' := c.afterTurns_turnedFrom .disconnect
    { c.afterTurns .closeSock (stateAfter (onSession runSteadyState n (c.afterTurns .pump s))) with
      daemon := (c.afterTurns .closeSock
        (stateAfter (onSession runSteadyState n (c.afterTurns .pump s)))).daemon.closeSock
          c.session }
  rw [left, applied]
  calc s'.reader = (c.beforeDisconnect n s).reader := same
    _ = (stateAfter (onSession runSteadyState n (c.afterTurns .pump s))).reader :=
      turned'.reader.trans turned.reader
    _ = (stateAfter (runSteadyState
        { reader := (c.afterTurns .pump s).reader, negotiator := n })).reader := steady _
    _ = (stateAfter (runSteadyState { reader := s.reader, negotiator := n })).reader := by
      rw [(c.afterTurns_turnedFrom .pump s).reader]

private theorem pumpControlChannel_restores (n : WfdNegotiator)
    (serving : s.daemon.ServingFrom before)
    (inTime : (stateAfter (c.pumpControlChannel n s)).restartPending = false) :
    (stateAfter (c.pumpControlChannel n s)).Calm ∧
      (stateAfter (c.pumpControlChannel n s)).daemon.RestoredFrom before := by
  obtain ⟨left, -, stopped, spawned⟩ := pumpControlChannel_left (c := c) n serving
  obtain ⟨s', applied, -, pending, restores⟩ := c.applyActions_ok before
    (s := (c.beforeDisconnect n s).disconnected) rfl stopped spawned
  rw [left, applied] at inTime ⊢
  exact restores ⟨nofun, pending.symm.trans inTime⟩

/-- The room is restored after a session that recovers in time unless its handshake raises
`ValueError`, which leaves it in MIRACAST. -/
private theorem serve_restores (c : SourceSession) (idle : s.daemon.arbiter.state = .idle)
    (absent : s.recovery = .absent) :
    (c.RaisesValueError s.reader ∧ (stateAfter (c.serve s)).daemon.arbiter.state = .miracast) ∨
      ¬ c.RaisesValueError s.reader ∧ ((stateAfter (c.serve s)).restartPending = false →
        (stateAfter (c.serve s)).Calm ∧ (stateAfter (c.serve s)).daemon.RestoredFrom s.daemon) := by
  unfold serve
  rcases c.handleMiracastConnected_cases idle absent with
    ⟨raises, s', handled, stuck, -⟩ | ⟨returns, outcome⟩
  · rw [bind_of_error handled]
    exact .inl ⟨raises, stuck.miracast⟩
  · refine .inr ⟨returns, ?_⟩
    rcases outcome with ⟨s', handled, -, calm, restored⟩ | ⟨n, s', handled, serving⟩
    · rw [bind_of_ok handled]
      exact fun _ => ⟨calm, restored⟩
    · rw [bind_of_ok handled]
      have left : stateAfter ((do let _ ← c.pumpControlChannel n; return () : Sourcing Unit) s') =
          stateAfter (c.pumpControlChannel n s') := stateAfter_bind_pure
      dsimp only
      rw [left]
      exact pumpControlChannel_restores n serving

private theorem runSourceSession_left (c : SourceSession) (s : SourceRun) :
    stateAfter (c.runSourceSession s) =
      { c.afterTurns .clearSock (stateAfter (c.serve
          { s with daemon := { s.daemon with activeControlSock := some c.session } })) with
        daemon := { (c.afterTurns .clearSock (stateAfter (c.serve
          { s with daemon := { s.daemon with activeControlSock := some c.session } }))).daemon with
            activeControlSock := none } } := by
  rw [runSourceSession, onDaemon_bind]
  refine stateAfter_finally (b := ()) ?_
  rw [clearSock, bind_of_ok (c.takeTurns_eq _ _), onDaemon_ok]

private theorem runAfter_eq (c : SourceSession) (d : Daemon) (sock : Sock) : c.runAfter d sock =
    { c.afterTurns .clearSock (stateAfter (c.serve
        (threadOf { d with activeControlSock := some c.session } sock))) with
      daemon := { (c.afterTurns .clearSock (stateAfter (c.serve
        (threadOf { d with activeControlSock := some c.session } sock)))).daemon with
          activeControlSock := none } } :=
  c.runSourceSession_left (threadOf d sock)

/-- What a session sends is what serving it sends. -/
theorem runSourceSession_reader (c : SourceSession) (s : SourceRun) :
    (stateAfter (c.runSourceSession s)).reader = (stateAfter (c.serve
      { s with daemon := { s.daemon with activeControlSock := some c.session } })).reader := by
  rw [runSourceSession_left]
  exact (c.afterTurns_turnedFrom .clearSock _).reader

private theorem not_restored_of_raises {d : Daemon} {sock : Sock} (idle : d.arbiter.state = .idle)
    (raises : c.RaisesValueError { sock := sock }) : ¬ (c.daemonAfter d sock).RestoredFrom d := by
  have turned := c.afterTurns_turnedFrom .clearSock (stateAfter (c.serve
    (threadOf { d with activeControlSock := some c.session } sock)))
  rcases c.serve_restores (s := threadOf { d with activeControlSock := some c.session } sock) idle
    rfl with ⟨_, stuck⟩ | ⟨returns, _⟩
  · intro restored
    rw [daemonAfter, runAfter_eq] at restored
    have both := stuck.symm.trans ((congrArg CastArbiter.state turned.arbiter).symm.trans
      restored.idle)
    cases both
  · exact absurd raises returns

/-- The room is restored after a session that recovers in time unless its handshake raises
`ValueError`. -/
theorem daemonAfter_restored_iff (c : SourceSession) {d : Daemon} {sock : Sock}
    (idle : d.arbiter.state = .idle) (inTime : c.InTime d sock) :
    (c.daemonAfter d sock).RestoredFrom d ↔ ¬ c.RaisesValueError { sock := sock } := by
  refine ⟨fun restored raises => not_restored_of_raises idle raises restored, fun returns => ?_⟩
  have turned := c.afterTurns_turnedFrom .clearSock (stateAfter (c.serve
    (threadOf { d with activeControlSock := some c.session } sock)))
  unfold InTime at inTime
  unfold daemonAfter
  rw [runAfter_eq] at inTime ⊢
  rcases c.serve_restores (s := threadOf { d with activeControlSock := some c.session } sock) idle
    rfl with ⟨raises, _⟩ | ⟨_, restores⟩
  · exact absurd raises returns
  · obtain ⟨calm, restored⟩ := restores (turned.pending.symm.trans inTime)
    obtain ⟨idle', dark, running, restarted, available⟩ := restored.turned calm turned
    exact ⟨idle', dark, running, restarted, available⟩

/-- The handshake raises `ValueError` when the socket takes the timeout and a message has an
overlong field. -/
private theorem raisesValueError_iff (c : SourceSession) (sock : Sock) :
    c.RaisesValueError { sock := sock } ↔
      sock.SetsTimeout ∧ Overlong handshake [] sock.inbound sock.sends := by
  unfold RaisesValueError boundedHandshake
  rcases settimeout_cases { reader := { sock := sock }, negotiator := c.newNegotiator } with
    ⟨sets, timeouts, returned⟩ | ⟨not, fault, timeouts, raised⟩
  · rw [bind_of_ok returned]
    exact (negotiate_raises_iff c.sourceIp _ rfl).trans (and_iff_right sets).symm
  · rw [bind_of_error raised]
    refine iff_of_false ?_ fun both => not both.1
    rintro ⟨t, same⟩
    cases fault <;> cases same

end SourceSession

/-! ## A recovery thread that is not in time -/

namespace SourceSession

variable {c : SourceSession} {s : SourceRun} {before : Daemon}

/-- The same session, with one turn after its disconnect: the recovery thread calls `render.start`
once the pipeline is stopped. -/
def restarting (c : SourceSession) : SourceSession :=
  { c with
    turns := fun pc =>
      if pc = .disconnectActions [.resumeAirplayAdvertising, .resumeMiracastDiscovery,
        .showIdleScreen] then [.recovery .ok]
      else if pc.ended then [] else c.turns pc }

private theorem turns_restarting {pc : SessionPc} (before : pc.ended = false) :
    c.restarting.turns pc = c.turns pc := by
  cases pc <;> first | rfl | cases before

private theorem restarting_runs (starts : s.recovery.starting = true)
    (stopped : s.daemon.uxplay.isRunning = false) :
    (stateAfter (c.restarting.applyActions teardown s)).daemon.render.isRunning = true := by
  obtain ⟨n, stands⟩ : ∃ n, s.recovery = .startRender n := by
    cases hpc : s.recovery with
    | startRender n => exact ⟨n, rfl⟩
    | _ =>
      rw [hpc] at starts
      cases starts
  obtain ⟨uxplay, hstart⟩ : ∃ uxplay, s.daemon.uxplay.start = some uxplay := by
    rw [← Option.ne_none_iff_exists', Ne, UxPlayProcess.start_eq_none_iff, stopped]
    exact Bool.false_ne_true
  have quiet : c.restarting.afterTurns (.disconnectActions [.stopRenderPipeline,
      .resumeAirplayAdvertising, .resumeMiracastDiscovery, .showIdleScreen]) s = s := rfl
  have stops : applyAction .stopRenderPipeline s =
      .ok () { s with daemon := { s.daemon with render := s.daemon.render.stop } } := rfl
  have restarts : c.restarting.afterTurns (.disconnectActions [.resumeAirplayAdvertising,
      .resumeMiracastDiscovery, .showIdleScreen])
      { s with daemon := { s.daemon with render := s.daemon.render.stop } } =
      { s with
        daemon := { s.daemon with render := { proc := some { session := c.session } } }
        recovery := .raiseExpected n } := by
    show c.restarting.turn _ (.recovery .ok) = _
    simp only [turn, stands, recoveryNext, RenderProcess.start_stop]
    rfl
  have resumes : applyAction .resumeAirplayAdvertising
      { s with
        daemon := { s.daemon with render := { proc := some { session := c.session } } }
        recovery := .raiseExpected n } =
      .ok () { s with
        daemon := { s.daemon with
          render := { proc := some { session := c.session } }
          uxplay := uxplay }
        recovery := .raiseExpected n } := by
    simp only [applyAction, Daemon.applyAction, hstart, Option.map_some]
  rw [teardown, applyActions, bind_of_ok (c.restarting.takeTurns_eq _ _), quiet, bind_of_ok stops,
    applyActions, bind_of_ok (c.restarting.takeTurns_eq _ _), restarts, bind_of_ok resumes]
  rfl

private theorem restarting_beforeDisconnect (n : WfdNegotiator) :
    c.restarting.beforeDisconnect n s = c.beforeDisconnect n s := rfl

private theorem startStreaming_of_handled {n : WfdNegotiator} {s' : SourceRun}
    (handled : tryCatch c.startStreaming c.negotiationFailed s = .ok (some n) s') :
    c.startStreaming s = .ok (some n) s' := by
  have never : ∀ (e : Raised) (t : SourceRun), c.negotiationFailed e t ≠ .ok (some n) s' := by
    have disconnected : ∀ t : SourceRun,
        (do c.handleMiracastDisconnected; return none : Sourcing (Option WfdNegotiator)) t ≠
          .ok (some n) s' := by
      intro t returned
      obtain ⟨_, _, _, last⟩ := bind_eq_ok_iff.mp returned
      cases last
    intro e t
    cases e with
    | runtimeError => exact nofun
    | session error =>
      cases error with
      | valueError => exact nofun
      | _ => exact disconnected t
  cases streaming : c.startStreaming s with
  | ok a t => rwa [tryCatch_of_ok streaming] at handled
  | error e t =>
    rw [tryCatch_of_error streaming] at handled
    exact absurd handled (never e t)

/-- A session that is not in time was pumped, and its recovery thread was about to start the
pipeline at the disconnect. -/
private theorem pumped_of_late (idle : s.daemon.arbiter.state = .idle)
    (absent : s.recovery = .absent) (fresh : s.restartPending = false)
    (late : (stateAfter (c.serve s)).restartPending = true) :
    ∃ n s', c.handleMiracastConnected s = .ok (some n) s' ∧ s'.daemon.ServingFrom s.daemon ∧
      (c.beforeDisconnect n s').recovery.starting = true := by
  unfold serve at late
  rcases c.handleMiracastConnected_cases idle absent with ⟨_, s', handled, _, same⟩ | ⟨_, outcome⟩
  · rw [bind_of_error handled] at late
    have both := (late.symm.trans same).trans fresh
    cases both
  · rcases outcome with ⟨s', handled, inTime, _⟩ | ⟨n, s', handled, serving⟩
    · rw [bind_of_ok handled] at late
      have both := late.symm.trans inTime
      cases both
    · refine ⟨n, s', handled, serving, ?_⟩
      obtain ⟨left, -, stopped, spawned⟩ := pumpControlChannel_left (c := c) n serving
      obtain ⟨t, applied, -, pending, -⟩ := c.applyActions_ok s.daemon
        (s := (c.beforeDisconnect n s').disconnected) rfl stopped spawned
      rw [bind_of_ok handled] at late
      dsimp only at late
      rw [stateAfter_bind_pure, left, applied] at late
      exact pending.symm.trans late

private theorem not_restored_of_late (c : SourceSession) {d : Daemon} {sock : Sock}
    (idle : d.arbiter.state = .idle) (late : ¬ c.InTime d sock) :
    ¬ (c.restarting.daemonAfter d sock).RestoredFrom d := by
  have pending : (stateAfter (c.serve
      (threadOf { d with activeControlSock := some c.session } sock))).restartPending = true := by
    rw [InTime, runAfter_eq] at late
    rw [← (c.afterTurns_turnedFrom .clearSock _).pending]
    exact Bool.eq_true_of_not_eq_false late
  obtain ⟨n, s', handled, serving, starts⟩ := pumped_of_late idle rfl rfl pending
  obtain ⟨left, -, stopped, _⟩ := pumpControlChannel_left (c := c.restarting) n serving
  rw [restarting_beforeDisconnect] at left stopped
  have runs := restarting_runs (c := c) (s := (c.beforeDisconnect n s').disconnected) starts stopped
  have handled' : c.restarting.handleMiracastConnected
      (threadOf { d with activeControlSock := some c.session } sock) = .ok (some n) s' := by
    obtain ⟨_, t, connected, tried⟩ := bind_eq_ok_iff.mp handled
    rw [handleMiracastConnected, bind_of_ok connected]
    exact tryCatch_of_ok (x := c.restarting.startStreaming)
      (startStreaming_of_handled (c := c) tried)
  have running : (stateAfter (c.restarting.serve (threadOf { d with
      activeControlSock := some c.session } sock))).daemon.render.isRunning = true := by
    rw [serve, bind_of_ok handled']
    dsimp only
    rw [stateAfter_bind_pure, left]
    exact runs
  intro restored
  rw [daemonAfter, runAfter_eq] at restored
  have both := running.symm.trans restored.dark
  cases both

end SourceSession

/-- A session whose recovery thread is not about to start its pipeline when it is disconnected
restores the room exactly when its handshake does not come to a field with more digits than `int()`
converts: the length in a header, or the port in the response to M6. Where the recovery thread is
about to, the room depends on the turns after the disconnect, and some leave it with a pipeline.

`NegotiationError` and `OSError` are what the handshake is documented to raise, and what is caught.
The steady state may raise anything: its `finally` disconnects. -/
theorem source_session_restores_iff (c : SourceSession) {d : Daemon} (sock : Sock)
    (idle : d.arbiter.state = .idle) :
    (c.InTime d sock → ((c.daemonAfter d sock).RestoredFrom d ↔
      ¬ (sock.SetsTimeout ∧ Overlong handshake [] sock.inbound sock.sends))) ∧
    (¬ c.InTime d sock → ∃ turns, (∀ pc : SessionPc, pc.ended = false → turns pc = c.turns pc) ∧
      ¬ (SourceSession.daemonAfter { c with turns := turns } d sock).RestoredFrom d) :=
  ⟨fun inTime =>
    (c.daemonAfter_restored_iff idle inTime).trans (not_congr (c.raisesValueError_iff sock)),
    fun late => ⟨c.restarting.turns, fun _ => SourceSession.turns_restarting,
      c.not_restored_of_late idle late⟩⟩

/-- A source that sends M1 in two chunks and then times out. -/
theorem source_session_restores_after_timeout :
    (SourceSession.daemonAfter { session := 0, sourceIp := "192.168.173.80".toList,
                                 deviceName := "Room 1".toList } Daemon.started
      { inbound := [.data (encode "OPTIONS * RTSP/1.0\r\nCS".toList),
          .data (encode "eq: 1\r\n\r\n".toList), .raises .timeout] }).RestoredFrom
      Daemon.started :=
  ((source_session_restores_iff _ _ rfl).1 (by decide +kernel)).mpr (by decide +kernel)

/-- The lines of an M1 that announces its body in 4301 digits. -/
def longM1 : Bytes := linesWithLength (encode "OPTIONS * RTSP/1.0\r\nCSeq: 1\r\n".toList) 4301 49

private theorem longM1_long : LongHeader (longM1 ++ blankLine ++ []) := by
  refine longHeader_of_only (linesWithLength_isHeader (by decide) (by decide +kernel))
    (linesWithLength_only rfl rfl (by decide) (by decide +kernel)) ?_ []
  rw [List.length_replicate]
  decide

/-- A source whose first message announces a body in 4301 digits leaves the room in MIRACAST. -/
theorem long_content_length_leaves_room_stuck :
    ¬ (SourceSession.daemonAfter { session := 0, sourceIp := "192.168.173.80".toList,
                                   deviceName := "Room 1".toList } Daemon.started
      { inbound := [.data (longM1 ++ blankLine)] }).RestoredFrom Daemon.started := by
  refine SourceSession.not_restored_of_raises rfl ?_
  rw [SourceSession.raisesValueError_iff]
  refine ⟨rfl, overlong_of_longHeader ?_⟩
  rw [arriving_data (by simp [blankLine])]
  exact longM1_long

end Castd.Main
