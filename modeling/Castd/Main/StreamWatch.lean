import Castd.Main.Threads

/-!
# Whose evidence the stream watchdog judges

The watchdog thread knows no sessions. What ties its verdict to one is the gate
`_render_pipeline_expected`, which the thread of a session raises after its `render.start()`, and
which only a tick lowers when it finds the arbiter outside MIRACAST. A session that connects
before such a tick finds the gate still up from the session before.

Here sessions come one after another (`OneAfterAnother`): each enters `_run_source_session` when
the one before has left it, and no recovery thread or AirPlay callback takes a step. Ticks, clock
and the pipeline's own exit are anywhere in between. If the gate is down at every connect
(`GateDown`), an open gate in MIRACAST belongs to the session in the slot, past its own start
(`Threads.Watched`), and so does what the watchdog remembers.
-/

namespace Castd.Main

open Fsm Render Lib StreamWatchdog

/-- Inside `_run_source_session`, past the assignment to the slot. -/
def SessionPc.inSlot : SessionPc → Bool
  | .absent => false
  | .checkState => false
  | .dial => false
  | .setSock => false
  | .done => false
  | _ => true

/-- Past the connect, and before the gate is raised. -/
def SessionPc.handshaking : SessionPc → Bool
  | .connectActions _ => true
  | .negotiate => true
  | .stopRender => true
  | .startRender => true
  | .expectRender => true
  | _ => false

/-- Past the session's own `render.start()` and the raised gate, before its disconnect. -/
def SessionPc.streaming : SessionPc → Bool
  | .spawnRecovery => true
  | .pump => true
  | .closeSock => true
  | .disconnect => true
  | _ => false

/-- Sessions come one after another, and nothing else drives the arbiter or the pipeline: there is
no AirPlay client, and no recovery of a cold start. -/
def OneAfterAnother (s : Threads) : Label → Prop
  | .session i _ => s.sessions i = .setSock → s.daemon.activeControlSock = none
  | .recovery _ _ => False
  | .airplay _ _ => False
  | .airplayAction _ => False
  | _ => True

/-- The gate is down when a session connects.

Nobody lowers it at the end of a session: a tick does, if one comes outside of MIRACAST. -/
def GateDown (s : Threads) : Label → Prop
  | .session i _ => s.sessions i = .connect → s.daemon.renderPipelineExpected = false
  | _ => True

instance (s : Threads) (l : Label) : Decidable (OneAfterAnother s l) :=
  match l with
  | .session _ _ => inferInstanceAs (Decidable (_ → _))
  | .recovery _ _ | .airplay _ _ | .airplayAction _ => instDecidableFalse
  | .inbound _ | .authorized _ | .tick _ | .childExits | .frameSeen | .elapse _ =>
    instDecidableTrue

instance (s : Threads) (l : Label) : Decidable (GateDown s l) :=
  match l with
  | .session _ _ => inferInstanceAs (Decidable (_ → _))
  | .inbound _ | .authorized _ | .recovery _ _ | .airplay _ _ | .airplayAction _ | .tick _
  | .childExits | .frameSeen | .elapse _ => instDecidableTrue

/-- The watchdog's verdict against session `i` on its own evidence. -/
structure JudgedOnOwn (s : Threads) (rxBytes : Option Int) (i : Nat) : Prop where
  /-- The session is past its own start, and has not handled its disconnect. -/
  streaming : (s.sessions i).streaming = true
  /-- No other session started a pipeline after it. -/
  started : s.trail.lastStarted = some i
  /-- Its pipeline died, or the samples since its start show a stall over the window. -/
  evidence : s.daemon.render.proc = some { session := i, alive := false } ∨
    ∃ rx since, rxBytes = some rx ∧
      FlatSince 5000 ((rx, s.daemon.now) :: s.trail.samples) rx since ∧
      10 < s.daemon.now - since

/-! ## The slot -/

/-- Whoever is inside `_run_source_session` is in the slot. -/
def Threads.SlotHeld (s : Threads) : Prop :=
  ∀ i, (s.sessions i).inSlot = true → s.daemon.activeControlSock = some i

private theorem SessionStep.inSlot_from {i : Nat} {d d' : Daemon} {pc pc' : SessionPc}
    (h : SessionStep i d pc pc' d') (inside : pc'.inSlot = true) :
    pc = .setSock ∨ (pc.inSlot = true ∧ pc ≠ .clearSock) := by
  cases h with
  | sockSet => exact .inl rfl
  | _ => first
    | exact .inr ⟨rfl, SessionPc.noConfusion⟩
    | exact absurd inside Bool.false_ne_true

private theorem Threads.Step.slotHeld {s s' : Threads} {l : Label} (h : s.Step l s')
    (turn : OneAfterAnother s l) (hs : s.SlotHeld) : s'.SlotHeld := by
  intro j inside
  cases h with
  | @inbound i fresh | @authorized i fresh =>
    apply hs j
    exact of_update (P := fun pc : SessionPc => pc.inSlot = true) inside Bool.false_ne_true
  | @session i o pc pc' d stands next =>
    show d.activeControlSock = some j
    by_cases hj : j = i
    · subst hj
      simp only [Function.update_self] at inside
      rcases next.inSlot_from inside with rfl | ⟨before, hc⟩
      · cases next
        rfl
      · have hset : pc ≠ .setSock := fun hset => by
          rw [hset] at before
          exact Bool.noConfusion before
        rw [next.activeControlSock_eq hset hc]
        exact hs j (stands ▸ before)
    · simp only [Function.update_of_ne hj] at inside
      have held := hs j inside
      have hset : pc ≠ .setSock := fun hset => by
        rw [turn (stands.trans hset)] at held
        exact absurd held.symm (Option.some_ne_none j)
      have hclear : pc ≠ .clearSock := fun hclear => by
        have := hs i (by rw [stands, hclear]; rfl)
        rw [held] at this
        exact hj (Option.some.inj this)
      rw [next.activeControlSock_eq hset hclear]
      exact held
  | recovery | airplay | airplayAction => exact absurd turn id
  | childExits | frameSeen | elapse => exact hs j inside
  | @tick rx =>
    obtain ⟨_, _, frame⟩ := s.daemon.streamWatchTick_frame s.watchdog rx
    simp only [frame]
    exact hs j inside

/-- Two sessions inside are one. -/
theorem Threads.SlotHeld.eq {s : Threads} (hs : s.SlotHeld) {i j : Nat}
    (hi : (s.sessions i).inSlot = true) (hj : (s.sessions j).inSlot = true) : i = j := by
  have := hs i hi
  rw [hs j hj] at this
  exact (Option.some.inj this).symm

/-- While one session is inside another is not. -/
theorem Threads.SlotHeld.outside {s : Threads} (hs : s.SlotHeld) {i k : Nat} (other : k ≠ i)
    (hk : (s.sessions k).inSlot = true) : (s.sessions i).inSlot = false := by
  by_contra inside
  exact other (hs.eq hk (Bool.eq_true_of_not_eq_false inside))

private theorem SessionPc.inSlot_of_handshaking {pc : SessionPc} (h : pc.handshaking = true) :
    pc.inSlot = true := by
  cases pc <;> first | rfl | exact Bool.noConfusion h

private theorem SessionPc.inSlot_of_streaming {pc : SessionPc} (h : pc.streaming = true) :
    pc.inSlot = true := by
  cases pc <;> first | rfl | exact Bool.noConfusion h

/-! ## The gate -/

private theorem SessionStep.expected_eq {i : Nat} {d d' : Daemon} {pc pc' : SessionPc}
    (h : SessionStep i d pc pc' d') (he : pc ≠ .expectRender) :
    d'.renderPipelineExpected = d.renderPipelineExpected := by
  cases h with
  | renderExpected => exact absurd rfl he
  | connectAction applied => exact (Daemon.applyAction_frame applied).2.2.1
  | disconnectAction applied => exact (Daemon.applyAction_frame applied).2.2.1
  | _ => rfl

private theorem SessionStep.of_streaming {i : Nat} {d d' : Daemon} {pc pc' : SessionPc}
    (h : SessionStep i d pc pc' d') (hs : pc.streaming = true) (hd : pc ≠ .disconnect) :
    pc'.streaming = true ∧ d'.render = d.render ∧ d'.activeControlSock = d.activeControlSock := by
  cases h with
  | recoverySpawned | pumpEnded | sockClosed => exact ⟨rfl, rfl, rfl⟩
  | disconnected => exact absurd rfl hd
  | _ => exact Bool.noConfusion hs

private theorem SessionStep.of_not_inSlot {i : Nat} {d d' : Daemon} {pc pc' : SessionPc}
    (h : SessionStep i d pc pc' d') (out : pc.inSlot = false) (hs : pc ≠ .setSock) : d' = d := by
  cases h with
  | ignored | dialing | dialed | undialed => rfl
  | sockSet => exact absurd rfl hs
  | _ => exact Bool.noConfusion out

private theorem Trail.afterSession_started_eq (t : Trail) (d : Daemon) (i : Nat) {pc : SessionPc}
    (pc' : SessionPc) (h : pc ≠ .startRender) :
    (t.afterSession d i pc pc').lastStarted = t.lastStarted ∧
      (t.afterSession d i pc pc').samples = t.samples := by
  unfold afterSession
  split
  · split <;> exact ⟨rfl, rfl⟩
  · split <;> exact ⟨rfl, rfl⟩
  · exact absurd rfl h
  · exact ⟨rfl, rfl⟩

@[simp] theorem Trail.afterTick_lastStarted (t : Trail) (d : Daemon) (rx : Option Int) :
    (t.afterTick d rx).lastStarted = t.lastStarted := by
  unfold afterTick
  split
  · split <;> rfl
  · rfl

private theorem Daemon.streamWatchTick_expected {d : Daemon} {w : StreamWatchdog} {rx : Option Int}
    (h : (d.streamWatchTick w rx).1.renderPipelineExpected = true) :
    d.renderPipelineExpected = true := by
  obtain ⟨_, trip⟩ := d.tripStreamWatchdog_frame
  unfold streamWatchTick at h
  split at h
  · exact Bool.noConfusion h
  split at h
  · exact h
  split at h
  · exact Bool.noConfusion h
  split at h
  · exact h
  split at h
  · rwa [trip] at h
  · exact h

/-- During a handshake the gate is down. -/
def Threads.HandshakeGated (s : Threads) : Prop :=
  ∀ i, (s.sessions i).handshaking = true → s.daemon.renderPipelineExpected = false

private theorem SessionStep.handshaking_from {i : Nat} {d d' : Daemon} {pc pc' : SessionPc}
    (h : SessionStep i d pc pc' d') (shakes : pc'.handshaking = true) :
    pc = .connect ∨ (pc.handshaking = true ∧ pc ≠ .expectRender) := by
  cases h with
  | connected => exact .inl rfl
  | _ => first
    | exact .inr ⟨rfl, SessionPc.noConfusion⟩
    | exact absurd shakes Bool.false_ne_true

private theorem Threads.Step.handshakeGated {s s' : Threads} {l : Label} (h : s.Step l s')
    (turn : OneAfterAnother s l) (down : GateDown s l) (held : s.SlotHeld)
    (hs : s.HandshakeGated) : s'.HandshakeGated := by
  intro j shakes
  cases h with
  | @inbound i fresh | @authorized i fresh =>
    apply hs j
    exact of_update (P := fun pc : SessionPc => pc.handshaking = true) shakes Bool.false_ne_true
  | @session i o pc pc' d stands next =>
    show d.renderPipelineExpected = false
    by_cases hj : j = i
    · subst hj
      simp only [Function.update_self] at shakes
      rcases next.handshaking_from shakes with rfl | ⟨before, he⟩
      · rw [next.expected_eq SessionPc.noConfusion]
        exact down stands
      · rw [next.expected_eq he]
        exact hs j (stands ▸ before)
    · simp only [Function.update_of_ne hj] at shakes
      have he : pc ≠ .expectRender := fun he =>
        hj (held.eq (SessionPc.inSlot_of_handshaking shakes) (by rw [stands, he]; rfl))
      rw [next.expected_eq he]
      exact hs j shakes
  | recovery | airplay | airplayAction => exact absurd turn id
  | childExits | frameSeen | elapse => exact hs j shakes
  | tick =>
    have before := hs j shakes
    show Daemon.renderPipelineExpected _ = false
    by_contra raised
    rw [Daemon.streamWatchTick_expected (Bool.eq_true_of_not_eq_false raised)] at before
    exact Bool.noConfusion before

/-- A session about to raise the gate has started its own pipeline last. -/
def Threads.Presents (s : Threads) : Prop :=
  ∀ i, s.sessions i = .expectRender →
    s.trail.lastStarted = some i ∧
      ∃ alive, s.daemon.render.proc = some { session := i, alive := alive }

private theorem childExits_proc {r : RenderProcess} {i : Nat}
    (h : ∃ alive, r.proc = some { session := i, alive := alive }) :
    ∃ alive, r.childExits.proc = some { session := i, alive := alive } := by
  obtain ⟨alive, h⟩ := h
  exact ⟨false, by simp only [RenderProcess.childExits, h, Option.map_some]⟩

private theorem Threads.Step.presents {s s' : Threads} {l : Label} (h : s.Step l s')
    (turn : OneAfterAnother s l) (held : s.SlotHeld) (hs : s.Presents) : s'.Presents := by
  intro j expects
  cases h with
  | @inbound i fresh | @authorized i fresh =>
    apply hs j
    exact eq_of_update expects SessionPc.noConfusion
  | @session i o pc pc' d stands next =>
    show (s.trail.afterSession s.daemon i pc pc').lastStarted = some j ∧
      ∃ alive, d.render.proc = some { session := j, alive := alive }
    by_cases hj : j = i
    · subst hj
      simp only [Function.update_self] at expects
      subst expects
      cases next with
      | renderStarted started => exact ⟨rfl, true, RenderProcess.start_proc started⟩
    · simp only [Function.update_of_ne hj] at expects
      have out : pc.inSlot = false := stands ▸ held.outside hj (by rw [expects]; rfl)
      have hstart : pc ≠ .startRender := fun hstart => by
        rw [hstart] at out
        exact Bool.noConfusion out
      rw [(s.trail.afterSession_started_eq s.daemon i pc' hstart).1]
      by_cases hset : pc = .setSock
      · subst hset
        cases next
        exact hs j expects
      · rw [next.of_not_inSlot out hset]
        exact hs j expects
  | recovery | airplay | airplayAction => exact absurd turn id
  | childExits =>
    obtain ⟨started, proc⟩ := hs j expects
    exact ⟨started, childExits_proc proc⟩
  | frameSeen | elapse => exact hs j expects
  | @tick rx =>
    obtain ⟨_, _, frame⟩ := s.daemon.streamWatchTick_frame s.watchdog rx
    simp only [frame, Trail.afterTick_lastStarted]
    exact hs j expects

/-- An open gate in MIRACAST belongs to the session in the slot, past its own start. -/
def Threads.Watched (s : Threads) : Prop :=
  s.daemon.renderPipelineExpected = true → s.daemon.arbiter.state = .miracast →
    ∃ i alive, s.daemon.activeControlSock = some i ∧ (s.sessions i).streaming = true ∧
      s.trail.lastStarted = some i ∧
      s.daemon.render.proc = some { session := i, alive := alive }

/-- A step of a session keeps it: the gate goes up for the session in the slot, whose pipeline runs,
and until it goes down that session streams. -/
theorem Threads.Watched.session {s : Threads} {i : Nat} {o : Outcome} {pc pc' : SessionPc}
    {d : Daemon} (hs : s.Watched) (turn : OneAfterAnother s (.session i o))
    (down : GateDown s (.session i o)) (held : s.SlotHeld) (gated : s.HandshakeGated)
    (presents : s.Presents) (stands : s.sessions i = pc)
    (next : SessionStep i s.daemon pc pc' d) :
    Threads.Watched { s with
      daemon := d
      sessions := Function.update s.sessions i pc'
      recoveries :=
        if pc = .spawnRecovery then Function.update s.recoveries i (.waitFrame 1)
        else s.recoveries
      trail := s.trail.afterSession s.daemon i pc pc' } := by
  intro raised miracast
  change d.renderPipelineExpected = true at raised
  change d.arbiter.state = .miracast at miracast
  by_cases hexpect : pc = .expectRender
  · -- the session opens the gate: it is the one in the slot, and its pipeline runs
    subst hexpect
    obtain ⟨started, alive, proc⟩ := presents i stands
    have slot := held i (by rw [stands]; rfl)
    cases next
    exact ⟨i, alive, slot, by simp only [Function.update_self]; rfl, started, proc⟩
  rw [next.expected_eq hexpect] at raised
  have hconn : pc ≠ .connect := fun hconn => by
    rw [down (stands.trans hconn)] at raised
    exact Bool.noConfusion raised
  by_cases hdisc : pc = .disconnect
  · subst hdisc
    cases next
    rw [CastArbiter.handle_miracastDisconnected_state] at miracast
    split at miracast
    · cases miracast
    · contradiction
  rw [next.arbiter_eq hconn hdisc] at miracast
  obtain ⟨k, alive, slot, streams, started, proc⟩ := hs raised miracast
  have hset : pc ≠ .setSock := fun hset => by
    rw [turn (stands.trans hset)] at slot
    exact absurd slot.symm (Option.some_ne_none k)
  have hstart : pc ≠ .startRender := fun hstart => by
    rw [gated i (by rw [stands, hstart]; rfl)] at raised
    exact Bool.noConfusion raised
  have sameStart := (s.trail.afterSession_started_eq s.daemon i pc' hstart).1
  refine ⟨k, alive, ?_⟩
  show d.activeControlSock = some k ∧ (Function.update s.sessions i pc' k).streaming = true ∧
    (s.trail.afterSession s.daemon i pc pc').lastStarted = some k ∧ d.render.proc = _
  rw [sameStart]
  by_cases hk : k = i
  · subst hk
    obtain ⟨streams', render, sock⟩ := next.of_streaming (stands ▸ streams) hdisc
    exact ⟨sock.trans slot, by rw [Function.update_self]; exact streams', started,
      (congrArg RenderProcess.proc render).trans proc⟩
  · have out : pc.inSlot = false :=
      stands ▸ held.outside hk (SessionPc.inSlot_of_streaming streams)
    rw [next.of_not_inSlot out hset, Function.update_of_ne hk]
    exact ⟨slot, streams, started, proc⟩

private theorem Threads.Step.watched {s s' : Threads} {l : Label} (h : s.Step l s')
    (turn : OneAfterAnother s l) (down : GateDown s l) (held : s.SlotHeld)
    (gated : s.HandshakeGated) (presents : s.Presents) (hs : s.Watched) : s'.Watched := by
  intro raised miracast
  cases h with
  | @inbound i fresh | @authorized i fresh =>
    obtain ⟨k, alive, slot, streams, rest⟩ := hs raised miracast
    refine ⟨k, alive, slot, ?_, rest⟩
    refine update_of (P := fun pc : SessionPc => pc.streaming = true) streams ?_
    rw [fresh]
    exact Bool.false_ne_true
  | session stands next =>
    exact hs.session turn down held gated presents stands next raised miracast
  | recovery | airplay | airplayAction => exact absurd turn id
  | childExits =>
    obtain ⟨k, alive, slot, streams, started, proc⟩ := hs raised miracast
    obtain ⟨alive', proc'⟩ := childExits_proc ⟨alive, proc⟩
    exact ⟨k, alive', slot, streams, started, proc'⟩
  | frameSeen | elapse => exact hs raised miracast
  | @tick rx =>
    have before := Daemon.streamWatchTick_expected raised
    obtain ⟨_, _, frame⟩ := s.daemon.streamWatchTick_frame s.watchdog rx
    simp only [frame, Trail.afterTick_lastStarted] at miracast ⊢
    exact hs before miracast

/-! ## What the watchdog remembers -/

/-- The watchdog has its defaults, remembers nothing while the gate is down, and remembers only
what it sampled since the last start. -/
structure Threads.Sampled (s : Threads) : Prop where
  window : s.watchdog.stallWindow = 10
  minBytes : s.watchdog.minBytes = 5000
  forgets : s.daemon.renderPipelineExpected = false → s.watchdog.seen = none
  remembers : s.watchdog.Remembers s.trail.samples

/-- A tick keeps it. -/
theorem Threads.Sampled.tick {s : Threads} (hs : s.Sampled) (rx : Option Int) :
    Threads.Sampled
      { s with
        daemon := (s.daemon.streamWatchTick s.watchdog rx).1
        watchdog := (s.daemon.streamWatchTick s.watchdog rx).2
        trail := s.trail.afterTick s.daemon rx } := by
  obtain ⟨window, minBytes, forgets, remembers⟩ := hs
  unfold Daemon.streamWatchTick Trail.afterTick
  by_cases hstate : s.daemon.arbiter.state = .miracast
  swap
  · simp only [hstate, ne_eq, not_false_eq_true, if_true, false_and, if_false]
    exact ⟨window, minBytes, fun _ => rfl, remembers_of_seen_none _ rfl⟩
  cases hgate : s.daemon.renderPipelineExpected with
  | false =>
    simp only [hstate, ne_eq, not_true_eq_false, if_false, if_true, Bool.false_eq_true,
      false_and, and_false]
    refine ⟨window, minBytes, fun _ => forgets hgate, ?_⟩
    exact remembers_of_seen_none _ (forgets hgate)
  | true =>
    cases hrun : s.daemon.render.isRunning with
    | false =>
      simp only [hstate, ne_eq, not_true_eq_false, if_false, if_true, Bool.true_eq_false,
        Bool.false_eq_true, and_false]
      exact ⟨window, minBytes, fun _ => rfl, remembers_of_seen_none _ rfl⟩
    | true =>
      have raised : s.daemon.tripStreamWatchdog.renderPipelineExpected = true := by
        obtain ⟨_, trip⟩ := s.daemon.tripStreamWatchdog_frame
        rw [trip]
        exact hgate
      cases rx with
      | none =>
        simp only [hstate, ne_eq, not_true_eq_false, if_false, Bool.true_eq_false]
        exact ⟨window, minBytes, forgets, remembers⟩
      | some rx =>
        simp only [hstate, ne_eq, not_true_eq_false, if_false, Bool.true_eq_false, and_self,
          if_true]
        split
        · exact ⟨window, minBytes, fun lowered => absurd (raised.symm.trans lowered)
            Bool.noConfusion, remembers_of_seen_none _ rfl⟩
        · refine ⟨?_, ?_, fun lowered => absurd (hgate.symm.trans lowered) Bool.noConfusion, ?_⟩
          · exact (observe_stallWindow _ _ _).trans window
          · exact (observe_minBytes _ _ _).trans minBytes
          · exact remembers.observe rx s.daemon.now

private theorem Threads.Step.sampled {s s' : Threads} {l : Label} (h : s.Step l s')
    (turn : OneAfterAnother s l) (gated : s.HandshakeGated) (hs : s.Sampled) : s'.Sampled := by
  cases h with
  | inbound | authorized | childExits | frameSeen | elapse =>
    exact ⟨hs.window, hs.minBytes, hs.forgets, hs.remembers⟩
  | recovery | airplay | airplayAction => exact absurd turn id
  | tick => exact hs.tick _
  | @session i o pc pc' d stands next =>
    have forgets : d.renderPipelineExpected = false → s.watchdog.seen = none := fun lowered => by
      by_cases he : pc = .expectRender
      · subst he
        cases next
        exact Bool.noConfusion lowered
      · exact hs.forgets (next.expected_eq he ▸ lowered)
    refine ⟨hs.window, hs.minBytes, forgets, ?_⟩
    by_cases hstart : pc = .startRender
    · exact remembers_of_seen_none _ (hs.forgets (gated i (by rw [stands, hstart]; rfl)))
    · show s.watchdog.Remembers (s.trail.afterSession s.daemon i pc pc').samples
      rw [(s.trail.afterSession_started_eq s.daemon i pc' hstart).2]
      exact hs.remembers

/-! ## The verdict -/

/-- A tick closes the socket in the slot, in MIRACAST behind an open gate, when the pipeline does
not run or the sample it takes shows a stall. Any other tick closes nothing. -/
private theorem Daemon.streamWatchTick_closes {d : Daemon} {w : StreamWatchdog} {rx : Option Int}
    (h : (d.streamWatchTick w rx).1.closedSocks ≠ d.closedSocks) :
    ∃ sock, d.activeControlSock = some sock ∧
      (d.streamWatchTick w rx).1.closedSocks = sock :: d.closedSocks ∧
      d.arbiter.state = .miracast ∧ d.renderPipelineExpected = true ∧
      (d.render.isRunning = false ∨
        ∃ bytes, rx = some bytes ∧ (w.observe (· - ·) bytes d.now).1 = true) := by
  cases hslot : d.activeControlSock with
  | none =>
    have trip : d.tripStreamWatchdog = d := by
      unfold tripStreamWatchdog
      rw [hslot]
    refine absurd ?_ h
    unfold streamWatchTick
    rw [trip]
    repeat' split
    all_goals rfl
  | some sock =>
    have trip : d.tripStreamWatchdog = d.closeSock sock := by
      unfold tripStreamWatchdog
      rw [hslot]
    refine ⟨sock, rfl, ?_⟩
    unfold streamWatchTick at h ⊢
    rw [trip] at h ⊢
    split at h
    · exact absurd rfl h
    rename_i hstate
    rw [if_neg hstate]
    split at h
    · exact absurd rfl h
    rename_i hgate
    rw [if_neg hgate]
    have place := And.intro (not_not.mp hstate) (Bool.eq_true_of_not_eq_false hgate)
    split at h
    · rename_i hrun
      rw [if_pos hrun]
      exact ⟨rfl, place.1, place.2, .inl hrun⟩
    rename_i hrun
    rw [if_neg hrun]
    split at h
    · exact absurd rfl h
    rename_i bytes
    split at h
    · rename_i stall
      rw [if_pos stall]
      exact ⟨rfl, place.1, place.2, .inr ⟨bytes, rfl, stall⟩⟩
    · exact absurd rfl h

private theorem Threads.Watched.judgedOnOwn {s : Threads} (watched : s.Watched)
    (sampled : s.Sampled)
    {rx : Option Int}
    (closes : (s.daemon.streamWatchTick s.watchdog rx).1.closedSocks ≠ s.daemon.closedSocks) :
    ∃ i, s.daemon.activeControlSock = some i ∧
      (s.daemon.streamWatchTick s.watchdog rx).1.closedSocks = i :: s.daemon.closedSocks ∧
      JudgedOnOwn s rx i := by
  obtain ⟨i, slot, closed, miracast, raised, evidence⟩ := Daemon.streamWatchTick_closes closes
  obtain ⟨k, alive, slot', streams, started, proc⟩ := watched raised miracast
  obtain rfl : k = i := by
    rw [slot] at slot'
    exact (Option.some.inj slot').symm
  refine ⟨k, slot, closed, streams, started, ?_⟩
  rcases evidence with died | ⟨bytes, rfl, stall⟩
  · left
    simp only [RenderProcess.isRunning, proc] at died
    rw [proc, died]
  · right
    obtain ⟨since, flat, long⟩ := sampled.remembers.flatSince_of_stall stall
    rw [sampled.minBytes] at flat
    rw [sampled.window] at long
    exact ⟨bytes, since, rfl, flat, long⟩

/-- In every run of sessions one after another in which the gate is down at each connect, a tick
that closes a socket closes the one of a session it judges on that session's own evidence. From a
connect with the gate up, a tick during the handshake closes the socket. -/
theorem stream_watchdog_judges_own_evidence (s : Threads) (rx : Option Int) :
    (∀ s', Threads.system.Reaches (fun s l => OneAfterAnother s l ∧ GateDown s l) s →
      Threads.step s (.tick rx) = some s' → s'.daemon.closedSocks ≠ s.daemon.closedSocks →
      ∃ i, s.daemon.activeControlSock = some i ∧
        s'.daemon.closedSocks = i :: s.daemon.closedSocks ∧ JudgedOnOwn s rx i) ∧
    (∀ i, s.sessions i = .connect → s.daemon.activeControlSock = some i →
      s.daemon.arbiter.state = .idle → s.daemon.render.isRunning = false →
      s.daemon.renderPipelineExpected = true →
      ∃ t, Threads.system.runFrom s [.session i .ok, .tick rx] = some t ∧
        (t.sessions i).handshaking = true ∧ t.daemon.closedSocks = i :: s.daemon.closedSocks) := by
  refine ⟨fun s' reached h closes => ?_, fun i stands slot idle stopped raised => ?_⟩
  · have inv : s.SlotHeld ∧ s.HandshakeGated ∧ s.Presents ∧ s.Watched ∧ s.Sampled := by
      refine System.Leads.invariant
        (I := fun s => s.SlotHeld ∧ s.HandshakeGated ∧ s.Presents ∧ s.Watched ∧ s.Sampled) reached
        ⟨fun _ inside => absurd inside Bool.false_ne_true, fun _ _ => rfl,
          fun _ expects => SessionPc.noConfusion expects,
          fun raised => absurd raised Bool.false_ne_true,
          rfl, rfl, fun _ => rfl, remembers_of_seen_none _ rfl⟩ ?_
      intro t l u _ ⟨held, gated, presents, watched, sampled⟩ ⟨turn, down⟩ hstep
      have step := Threads.step_cases hstep
      exact ⟨step.slotHeld turn held, step.handshakeGated turn down held gated,
        step.presents turn held presents, step.watched turn down held gated presents watched,
        step.sampled turn gated sampled⟩
    obtain ⟨_, _, _, watched, sampled⟩ := inv
    cases h
    exact watched.judgedOnOwn sampled closes
  · have accepted : s.daemon.arbiter.handle .miracastConnected =
        (⟨.miracast, [.pauseAirplayAdvertising, .pauseMiracastDiscovery]⟩,
          { state := .miracast }) := by
      simp only [CastArbiter.handle, CastArbiter.transition, idle, table]
    simp only [System.runFrom, Threads.system, Threads.step, stands, sessionNext, accepted,
      Option.map_some, Option.bind_some]
    refine ⟨_, rfl, by simp only [Function.update_self]; rfl, ?_⟩
    simp only [Daemon.streamWatchTick, ne_eq, not_true_eq_false, if_false, raised,
      Bool.true_eq_false, stopped, if_true, Daemon.tripStreamWatchdog, slot, Daemon.closeSock]

/-- A session that streams and ends, a tick, and a second session whose pipeline dies. -/
def tickBetween : List Label :=
  List.flatten [.inbound 0 :: List.replicate 19 (.session 0 .ok), [.tick none],
    .inbound 1 :: List.replicate 10 (.session 1 .ok), [.childExits]]

/-- The runs with one session after another and a tick between them. -/
theorem stream_watchdog_judges_own_evidence_in_turn :
    ∃ s s', Threads.system.Reaches (fun s l => OneAfterAnother s l ∧ GateDown s l) s ∧
      Threads.step s (.tick none) = some s' ∧ s.sessions 0 = .done ∧
      s'.daemon.closedSocks ≠ s.daemon.closedSocks ∧ JudgedOnOwn s none 1 := by
  obtain ⟨s, s', run, step, done, slot, closed⟩ : ∃ s s',
      System.runUnder Threads.system (fun s l => OneAfterAnother s l ∧ GateDown s l)
        Threads.system.init tickBetween = some s ∧
      Threads.step s (.tick none) = some s' ∧ s.sessions 0 = .done ∧
      s.daemon.activeControlSock = some 1 ∧
      s'.daemon.closedSocks ≠ s.daemon.closedSocks :=
    ⟨_, _, rfl, rfl, rfl, rfl, by decide⟩
  have reached := System.runUnder_leads _ run
  obtain ⟨i, slot', _, judged⟩ :=
    (stream_watchdog_judges_own_evidence s none).1 s' reached step closed
  obtain rfl : i = 1 := by
    rw [slot] at slot'
    exact (Option.some.inj slot').symm
  exact ⟨s, s', reached, step, done, closed, judged⟩

/-- A session that streams and ends, and a second one up to its handshake. -/
def noTickBetween : List Label :=
  List.flatten [.inbound 0 :: List.replicate 19 (.session 0 .ok),
    .inbound 1 :: List.replicate 5 (.session 1 .ok)]

/-- A session streams and ends. The next one connects before a tick has lowered the gate, and a
tick in its handshake closes its socket. -/
theorem tick_closes_socket_in_handshake :
    ∃ s s', Threads.system.Reaches OneAfterAnother s ∧
      Threads.step s (.tick none) = some s' ∧
      s.sessions 1 = .negotiate ∧ s.trail.lastStarted ≠ some 1 ∧
      s'.daemon.closedSocks = 1 :: s.daemon.closedSocks := by
  obtain ⟨s, s', run, step, stands, other, closed⟩ : ∃ s s',
      System.runUnder Threads.system OneAfterAnother Threads.system.init noTickBetween = some s ∧
      Threads.step s (.tick none) = some s' ∧ s.sessions 1 = .negotiate ∧
      s.trail.lastStarted ≠ some 1 ∧
      s'.daemon.closedSocks = 1 :: s.daemon.closedSocks :=
    ⟨_, _, rfl, rfl, rfl, by decide, rfl⟩
  exact ⟨s, s', System.runUnder_leads _ run, step, stands, other, closed⟩

end Castd.Main
