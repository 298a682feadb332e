import Castd.Main.Threads

/-!
# A re-roll beside the stream watchdog

One Miracast session, step by step: its thread from the end of the handshake on, its
`_recover_render_cold_start` thread, and `_stream_watch_tick` with each read and write as a step of
its own. The arbiter stays in MIRACAST, and no render child dies by itself.

The recovery lowers the gate before it stops the pipeline. A tick that has read the gate before
that, and reads `is_running` after the stop, takes the re-roll for a dead pipeline. So does a tick
that reads before the session's own start where the gate is still up from the session before, since
nothing but a tick outside MIRACAST lowers it then. No other tick does (`reroll_kept_apart`).
-/

namespace Castd.Main

open Fsm Render Lib

/-! ## The tick, step by step -/

/-- Where the watchdog thread stands. -/
inductive TickPc
  | sleep
  /-- `if self.arbiter.state is not State.MIRACAST`. -/
  | readState
  /-- `self._render_pipeline_expected = False` outside MIRACAST. -/
  | dropOutside
  /-- `if not self._render_pipeline_expected`. -/
  | readExpected
  /-- `if not self.render.is_running`. -/
  | readRunning
  /-- `_trip_stream_watchdog("render pipeline process died")`. -/
  | closeDead
  /-- The `self._render_pipeline_expected = False` after it. -/
  | dropDead
  /-- The receive counter, and `watchdog.observe`. -/
  | sample
  /-- `_trip_stream_watchdog("no stream data for over 10s")`. -/
  | closeStalled
  deriving DecidableEq

/-- The next step of `_stream_watch_tick`. The watchdog is the thread's own, and is reset together
with the step beside it. -/
def tickNext (d : Daemon) (watchdog : StreamWatchdog) (rxBytes : Option Int) :
    TickPc → TickPc × Daemon × StreamWatchdog
  | .sleep => (.readState, d, watchdog)
  | .readState =>
    if d.arbiter.state ≠ .miracast then (.dropOutside, d, watchdog.reset)
    else (.readExpected, d, watchdog)
  | .dropOutside => (.sleep, { d with renderPipelineExpected := false }, watchdog)
  | .readExpected => (if d.renderPipelineExpected then .readRunning else .sleep, d, watchdog)
  | .readRunning => (if d.render.isRunning then .sample else .closeDead, d, watchdog)
  | .closeDead => (.dropDead, d.tripStreamWatchdog, watchdog.reset)
  | .dropDead => (.sleep, { d with renderPipelineExpected := false }, watchdog)
  | .sample =>
    match rxBytes with
    | none => (.sleep, d, watchdog)
    | some rx =>
      (if (watchdog.observe (· - ·) rx d.now).1 then .closeStalled else .sleep, d,
        (watchdog.observe (· - ·) rx d.now).2)
  | .closeStalled => (.sleep, d.tripStreamWatchdog, watchdog.reset)

/-- So many steps of a tick that nothing interrupts. -/
def tickAlone (rxBytes : Option Int) : Nat → TickPc × Daemon × StreamWatchdog →
    TickPc × Daemon × StreamWatchdog
  | 0, tick => tick
  | steps + 1, (pc, d, watchdog) => tickAlone rxBytes steps (tickNext d watchdog rxBytes pc)

private theorem streamWatchTick_eq_tickAlone (d : Daemon) (watchdog : StreamWatchdog)
    (rxBytes : Option Int) : ∃ steps, tickAlone rxBytes steps (.readState, d, watchdog) =
      (.sleep, d.streamWatchTick watchdog rxBytes) := by
  unfold Daemon.streamWatchTick
  by_cases outside : d.arbiter.state ≠ .miracast
  · exact ⟨2, by simp [tickAlone, tickNext, outside]⟩
  rw [if_neg outside]
  cases expected : d.renderPipelineExpected with
  | false => exact ⟨2, by simp [tickAlone, tickNext, outside, expected]⟩
  | true =>
    cases running : d.render.isRunning with
    | false => exact ⟨5, by simp [tickAlone, tickNext, outside, expected, running]⟩
    | true =>
      cases rxBytes with
      | none => exact ⟨4, by simp [tickAlone, tickNext, outside, expected, running]⟩
      | some rx =>
        cases stalled : (watchdog.observe (· - ·) rx d.now).1 with
        | false => exact ⟨4, by simp [tickAlone, tickNext, outside, expected, running, stalled]⟩
        | true => exact ⟨5, by simp [tickAlone, tickNext, outside, expected, running, stalled,
            StreamWatchdog.reset]⟩

/-! ## One session -/

/-- The threads of one session, and what the statements remember of a run. -/
structure SessionThreads where
  daemon : Daemon
  watchdog : StreamWatchdog := {}
  session : SessionPc := .negotiate
  recovery : RecoveryPc := .absent
  tick : TickPc := .sleep
  /-- The recovery has lowered the gate and not raised it again. -/
  lowered : Bool := false
  /-- The session has not started its pipeline, or the recovery has stopped it and not started it
  again. -/
  down : Bool := true
  /-- The samples since the watchdog was last reset, newest first. -/
  samples : List (Int × ℚ) := []

/-- A step. -/
inductive SessionLabel
  | session
  | recovery (outcome : Outcome)
  | tick (rxBytes : Option Int)
  /-- A drain thread sees the first-frame markers. -/
  | frameSeen
  | elapse (seconds : ℚ)

namespace SessionThreads

/-- Whether the pipeline is down after a step of the session. -/
def afterSession (s : SessionThreads) (pc' : SessionPc) : Bool :=
  match s.session, pc' with
  | .startRender, .expectRender => false
  | _, _ => s.down

private theorem afterSession_elsewhere {s : SessionThreads} {pc : SessionPc} (pc' : SessionPc)
    (stands : s.session = pc) (elsewhere : pc ≠ .startRender) : s.afterSession pc' = s.down := by
  unfold afterSession
  split
  · rename_i starts
    exact absurd (stands.symm.trans starts) elsewhere
  · rfl

private theorem afterSession_started {s : SessionThreads} (stands : s.session = .startRender) :
    s.afterSession .expectRender = false := by
  simp only [afterSession, stands]

/-- What is remembered of a step of the recovery. -/
def afterRecovery (s : SessionThreads) (pc' : RecoveryPc) : SessionThreads :=
  match s.recovery, pc' with
  | .dropExpected _, _ => { s with lowered := true }
  | .stopRender _, _ => { s with down := true }
  | .startRender _, .raiseExpected _ => { s with down := false }
  | .raiseExpected _, _ => { s with lowered := false }
  | _, _ => s

/-- The samples after a step of the tick. -/
def afterTick (s : SessionThreads) (rxBytes : Option Int) : List (Int × ℚ) :=
  match s.tick, rxBytes with
  | .sample, some rx => (rx, s.daemon.now) :: s.samples
  | .readState, _ => if s.daemon.arbiter.state ≠ .miracast then [] else s.samples
  | .closeDead, _ => []
  | .closeStalled, _ => []
  | _, _ => s.samples

/-- One step. The session goes on up to `run_steady_state`, and stays there. -/
def step (s : SessionThreads) : SessionLabel → Option SessionThreads
  | .session =>
    if s.session = .pump then none
    else (sessionNext 0 s.daemon s.session .ok).map fun next =>
      { s with
        session := next.1
        daemon := next.2
        recovery := if s.session = .spawnRecovery then .waitFrame 1 else s.recovery
        down := s.afterSession next.1 }
  | .recovery outcome =>
    (recoveryNext 0 s.daemon s.recovery outcome).map fun next =>
      { s.afterRecovery next.1 with recovery := next.1, daemon := next.2 }
  | .tick rxBytes =>
    some { s with
      tick := (tickNext s.daemon s.watchdog rxBytes s.tick).1
      daemon := (tickNext s.daemon s.watchdog rxBytes s.tick).2.1
      watchdog := (tickNext s.daemon s.watchdog rxBytes s.tick).2.2
      samples := s.afterTick rxBytes }
  | .frameSeen => some { s with daemon := { s.daemon with render := s.daemon.render.frameSeen } }
  | .elapse seconds =>
    if 0 ≤ seconds then some { s with daemon := { s.daemon with now := s.daemon.now + seconds } }
    else none

/-- The session of a daemon whose source has connected, beside a watchdog that may not have been
reset since the session before: these are the samples since it was. -/
def within (d : Daemon) (watchdog : StreamWatchdog) (samples : List (Int × ℚ)) :
    System SessionThreads SessionLabel where
  init := { daemon := d, watchdog := watchdog, samples := samples }
  step := step

/-- A source has connected. The gate may be up still. -/
structure Connected (d : Daemon) (watchdog : StreamWatchdog) (samples : List (Int × ℚ)) : Prop where
  miracast : d.arbiter.state = .miracast
  minBytes : watchdog.minBytes = 5000
  stallWindow : watchdog.stallWindow = 10
  remembers : watchdog.Remembers samples

/-- The receive counter keeps growing: no stretch of more than ten seconds in which each sample is
less than 5000 bytes ahead of the one before. -/
def Flowing (s : SessionThreads) : SessionLabel → Prop
  | .tick (some rx) => s.tick = .sample → ∀ since,
      StreamWatchdog.FlatSince 5000 ((rx, s.daemon.now) :: s.samples) rx since →
        s.daemon.now - since ≤ 10
  | _ => True

/-- No tick reads `is_running` before the session's start, or between the recovery's stop and its
start. -/
def ReadsApart (s : SessionThreads) : SessionLabel → Prop
  | .tick _ => s.tick = .readRunning → s.down = false
  | _ => True

/-- A re-roll is not taken for a dead pipeline: no tick has closed a socket, and once the pipeline
is started the gate is up, save while the recovery itself holds it down. -/
structure NotMistaken (d : Daemon) (s : SessionThreads) : Prop where
  sockOpen : s.daemon.closedSocks = d.closedSocks
  expected : s.session = .spawnRecovery ∨ s.session = .pump → s.lowered = false →
    s.daemon.renderPipelineExpected = true

/-! ## Where the threads stand -/

/-- A tick that is not about to close a socket or to lower the gate. -/
def Watching : TickPc → Prop
  | .sleep | .readState | .readExpected | .readRunning | .sample => True
  | _ => False

/-- What a place of the recovery says of the gate and of the pipeline. -/
def Holds (lowered down : Bool) : RecoveryPc → Prop
  | .dropExpected _ | .absent | .waitFrame _ | .checkState _ | .checkExpected _ | .checkRunning _ =>
    lowered = false ∧ down = false
  | .stopRender _ | .raiseExpected _ => lowered = true ∧ down = false
  | .recheckState _ | .startRender _ => lowered = true ∧ down = true
  | .done => True

/-- Before the gate is raised for the session. -/
structure Starting (s : SessionThreads) : Prop where
  place : (s.session = .negotiate ∨ s.session = .stopRender ∨
      s.session = .startRender ∧ s.daemon.render.isRunning = false) ∧ s.down = true ∨
    s.session = .expectRender ∧ s.daemon.render.isRunning = true ∧ s.down = false
  recovery : s.recovery = .absent
  raised : s.lowered = false

/-- From then on. -/
structure Streaming (s : SessionThreads) : Prop where
  place : s.session = .spawnRecovery ∧ s.recovery = .absent ∨ s.session = .pump
  gate : s.lowered = false → s.daemon.renderPipelineExpected = true
  running : s.down = false → s.daemon.render.isRunning = true
  holds : Holds s.lowered s.down s.recovery

/-- A step of anything else leaves the phase: where the session and the recovery stand, the gate and
the pipeline. -/
private theorem phase_kept {s s' : SessionThreads} (phase : Starting s ∨ Streaming s)
    (session : s'.session = s.session) (recovery : s'.recovery = s.recovery)
    (lowered : s'.lowered = s.lowered) (down : s'.down = s.down)
    (gate : s'.daemon.renderPipelineExpected = s.daemon.renderPipelineExpected)
    (running : s'.daemon.render.isRunning = s.daemon.render.isRunning) :
    Starting s' ∨ Streaming s' := by
  rcases phase with ⟨place, absent, raised⟩ | ⟨place, gated, runs, holds⟩
  · refine .inl ⟨?_, recovery.trans absent, lowered.trans raised⟩
    rw [session, down, running]
    exact place
  · refine .inr ⟨?_, ?_, ?_, ?_⟩
    · rw [session, recovery]
      exact place
    · rw [lowered, gate]
      exact gated
    · rw [down, running]
      exact runs
    · rw [lowered, down, recovery]
      exact holds

/-- What holds through a session in which no tick reads during a re-roll. -/
structure Steady (d : Daemon) (s : SessionThreads) : Prop where
  miracast : s.daemon.arbiter.state = .miracast
  sockOpen : s.daemon.closedSocks = d.closedSocks
  watching : Watching s.tick
  minBytes : s.watchdog.minBytes = 5000
  stallWindow : s.watchdog.stallWindow = 10
  remembers : s.watchdog.Remembers s.samples
  phase : Starting s ∨ Streaming s

namespace Steady

variable {d : Daemon} {s s' : SessionThreads}

private theorem notMistaken (h : Steady d s) : NotMistaken d s := by
  refine ⟨h.sockOpen, fun streaming raised => ?_⟩
  rcases h.phase with starting | running
  · rcases starting.place with ⟨place | place | ⟨place, _⟩, _⟩ | ⟨place, _⟩ <;>
      rw [place] at streaming <;> rcases streaming with other | other <;> cases other
  · exact running.gate raised

/-- The statements of the session. -/
theorem session (h : Steady d s) (hstep : s.step .session = some s') : Steady d s' := by
  simp only [SessionThreads.step] at hstep
  split at hstep
  · cases hstep
  rename_i going
  obtain ⟨⟨pc, daemon⟩, moved, rfl⟩ := Option.map_eq_some_iff.mp hstep
  rcases h.phase with starting | streaming
  · obtain ⟨place, recovery, raised⟩ := starting
    rcases place with ⟨place | place | ⟨place, stopped⟩, down⟩ | ⟨place, running, up⟩ <;>
      simp only [place] at moved
    · cases moved
      have still := (afterSession_elsewhere .stopRender place (by decide)).trans down
      exact ⟨h.miracast, h.sockOpen, h.watching, h.minBytes, h.stallWindow, h.remembers,
        .inl ⟨.inl ⟨.inr (.inl rfl), still⟩, by rw [place]; exact recovery, raised⟩⟩
    · cases moved
      have still := (afterSession_elsewhere .startRender place (by decide)).trans down
      exact ⟨h.miracast, h.sockOpen, h.watching, h.minBytes, h.stallWindow, h.remembers,
        .inl ⟨.inl ⟨.inr (.inr ⟨rfl, RenderProcess.stop_isRunning _⟩), still⟩,
          by rw [place]; exact recovery, raised⟩⟩
    · have started : s.daemon.render.start 0 = some { proc := some { session := 0 } } := by
        rw [RenderProcess.start, stopped]
        rfl
      simp only [sessionNext, started] at moved
      cases moved
      exact ⟨h.miracast, h.sockOpen, h.watching, h.minBytes, h.stallWindow, h.remembers,
        .inl ⟨.inr ⟨rfl, rfl, afterSession_started place⟩, by rw [place]; exact recovery,
          raised⟩⟩
    · cases moved
      have still := (afterSession_elsewhere .spawnRecovery place (by decide)).trans up
      refine ⟨h.miracast, h.sockOpen, h.watching, h.minBytes, h.stallWindow, h.remembers,
        .inr ⟨.inl ⟨rfl, by rw [place]; exact recovery⟩, fun _ => rfl, fun _ => running, ?_⟩⟩
      rw [place]
      show Holds s.lowered (s.afterSession .spawnRecovery) s.recovery
      rw [recovery, still]
      exact ⟨raised, rfl⟩
  · rcases streaming.place with ⟨place, absent⟩ | place
    · simp only [place] at moved
      cases moved
      have still := afterSession_elsewhere .pump place (by decide)
      have holds := streaming.holds
      rw [absent] at holds
      refine ⟨h.miracast, h.sockOpen, h.watching, h.minBytes, h.stallWindow, h.remembers,
        .inr ⟨.inr rfl, streaming.gate, fun up => streaming.running (still.symm.trans up), ?_⟩⟩
      rw [place]
      show Holds s.lowered (s.afterSession .pump) (.waitFrame 1)
      rw [still]
      exact holds
    · exact absurd place going

/-- The statements of the recovery. -/
theorem recovery (h : Steady d s) {outcome : Outcome}
    (hstep : s.step (.recovery outcome) = some s') : Steady d s' := by
  obtain ⟨⟨pc, daemon⟩, moved, rfl⟩ := Option.map_eq_some_iff.mp hstep
  rcases h.phase with starting | streaming
  · rw [starting.recovery] at moved
    cases outcome <;> cases moved
  obtain ⟨place, gate, running, holds⟩ := streaming
  have pumping : s.session = .pump := by
    rcases place with ⟨_, absent⟩ | pump
    · rw [absent] at moved
      cases outcome <;> cases moved
    · exact pump
  -- what the step leaves is put together from what it leaves of the gate and of the pipeline
  have steady : ∀ {pc' : RecoveryPc} {daemon' : Daemon} {lowered down : Bool},
      daemon'.arbiter = s.daemon.arbiter → daemon'.closedSocks = s.daemon.closedSocks →
      (lowered = false → daemon'.renderPipelineExpected = true) →
      (down = false → daemon'.render.isRunning = true) → Holds lowered down pc' →
      Steady d { s with
        recovery := pc', daemon := daemon', lowered := lowered, down := down } := by
    intro pc' daemon' lowered down arbiter closed gate' running' holds'
    exact ⟨arbiter ▸ h.miracast, closed.trans h.sockOpen, h.watching, h.minBytes, h.stallWindow,
      h.remembers, .inr ⟨.inr pumping, gate', running', holds'⟩⟩
  generalize stands : s.recovery = before at moved holds
  have next := recoveryNext_cases moved
  unfold afterRecovery
  rw [stands]
  cases next with
  | frame | stateOver | unexpected | notRunning => exact steady rfl rfl gate running trivial
  | noFrame | stateHolds | expected | running => exact steady rfl rfl gate running holds
  | dropped => exact steady rfl rfl nofun running ⟨rfl, holds.2⟩
  | stopped => exact steady rfl rfl gate nofun ⟨holds.1, rfl⟩
  | recheckOver => exact steady rfl rfl gate running trivial
  | recheckHolds => exact steady rfl rfl gate running holds
  | started started =>
    refine steady rfl rfl gate (fun _ => ?_) ⟨holds.1, rfl⟩
    rw [RenderProcess.isRunning, RenderProcess.start_proc started]
  | startRaised => exact steady rfl rfl gate running trivial
  | again => exact steady rfl rfl (fun _ => rfl) running ⟨rfl, holds.2⟩
  | givenUp => exact steady rfl rfl (fun _ => rfl) running trivial

private theorem no_stall (h : Steady d s) {rx : Int} (stands : s.tick = .sample)
    (flowing : Flowing s (.tick (some rx))) :
    (s.watchdog.observe (· - ·) rx s.daemon.now).1 = false := by
  by_contra stalled
  obtain ⟨since, flat, long⟩ := h.remembers.flatSince_of_stall (Bool.of_not_eq_false stalled)
  rw [h.minBytes] at flat
  rw [h.stallWindow] at long
  exact absurd (flowing stands since flat) (not_le_of_gt long)

/-- The steps of the tick. -/
theorem tick (h : Steady d s) {rxBytes : Option Int} (flowing : Flowing s (.tick rxBytes))
    (apart : ReadsApart s (.tick rxBytes)) (hstep : s.step (.tick rxBytes) = some s') :
    Steady d s' := by
  cases hstep
  have watching := h.watching
  -- a step that leaves the daemon as it is
  have moves : ∀ {pc : TickPc}, Watching pc → Steady d { s with tick := pc } := by
    intro pc watching'
    exact ⟨h.miracast, h.sockOpen, watching', h.minBytes, h.stallWindow, h.remembers,
      phase_kept h.phase rfl rfl rfl rfl rfl rfl⟩
  cases stands : s.tick with
  | sleep =>
    simp only [tickNext, afterTick, stands]
    exact moves trivial
  | readState =>
    simp only [tickNext, afterTick, stands, h.miracast, ne_eq, not_true_eq_false, if_false]
    exact moves trivial
  | readExpected =>
    simp only [tickNext, afterTick, stands]
    split
    · exact moves trivial
    · exact moves trivial
  | readRunning =>
    simp only [tickNext, afterTick, stands]
    have running : s.daemon.render.isRunning = true := by
      rcases h.phase with starting | streaming
      · rcases starting.place with ⟨_, down⟩ | ⟨_, running, _⟩
        · cases down.symm.trans (apart stands)
        · exact running
      · exact streaming.running (apart stands)
    simp only [running, if_true]
    exact moves trivial
  | sample =>
    cases rxBytes with
    | none =>
      simp only [tickNext, afterTick, stands]
      exact moves trivial
    | some rx =>
      simp only [tickNext, afterTick, stands, h.no_stall stands flowing]
      refine ⟨h.miracast, h.sockOpen, trivial, ?_, ?_, h.remembers.observe rx _,
        phase_kept h.phase rfl rfl rfl rfl rfl rfl⟩
      · exact (StreamWatchdog.observe_minBytes _ _ _).trans h.minBytes
      · exact (StreamWatchdog.observe_stallWindow _ _ _).trans h.stallWindow
  | dropOutside | closeDead | dropDead | closeStalled =>
    rw [stands] at watching
    exact absurd watching id

/-- One step. -/
theorem step (h : Steady d s) {l : SessionLabel} (flowing : Flowing s l) (apart : ReadsApart s l)
    (hstep : s.step l = some s') : Steady d s' := by
  cases l with
  | session => exact h.session hstep
  | recovery outcome => exact h.recovery hstep
  | tick rxBytes => exact h.tick flowing apart hstep
  | frameSeen =>
    cases hstep
    exact ⟨h.miracast, h.sockOpen, h.watching, h.minBytes, h.stallWindow, h.remembers,
      phase_kept h.phase rfl rfl rfl rfl rfl rfl⟩
  | elapse seconds =>
    simp only [SessionThreads.step] at hstep
    split at hstep <;> cases hstep
    exact ⟨h.miracast, h.sockOpen, h.watching, h.minBytes, h.stallWindow, h.remembers,
      phase_kept h.phase rfl rfl rfl rfl rfl rfl⟩

end Steady

/-- In every run of a session whose counter keeps growing, and in which no tick reads `is_running`
before the session's start or between the recovery's stop and its start, no re-roll is taken for a
dead pipeline: no tick closes a socket, and the gate is up except where the recovery holds it down.

The gate and the watchdog may be as the session before left them. -/
theorem reroll_kept_apart {d : Daemon} {watchdog : StreamWatchdog} {samples : List (Int × ℚ)}
    (connected : Connected d watchdog samples) {s : SessionThreads}
    (run : (within d watchdog samples).Reaches (fun s l => Flowing s l ∧ ReadsApart s l) s) :
    NotMistaken d s := by
  have steady : Steady d s := by
    refine run.invariant (I := Steady d) ?_ fun t l u _ ht holds hstep =>
      ht.step holds.1 holds.2 hstep
    exact ⟨connected.miracast, rfl, trivial, connected.minBytes, connected.stallWindow,
      connected.remembers, .inl ⟨.inl ⟨.inl rfl, rfl⟩, rfl, rfl⟩⟩
  exact steady.notMistaken

/-! ## Two sessions -/

/-- No sample, or the first one. -/
def FirstSample (s : SessionThreads) : SessionLabel → Prop
  | .tick (some _) => s.tick = .sample → s.samples = []
  | _ => True

instance (s : SessionThreads) : ∀ l, Decidable (FirstSample s l)
  | .tick (some _) => inferInstanceAs (Decidable (_ → _))
  | .tick none | .session | .recovery _ | .frameSeen | .elapse _ => instDecidableTrue

instance (s : SessionThreads) : ∀ l, Decidable (ReadsApart s l)
  | .tick _ => inferInstanceAs (Decidable (_ → _))
  | .session | .recovery _ | .frameSeen | .elapse _ => instDecidableTrue

private theorem flowing_of_firstSample {s : SessionThreads} {l : SessionLabel}
    (h : FirstSample s l) :
    Flowing s l := by
  cases l with
  | tick rxBytes =>
    cases rxBytes with
    | none => trivial
    | some rx =>
      intro stands since flat
      rw [h stands] at flat
      cases flat with
      | start =>
        rw [sub_self]
        norm_num
      | flat _ _ before _ => cases before
  | _ => trivial

/-- A daemon that a source has connected to, with the gate up or down. -/
def connectedDaemon (gate : Bool) : Daemon :=
  { Daemon.started with
    arbiter := { state := .miracast }
    activeControlSock := some 0
    renderPipelineExpected := gate }

/-- The session starts, a tick takes a sample, the recovery lowers the gate, a tick reads it, and
the pipeline is restarted. -/
def tickAtGate : List SessionLabel :=
  List.flatten [List.replicate 5 .session, List.replicate 5 (.tick (some 4096)),
    List.replicate 6 (.recovery .ok), List.replicate 3 (.tick none),
    List.replicate 3 (.recovery .ok)]

/-- A tick takes a sample, and another one comes to the gate while the recovery holds it down. -/
theorem reroll_kept_apart_of_gate : ∃ s, (within (connectedDaemon false) {} []).Reaches
    (fun s l => Flowing s l ∧ ReadsApart s l) s ∧ s.samples = [(4096, 0)] ∧
    s.recovery = .waitFrame 2 ∧ NotMistaken (connectedDaemon false) s := by
  have run : ∃ s, System.runUnder (within (connectedDaemon false) {} [])
      (fun s l => FirstSample s l ∧ ReadsApart s l) (within (connectedDaemon false) {} []).init
      tickAtGate = some s ∧
      s.samples = [(4096, 0)] ∧ s.recovery = .waitFrame 2 :=
    System.exists_runUnder (by decide +kernel)
  obtain ⟨s, run, samples, recovery⟩ := run
  have connected : Connected (connectedDaemon false) {} [] :=
    ⟨rfl, rfl, rfl, StreamWatchdog.remembers_of_seen_none _ rfl⟩
  have reached := (System.runUnder_leads _ run).mono
    fun s l h => (⟨flowing_of_firstSample h.1, h.2⟩ : Flowing s l ∧ ReadsApart s l)
  exact ⟨s, reached, samples, recovery, reroll_kept_apart connected reached⟩

/-- The session starts, a tick reads the gate, the recovery stops the pipeline, the tick reads
`is_running`, and goes on after the restart. -/
def tickAcrossStop : List SessionLabel :=
  List.flatten [List.replicate 5 .session, List.replicate 4 (.recovery .ok),
    List.replicate 3 (.tick none), List.replicate 2 (.recovery .ok), [.tick none],
    List.replicate 3 (.recovery .ok), List.replicate 2 (.tick none)]

/-- A tick reads the gate before the recovery lowers it, and `is_running` after the recovery has
stopped the pipeline: it closes the session's socket, and lowers the gate of the restarted
pipeline. -/
theorem reroll_mistaken_for_death : ∃ s, (within (connectedDaemon false) {} []).Reaches Flowing s ∧
    s.daemon.closedSocks = [0] ∧ s.recovery = .waitFrame 2 ∧ s.lowered = false ∧
    s.daemon.render.isRunning = true ∧ s.daemon.renderPipelineExpected = false ∧
    ¬ NotMistaken (connectedDaemon false) s := by
  have run : ∃ s, System.runUnder (within (connectedDaemon false) {} []) FirstSample
      (within (connectedDaemon false) {} []).init tickAcrossStop = some s ∧
      s.daemon.closedSocks = [0] ∧ s.recovery = .waitFrame 2 ∧ s.lowered = false ∧
      s.daemon.render.isRunning = true ∧ s.daemon.renderPipelineExpected = false :=
    System.exists_runUnder (by decide +kernel)
  obtain ⟨s, run, closed, recovery, lowered, running, gate⟩ := run
  refine ⟨s, (System.runUnder_leads _ run).mono fun _ _ h => flowing_of_firstSample h, closed,
    recovery, lowered, running, gate, fun safe => ?_⟩
  have sockOpen := safe.sockOpen
  rw [closed] at sockOpen
  cases sockOpen

end SessionThreads

end Castd.Main
