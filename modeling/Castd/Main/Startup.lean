import Castd.Main.Actions
import Castd.Main.UxPlayRecovery

/-!
# Sources that come while castd starts

`CastDaemon.start` (`castd/main.py`) opens the RTSP listener in `_ensure_group_services`, makes
`self.uxplay` after that, and starts it last. The thread that accepts sources runs from the first
of these on. A source that comes early finds no uxplay to pause: `self.uxplay` is `None` and the
action raises, or there is no child yet and `start()` starts one next to the session.

Whether that happened can be told from any later state: nothing was raised and the side effects are
those of the arbiter's state exactly if no source came early (`settled_iff_none_early`). Here
handlers run in one piece, each transition with its actions, uxplay does not exit by itself, and its
`Popen` succeeds.
-/

namespace Castd.Main

open Fsm Airplay Lib

/-- How far `start()` came. -/
inductive StartPc
  /-- The listener is open, and `self.uxplay` is `None`. -/
  | listening
  /-- `self.uxplay` is made. -/
  | constructed
  /-- `self.uxplay.start()` returned. -/
  | started
  /-- It raised, and castd has ended. -/
  | raised
  deriving DecidableEq

/-- The daemon while it starts and after that. -/
structure Startup where
  run : UxPlayRun := { daemon := { idleScreens := [none] } }
  pc : StartPc := .listening
  /-- A source came before uxplay was started. -/
  early : Bool := false

/-- `start()` goes on, or a handler runs next to it. -/
inductive StartupLabel
  /-- From the return of `_ensure_group_services` to the assignment of `self.uxplay`. -/
  | constructs
  /-- `self.uxplay.start()`. -/
  | startsUxplay
  | handler (label : UxPlayLabel)
  deriving DecidableEq

namespace Daemon

/-- `_apply_actions` while `self.uxplay` is `None`: a call of one of its methods is an
`AttributeError`. -/
def applyActionsUnbuilt (d : Daemon) : List Action → Daemon × Bool
  | [] => (d.reportHealth, false)
  | .pauseAirplayAdvertising :: _ => (d, true)
  | .resumeAirplayAdvertising :: _ => (d, true)
  | action :: actions =>
    match d.applyAction action with
    | some d' => d'.applyActionsUnbuilt actions
    | none => (d, true)

/-- `handleEvent` while `self.uxplay` is `None`. -/
def handleEventUnbuilt (d : Daemon) (event : Event) : Daemon × Bool :=
  { d with arbiter := (d.arbiter.handle event).2 }.applyActionsUnbuilt
    (d.arbiter.handle event).1.actions

end Daemon

/-- What can run while `self.uxplay` is `None`. -/
def UxPlayRun.stepUnbuilt (s : UxPlayRun) : UxPlayLabel → Option UxPlayRun
  | .miracastConnected => some (s.after (s.daemon.handleEventUnbuilt .miracastConnected))
  | .miracastDisconnected => some (s.after (s.daemon.handleEventUnbuilt .miracastDisconnected))
  | _ => none

namespace Startup

/-- A handler can run: castd has not ended, and an AirPlay client needs a child. -/
def Enabled (s : Startup) (l : UxPlayLabel) : Prop :=
  s.pc ≠ .raised ∧
    (l = .airplayConnected ∨ l = .airplayDisconnected → 0 < s.run.daemon.uxplay.spawned)

instance (s : Startup) (l : UxPlayLabel) : Decidable (s.Enabled l) :=
  inferInstanceAs (Decidable (_ ∧ _))

/-- The step function. -/
def step (s : Startup) : StartupLabel → Option Startup
  | .constructs =>
    if s.pc = .listening then
      some { s with
        run := { s.run with daemon := s.run.daemon.showIdleScreen }
        pc := .constructed }
    else none
  | .startsUxplay =>
    if s.pc = .constructed then
      match s.run.daemon.uxplay.start with
      | some uxplay =>
        some { s with
          run := { s.run with daemon := { s.run.daemon with uxplay := uxplay } }
          pc := .started }
      | none => some { s with pc := .raised }
    else none
  | .handler l =>
    if s.Enabled l then
      (if s.pc = .listening then s.run.stepUnbuilt l else UxPlayRun.step s.run l).map fun run =>
        { s with
          run := run
          early := s.early || decide (l = .miracastConnected ∧ s.pc ≠ .started) }
    else none

/-- The system, from the return of `_ensure_group_services`. -/
def system : System Startup StartupLabel := { init := {}, step := step }

/-- uxplay does not exit by itself. -/
def Stays (_ : Startup) (l : StartupLabel) : Prop := l ≠ .handler .exits

instance (s : Startup) (l : StartupLabel) : Decidable (s.Stays l) :=
  inferInstanceAs (Decidable (_ ≠ _))

end Startup

/-- Nothing was raised, and no pump is about to start a uxplay that the arbiter does not want. From
here on it is the handlers alone that keep the side effects with the state. -/
structure UxPlayRun.Settled (s : UxPlayRun) : Prop where
  calm : s.raised = false
  follows : FollowsArbiter s.daemon
  expected : s.daemon.arbiter.state = .miracast → s.daemon.uxplay.expectExit = true
  awake : ∀ n, s.pumps n ≠ .sleeping

/-- Before uxplay is started and while no source has come. -/
structure UxPlayRun.Untouched (s : UxPlayRun) : Prop where
  calm : s.raised = false
  idle : s.daemon.arbiter.state = .idle
  available : s.daemon.sessionAvailable = true
  health : s.daemon.health.state = .idle
  uxplay : s.daemon.uxplay = {}
  awake : ∀ n, s.pumps n ≠ .sleeping

namespace Startup

/-- What holds as long as no source came early. -/
def Fresh (s : Startup) : Prop :=
  match s.pc with
  | .listening => s.run.Untouched
  | .constructed => s.run.Untouched
  | .started => s.run.Settled
  | .raised => False

/-- What stays of a source that came early. -/
def Spoilt (s : Startup) : Prop :=
  s.run.raised = true ∨
    match s.pc with
    | .listening => False
    | .constructed => s.run.daemon.arbiter.state = .miracast ∨ s.run.daemon.uxplay.isRunning = true
    | .started => s.run.daemon.arbiter.state = .miracast ∧ s.run.daemon.uxplay.isRunning = true
    | .raised => True

/-- What `start()` and the handlers keep. -/
def Kept (s : Startup) : Prop := if s.early = true then s.Spoilt else s.Fresh

end Startup

/-! ## Handlers from a daemon that follows -/

private theorem expectExit_of_stop {u : UxPlayProcess} (running : u.isRunning = true) :
    u.stop.expectExit = true := by
  unfold UxPlayProcess.stop
  split
  next gone =>
    rw [UxPlayProcess.isRunning, gone] at running
    exact Bool.noConfusion running
  next => rfl

/-- A handler of a daemon that follows its arbiter raises nothing, and it follows again. In MIRACAST
uxplay was stopped. -/
theorem FollowsArbiter.handleEvent {d : Daemon} (follows : FollowsArbiter d)
    (stopped : d.arbiter.state = .miracast → d.uxplay.expectExit = true) {event : Event}
    (handled : event ≠ .watchdogTimeout) :
    (d.handleEvent event).2 = false ∧ FollowsArbiter (d.handleEvent event).1 ∧
      ((d.handleEvent event).1.arbiter.state = .miracast →
        (d.handleEvent event).1.uxplay.expectExit = true) := by
  have running : d.arbiter.state ≠ .miracast → d.uxplay.isRunning = true := follows.airplay.mpr
  by_cases accepted : Accepts d.arbiter.state event
  case neg =>
    rw [Daemon.handleEvent_of_not_accepts accepted]
    exact ⟨rfl, ⟨follows.available, follows.airplay, rfl⟩, stopped⟩
  cases event with
  | watchdogTimeout => exact absurd rfl handled
  | miracastConnected =>
    have idle := accepts_miracastConnected_iff.mp accepted
    rw [idle] at running
    rw [Daemon.handleEvent_miracastConnected idle]
    refine ⟨rfl, ⟨iff_of_false Bool.noConfusion State.noConfusion, ?_, rfl⟩,
      fun _ => expectExit_of_stop (running State.noConfusion)⟩
    refine iff_of_false ?_ fun other => other rfl
    rw [Daemon.reportHealth, d.uxplay.stop_isRunning]
    exact Bool.noConfusion
  | miracastDisconnected =>
    have miracast := accepts_miracastDisconnected_iff.mp accepted
    cases started : d.uxplay.start with
    | none =>
      exact absurd miracast (follows.airplay.mp (UxPlayProcess.start_eq_none_iff.mp started))
    | some uxplay =>
      rw [Daemon.handleEvent_miracastDisconnected miracast started]
      exact ⟨rfl, ⟨iff_of_true rfl rfl,
        iff_of_true (UxPlayProcess.start_spec started).1 State.noConfusion, rfl⟩, State.noConfusion⟩
  | airplayConnected =>
    have idle := accepts_airplayConnected_iff.mp accepted
    rw [idle] at running
    rw [Daemon.handleEvent_airplayConnected idle]
    exact ⟨rfl, ⟨iff_of_false Bool.noConfusion State.noConfusion,
      iff_of_true (running State.noConfusion) State.noConfusion, rfl⟩, State.noConfusion⟩
  | airplayDisconnected =>
    have airplay := accepts_airplayDisconnected_iff.mp accepted
    rw [airplay] at running
    rw [Daemon.handleEvent_airplayDisconnected airplay]
    exact ⟨rfl, ⟨iff_of_true rfl rfl, iff_of_true (running State.noConfusion) State.noConfusion,
      rfl⟩, State.noConfusion⟩

/-- From a settled state every step leads to one, while uxplay does not exit by itself. -/
theorem UxPlayRun.Settled.step {s t : UxPlayRun} {l : UxPlayLabel} (settled : s.Settled)
    (stays : l ≠ .exits) (h : UxPlayRun.step s l = some t) : t.Settled := by
  obtain ⟨calm, follows, stopped, awake⟩ := settled
  have handled : ∀ event, event ≠ .watchdogTimeout →
      UxPlayRun.Settled (s.after (s.daemon.handleEvent event)) := fun event given => by
    obtain ⟨quiet, follows', stopped'⟩ := follows.handleEvent stopped given
    exact ⟨by rw [UxPlayRun.after, calm, quiet]; rfl, follows', stopped', awake⟩
  cases l with
  | exits => exact absurd rfl stays
  | miracastConnected | miracastDisconnected | airplayConnected | airplayDisconnected =>
    cases h
    exact handled _ Event.noConfusion
  | pumpEnds n =>
    have awake' : ∀ j, Function.update s.pumps n .done j ≠ .sleeping := fun j h =>
      awake j (eq_of_update h PumpPc.noConfusion)
    simp only [UxPlayRun.step] at h
    split at h
    case isFalse => cases h
    split at h <;> cases h
    · exact ⟨calm, follows, stopped, awake'⟩
    · rename_i unexpected
      -- outside MIRACAST uxplay runs, so the pump does not go to sleep
      have other : s.daemon.arbiter.state ≠ .miracast := fun miracast =>
        unexpected (stopped miracast)
      have running := follows.airplay.mpr other
      have sleeps := s.daemon.onUxplayExited_frame.2.2
      rw [running] at sleeps
      rw [sleeps]
      unfold Daemon.onUxplayExited
      split
      · have given : Event.airplayDisconnected ≠ .watchdogTimeout := Event.noConfusion
        obtain ⟨_, follows', stopped'⟩ := follows.handleEvent stopped given
        exact ⟨calm, follows', stopped', awake'⟩
      · exact ⟨calm, follows, stopped, awake'⟩
  | wakes n =>
    simp only [UxPlayRun.step, if_neg (awake n)] at h
    cases h

/-! ## Steps before uxplay is started -/

/-- Before `self.uxplay` is made a source that comes is an `AttributeError`. Nothing else can
happen. -/
private theorem UxPlayRun.Untouched.stepUnbuilt {s t : UxPlayRun} {l : UxPlayLabel}
    (fresh : s.Untouched)
    (h : s.stepUnbuilt l = some t) :
    if l = .miracastConnected then t.raised = true else t.Untouched := by
  obtain ⟨calm, idle, available, health, uxplay, awake⟩ := fresh
  cases l with
  | miracastConnected =>
    cases h
    show (s.raised || (s.daemon.handleEventUnbuilt .miracastConnected).2) = true
    simp only [Daemon.handleEventUnbuilt, CastArbiter.handle, CastArbiter.transition, idle, table,
      Daemon.applyActionsUnbuilt, Bool.or_true]
  | miracastDisconnected =>
    cases h
    have rejected : s.daemon.handleEventUnbuilt .miracastDisconnected =
        (s.daemon.reportHealth, false) := by
      rw [Daemon.handleEventUnbuilt, CastArbiter.handle_of_not_accepts]
      · rfl
      · rw [accepts_miracastDisconnected_iff, idle]
        exact State.noConfusion
    rw [UxPlayRun.after, rejected, calm]
    exact ⟨rfl, idle, available, idle, uxplay, awake⟩
  | _ => cases h

/-- Once `self.uxplay` is made a source that comes takes the arbiter to MIRACAST, with nothing to
stop. -/
theorem UxPlayRun.Untouched.step {s t : UxPlayRun} {l : UxPlayLabel} (fresh : s.Untouched)
    (stays : l ≠ .exits) (noClient : ¬(l = .airplayConnected ∨ l = .airplayDisconnected))
    (h : UxPlayRun.step s l = some t) :
    if l = .miracastConnected then t.daemon.arbiter.state = .miracast else t.Untouched := by
  obtain ⟨calm, idle, available, health, uxplay, awake⟩ := fresh
  cases l with
  | exits => exact absurd rfl stays
  | airplayConnected => exact absurd (.inl rfl) noClient
  | airplayDisconnected => exact absurd (.inr rfl) noClient
  | miracastConnected =>
    cases h
    show (s.daemon.handleEvent .miracastConnected).1.arbiter.state = .miracast
    rw [Daemon.handleEvent_miracastConnected idle]
    rfl
  | miracastDisconnected =>
    cases h
    have rejected : ¬ Accepts s.daemon.arbiter.state .miracastDisconnected := by
      rw [accepts_miracastDisconnected_iff, idle]
      exact State.noConfusion
    rw [UxPlayRun.after, Daemon.handleMiracastDisconnected,
      Daemon.handleEvent_of_not_accepts rejected, calm]
    exact ⟨rfl, idle, available, idle, uxplay, awake⟩
  | pumpEnds n =>
    have none : ¬ n < s.daemon.uxplay.spawned := by
      rw [uxplay]
      exact Nat.not_lt_zero n
    simp only [UxPlayRun.step, none, false_and, if_false] at h
    cases h
  | wakes n =>
    simp only [UxPlayRun.step, if_neg (awake n)] at h
    cases h

/-! ## Steps after a source came early -/

private theorem UxPlayRun.raised_of_step {s t : UxPlayRun} {l : UxPlayLabel}
    (raised : s.raised = true)
    (h : UxPlayRun.step s l = some t) : t.raised = true := by
  cases l with
  | miracastConnected | miracastDisconnected | airplayConnected | airplayDisconnected =>
    cases h
    rw [UxPlayRun.after, raised, Bool.true_or]
  | exits =>
    cases h
    exact raised
  | pumpEnds n =>
    simp only [UxPlayRun.step] at h
    split at h
    · split at h <;> cases h <;> exact raised
    · cases h
  | wakes n =>
    simp only [UxPlayRun.step] at h
    split at h
    · split at h <;> cases h
      · exact raised
      · rfl
    · cases h

private theorem UxPlayRun.raised_of_stepUnbuilt {s t : UxPlayRun} {l : UxPlayLabel}
    (raised : s.raised = true) (h : s.stepUnbuilt l = some t) : t.raised = true := by
  cases l with
  | miracastConnected | miracastDisconnected =>
    cases h
    rw [UxPlayRun.after, raised, Bool.true_or]
  | _ => cases h

private theorem stopped_of_start {u u' : UxPlayProcess} (started : u.start = some u') :
    u.isRunning = false := by
  rw [← Bool.not_eq_true, ← UxPlayProcess.start_eq_none_iff, started]
  exact Option.some_ne_none u'

/-- What a step does to uxplay and to MIRACAST: a call raises, or it leaves both, or a source is
accepted, or uxplay is started where none runs. -/
private theorem UxPlayRun.step_uxplay {s t : UxPlayRun} {l : UxPlayLabel} (stays : l ≠ .exits)
    (h : UxPlayRun.step s l = some t) :
    t.raised = true ∨
      (t.daemon.uxplay = s.daemon.uxplay ∧
        (t.daemon.arbiter.state = .miracast ↔ s.daemon.arbiter.state = .miracast)) ∨
      (s.daemon.arbiter.state = .idle ∧ t.daemon.arbiter.state = .miracast) ∨
      (s.daemon.uxplay.isRunning = false ∧ t.daemon.uxplay.isRunning = true) := by
  cases l with
  | exits => exact absurd rfl stays
  | airplayConnected =>
    cases h
    obtain ⟨_, uxplay, state, _⟩ := s.daemon.handleEvent_airplay_frame (.inl rfl)
    exact .inr (.inl ⟨uxplay, state⟩)
  | airplayDisconnected =>
    cases h
    obtain ⟨_, uxplay, state, _⟩ := s.daemon.handleEvent_airplay_frame (.inr rfl)
    exact .inr (.inl ⟨uxplay, state⟩)
  | miracastConnected =>
    cases h
    by_cases accepted : Accepts s.daemon.arbiter.state .miracastConnected
    · have idle := accepts_miracastConnected_iff.mp accepted
      rw [Daemon.handleEvent_miracastConnected idle]
      exact .inr (.inr (.inl ⟨idle, rfl⟩))
    · rw [Daemon.handleEvent_of_not_accepts accepted]
      exact .inr (.inl ⟨rfl, Iff.rfl⟩)
  | miracastDisconnected =>
    cases h
    unfold Daemon.handleMiracastDisconnected
    by_cases accepted : Accepts s.daemon.arbiter.state .miracastDisconnected
    · have miracast := accepts_miracastDisconnected_iff.mp accepted
      cases started : s.daemon.uxplay.start with
      | none =>
        left
        simp only [UxPlayRun.after, Daemon.handleEvent, CastArbiter.handle,
          CastArbiter.transition, miracast, table, Daemon.applyActions, Daemon.applyAction, started,
          Option.map_none, Bool.or_true]
      | some uxplay =>
        rw [Daemon.handleEvent_miracastDisconnected miracast started]
        exact .inr (.inr (.inr ⟨stopped_of_start started, (UxPlayProcess.start_spec started).1⟩))
    · rw [Daemon.handleEvent_of_not_accepts accepted]
      exact .inr (.inl ⟨rfl, Iff.rfl⟩)
  | pumpEnds n =>
    simp only [UxPlayRun.step] at h
    split at h
    · split at h <;> cases h
      · exact .inr (.inl ⟨rfl, Iff.rfl⟩)
      · obtain ⟨uxplay, state, _⟩ := s.daemon.onUxplayExited_frame
        exact .inr (.inl ⟨uxplay, state⟩)
    · cases h
  | wakes n =>
    simp only [UxPlayRun.step] at h
    split at h
    · split at h <;> cases h
      · rename_i started
        exact .inr (.inr (.inr ⟨stopped_of_start started, (UxPlayProcess.start_spec started).1⟩))
      · exact .inl rfl
    · cases h

namespace Startup

/-- A handler leaves what an early source left behind. -/
theorem Spoilt.handler {s : Startup} {run : UxPlayRun} {l : UxPlayLabel} (spoilt : s.Spoilt)
    (stays : l ≠ .exits) (early : Bool)
    (h : (if s.pc = .listening then s.run.stepUnbuilt l else UxPlayRun.step s.run l) = some run) :
    Spoilt { s with run := run, early := early } := by
  obtain ⟨before, pc, _⟩ := s
  rcases spoilt with raised | rest
  · left
    cases pc with
    | listening =>
      change before.stepUnbuilt l = some run at h
      exact UxPlayRun.raised_of_stepUnbuilt raised h
    | constructed | started | raised => exact UxPlayRun.raised_of_step raised h
  · cases pc with
    | listening => exact rest.elim
    | raised => exact .inr trivial
    | constructed =>
      rcases UxPlayRun.step_uxplay stays h with raised | ⟨uxplay, state⟩ | ⟨_, miracast⟩ | ⟨_, runs⟩
      · exact .inl raised
      · exact .inr (rest.imp state.mpr fun runs => by rw [uxplay]; exact runs)
      · exact .inr (.inl miracast)
      · exact .inr (.inr runs)
    | started =>
      obtain ⟨miracast, runs⟩ := rest
      rcases UxPlayRun.step_uxplay stays h with raised | ⟨uxplay, state⟩ | ⟨idle, _⟩ | ⟨stopped, _⟩
      · exact .inl raised
      · exact .inr ⟨state.mpr miracast, by rw [uxplay]; exact runs⟩
      · exact State.noConfusion (idle.symm.trans miracast)
      · exact Bool.noConfusion (stopped.symm.trans runs)

/-- A handler while no source has come early. -/
theorem Fresh.handler {s : Startup} {run : UxPlayRun} {l : UxPlayLabel} (fresh : s.Fresh)
    (stays : l ≠ .exits) (enabled : s.Enabled l)
    (h : (if s.pc = .listening then s.run.stepUnbuilt l else UxPlayRun.step s.run l) = some run) :
    Kept { s with run := run, early := decide (l = .miracastConnected ∧ s.pc ≠ .started) } := by
  obtain ⟨before, pc, _⟩ := s
  cases pc with
  | listening =>
    have next := UxPlayRun.Untouched.stepUnbuilt fresh h
    by_cases connects : l = .miracastConnected
    · rw [if_pos connects] at next
      simp only [Kept, connects]
      exact .inl next
    · rw [if_neg connects] at next
      simp only [Kept, connects]
      exact next
  | constructed =>
    have noClient : ¬(l = .airplayConnected ∨ l = .airplayDisconnected) := fun client => by
      have spawned := enabled.2 client
      rw [show before.daemon.uxplay = {} from UxPlayRun.Untouched.uxplay fresh] at spawned
      exact Nat.lt_irrefl 0 spawned
    have next := UxPlayRun.Untouched.step fresh stays noClient h
    by_cases connects : l = .miracastConnected
    · rw [if_pos connects] at next
      simp only [Kept, connects]
      exact .inr (.inl next)
    · rw [if_neg connects] at next
      simp only [Kept, connects]
      exact next
  | started =>
    simp only [Kept, ne_eq, not_true_eq_false, and_false]
    exact UxPlayRun.Settled.step fresh stays h
  | raised => exact fresh.elim

private theorem Kept.constructs {s : Startup} (kept : s.Kept) (listening : s.pc = .listening) :
    Kept { s with
      run := { s.run with daemon := s.run.daemon.showIdleScreen }
      pc := .constructed } := by
  obtain ⟨before, _, early⟩ := s
  cases listening
  cases early with
  | true =>
    rcases kept with raised | none
    · exact .inl raised
    · exact none.elim
  | false =>
    obtain ⟨calm, idle, available, health, uxplay, awake⟩ := kept
    exact ⟨calm, idle, available, health, uxplay, awake⟩

private theorem Kept.startsUxplay {s : Startup} {uxplay : UxPlayProcess} (kept : s.Kept)
    (constructed : s.pc = .constructed) (started : s.run.daemon.uxplay.start = some uxplay) :
    Kept { s with
      run := { s.run with daemon := { s.run.daemon with uxplay := uxplay } }
      pc := .started } := by
  obtain ⟨before, _, early⟩ := s
  cases constructed
  have runs := (UxPlayProcess.start_spec started).1
  cases early with
  | true =>
    rcases kept with raised | miracast | running
    · exact .inl raised
    · exact .inr ⟨miracast, runs⟩
    · exact Bool.noConfusion ((stopped_of_start started).symm.trans running)
  | false =>
    obtain ⟨calm, idle, available, health, _, awake⟩ := kept
    have other : before.daemon.arbiter.state ≠ .miracast := fun miracast =>
      State.noConfusion (idle.symm.trans miracast)
    exact ⟨calm, ⟨iff_of_true available idle, iff_of_true runs other, health.trans idle.symm⟩,
      fun miracast => absurd miracast other, awake⟩

/-- `self.uxplay.start()` raises only after an early source. -/
theorem Kept.raises {s : Startup} (kept : s.Kept) (constructed : s.pc = .constructed)
    (raises : s.run.daemon.uxplay.start = none) : Kept { s with pc := .raised } := by
  obtain ⟨before, _, early⟩ := s
  cases constructed
  cases early with
  | true => exact .inr trivial
  | false =>
    rw [show before.daemon.uxplay = {} from UxPlayRun.Untouched.uxplay kept] at raises
    cases raises

/-- One step of `start()` or of a handler. -/
theorem Kept.step {s t : Startup} {l : StartupLabel} (kept : s.Kept) (stays : s.Stays l)
    (h : Startup.step s l = some t) : t.Kept := by
  cases l with
  | constructs =>
    simp only [Startup.step] at h
    split at h <;> cases h
    rename_i listening
    exact kept.constructs listening
  | startsUxplay =>
    simp only [Startup.step] at h
    split at h
    case isFalse => cases h
    rename_i constructed
    split at h <;> cases h
    · rename_i started
      exact kept.startsUxplay constructed started
    · rename_i raises
      exact kept.raises constructed raises
  | handler l =>
    have stays' : l ≠ .exits := fun exits => stays (congrArg _ exits)
    simp only [Startup.step] at h
    split at h
    case isFalse => cases h
    rename_i enabled
    obtain ⟨run, stepped, rfl⟩ := Option.map_eq_some_iff.mp h
    cases early : s.early with
    | true =>
      simp only [Kept, early, if_true] at kept
      rw [Bool.true_or]
      exact kept.handler stays' true stepped
    | false =>
      simp only [Kept, early, Bool.false_eq_true, if_false] at kept
      rw [Bool.false_or]
      exact kept.handler stays' enabled stepped

/-- Whatever handlers run next to `start()`, one at a time, it raises only if a source came early.
Once it is through, nothing was raised and the side effects are those of the arbiter's state exactly
if none did, as long as uxplay does not exit by itself (`Stays`). -/
theorem settled_iff_none_early {s : Startup} (run : system.Reaches Stays s) :
    (s.pc = .raised → s.early = true) ∧
      (s.pc = .started →
        (s.run.raised = false ∧ FollowsArbiter s.run.daemon ↔ s.early = false)) := by
  have kept : s.Kept := run.invariant
    (show Kept {} from ⟨rfl, rfl, rfl, rfl, rfl, fun _ => PumpPc.noConfusion⟩)
    fun _ _ _ _ kept stays h => kept.step stays h
  obtain ⟨after, pc, early⟩ := s
  cases early with
  | true =>
    refine ⟨fun _ => rfl, fun started => iff_of_false (fun settled => ?_) Bool.noConfusion⟩
    cases started
    rcases kept with raised | ⟨miracast, running⟩
    · exact Bool.noConfusion (settled.1.symm.trans raised)
    · exact settled.2.airplay.mp running miracast
  | false =>
    refine ⟨fun raised => ?_, fun started => iff_of_true ?_ rfl⟩
    · cases raised
      exact kept.elim
    · cases started
      exact ⟨UxPlayRun.Settled.calm kept, UxPlayRun.Settled.follows kept⟩

/-- Two sources that come while castd starts. The one that comes when uxplay is up pauses it. The
one that came just before has it running next to its session, and nothing was raised. -/
theorem settled_iff_none_early_by_a_moment :
    (∃ s, System.runUnder system Stays {}
        [.constructs, .startsUxplay, .handler .miracastConnected] = some s ∧
      s.run.daemon.uxplay.isRunning = false ∧ FollowsArbiter s.run.daemon) ∧
    ∃ s, System.runUnder system Stays {}
        [.constructs, .handler .miracastConnected, .startsUxplay] = some s ∧
      s.run.daemon.uxplay.isRunning = true ∧ s.run.raised = false ∧
        ¬ FollowsArbiter s.run.daemon := by
  refine ⟨⟨_, rfl, rfl, ?_⟩, ⟨_, rfl, rfl, rfl, fun follows => ?_⟩⟩
  · have run : system.Reaches Stays _ := System.runUnder_leads
      [.constructs, .startsUxplay, .handler .miracastConnected] rfl
    exact (((settled_iff_none_early run).2 rfl).mpr rfl).2
  · have run : system.Reaches Stays _ := System.runUnder_leads
      [.constructs, .handler .miracastConnected, .startsUxplay] rfl
    exact Bool.noConfusion (((settled_iff_none_early run).2 rfl).mp ⟨rfl, follows⟩)

end Startup

end Castd.Main
