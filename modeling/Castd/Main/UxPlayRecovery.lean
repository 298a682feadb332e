import Castd.Lib.System
import Castd.Main.Daemon

/-!
# Recovery from a uxplay crash

`_on_uxplay_exited` runs on the output pump of the child that died: it takes the arbiter out of
AIRPLAY, sleeps two seconds, and starts uxplay without another look. Here handlers run one at a
time, and the sleep is a point where any other one may run.

The relaunch is safe as long as nothing that matters changes under the sleep (`NothingUnderSleep`):
no Miracast source is accepted, and no second pump goes to sleep. Then outside MIRACAST there is
always a child, running or dead, and in MIRACAST there is none and no pump sleeps
(`UxPlayRun.Guarded`).
-/

namespace Castd.Main

open Fsm Airplay Lib

/-- Where the pump thread of a uxplay child stands. -/
inductive PumpPc
  /-- Reading the child's output. -/
  | reading
  /-- In the `time.sleep` of `_on_uxplay_exited`. -/
  | sleeping
  | done
  deriving DecidableEq

/-- The daemon and the pumps of the uxplay children spawned so far. -/
structure UxPlayRun where
  daemon : Daemon := Daemon.started
  pumps : Nat → PumpPc := fun _ => .reading
  /-- Some `uxplay.start()` raised. -/
  raised : Bool := false

/-- A handler runs, or something happens to a uxplay child. -/
inductive UxPlayLabel
  | miracastConnected
  /-- A handshake failed, or a session's pump ended. -/
  | miracastDisconnected
  | airplayConnected
  | airplayDisconnected
  /-- The child exits by itself. -/
  | exits
  /-- The pump of a child that is gone reaches the end of the output. -/
  | pumpEnds (number : Nat)
  /-- Its two seconds are over. -/
  | wakes (number : Nat)
  deriving DecidableEq

/-- `_on_uxplay_exited` up to its sleep: the daemon, and whether it comes to the sleep. -/
def Daemon.onUxplayExited (d : Daemon) : Daemon × Bool :=
  let d' := if d.arbiter.state = .airplay then d.onAirplayDisconnected.1 else d
  (d', !d'.uxplay.isRunning)

namespace UxPlayRun

/-- A handler's outcome, with its exception recorded. -/
def after (s : UxPlayRun) (result : Daemon × Bool) : UxPlayRun :=
  { s with daemon := result.1, raised := s.raised || result.2 }

/-- The step function. -/
def step (s : UxPlayRun) : UxPlayLabel → Option UxPlayRun
  | .miracastConnected => some (s.after (s.daemon.handleEvent .miracastConnected))
  | .miracastDisconnected => some (s.after s.daemon.handleMiracastDisconnected)
  | .airplayConnected => some (s.after s.daemon.onAirplayConnected)
  | .airplayDisconnected => some (s.after s.daemon.onAirplayDisconnected)
  | .exits =>
    some { s with daemon := { s.daemon with uxplay := s.daemon.uxplay.childExits } }
  | .pumpEnds n =>
    if n < s.daemon.uxplay.spawned ∧ s.pumps n = .reading ∧
        s.daemon.uxplay.proc ≠ some { number := n } then
      if s.daemon.uxplay.expectExit then
        some { s with pumps := Function.update s.pumps n .done }
      else
        some { s with
          daemon := s.daemon.onUxplayExited.1
          pumps := Function.update s.pumps n
            (if s.daemon.onUxplayExited.2 then .sleeping else .done) }
    else none
  | .wakes n =>
    if s.pumps n = .sleeping then
      match s.daemon.uxplay.start with
      | some uxplay =>
        some { s with
          daemon := { s.daemon with uxplay := uxplay }
          pumps := Function.update s.pumps n .done }
      | none => some { s with pumps := Function.update s.pumps n .done, raised := true }
    else none

/-- The system, from a started daemon. -/
def system : System UxPlayRun UxPlayLabel := { init := {}, step := step }

end UxPlayRun

/-- Crash recovery respects arbitration. -/
structure RespectsArbitration (s : UxPlayRun) : Prop where
  paused : s.daemon.arbiter.state = .miracast → s.daemon.uxplay.isRunning = false
  calm : s.raised = false
  /-- A step back to IDLE runs all of its actions. -/
  restores : ∀ l s', UxPlayRun.step s l = some s' → s.daemon.arbiter.state ≠ .idle →
    s'.daemon.arbiter.state = .idle →
    s'.raised = false ∧ s'.daemon.sessionAvailable = true ∧
      s'.daemon.idleScreens = none :: s.daemon.idleScreens

/-- No Miracast source is accepted while a pump sleeps, and no second pump goes to sleep.

`_on_uxplay_exited` looks at nothing after its sleep of two seconds: what has happened under it is
undone by the `start` that follows. -/
def NothingUnderSleep (s : UxPlayRun) : UxPlayLabel → Prop
  | .miracastConnected => s.daemon.arbiter.state = .idle →
    ∀ j < s.daemon.uxplay.spawned, s.pumps j ≠ .sleeping
  | .pumpEnds _ => s.daemon.uxplay.expectExit = false → s.daemon.uxplay.isRunning = false →
    ∀ j < s.daemon.uxplay.spawned, s.pumps j ≠ .sleeping
  | _ => True

instance (s : UxPlayRun) (l : UxPlayLabel) : Decidable (NothingUnderSleep s l) :=
  match l with
  | .miracastConnected => inferInstanceAs (Decidable (_ → ∀ j < _, _))
  | .pumpEnds _ => inferInstanceAs (Decidable (_ → _ → ∀ j < _, _))
  | .miracastDisconnected | .airplayConnected | .airplayDisconnected | .exits | .wakes _ =>
    instDecidableTrue

/-- What the handlers and the pumps keep. -/
structure UxPlayRun.Guarded (s : UxPlayRun) : Prop where
  child : s.daemon.arbiter.state ≠ .miracast → s.daemon.uxplay.proc ≠ none
  paused : s.daemon.arbiter.state = .miracast → s.daemon.uxplay.proc = none ∧
    s.daemon.uxplay.expectExit = true ∧ ∀ j, s.pumps j ≠ .sleeping
  spawned : ∀ j, s.pumps j = .sleeping → j < s.daemon.uxplay.spawned
  asleep : ∀ j, s.pumps j = .sleeping → s.daemon.uxplay.isRunning = false
  one : ∀ i j, s.pumps i = .sleeping → s.pumps j = .sleeping → i = j
  calm : s.raised = false

/-! ## Handlers -/

/-- The AirPlay handlers leave uxplay alone, raise nothing, and do not enter or leave MIRACAST. -/
theorem Daemon.handleEvent_airplay_frame (d : Daemon) {event : Event}
    (h : event = .airplayConnected ∨ event = .airplayDisconnected) :
    (d.handleEvent event).2 = false ∧ (d.handleEvent event).1.uxplay = d.uxplay ∧
      ((d.handleEvent event).1.arbiter.state = .miracast ↔ d.arbiter.state = .miracast) ∧
      (d.arbiter.state ≠ .idle → (d.handleEvent event).1.arbiter.state = .idle →
        (d.handleEvent event).1.sessionAvailable = true ∧
          (d.handleEvent event).1.idleScreens = none :: d.idleScreens) := by
  by_cases accepted : Accepts d.arbiter.state event
  · rcases h with rfl | rfl
    · have idle := accepts_airplayConnected_iff.mp accepted
      rw [handleEvent_airplayConnected idle]
      refine ⟨rfl, rfl, ?_, fun busy => absurd idle busy⟩
      rw [idle]
      exact iff_of_false State.noConfusion State.noConfusion
    · have airplay := accepts_airplayDisconnected_iff.mp accepted
      rw [handleEvent_airplayDisconnected airplay]
      refine ⟨rfl, rfl, ?_, fun _ _ => ⟨rfl, rfl⟩⟩
      rw [airplay]
      exact iff_of_false State.noConfusion State.noConfusion
  · rw [handleEvent_of_not_accepts accepted]
    exact ⟨rfl, rfl, Iff.rfl, fun busy idle => absurd idle busy⟩

/-- A handler that does not touch uxplay and stays on its side of MIRACAST keeps the guard. -/
theorem UxPlayRun.Guarded.of_frame {s : UxPlayRun} (hs : s.Guarded) {d : Daemon}
    (uxplay : d.uxplay = s.daemon.uxplay)
    (state : d.arbiter.state = .miracast ↔ s.daemon.arbiter.state = .miracast) :
    UxPlayRun.Guarded { s with daemon := d } := by
  obtain ⟨child, paused, spawned, asleep, one, calm⟩ := hs
  refine ⟨fun h => ?_, fun h => ?_, fun j h => ?_, fun j h => ?_, one, calm⟩
  · show d.uxplay.proc ≠ none
    rw [uxplay]
    exact child (mt state.mpr h)
  · show d.uxplay.proc = none ∧ d.uxplay.expectExit = true ∧ _
    rw [uxplay]
    exact paused (state.mp h)
  · show j < d.uxplay.spawned
    rw [uxplay]
    exact spawned j h
  · show d.uxplay.isRunning = false
    rw [uxplay]
    exact asleep j h

private theorem UxPlayRun.Guarded.start_of_miracast {s : UxPlayRun} (hs : s.Guarded)
    (h : s.daemon.arbiter.state = .miracast) : ∃ u, s.daemon.uxplay.start = some u := by
  cases hu : s.daemon.uxplay.start with
  | some u => exact ⟨u, rfl⟩
  | none =>
    have runs := UxPlayProcess.start_eq_none_iff.mp hu
    simp only [UxPlayProcess.isRunning, (hs.paused h).1] at runs
    exact Bool.noConfusion runs

/-- An accepted connect keeps the guard, when no pump sleeps. -/
theorem UxPlayRun.Guarded.connected {s : UxPlayRun} (hs : s.Guarded)
    (awake : NothingUnderSleep s .miracastConnected) :
    UxPlayRun.Guarded (s.after (s.daemon.handleEvent .miracastConnected)) := by
  by_cases accepted : Accepts s.daemon.arbiter.state .miracastConnected
  · have idle := accepts_miracastConnected_iff.mp accepted
    obtain ⟨child, _, spawned, asleep, one, calm⟩ := hs
    have noSleeper : ∀ j, s.pumps j ≠ .sleeping := fun j h => awake idle j (spawned j h) h
    rw [Daemon.handleEvent_miracastConnected idle]
    refine ⟨fun h => absurd rfl h, fun _ => ⟨UxPlayProcess.stop_proc _, ?_, noSleeper⟩,
      fun j h => absurd h (noSleeper j), fun j h => absurd h (noSleeper j), one, ?_⟩
    · have busy := child (by rw [idle]; exact State.noConfusion)
      show s.daemon.uxplay.stop.expectExit = true
      unfold UxPlayProcess.stop
      split
      · contradiction
      · rfl
    · show (s.raised || false) = false
      rw [calm]
      rfl
  · rw [Daemon.handleEvent_of_not_accepts accepted, UxPlayRun.after, Bool.or_false]
    exact hs.of_frame rfl Iff.rfl

/-- A disconnect keeps the guard. -/
theorem UxPlayRun.Guarded.disconnected {s : UxPlayRun} (hs : s.Guarded) :
    UxPlayRun.Guarded (s.after (s.daemon.handleEvent .miracastDisconnected)) := by
  by_cases accepted : Accepts s.daemon.arbiter.state .miracastDisconnected
  · have miracast := accepts_miracastDisconnected_iff.mp accepted
    obtain ⟨u, started⟩ := hs.start_of_miracast miracast
    have noSleeper := (hs.paused miracast).2.2
    rw [Daemon.handleEvent_miracastDisconnected miracast started]
    refine ⟨fun _ hnone => ?_, fun h => State.noConfusion h, fun j h => absurd h (noSleeper j),
      fun j h => absurd h (noSleeper j), hs.one, ?_⟩
    · have runs := (UxPlayProcess.start_spec started).1
      change u.proc = none at hnone
      simp only [UxPlayProcess.isRunning, hnone] at runs
      exact Bool.noConfusion runs
    · show (s.raised || false) = false
      rw [hs.calm]
      rfl
  · rw [Daemon.handleEvent_of_not_accepts accepted, UxPlayRun.after, Bool.or_false]
    exact hs.of_frame rfl Iff.rfl

/-- An AirPlay handler keeps the guard. -/
theorem UxPlayRun.Guarded.airplay {s : UxPlayRun} (hs : s.Guarded) {event : Event}
    (h : event = .airplayConnected ∨ event = .airplayDisconnected) :
    UxPlayRun.Guarded (s.after (s.daemon.handleEvent event)) := by
  obtain ⟨quiet, uxplay, state, _⟩ := s.daemon.handleEvent_airplay_frame h
  rw [UxPlayRun.after, quiet, Bool.or_false]
  exact hs.of_frame uxplay state

/-- The exit of the child keeps the guard. -/
theorem UxPlayRun.Guarded.exits {s : UxPlayRun} (hs : s.Guarded) :
    UxPlayRun.Guarded
      { s with daemon := { s.daemon with uxplay := s.daemon.uxplay.childExits } } := by
  obtain ⟨child, paused, spawned, _, one, calm⟩ := hs
  refine ⟨fun h hnone => ?_, fun h => ?_, spawned,
    fun _ _ => UxPlayProcess.childExits_isRunning _, one, calm⟩
  · exact child h (Option.map_eq_none_iff.mp hnone)
  · obtain ⟨none_proc, rest⟩ := paused h
    exact ⟨Option.map_eq_none_iff.mpr none_proc, rest⟩

/-- `_on_uxplay_exited` leaves uxplay alone before its sleep, and does not enter or leave
MIRACAST. -/
theorem Daemon.onUxplayExited_frame (d : Daemon) :
    d.onUxplayExited.1.uxplay = d.uxplay ∧
      (d.onUxplayExited.1.arbiter.state = .miracast ↔ d.arbiter.state = .miracast) ∧
      d.onUxplayExited.2 = !d.uxplay.isRunning := by
  unfold onUxplayExited
  split
  · obtain ⟨_, uxplay, state, _⟩ := d.handleEvent_airplay_frame (.inr rfl)
    refine ⟨uxplay, state, ?_⟩
    show (!d.onAirplayDisconnected.1.uxplay.isRunning) = _
    rw [show d.onAirplayDisconnected.1.uxplay = d.uxplay from uxplay]
  · exact ⟨rfl, Iff.rfl, rfl⟩

private theorem UxPlayRun.Guarded.pumpDone {s : UxPlayRun} (hs : s.Guarded) (n : Nat) :
    UxPlayRun.Guarded { s with pumps := Function.update s.pumps n .done } := by
  obtain ⟨child, paused, spawned, asleep, one, calm⟩ := hs
  have before : ∀ j, Function.update s.pumps n .done j = .sleeping → s.pumps j = .sleeping := by
    intro j h
    by_cases hj : j = n
    · rw [hj, Function.update_self] at h
      exact PumpPc.noConfusion h
    · rwa [Function.update_of_ne hj] at h
  refine ⟨child, fun h => ?_, fun j h => spawned j (before j h), fun j h => asleep j (before j h),
    fun i j hi hj => one i j (before i hi) (before j hj), calm⟩
  obtain ⟨none_proc, expect, noSleeper⟩ := paused h
  exact ⟨none_proc, expect, fun j hj => noSleeper j (before j hj)⟩

/-- The end of a pump keeps the guard, when it is the only one that sleeps. -/
theorem UxPlayRun.Guarded.pumpEnds {s : UxPlayRun} (hs : s.Guarded) {n : Nat}
    (alone : NothingUnderSleep s (.pumpEnds n)) (number : n < s.daemon.uxplay.spawned)
    (unexpected : s.daemon.uxplay.expectExit = false) :
    UxPlayRun.Guarded
      { s with
        daemon := s.daemon.onUxplayExited.1
        pumps := Function.update s.pumps n
          (if s.daemon.onUxplayExited.2 then .sleeping else .done) } := by
  obtain ⟨uxplay, state, sleeps⟩ := s.daemon.onUxplayExited_frame
  cases runs : s.daemon.uxplay.isRunning with
  | true =>
    rw [sleeps, runs]
    exact (hs.pumpDone n).of_frame uxplay state
  | false =>
    rw [sleeps, runs]
    have noSleeper : ∀ j, s.pumps j ≠ .sleeping := fun j h =>
      alone unexpected runs j (hs.spawned j h) h
    have calm : s.daemon.arbiter.state ≠ .miracast := fun h => by
      have := (hs.paused h).2.1
      rw [unexpected] at this
      exact Bool.noConfusion this
    have only : ∀ j, Function.update s.pumps n .sleeping j = .sleeping → j = n := by
      intro j h
      by_contra hj
      rw [Function.update_of_ne hj] at h
      exact noSleeper j h
    refine ⟨fun _ => ?_, fun h => absurd (state.mp h) calm, fun j h => ?_, fun _ _ => ?_,
      fun i j hi hj => ?_, hs.calm⟩
    · show s.daemon.onUxplayExited.1.uxplay.proc ≠ none
      rw [uxplay]
      exact hs.child calm
    · show j < s.daemon.onUxplayExited.1.uxplay.spawned
      rw [uxplay, only j h]
      exact number
    · show s.daemon.onUxplayExited.1.uxplay.isRunning = false
      rw [uxplay]
      exact runs
    · rw [only i hi, only j hj]

/-- A pump that wakes finds nothing running, and restarts uxplay. -/
theorem UxPlayRun.Guarded.wakes {s : UxPlayRun} (hs : s.Guarded) {n : Nat} {u : UxPlayProcess}
    (sleeps : s.pumps n = .sleeping) (started : s.daemon.uxplay.start = some u) :
    UxPlayRun.Guarded
      { s with
        daemon := { s.daemon with uxplay := u }
        pumps := Function.update s.pumps n .done } := by
  have noSleeper : ∀ j, Function.update s.pumps n .done j ≠ .sleeping := by
    intro j h
    by_cases hj : j = n
    · rw [hj, Function.update_self] at h
      exact PumpPc.noConfusion h
    · rw [Function.update_of_ne hj] at h
      exact hj (hs.one j n h sleeps)
  refine ⟨fun _ hnone => ?_, fun h => absurd sleeps ((hs.paused h).2.2 n),
    fun j h => absurd h (noSleeper j), fun j h => absurd h (noSleeper j),
    fun i _ h => absurd h (noSleeper i), hs.calm⟩
  have runs := (UxPlayProcess.start_spec started).1
  change u.proc = none at hnone
  simp only [UxPlayProcess.isRunning, hnone] at runs
  exact Bool.noConfusion runs

/-- One step keeps the guard, when nothing happens under a sleep. -/
theorem UxPlayRun.Guarded.step {s s' : UxPlayRun} {l : UxPlayLabel} (hs : s.Guarded)
    (nothing : NothingUnderSleep s l) (h : UxPlayRun.step s l = some s') : s'.Guarded := by
  cases l with
  | miracastConnected =>
    cases h
    exact hs.connected nothing
  | miracastDisconnected =>
    cases h
    exact hs.disconnected
  | airplayConnected =>
    cases h
    exact hs.airplay (.inl rfl)
  | airplayDisconnected =>
    cases h
    exact hs.airplay (.inr rfl)
  | exits =>
    cases h
    exact hs.exits
  | pumpEnds n =>
    simp only [UxPlayRun.step] at h
    split at h
    · rename_i guard
      split at h <;> cases h
      · exact hs.pumpDone n
      · rename_i unexpected
        exact hs.pumpEnds nothing guard.1 (Bool.eq_false_of_not_eq_true unexpected)
    · cases h
  | wakes n =>
    simp only [UxPlayRun.step] at h
    split at h
    · rename_i sleeps
      split at h <;> cases h
      · rename_i started
        exact hs.wakes sleeps started
      · rename_i raises
        have runs := UxPlayProcess.start_eq_none_iff.mp raises
        rw [hs.asleep n sleeps] at runs
        exact Bool.noConfusion runs
    · cases h

/-- Where the guard holds, a step back to IDLE runs all of its actions. -/
theorem UxPlayRun.Guarded.restores {s s' : UxPlayRun} {l : UxPlayLabel} (hs : s.Guarded)
    (h : UxPlayRun.step s l = some s') (busy : s.daemon.arbiter.state ≠ .idle)
    (idle : s'.daemon.arbiter.state = .idle) :
    s'.raised = false ∧ s'.daemon.sessionAvailable = true ∧
      s'.daemon.idleScreens = none :: s.daemon.idleScreens := by
  have airplay : ∀ event, event = .airplayConnected ∨ event = .airplayDisconnected →
      (s.daemon.handleEvent event).1.arbiter.state = .idle →
      (s.raised || (s.daemon.handleEvent event).2) = false ∧
        (s.daemon.handleEvent event).1.sessionAvailable = true ∧
        (s.daemon.handleEvent event).1.idleScreens = none :: s.daemon.idleScreens := by
    intro event hevent hidle
    obtain ⟨quiet, _, _, back⟩ := s.daemon.handleEvent_airplay_frame hevent
    rw [hs.calm, quiet]
    exact ⟨rfl, back busy hidle⟩
  cases l with
  | miracastConnected =>
    cases h
    have rejected := mt accepts_miracastConnected_iff.mp busy
    simp only [UxPlayRun.after, Daemon.handleEvent_of_not_accepts rejected] at idle
    exact absurd idle busy
  | miracastDisconnected =>
    cases h
    by_cases accepted : Accepts s.daemon.arbiter.state .miracastDisconnected
    · have miracast := accepts_miracastDisconnected_iff.mp accepted
      obtain ⟨u, started⟩ := hs.start_of_miracast miracast
      simp only [UxPlayRun.after, Daemon.handleMiracastDisconnected,
        Daemon.handleEvent_miracastDisconnected miracast started, hs.calm]
      exact ⟨rfl, rfl, rfl⟩
    · simp only [UxPlayRun.after, Daemon.handleMiracastDisconnected,
        Daemon.handleEvent_of_not_accepts accepted] at idle
      exact absurd idle busy
  | airplayConnected =>
    cases h
    exact airplay _ (.inl rfl) idle
  | airplayDisconnected =>
    cases h
    exact airplay _ (.inr rfl) idle
  | exits =>
    cases h
    exact absurd idle busy
  | pumpEnds n =>
    simp only [UxPlayRun.step] at h
    split at h
    · split at h <;> cases h
      · exact absurd idle busy
      · simp only [Daemon.onUxplayExited] at idle ⊢
        split at idle
        · rename_i inAirplay
          obtain ⟨_, available, painted⟩ := airplay _ (.inr rfl) idle
          rw [if_pos inAirplay]
          exact ⟨hs.calm, available, painted⟩
        · exact absurd idle busy
    · cases h
  | wakes n =>
    simp only [UxPlayRun.step] at h
    split at h
    · split at h <;> cases h
      · exact absurd idle busy
      · exact absurd idle busy
    · cases h

private theorem UxPlayRun.Guarded.respectsArbitration {s : UxPlayRun} (hs : s.Guarded) :
    RespectsArbitration s := by
  refine ⟨fun h => ?_, hs.calm, fun l s' h busy idle => hs.restores h busy idle⟩
  simp only [UxPlayProcess.isRunning, (hs.paused h).1]

/-! ## A step under a sleep -/

private theorem UxPlayRun.step_wakes {s : UxPlayRun} {n : Nat} {u : UxPlayProcess}
    (sleeps : s.pumps n = .sleeping) (started : s.daemon.uxplay.start = some u) :
    UxPlayRun.step s (.wakes n) = some
      { s with
        daemon := { s.daemon with uxplay := u }
        pumps := Function.update s.pumps n .done } := by
  simp only [UxPlayRun.step, sleeps, if_true, started]

private theorem UxPlayRun.step_wakes_raises {s : UxPlayRun} {n : Nat}
    (sleeps : s.pumps n = .sleeping)
    (runs : s.daemon.uxplay.start = none) :
    UxPlayRun.step s (.wakes n) = some
      { s with pumps := Function.update s.pumps n .done, raised := true } := by
  simp only [UxPlayRun.step, sleeps, if_true, runs]

private theorem starts_under_miracast {s s' : UxPlayRun} {j : Nat}
    (idle : s.daemon.arbiter.state = .idle)
    (sleeps : s.pumps j = .sleeping) (h : UxPlayRun.step s .miracastConnected = some s') :
    ∃ t, UxPlayRun.step s' (.wakes j) = some t ∧ ¬ RespectsArbitration t := by
  cases h
  rw [Daemon.handleEvent_miracastConnected idle]
  have started : ∃ u, s.daemon.uxplay.stop.start = some u := by
    cases hu : s.daemon.uxplay.stop.start with
    | some u => exact ⟨u, rfl⟩
    | none =>
      rw [UxPlayProcess.start_eq_none_iff, UxPlayProcess.stop_isRunning] at hu
      exact Bool.noConfusion hu
  obtain ⟨u, started⟩ := started
  refine ⟨_, UxPlayRun.step_wakes sleeps started, fun respects => ?_⟩
  have stopped := respects.paused rfl
  rw [(UxPlayProcess.start_spec started).1] at stopped
  exact Bool.noConfusion stopped

private theorem raises_under_two_sleepers {s : UxPlayRun} {i j : Nat} (two : i ≠ j)
    (first : s.pumps i = .sleeping) (second : s.pumps j = .sleeping) :
    ∃ t, UxPlayRun.system.Leads (fun _ _ => True) s t ∧ ¬ RespectsArbitration t := by
  cases hu : s.daemon.uxplay.start with
  | none =>
    exact ⟨_, .step (l := .wakes i) .refl trivial (UxPlayRun.step_wakes_raises first hu),
      fun respects => Bool.noConfusion respects.calm⟩
  | some u =>
    have runs : u.start = none :=
      UxPlayProcess.start_eq_none_iff.mpr (UxPlayProcess.start_spec hu).1
    have wakes := UxPlayRun.step_wakes first hu
    refine ⟨_, .step (l := .wakes j) (.step (l := .wakes i) .refl trivial wakes) trivial
      (UxPlayRun.step_wakes_raises ?_ runs), fun respects => Bool.noConfusion respects.calm⟩
    simp only [Function.update_of_ne two.symm]
    exact second

/-- Crash recovery respects arbitration in every run in which nothing happens under its sleep.
From the first step that happens under one a run goes on to a state where it does not: a uxplay
that is started in MIRACAST, or a `start` that raises because there is a child. -/
theorem crash_recovery_respects_arbitration (s : UxPlayRun) :
    (UxPlayRun.system.Reaches NothingUnderSleep s → RespectsArbitration s) ∧
    (∀ l s', UxPlayRun.system.Reachable s → ¬ NothingUnderSleep s l →
      UxPlayRun.step s l = some s' →
      ∃ t, UxPlayRun.system.Leads (fun _ _ => True) s' t ∧ ¬ RespectsArbitration t) := by
  refine ⟨fun reached => ?_, fun l s' _ under h => ?_⟩
  · have guarded : s.Guarded := by
      refine reached.invariant ⟨fun _ => Option.some_ne_none _, fun h => State.noConfusion h,
        fun _ h => PumpPc.noConfusion h, fun _ h => PumpPc.noConfusion h,
        fun _ _ h => PumpPc.noConfusion h, rfl⟩ fun t l u _ ht hc hstep => ht.step hc hstep
    exact guarded.respectsArbitration
  · cases l with
    | miracastConnected =>
      simp only [NothingUnderSleep, Classical.not_imp, not_forall, not_not] at under
      obtain ⟨idle, j, _, sleeps⟩ := under
      obtain ⟨t, wakes, hn⟩ := starts_under_miracast idle sleeps h
      exact ⟨t, .step (l := .wakes j) .refl trivial wakes, hn⟩
    | pumpEnds n =>
      simp only [NothingUnderSleep, Classical.not_imp, not_forall, not_not] at under
      obtain ⟨unexpected, dead, j, _, sleeps⟩ := under
      simp only [UxPlayRun.step, unexpected] at h
      split at h
      · rename_i guard
        cases h
        have two : n ≠ j := fun hn => by
          rw [hn, sleeps] at guard
          exact PumpPc.noConfusion guard.2.1
        refine raises_under_two_sleepers two ?_ ?_
        · simp only [Function.update_self, s.daemon.onUxplayExited_frame.2.2, dead]
          rfl
        · simp only [Function.update_of_ne two.symm]
          exact sleeps
      · cases h
    | _ => exact absurd trivial under

/-- uxplay crashes, is relaunched, and a Miracast session comes and goes. -/
theorem crash_recovery_respects_arbitration_in_turn :
    ∃ s, UxPlayRun.system.Reaches NothingUnderSleep s ∧ s.daemon.uxplay.spawned = 3 ∧
      RespectsArbitration s := by
  obtain ⟨s, run, spawned⟩ : ∃ s,
      System.runUnder UxPlayRun.system NothingUnderSleep UxPlayRun.system.init
        [.exits, .pumpEnds 0, .wakes 0, .miracastConnected, .pumpEnds 1,
          .miracastDisconnected] = some s ∧ s.daemon.uxplay.spawned = 3 :=
    System.exists_runUnder (by decide +kernel)
  have reached := System.runUnder_leads _ run
  exact ⟨s, reached, spawned, (crash_recovery_respects_arbitration s).1 reached⟩

/-- A Miracast source connects while the pump of a crashed uxplay sleeps: uxplay runs in MIRACAST,
and the disconnect raises on it, which leaves the idle sink advertised as busy and the idle screen
unpainted. -/
theorem relaunch_breaks_next_teardown :
    ∃ s t, UxPlayRun.system.run [.exits, .pumpEnds 0, .miracastConnected, .wakes 0] = some s ∧
      s.daemon.arbiter.state = .miracast ∧ s.daemon.uxplay.isRunning = true ∧
      UxPlayRun.step s .miracastDisconnected = some t ∧ t.raised = true ∧
      t.daemon.arbiter.state = .idle ∧ t.daemon.sessionAvailable = false ∧
      t.daemon.idleScreens = s.daemon.idleScreens ∧ ¬ RespectsArbitration s := by
  refine ⟨_, _, rfl, rfl, rfl, rfl, rfl, rfl, rfl, rfl, fun respects => ?_⟩
  exact Bool.noConfusion (respects.paused rfl)

end Castd.Main
