import Castd.Main.UxPlayRecovery

/-!
# The PIN on the kiosk

`_show_idle_screen` is called from the PIN handler, from `_on_group_started` and from the actions of
both protocols, and the daemon keeps the PIN of a pairing attempt nowhere. Handlers run one at a
time, in any order; D-Bus calls and the framebuffer succeed. Of a painted screen the PIN is
recorded.

The screen is right as long as no attempt is disturbed (`Undisturbed`): nothing paints the idle
screen without the PIN while one is pending, and it does not end by `WpsFailed`.
-/

namespace Castd.Main

open Fsm Airplay Lib

/-- The daemon with the group's WPS registrar, and what the statements remember of the pairing
attempts. -/
structure Kiosk where
  run : UxPlayRun := {}
  /-- The PIN last given to `authorize_display_pin`. -/
  armed : Option String := none
  /-- The PIN of the attempt under way. -/
  pending : Option String := none
  /-- The PIN of the last attempt, where it ended by `WpsFailed`. -/
  failed : Option String := none

/-- A handler. -/
inductive KioskLabel
  /-- `_handle_display_pin_request`. -/
  | displayPinRequest (pin : String)
  /-- `_handle_wps_failed`. -/
  | wpsFailed (status : String)
  /-- `_handle_group_started`, with what `get_group_interface_name` answers. -/
  | groupStarted (ifname : Option String)
  /-- A handler of a session, of an AirPlay client or of a uxplay child. -/
  | handler (label : UxPlayLabel)

namespace Kiosk

/-- The PIN on the idle screen painted last. -/
def shown (s : Kiosk) : Option String := s.run.daemon.idleScreens.head?.join

/-- `_show_idle_screen`. -/
def showIdleScreen (s : Kiosk) (pin : Option String) : Kiosk :=
  { s with run := { s.run with daemon := s.run.daemon.showIdleScreen pin } }

/-- `authorize_display_pin`. -/
def authorizeDisplayPin (s : Kiosk) (pin : String) : Kiosk := { s with armed := some pin }

/-- `_on_display_pin_needed`. -/
def onDisplayPinNeeded (s : Kiosk) (pin : String) : Kiosk := s.showIdleScreen (some pin)

/-- `_on_group_started`. -/
def onGroupStarted (s : Kiosk) (ifname : Option String) : Kiosk :=
  match ifname with
  | some _ => s.showIdleScreen none
  | none => s

/-- `_on_wps_failed` writes to the log. -/
def onWpsFailed (s : Kiosk) (_status : String) : Kiosk := s

/-- One handler. A connect of a Miracast source ends the attempt. -/
def step (s : Kiosk) : KioskLabel → Option Kiosk
  | .displayPinRequest pin =>
    some { (s.authorizeDisplayPin pin).onDisplayPinNeeded pin with
      pending := some pin, failed := none }
  | .wpsFailed status =>
    some { s.onWpsFailed status with pending := none, failed := s.pending.or s.failed }
  | .groupStarted ifname => some (s.onGroupStarted ifname)
  | .handler label =>
    (s.run.step label).map fun run =>
      { s with run := run, pending := if label = .miracastConnected then none else s.pending }

/-- The system, from a started daemon. -/
def system : System Kiosk KioskLabel := { init := {}, step := step }

/-- The kiosk shows the PIN that works: the one of the attempt under way, which the registrar is
armed with, and not the one of an attempt that failed. -/
structure ShowsLivePin (s : Kiosk) : Prop where
  pending : ∀ pin, s.pending = some pin → s.shown = some pin ∧ s.armed = some pin
  failed : ∀ pin, s.failed = some pin → s.shown ≠ some pin

/-- The handler paints the idle screen without a PIN. -/
def Repaints (d : Daemon) : KioskLabel → Prop
  | .groupStarted ifname => ifname.isSome = true
  | .handler .airplayDisconnected => d.arbiter.state = .airplay
  | .handler (.pumpEnds _) => d.arbiter.state = .airplay ∧ d.uxplay.expectExit = false
  | .handler .miracastDisconnected =>
    d.arbiter.state = .miracast ∧ d.uxplay.isRunning = false
  | _ => False

/-- No attempt is under way, or the handler neither ends it as failed nor paints over its PIN.

A PIN is good for one attempt, and `_show_idle_screen` is called without one by every handler but
that of the request. `_on_wps_failed` calls it not at all. -/
def Undisturbed (s : Kiosk) (l : KioskLabel) : Prop :=
  s.pending = none ∨ (∀ status, l ≠ .wpsFailed status) ∧ ¬ Repaints s.run.daemon l

end Kiosk

/-! ## What the handlers paint -/

private theorem Daemon.handleEvent_connected_idleScreens (d : Daemon) {event : Event}
    (connects : event = .miracastConnected ∨ event = .airplayConnected) :
    (d.handleEvent event).1.idleScreens = d.idleScreens := by
  by_cases accepts : Accepts d.arbiter.state event
  · rcases connects with rfl | rfl
    · rw [Daemon.handleEvent_miracastConnected (accepts_miracastConnected_iff.mp accepts)]
      rfl
    · rw [Daemon.handleEvent_airplayConnected (accepts_airplayConnected_iff.mp accepts)]
      rfl
  · rw [Daemon.handleEvent_of_not_accepts accepts]
    rfl

private theorem Daemon.onAirplayDisconnected_idleScreens (d : Daemon) :
    d.onAirplayDisconnected.1.idleScreens =
      if d.arbiter.state = .airplay then none :: d.idleScreens else d.idleScreens := by
  unfold Daemon.onAirplayDisconnected
  split
  · rename_i airplay
    rw [Daemon.handleEvent_airplayDisconnected airplay]
    rfl
  · rename_i other
    rw [Daemon.handleEvent_of_not_accepts (accepts_airplayDisconnected_iff.not.mpr other)]
    rfl

private theorem Daemon.handleMiracastDisconnected_idleScreens (d : Daemon) :
    d.handleMiracastDisconnected.1.idleScreens =
      if d.arbiter.state = .miracast ∧ d.uxplay.isRunning = false then none :: d.idleScreens
      else d.idleScreens := by
  unfold Daemon.handleMiracastDisconnected
  by_cases miracast : d.arbiter.state = .miracast
  · cases running : d.uxplay.isRunning with
    | false =>
      obtain ⟨uxplay, started⟩ : ∃ uxplay, d.uxplay.start = some uxplay := by
        rw [← Option.ne_none_iff_exists', Ne, UxPlayProcess.start_eq_none_iff, running]
        exact Bool.false_ne_true
      rw [Daemon.handleEvent_miracastDisconnected miracast started, if_pos ⟨miracast, rfl⟩]
      rfl
    | true =>
      have raises : d.uxplay.start = none := UxPlayProcess.start_eq_none_iff.mpr running
      rw [if_neg fun h => Bool.noConfusion h.2]
      simp only [Daemon.handleEvent, CastArbiter.handle, CastArbiter.transition, miracast, table,
        Daemon.applyActions, Daemon.applyAction, raises, Option.map_none]
  · rw [Daemon.handleEvent_of_not_accepts (accepts_miracastDisconnected_iff.not.mpr miracast),
      if_neg fun h => miracast h.1]
    rfl

private theorem Daemon.onUxplayExited_idleScreens (d : Daemon) :
    d.onUxplayExited.1.idleScreens =
      if d.arbiter.state = .airplay then none :: d.idleScreens else d.idleScreens := by
  have ended := d.onAirplayDisconnected_idleScreens
  unfold Daemon.onUxplayExited
  split <;> rename_i h
  · rw [if_pos h] at ended
    exact ended
  · rfl

namespace Kiosk

private theorem shown_of_repaints {s s' : Kiosk} {l : KioskLabel} (hstep : s.step l = some s')
    (repaints : Repaints s.run.daemon l) : s'.shown = none := by
  cases l with
  | displayPinRequest pin => exact absurd repaints id
  | wpsFailed status => exact absurd repaints id
  | groupStarted ifname =>
    obtain ⟨name, rfl⟩ := Option.isSome_iff_exists.mp repaints
    cases hstep
    rfl
  | handler label =>
    obtain ⟨run, moved, rfl⟩ := Option.map_eq_some_iff.mp hstep
    have painted : run.daemon.idleScreens = none :: s.run.daemon.idleScreens := by
      cases label with
      | airplayDisconnected =>
        cases moved
        exact (Daemon.onAirplayDisconnected_idleScreens _).trans (if_pos repaints)
      | miracastDisconnected =>
        cases moved
        exact (Daemon.handleMiracastDisconnected_idleScreens _).trans (if_pos repaints)
      | pumpEnds n =>
        simp only [UxPlayRun.step, repaints.2] at moved
        split at moved <;> cases moved
        exact (Daemon.onUxplayExited_idleScreens _).trans (if_pos repaints.1)
      | miracastConnected | airplayConnected | exits | wakes => exact absurd repaints id
    show (run.daemon.idleScreens.head?).join = none
    rw [painted]
    rfl

private theorem idleScreens_of_not_repaints {s : Kiosk} {label : UxPlayLabel} {run : UxPlayRun}
    (moved : s.run.step label = some run) (keeps : ¬ Repaints s.run.daemon (.handler label)) :
    run.daemon.idleScreens = s.run.daemon.idleScreens := by
  cases label with
  | airplayDisconnected =>
    cases moved
    exact (Daemon.onAirplayDisconnected_idleScreens _).trans (if_neg keeps)
  | miracastDisconnected =>
    cases moved
    exact (Daemon.handleMiracastDisconnected_idleScreens _).trans (if_neg keeps)
  | pumpEnds n =>
    simp only [UxPlayRun.step] at moved
    split at moved
    · split at moved <;> cases moved
      · rfl
      · rename_i unexpected
        refine (Daemon.onUxplayExited_idleScreens _).trans (if_neg fun airplay => keeps ?_)
        exact ⟨airplay, Bool.of_not_eq_true unexpected⟩
    · cases moved
  | miracastConnected =>
    cases moved
    exact Daemon.handleEvent_connected_idleScreens _ (.inl rfl)
  | airplayConnected =>
    cases moved
    exact Daemon.handleEvent_connected_idleScreens _ (.inr rfl)
  | exits =>
    cases moved
    rfl
  | wakes n =>
    simp only [UxPlayRun.step] at moved
    split at moved
    · split at moved <;> cases moved <;> rfl
    · cases moved

private theorem attempt_of_other {s s' : Kiosk} {l : KioskLabel} (hstep : s.step l = some s')
    (noRequest : ∀ pin, l ≠ .displayPinRequest pin) (noFailure : ∀ status, l ≠ .wpsFailed status) :
    (s'.pending = s.pending ∨ s'.pending = none ∧ l = .handler .miracastConnected) ∧
      s'.armed = s.armed ∧ s'.failed = s.failed := by
  cases l with
  | displayPinRequest pin => exact absurd rfl (noRequest pin)
  | wpsFailed status => exact absurd rfl (noFailure status)
  | groupStarted ifname =>
    cases hstep
    cases ifname <;> exact ⟨.inl rfl, rfl, rfl⟩
  | handler label =>
    obtain ⟨run, _, rfl⟩ := Option.map_eq_some_iff.mp hstep
    refine ⟨?_, rfl, rfl⟩
    by_cases connects : label = .miracastConnected
    · exact .inr ⟨if_pos connects, by rw [connects]⟩
    · exact .inl (if_neg connects)

private theorem shown_of_not_repaints {s s' : Kiosk} {l : KioskLabel} (hstep : s.step l = some s')
    (noRequest : ∀ pin, l ≠ .displayPinRequest pin) (keeps : ¬ Repaints s.run.daemon l) :
    s'.shown = s.shown := by
  cases l with
  | displayPinRequest pin => exact absurd rfl (noRequest pin)
  | wpsFailed status =>
    cases hstep
    rfl
  | groupStarted ifname =>
    cases ifname with
    | none =>
      cases hstep
      rfl
    | some name => exact absurd rfl keeps
  | handler label =>
    obtain ⟨run, moved, rfl⟩ := Option.map_eq_some_iff.mp hstep
    show (run.daemon.idleScreens.head?).join = s.shown
    rw [idleScreens_of_not_repaints moved keeps]
    rfl

/-- From a screen that is right, a handler leaves it right exactly when it does not disturb an
attempt. -/
private theorem showsLivePin_step_iff {s s' : Kiosk} {l : KioskLabel} (h : ShowsLivePin s)
    (hstep : s.step l = some s') : ShowsLivePin s' ↔ Undisturbed s l := by
  by_cases request : ∃ pin, l = .displayPinRequest pin
  · obtain ⟨pin, rfl⟩ := request
    cases hstep
    refine iff_of_true ⟨?_, nofun⟩ (.inr ⟨nofun, id⟩)
    intro p hp
    cases hp
    exact ⟨rfl, rfl⟩
  have noRequest : ∀ pin, l ≠ .displayPinRequest pin := fun pin hl => request ⟨pin, hl⟩
  by_cases failure : ∃ status, l = .wpsFailed status
  · obtain ⟨status, rfl⟩ := failure
    cases hstep
    cases hp : s.pending with
    | none =>
      refine iff_of_true ⟨nofun, fun pin hfailed => h.failed pin ?_⟩ (.inl hp)
      simpa [hp] using hfailed
    | some pin =>
      have shown := (h.pending pin hp).1
      refine iff_of_false (fun right => right.failed pin rfl shown) ?_
      rintro (none | undisturbed)
      · rw [hp] at none
        cases none
      · exact undisturbed.1 status rfl
  have noFailure : ∀ status, l ≠ .wpsFailed status := fun status hl => failure ⟨status, hl⟩
  obtain ⟨pending, armed, failed⟩ := attempt_of_other hstep noRequest noFailure
  by_cases repaints : Repaints s.run.daemon l
  · have shown := shown_of_repaints hstep repaints
    cases hp : s.pending with
    | none =>
      have none_pending : s'.pending = none := by
        rcases pending with same | ended
        · rw [same, hp]
        · exact ended.1
      refine iff_of_true ⟨fun pin hpin => ?_, fun pin _ => ?_⟩ (.inl hp)
      · rw [none_pending] at hpin
        cases hpin
      · rw [shown]
        exact nofun
    | some pin =>
      have still : s'.pending = some pin := by
        rcases pending with same | ⟨_, connects⟩
        · rw [same, hp]
        · rw [connects] at repaints
          exact absurd repaints id
      refine iff_of_false (fun right => ?_) ?_
      · rw [(right.pending pin still).1] at shown
        cases shown
      · rintro (none | undisturbed)
        · rw [hp] at none
          cases none
        · exact undisturbed.2 repaints
  · have shown := shown_of_not_repaints hstep noRequest repaints
    refine iff_of_true ⟨fun pin hpin => ?_, fun pin hpin => ?_⟩ (.inr ⟨noFailure, repaints⟩)
    · rcases pending with same | ended
      · rw [same] at hpin
        rw [shown, armed]
        exact h.pending pin hpin
      · rw [ended.1] at hpin
        cases hpin
    · rw [failed] at hpin
      rw [shown]
      exact h.failed pin hpin

/-- In every run of handlers that disturb no attempt the kiosk shows the PIN that works: the one of
the attempt that is under way, and none when there is no attempt. The handlers run one at a
time. -/
theorem shows_live_pin {s : Kiosk} (run : system.Reaches Undisturbed s) : ShowsLivePin s := by
  refine run.invariant (I := ShowsLivePin) ⟨nofun, nofun⟩ ?_
  exact fun t l u _ shows calm hstep => (showsLivePin_step_iff shows hstep).mpr calm

/-! ## Two pairings -/

instance (d : Daemon) : ∀ l, Decidable (Repaints d l)
  | .groupStarted _ => instDecidableEqBool _ _
  | .handler .airplayDisconnected => instDecidableEqState _ _
  | .handler (.pumpEnds _) => inferInstanceAs (Decidable (_ ∧ _))
  | .handler .miracastDisconnected => inferInstanceAs (Decidable (_ ∧ _))
  | .handler .miracastConnected | .handler .airplayConnected | .handler .exits
  | .handler (.wakes _) | .displayPinRequest _ | .wpsFailed _ => instDecidableFalse

instance : ∀ l : KioskLabel, Decidable (∀ status, l ≠ .wpsFailed status)
  | .wpsFailed status => isFalse fun h => h status rfl
  | .displayPinRequest _ | .groupStarted _ | .handler _ => isTrue nofun

instance (s : Kiosk) (l : KioskLabel) : Decidable (Undisturbed s l) :=
  inferInstanceAs (Decidable (_ ∨ _ ∧ _))

/-- A pairing that leads to a session, the end of that session, and the next pairing, in which an
AirPlay client connects. -/
theorem shows_live_pin_of_two_pairings : ∃ s, system.Reaches Undisturbed s ∧
    s.pending = some "70915236" ∧ s.run.daemon.arbiter.state = .airplay ∧ ShowsLivePin s := by
  have run : ∃ s, System.runUnder system Undisturbed system.init
      [.displayPinRequest "12345670", .handler .miracastConnected,
        .handler .miracastDisconnected, .groupStarted (some "p2p-wlan1-1"),
        .displayPinRequest "70915236", .handler .airplayConnected] = some s ∧
      s.pending = some "70915236" ∧ s.run.daemon.arbiter.state = .airplay :=
    System.exists_runUnder (by decide +kernel)
  obtain ⟨s, run, pending, airplay⟩ := run
  have reached := System.runUnder_leads _ run
  exact ⟨s, reached, pending, airplay, shows_live_pin reached⟩

/-- A group that starts during an attempt takes the armed PIN off the screen, and an attempt that
fails leaves its PIN on it. -/
theorem repaint_hides_live_pin :
    (∃ s, system.Reachable s ∧ s.pending = some "12345670" ∧ s.armed = some "12345670" ∧
      s.shown = none ∧ ¬ ShowsLivePin s) ∧
    ∃ s, system.Reachable s ∧ s.failed = some "12345670" ∧ s.shown = some "12345670" ∧
      ¬ ShowsLivePin s := by
  constructor
  · have run : ∃ s, system.run [.displayPinRequest "12345670",
        .groupStarted (some "p2p-wlan1-1")] = some s ∧ s.pending = some "12345670" ∧
        s.armed = some "12345670" ∧ s.shown = none :=
      System.exists_run (by decide +kernel)
    obtain ⟨s, run, pending, armed, shown⟩ := run
    refine ⟨s, System.runFrom_leads _ run, pending, armed, shown, fun right => ?_⟩
    rw [(right.pending _ pending).1] at shown
    cases shown
  · have run : ∃ s, system.run [.displayPinRequest "12345670", .wpsFailed "12"] = some s ∧
        s.failed = some "12345670" ∧ s.shown = some "12345670" :=
      System.exists_run (by decide +kernel)
    obtain ⟨s, run, failed, shown⟩ := run
    exact ⟨s, System.runFrom_leads _ run, failed, shown,
      fun right => right.failed _ failed shown⟩

end Kiosk

end Castd.Main
