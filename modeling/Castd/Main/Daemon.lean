import Castd.Fsm.StateMachine
import Castd.StreamWatchdog
import Castd.Health
import Castd.Render.Process
import Castd.Airplay.UxPlay

/-!
# The daemon's shared fields

The fields of `CastDaemon` (`castd/main.py`) that more than one thread reads or writes, and the
methods that touch them in one piece. Threads, and the points where they can be interleaved, are
in `Castd.Main.Threads`; the models of handlers that run one at a time use the methods here
directly.

What the daemon does to the outside is recorded where a statement needs it: the value last given
to `set_session_available`, the idle screens painted, the control sockets closed. A control
socket is named by the number of its source session.
-/

namespace Castd.Main

open Fsm Render Airplay

/-- `CastDaemon`, as far as its threads share it. -/
structure Daemon where
  arbiter : CastArbiter := {}
  render : RenderProcess := {}
  uxplay : UxPlayProcess := {}
  health : HealthState := {}
  /-- The value last given to `P2PGroupOwner.set_session_available`. -/
  sessionAvailable : Bool := true
  /-- The PIN on each idle screen painted, newest first. -/
  idleScreens : List (Option String) := []
  activeControlSock : Option Nat := none
  renderPipelineExpected : Bool := false
  /-- The control sockets closed so far. -/
  closedSocks : List Nat := []
  /-- What `time.monotonic()` reads. Readings are taken to subtract exactly here. -/
  now : ℚ := 0
  deriving DecidableEq

/-- The daemon `start()` leaves running: idle, uxplay up, one idle screen painted. -/
def Daemon.started : Daemon :=
  { uxplay := { proc := some { number := 0 }, spawned := 1 }, idleScreens := [none] }

namespace Daemon

/-- `_show_idle_screen`. -/
def showIdleScreen (d : Daemon) (pin : Option String := none) : Daemon :=
  { d with idleScreens := pin :: d.idleScreens }

/-- `P2PGroupOwner.set_session_available`. -/
def setSessionAvailable (d : Daemon) (available : Bool) : Daemon :=
  { d with sessionAvailable := available }

/-- One round of the loop of `_apply_actions`; `none` where the action raises. -/
def applyAction (d : Daemon) : Action → Option Daemon
  | .stopRenderPipeline => some { d with render := d.render.stop }
  | .showIdleScreen => some d.showIdleScreen
  | .pauseAirplayAdvertising => some { d with uxplay := d.uxplay.stop }
  | .resumeAirplayAdvertising => d.uxplay.start.map fun uxplay => { d with uxplay := uxplay }
  | .pauseMiracastDiscovery => some (d.setSessionAvailable false)
  | .resumeMiracastDiscovery => some (d.setSessionAvailable true)
  | .forceTeardownMiracast => some d
  | .forceTeardownAirplay => some d
  | .logRejectedConnection => some d

/-- The two calls on `self.health` that end `_apply_actions`. -/
def reportHealth (d : Daemon) : Daemon :=
  { d with health := (d.health.setState d.arbiter.state).heartbeat d.now }

/-- `_apply_actions`: the daemon after it, and whether it raised. An action that raises skips
the rest and the health report. -/
def applyActions (d : Daemon) : List Action → Daemon × Bool
  | [] => (d.reportHealth, false)
  | action :: actions =>
    match d.applyAction action with
    | some d' => d'.applyActions actions
    | none => (d, true)

/-- A handler that feeds one event to the arbiter under the lock and applies the transition's
actions: `_on_airplay_connected`, `_on_airplay_disconnected`, `handle_miracast_disconnected` and
the first two statements of `handle_miracast_connected`. -/
def handleEvent (d : Daemon) (event : Event) : Daemon × Bool :=
  { d with arbiter := (d.arbiter.handle event).2 }.applyActions (d.arbiter.handle event).1.actions

/-- `_on_airplay_connected`. -/
def onAirplayConnected (d : Daemon) : Daemon × Bool := d.handleEvent .airplayConnected

/-- `_on_airplay_disconnected`. -/
def onAirplayDisconnected (d : Daemon) : Daemon × Bool := d.handleEvent .airplayDisconnected

/-- `handle_miracast_disconnected`. -/
def handleMiracastDisconnected (d : Daemon) : Daemon × Bool :=
  d.handleEvent .miracastDisconnected

/-- `sock.close()` on the control socket of a session. -/
def closeSock (d : Daemon) (sock : Nat) : Daemon := { d with closedSocks := sock :: d.closedSocks }

/-- `_trip_stream_watchdog`. -/
def tripStreamWatchdog (d : Daemon) : Daemon :=
  match d.activeControlSock with
  | some sock => d.closeSock sock
  | none => d

/-- `_stream_watch_tick` in one piece. `rxBytes` is what `read_interface_rx_bytes` answers,
`none` when there is no group interface or the read raises.

The clock's readings are subtracted exactly. Floats, which round the difference, trip on no sample
that the exact difference does not trip on. -/
def streamWatchTick (d : Daemon) (watchdog : StreamWatchdog) (rxBytes : Option Int) :
    Daemon × StreamWatchdog :=
  if d.arbiter.state ≠ .miracast then
    ({ d with renderPipelineExpected := false }, watchdog.reset)
  else if d.renderPipelineExpected = false then (d, watchdog)
  else if d.render.isRunning = false then
    ({ d.tripStreamWatchdog with renderPipelineExpected := false }, watchdog.reset)
  else
    match rxBytes with
    | none => (d, watchdog)
    | some rx =>
      if (watchdog.observe (· - ·) rx d.now).1 then (d.tripStreamWatchdog, watchdog.reset)
      else (d, (watchdog.observe (· - ·) rx d.now).2)

/-! ## What one action leaves alone -/

/-- The actions of a transition touch the display, uxplay, the availability flag and the idle
screen. They leave the arbiter, the control socket slot and the watchdog's gate alone. -/
theorem applyAction_frame {d d' : Daemon} {action : Action} (h : d.applyAction action = some d') :
    d'.arbiter = d.arbiter ∧ d'.activeControlSock = d.activeControlSock ∧
      d'.renderPipelineExpected = d.renderPipelineExpected ∧ d'.health = d.health ∧
      d'.closedSocks = d.closedSocks ∧ d'.now = d.now := by
  cases action with
  | resumeAirplayAdvertising =>
    obtain ⟨u, _, rfl⟩ := Option.map_eq_some_iff.mp h
    exact ⟨rfl, rfl, rfl, rfl, rfl, rfl⟩
  | _ =>
    cases h
    exact ⟨rfl, rfl, rfl, rfl, rfl, rfl⟩

/-- An action stops the running pipeline or leaves it: none starts one. -/
theorem applyAction_render {d d' : Daemon} {action : Action}
    (h : d.applyAction action = some d') :
    d'.render = d.render ∨ (action = .stopRenderPipeline ∧ d'.render = d.render.stop) := by
  cases action with
  | resumeAirplayAdvertising =>
    obtain ⟨u, _, rfl⟩ := Option.map_eq_some_iff.mp h
    exact .inl rfl
  | stopRenderPipeline =>
    cases h
    exact .inr ⟨rfl, rfl⟩
  | _ =>
    cases h
    exact .inl rfl

/-- A trip closes the socket in the slot and does nothing else. -/
theorem tripStreamWatchdog_frame (d : Daemon) :
    ∃ closed, d.tripStreamWatchdog = { d with closedSocks := closed } := by
  unfold tripStreamWatchdog
  split
  · exact ⟨_, rfl⟩
  · exact ⟨_, rfl⟩

/-- A tick can close a socket and drop the gate. It touches no other field. -/
theorem streamWatchTick_frame (d : Daemon) (w : StreamWatchdog) (rx : Option Int) :
    ∃ closed expected, (d.streamWatchTick w rx).1 =
      { d with closedSocks := closed, renderPipelineExpected := expected } := by
  obtain ⟨closed, trip⟩ := d.tripStreamWatchdog_frame
  unfold streamWatchTick
  split
  · exact ⟨_, _, rfl⟩
  split
  · exact ⟨_, _, rfl⟩
  split
  · exact ⟨closed, false, by rw [trip]⟩
  split
  · exact ⟨_, _, rfl⟩
  split
  · exact ⟨closed, _, trip⟩
  · exact ⟨_, _, rfl⟩

/-! ## What a handler does in one piece -/

/-- The handler of a rejected event only reports. -/
theorem handleEvent_of_not_accepts {d : Daemon} {event : Event}
    (h : ¬ Accepts d.arbiter.state event) : d.handleEvent event = (d.reportHealth, false) := by
  simp only [handleEvent, CastArbiter.handle_of_not_accepts h, applyActions, applyAction]

/-- A Miracast connect from idle stops uxplay and marks the sink busy. -/
theorem handleEvent_miracastConnected {d : Daemon} (h : d.arbiter.state = .idle) :
    d.handleEvent .miracastConnected =
      ({ d with
          arbiter := { state := .miracast }
          uxplay := d.uxplay.stop
          sessionAvailable := false : Daemon }.reportHealth, false) := by
  simp only [handleEvent, CastArbiter.handle, CastArbiter.transition, h, table, applyActions,
    applyAction, setSessionAvailable]

/-- A Miracast disconnect stops the pipeline, restarts uxplay, marks the sink available and paints
the idle screen. -/
theorem handleEvent_miracastDisconnected {d : Daemon} {uxplay : UxPlayProcess}
    (h : d.arbiter.state = .miracast) (started : d.uxplay.start = some uxplay) :
    d.handleEvent .miracastDisconnected =
      ({ d with
          arbiter := { state := .idle }
          render := d.render.stop
          uxplay := uxplay
          sessionAvailable := true
          idleScreens := none :: d.idleScreens : Daemon }.reportHealth, false) := by
  simp only [handleEvent, CastArbiter.handle, CastArbiter.transition, h, table, applyActions,
    applyAction, setSessionAvailable, showIdleScreen, started, Option.map_some]

/-- An AirPlay connect from idle marks the sink busy and releases the display. -/
theorem handleEvent_airplayConnected {d : Daemon} (h : d.arbiter.state = .idle) :
    d.handleEvent .airplayConnected =
      ({ d with
          arbiter := { state := .airplay }
          render := d.render.stop
          sessionAvailable := false : Daemon }.reportHealth, false) := by
  simp only [handleEvent, CastArbiter.handle, CastArbiter.transition, h, table, applyActions,
    applyAction, setSessionAvailable]

/-- An AirPlay disconnect marks the sink available and paints the idle screen. -/
theorem handleEvent_airplayDisconnected {d : Daemon} (h : d.arbiter.state = .airplay) :
    d.handleEvent .airplayDisconnected =
      ({ d with
          arbiter := { state := .idle }
          render := d.render.stop
          sessionAvailable := true
          idleScreens := none :: d.idleScreens : Daemon }.reportHealth, false) := by
  simp only [handleEvent, CastArbiter.handle, CastArbiter.transition, h, table, applyActions,
    applyAction, setSessionAvailable, showIdleScreen]

end Daemon

end Castd.Main
