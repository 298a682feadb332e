import Castd.Main.Arbitration
import Castd.Wfdsink.Handshake

/-!
# One source session from its socket to its end

`_run_source_session` of `castd/main.py` with everything it calls, for one session from an idle
daemon: the handshake and the steady state read the bytes of the peer, and what they raise decides
which handlers run.

The thread that recovers a cold start runs beside the thread of the session once that has spawned
it, and so does the stream watchdog. Before each statement of the session's thread from there on
they take as many turns as a schedule gives them (`SourceSession.turns`); what the recovery thread
does in a turn is what it does in `Castd.Main.Threads`.

What the session leaves of the room is in `Castd.Main.SessionEnd`.
-/

namespace Castd.Main

open Fsm Render Airplay Lib Wfdsink

/-- What goes past a method of the daemon: an exception of the control session, or the
`RuntimeError` of a start of a running child. -/
inductive Raised
  | session (error : PyError)
  | runtimeError
  deriving DecidableEq

/-- What the thread of a session works on, and what the other threads of the session do. -/
structure SourceRun where
  daemon : Daemon
  reader : RtspReader
  /-- The thread of `_recover_render_cold_start`. -/
  recovery : RecoveryPc := .absent
  /-- The local object of `_stream_watch_loop`. -/
  watchdog : StreamWatchdog := {}
  /-- Whether the recovery thread was about to call `render.start` at the last transition of
  `handle_miracast_disconnected`. No thread reads it. -/
  restartPending : Bool := false
  deriving DecidableEq

/-- A method of the daemon on the thread of a session. -/
abbrev Sourcing := EStateM Raised SourceRun

/-- An assignment to fields of the daemon, or a call that does not raise. -/
def onDaemon (f : Daemon → Daemon) : Sourcing Unit :=
  modify fun s => { s with daemon := f s.daemon }

theorem onDaemon_ok {f : Daemon → Daemon} {s : SourceRun} :
    onDaemon f s = .ok () { s with daemon := f s.daemon } := rfl

theorem onDaemon_bind {α : Type} {f : Daemon → Daemon} {k : Unit → Sourcing α} {s : SourceRun} :
    (onDaemon f >>= k) s = k () { s with daemon := f s.daemon } := rfl

/-- A handler that feeds an event to the arbiter, in one piece. -/
def applyEvent (event : Event) : Sourcing Unit := fun s =>
  match s.daemon.handleEvent event with
  | (d, false) => .ok () { s with daemon := d }
  | (d, true) => .error .runtimeError { s with daemon := d }

/-- A part of a control session, with the negotiator that goes in and the one that comes out. -/
def onSession {α : Type} (x : Running α) (negotiator : WfdNegotiator) :
    Sourcing (α × WfdNegotiator) := fun s =>
  match x { reader := s.reader, negotiator := negotiator } with
  | .ok a c => .ok (a, c.negotiator) { s with reader := c.reader }
  | .error e c => .error (.session e) { s with reader := c.reader }

/-- `self.render.start(pipeline)`. `launches` tells whether `Popen` returns. -/
def startRender (session : Nat) (launches : Bool) : Sourcing Unit := fun s =>
  match s.daemon.render.start session with
  | none => .error .runtimeError s
  | some render =>
    if launches then .ok () { s with daemon := { s.daemon with render := render } }
    else .error (.session .osError) s

/-- What happens beside the thread of a session. -/
inductive Turn
  /-- The next statement of the recovery thread, if it has one that can end so. -/
  | recovery (outcome : Outcome)
  /-- A tick of the stream watchdog. -/
  | tick (rxBytes : Option Int)
  | childExits
  | frameSeen
  deriving DecidableEq

/-- What a run of `_run_source_session` is given. -/
structure SourceSession where
  /-- The number of the session, which names its control socket. -/
  session : Nat
  sourceIp : Str
  /-- `self.config.device_name`. -/
  deviceName : Str
  launches : Bool := true
  /-- The turns that are taken right before a statement of the thread. -/
  turns : SessionPc → List Turn := fun _ => []

namespace SourceSession

variable (c : SourceSession)

/-- A turn. -/
def turn (s : SourceRun) : Turn → SourceRun
  | .recovery outcome =>
    match recoveryNext c.session s.daemon s.recovery outcome with
    | some (pc, d) => { s with daemon := d, recovery := pc }
    | none => s
  | .tick rxBytes =>
    { s with
      daemon := (s.daemon.streamWatchTick s.watchdog rxBytes).1
      watchdog := (s.daemon.streamWatchTick s.watchdog rxBytes).2 }
  | .childExits => { s with daemon := { s.daemon with render := s.daemon.render.childExits } }
  | .frameSeen => { s with daemon := { s.daemon with render := s.daemon.render.frameSeen } }

/-- The run after the turns before a statement. -/
def afterTurns (pc : SessionPc) (s : SourceRun) : SourceRun := (c.turns pc).foldl c.turn s

/-- The other threads take their turns before a statement. -/
def takeTurns (pc : SessionPc) : Sourcing Unit := modify (c.afterTurns pc)

/-- One round of the loop of `_apply_actions`. -/
def applyAction (action : Action) : Sourcing Unit := fun s =>
  match s.daemon.applyAction action with
  | some d => .ok () { s with daemon := d }
  | none => .error .runtimeError s

/-- `_apply_actions` for a disconnect. -/
def applyActions : List Action → Sourcing Unit
  | [] => do
    c.takeTurns (.disconnectActions [])
    onDaemon Daemon.reportHealth
  | action :: actions => do
    c.takeTurns (.disconnectActions (action :: actions))
    applyAction action
    applyActions actions

/-- The locked `arbiter.handle(Event.MIRACAST_DISCONNECTED)`. -/
def disconnect : Sourcing (List Action) := fun s =>
  .ok (s.daemon.arbiter.handle .miracastDisconnected).1.actions
    { s with
      daemon := { s.daemon with arbiter := (s.daemon.arbiter.handle .miracastDisconnected).2 }
      restartPending := s.recovery.starting }

/-- `handle_miracast_disconnected`. -/
def handleMiracastDisconnected : Sourcing Unit := do
  c.takeTurns .disconnect
  c.applyActions (← disconnect)

/-- The negotiator that `handle_miracast_connected` makes. -/
def newNegotiator : WfdNegotiator :=
  WfdNegotiator.new { deviceName := c.deviceName, audioCodec := "AAC".toList }

/-- `sock.settimeout(15.0)` and the handshake. -/
def boundedHandshake : Running WfdSessionParams := do
  settimeout
  negotiate c.sourceIp

/-- The `try` block of `handle_miracast_connected`. -/
def startStreaming : Sourcing (Option WfdNegotiator) := do
  let (_, negotiator) ← onSession c.boundedHandshake c.newNegotiator
  onDaemon fun d => { d with render := d.render.stop }
  startRender c.session c.launches
  onDaemon fun d => { d with renderPipelineExpected := true }
  modify fun s => { s with recovery := .waitFrame 1 }
  return some negotiator

/-- The `except` clause of `handle_miracast_connected`. -/
def negotiationFailed : Raised → Sourcing (Option WfdNegotiator)
  | .session (.negotiation _) | .session .timeoutError | .session .osError => do
    c.handleMiracastDisconnected
    return none
  | e => throw e

/-- `handle_miracast_connected`. -/
def handleMiracastConnected : Sourcing (Option WfdNegotiator) := do
  applyEvent .miracastConnected
  tryCatch c.startStreaming c.negotiationFailed

/-- The `finally` of `_pump_control_channel`. -/
def endSession : Sourcing Unit := do
  c.takeTurns .closeSock
  onDaemon (·.closeSock c.session)
  c.handleMiracastDisconnected

/-- `_pump_control_channel`. -/
def pumpControlChannel (negotiator : WfdNegotiator) : Sourcing (Unit × WfdNegotiator) := do
  c.takeTurns .pump
  tryFinally (onSession runSteadyState negotiator) c.endSession

/-- The `try` block of `_run_source_session`. -/
def serve : Sourcing Unit := do
  match ← c.handleMiracastConnected with
  | some negotiator => do
    let _ ← c.pumpControlChannel negotiator
    return ()
  | none => return ()

/-- The `finally` of `_run_source_session`. -/
def clearSock : Sourcing Unit := do
  c.takeTurns .clearSock
  onDaemon fun d => { d with activeControlSock := none }

/-- `_run_source_session`. -/
def runSourceSession : Sourcing Unit := do
  onDaemon fun d => { d with activeControlSock := some c.session }
  tryFinally c.serve c.clearSock

/-- The thread of a session before its first statement. -/
def threadOf (d : Daemon) (sock : Sock) : SourceRun := { daemon := d, reader := { sock := sock } }

/-- What `_run_source_session` over a socket leaves. -/
def runAfter (d : Daemon) (sock : Sock) : SourceRun :=
  stateAfter (c.runSourceSession (threadOf d sock))

/-- The daemon after it. -/
def daemonAfter (d : Daemon) (sock : Sock) : Daemon := (c.runAfter d sock).daemon

/-- The session is not disconnected while its recovery thread stands between its second look at the
state and `render.start`. -/
def InTime (d : Daemon) (sock : Sock) : Prop := (c.runAfter d sock).restartPending = false

instance (d : Daemon) (sock : Sock) : Decidable (c.InTime d sock) :=
  inferInstanceAs (Decidable (_ = false))

end SourceSession

/-- The room is as before the session: idle, nothing on the display, uxplay restarted, and the
sink advertised as available. -/
structure Daemon.RestoredFrom (d before : Daemon) : Prop where
  idle : d.arbiter.state = .idle
  dark : d.render.isRunning = false
  uxplayRunning : d.uxplay.isRunning = true
  uxplayRestarted : d.uxplay.spawned = before.uxplay.spawned + 1
  available : d.sessionAvailable = true

end Castd.Main
