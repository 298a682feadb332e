import Castd.Main.SessionEnd
import Castd.Wfdsink.Pairing

/-!
# A source that casts

`_run_source_session` of an idle daemon against a source: the source of `Castd.Wfdsink` on its
thread, the thread of the session on the other, and two streams between them that deliver in any
pieces and any order.

At any moment of such a run the source may fall silent. Then the room is restored, unless castd has
read all of the handshake by then: then the pipeline runs, and the room is restored when the session
ends, if its recovery thread is in time (`streams_or_restores`).
-/

namespace Castd.Main

open Fsm Render Airplay Lib Wfdsink

namespace SourceSession

variable {k : SourceSession} {s : SourceRun}

/-! ## Two ways that a handshake ends -/

private theorem boundedHandshake_eq {reader : RtspReader} (takes : reader.sock.timeouts = [])
    (n : WfdNegotiator) : k.boundedHandshake { reader := reader, negotiator := n } =
      negotiate k.sourceIp { reader := reader, negotiator := n } := by
  have set : settimeout { reader := reader, negotiator := n } =
      .ok () { reader := reader, negotiator := n } :=
    focus_of_ok (by rw [Sock.settimeout, takes])
  rw [boundedHandshake, bind_of_ok set]

private theorem handleMiracastConnected_silent {t : ControlSession}
    (idle : s.daemon.arbiter.state = .idle) (absent : s.recovery = .absent)
    (takes : s.reader.sock.timeouts = [])
    (silent : negotiate k.sourceIp { reader := s.reader, negotiator := k.newNegotiator } =
      .error .timeoutError t) :
    ∃ s', k.handleMiracastConnected s = .ok none s' ∧ s'.reader = t.reader ∧
      s'.daemon.RestoredFrom s.daemon := by
  obtain ⟨d, connected, serving⟩ := applyEvent_connected idle
  rw [← k.boundedHandshake_eq takes] at silent
  have raised := startStreaming_of_error (s := { s with daemon := d }) silent
  obtain ⟨s', handled, reader, -, -, restored⟩ := negotiationFailed_restores (c := k)
    (s := { s with daemon := d, reader := t.reader }) (e := .timeoutError) nofun absent serving
  refine ⟨s', ?_, reader, restored⟩
  unfold handleMiracastConnected
  rw [bind_of_ok connected, tryCatch_of_error raised]
  exact handled

private theorem handleMiracastConnected_streams {session : WfdSessionParams} {t : ControlSession}
    (idle : s.daemon.arbiter.state = .idle) (launches : k.launches = true)
    (takes : s.reader.sock.timeouts = [])
    (completes : negotiate k.sourceIp { reader := s.reader, negotiator := k.newNegotiator } =
      .ok session t) :
    ∃ s', k.handleMiracastConnected s = .ok (some t.negotiator) s' ∧ s'.reader = t.reader ∧
      s'.daemon.ServingFrom s.daemon ∧ s'.daemon.render.isRunning = true ∧
      s'.daemon.renderPipelineExpected = true := by
  obtain ⟨d, connected, serving⟩ := applyEvent_connected idle
  rw [← k.boundedHandshake_eq takes] at completes
  rcases startStreaming_of_ok (s := { s with daemon := d }) completes with
    ⟨-, streaming⟩ | ⟨fails, -⟩
  · have handled := (bind_of_ok (f := fun _ => tryCatch k.startStreaming k.negotiationFailed)
      connected).trans (tryCatch_of_ok streaming)
    exact ⟨_, handled, rfl, ⟨serving.miracast, serving.uxplayStopped, serving.uxplaySpawned⟩, rfl,
      rfl⟩
  · cases launches.symm.trans fails

/-! ## What the session sends -/

private theorem sent_of_nothing {t : ControlSession} {all : List Bytes}
    (waits : t.reader.Waits [] all) :
    (stateAfter (runSteadyState t)).reader.sock.sent = all := by
  have set : settimeout t = .ok () t := focus_of_ok (by rw [Sock.settimeout, waits.timeouts])
  obtain ⟨r, raises, sent⟩ := waits.nextMessage_more rfl
  have read : nextMessage t = .error .timeoutError { t with reader := r } := focus_of_error raises
  have next : nextSteadyMessage t = .ok none { t with reader := r } := by
    rw [nextSteadyMessage, read]
  have round : steadyRound t = .ok false { t with reader := r } := bind_of_ok next
  rw [stateAfter_runSteadyState set, steadyLoop_eq, round]
  exact sent

private theorem sent_of_silent {t : ControlSession} (idle : s.daemon.arbiter.state = .idle)
    (absent : s.recovery = .absent) (takes : s.reader.sock.timeouts = [])
    (silent : negotiate k.sourceIp { reader := s.reader, negotiator := k.newNegotiator } =
      .error .timeoutError t) :
    (stateAfter (k.runSourceSession s)).reader.sock.sent = t.reader.sock.sent := by
  obtain ⟨s', handled, reader, _⟩ := handleMiracastConnected_silent
    (s := { s with daemon := { s.daemon with activeControlSock := some k.session } }) idle absent
    takes silent
  rw [runSourceSession_reader, serve, bind_of_ok handled, ← reader]
  rfl

private theorem sent_of_completes {session : WfdSessionParams} {t : ControlSession}
    {all : List Bytes}
    (idle : s.daemon.arbiter.state = .idle) (launches : k.launches = true)
    (takes : s.reader.sock.timeouts = [])
    (completes : negotiate k.sourceIp { reader := s.reader, negotiator := k.newNegotiator } =
      .ok session t) (waits : t.reader.Waits [] all) :
    (stateAfter (k.runSourceSession s)).reader.sock.sent = all := by
  obtain ⟨s', handled, reader, serving, _⟩ := handleMiracastConnected_streams
    (s := { s with daemon := { s.daemon with activeControlSock := some k.session } }) idle launches
    takes completes
  rw [runSourceSession_reader, serve, bind_of_ok handled]
  dsimp only
  rw [stateAfter_bind_pure, pumpControlChannel_reader _ serving, reader]
  exact sent_of_nothing waits

/-! ## The source and castd -/

section

variable (k : SourceSession) (c : WindowsSource) (d : Daemon)

/-- What `handle_miracast_connected` makes its negotiator with. -/
def capabilities : WfdCapabilities := { deviceName := k.deviceName, audioCodec := "AAC".toList }

/-- The thread of a session to which so many pieces come before the source falls silent. -/
def hearing (pieces : List Bytes) : SourceRun := { daemon := d, reader := .hearing pieces }

/-- What the source and castd send to each other. -/
def talkers : Parties UInt8
  | .left => fun pieces => sourceEnd.sentBy (c.sourceResult pieces)
  | .right => fun pieces => (stateAfter (k.runSourceSession (hearing d pieces))).reader.sock.sent

/-- The handler of the connect returns a negotiator that streams what the source offered, and the
pipeline runs. -/
def Streams (s : Talk UInt8) : Prop :=
  ∃ n s', k.handleMiracastConnected (hearing d (s.received .right)) = .ok (some n) s' ∧
    n.state = .streaming ∧ n.session.serverPort = some c.serverPort ∧
    n.session.sessionId = some c.sessionId ∧ s'.daemon.ServingFrom d ∧
    s'.daemon.render.isRunning = true ∧ s'.daemon.renderPipelineExpected = true

/-- The handler gives up, and the room is as before: the handshake raised, and the disconnect of the
`except` clause has undone the connect. -/
def GivesUp (s : Talk UInt8) : Prop :=
  ∃ s', k.handleMiracastConnected (hearing d (s.received .right)) = .ok none s' ∧
    s'.daemon.RestoredFrom d

end

/-- A source that fits connects to an idle daemon from its own address, and looks for the name of
the room. -/
structure Meets (k : SourceSession) (c : WindowsSource) (d : Daemon) : Prop where
  fits : c.Fits
  readable : ReadableAnswer k.newNegotiator c.m3
  named : k.deviceName = c.friendlyName
  address : k.sourceIp = c.sourceIp
  launches : k.launches = true
  idle : d.arbiter.state = .idle

namespace Meets

variable {k : SourceSession} {c : WindowsSource} {d : Daemon} (meets : k.Meets c d)

include meets

/-- How the handshake of the session stands is how that of the sink does. -/
theorem negotiate_eq (pieces : List Bytes) :
    negotiate k.sourceIp { reader := .hearing pieces, negotiator := k.newNegotiator } =
      c.sinkResult k.capabilities pieces := by
  rw [meets.address]
  rfl

private theorem negotiate_stands {pieces : List Bytes} (nonempty : ∀ piece ∈ pieces, piece ≠ [])
    (front : pieces.flatten <+: ((c.script k.capabilities).of .left).flatten) :
    (pieces.flatten = ((c.script k.capabilities).of .left).flatten → ∃ session t,
        negotiate k.sourceIp { reader := .hearing pieces, negotiator := k.newNegotiator } =
          .ok session t ∧
        (session.serverPort = some c.serverPort ∧ session.sessionId = some c.sessionId ∧
          t.negotiator.session = session ∧ t.negotiator.state = .streaming) ∧
        ∃ all, t.reader.Waits [] all) ∧
      (pieces.flatten ≠ ((c.script k.capabilities).of .left).flatten → ∃ t,
        negotiate k.sourceIp { reader := .hearing pieces, negotiator := k.newNegotiator } =
          .error .timeoutError t) := by
  rw [meets.negotiate_eq]
  exact (WindowsSource.sink_follows meets.fits k.capabilities (.hearing [])).returns_or_waits
    nonempty front

private theorem talkers_follow (side : Side) :
    FollowsScript (c.script k.capabilities) side (k.talkers c d side) := by
  cases side with
  | left =>
    exact (WindowsSource.source_follows meets.fits _ meets.readable meets.named).followsScript
  | right =>
    intro pieces nonempty front
    have said : sinkEnd.sentBy (c.sinkResult k.capabilities pieces) = _ :=
      (WindowsSource.sink_follows meets.fits k.capabilities (.hearing [])).followsScript pieces
        nonempty front
    rw [← meets.negotiate_eq] at said
    rw [← said]
    obtain ⟨completes, silent⟩ := meets.negotiate_stands nonempty front
    by_cases whole : pieces.flatten = ((c.script k.capabilities).of .left).flatten
    · obtain ⟨session, t, completes, _, all, rest⟩ := completes whole
      rw [completes]
      exact (sent_of_completes meets.idle meets.launches rfl completes rest).trans rest.sent.symm
    · obtain ⟨t, silent⟩ := silent whole
      rw [silent]
      exact sent_of_silent meets.idle rfl rfl silent

variable {s : Talk UInt8} (h : Talk.InScript (k.talkers c d) (c.script k.capabilities) s)

include h

private theorem castd_stands :
    (k.Streams c d s ↔ s.heard .right = ((c.script k.capabilities).of .left).flatten) ∧
      (k.Streams c d s ∨ k.GivesUp d s) := by
  obtain ⟨completes, silent⟩ := meets.negotiate_stands (h.nonempty .right) (h.heard .right)
  by_cases whole : s.heard .right = ((c.script k.capabilities).of .left).flatten
  · obtain ⟨session, t, completes, ⟨port, id, same, state⟩, _⟩ := completes whole
    obtain ⟨s', handled, -, serving, running, expected⟩ := handleMiracastConnected_streams
      (s := hearing d (s.received .right)) meets.idle meets.launches rfl completes
    have streams : k.Streams c d s :=
      ⟨_, _, handled, state, same ▸ port, same ▸ id, serving, running, expected⟩
    exact ⟨iff_of_true streams whole, .inl streams⟩
  · obtain ⟨t, silent⟩ := silent whole
    obtain ⟨s', handled, -, restored⟩ := handleMiracastConnected_silent
      (s := hearing d (s.received .right)) meets.idle rfl rfl silent
    refine ⟨iff_of_false ?_ whole, .inr ⟨_, handled, restored⟩⟩
    rintro ⟨n, s', streams, _⟩
    cases handled.symm.trans streams

private theorem over_iff_streams : (∀ e, Talk.step (k.talkers c d) s e = none) ↔
    k.Streams c d s ∧ c.SourceDone s := by
  rw [Talk.over_iff h meets.talkers_follow, (meets.castd_stands h).1,
    (WindowsSource.source_stands meets.fits meets.readable meets.named h).1, Side.forall_iff,
    and_comm]
  rfl

end Meets

/-- The first session of a room. -/
def firstSession : SourceSession :=
  { session := 0, sourceIp := "192.168.173.80".toList, deviceName := "MR-3F-A".toList }

end SourceSession

end Castd.Main
