import Castd.Wfdsink.Reader

/-!
# The control connection

`negotiate` and `run_steady_state` of `castd/wfdsink/session.py`. They are actions on the reader,
which owns the socket, and the negotiator. The timeouts that are set on the socket show in its
script only. `run_steady_state` sets its own before its `try`, so where the socket does not take it
(the stream watchdog closes the sockets of sessions) the negotiator is left as it is.

The loop of `run_steady_state` ends because every message it goes on after is taken out of what
the peer sends (`steadyRound_unread`).
-/

namespace Castd.Wfdsink

open Lib WfdNegotiator

/-! ## Actions -/

/-- What `negotiate` and `run_steady_state` work on. The reader owns the socket. -/
structure ControlSession where
  reader : RtspReader
  negotiator : WfdNegotiator
  deriving DecidableEq

/-- An action of a control session. -/
abbrev Running := EStateM PyError ControlSession

/-- A call of `reader.next_message`. -/
def nextMessage : Running Str :=
  focus (·.reader) (fun s reader => { s with reader := reader }) RtspReader.nextMessage

/-- `sock.sendall(text.encode())`. -/
def sendall (text : Str) : Running Unit :=
  focus (·.reader.sock) (fun s sock => { s with reader := { s.reader with sock := sock } })
    (Sock.sendall (encode text))

/-- `sock.settimeout`. -/
def settimeout : Running Unit :=
  focus (·.reader.sock) (fun s sock => { s with reader := { s.reader with sock := sock } })
    Sock.settimeout

/-- A call of a method of the negotiator. -/
def onNegotiator {α : Type} (method : Negotiating α) : Running α :=
  focus (·.negotiator) (fun s negotiator => { s with negotiator := negotiator }) method

/-- `negotiate`. -/
def negotiate (sourceIp : Str) : Running WfdSessionParams := do
  let request ← nextMessage
  let response ← onNegotiator (handleM1Options request)
  sendall response
  let m2Request ← onNegotiator buildM2OptionsRequest
  sendall m2Request
  let _m2Response ← nextMessage
  let request ← nextMessage
  let response ← onNegotiator (handleM3GetParameter request)
  sendall response
  let request ← nextMessage
  let response ← onNegotiator (handleM4SetParameter request)
  sendall response
  let request ← nextMessage
  let response ← onNegotiator (handleM5Generic request)
  sendall response
  let m6Request ← onNegotiator (buildM6SetupRequest sourceIp)
  sendall m6Request
  let m6Response ← nextMessage
  let session ← onNegotiator (parseM6Response m6Response)
  let m7Request ← onNegotiator (buildM7PlayRequest sourceIp)
  sendall m7Request
  let m7Response ← nextMessage
  onNegotiator (confirmStreaming m7Response)
  return session

/-- The inner `try` of `run_steady_state`: `none` where it returns. -/
def nextSteadyMessage : Running (Option Str) := fun s =>
  match nextMessage s with
  | .ok message s' => .ok (some message) s'
  | .error .timeoutError s' => .ok none s'
  | .error .osError s' => .ok none s'
  | .error e s' => .error e s'

/-- Sends one text after the other. -/
def sendAll : List Str → Running Unit
  | [] => return ()
  | text :: texts => do
    sendall text
    sendAll texts

/-- What `run_steady_state` does with a message before it looks for a teardown. -/
def ackMessage (message : Str) : Running Unit :=
  if message.isEmpty then return ()
  else do
    let acks ← onNegotiator (buildSteadyStateAck message)
    sendAll acks

/-- One round of the loop of `run_steady_state`, and whether another follows. -/
def steadyRound : Running Bool := do
  match ← nextSteadyMessage with
  | none => return false
  | some message => do
    ackMessage message
    return !isTeardown message

/-! ## The loop ends -/

/-- The bytes an answer brings. -/
def Recv.bytes : Recv → Bytes
  | .data bytes => bytes
  | .raises _ => []

/-- The bytes not yet returned: in the buffer or still to come. -/
def RtspReader.unread (r : RtspReader) : Bytes := r.buf ++ r.sock.inbound.flatMap Recv.bytes

private theorem readMessage_unread : ∀ {inbound inbound' : List Recv} {buf buf' m : Bytes},
    readMessage buf inbound = (.ok m, buf', inbound') →
      m ++ (buf' ++ inbound'.flatMap Recv.bytes) = buf ++ inbound.flatMap Recv.bytes := by
  have taken : ∀ {buf m rest : Bytes}, scanMessage buf = .frame m rest → m ++ rest = buf :=
    fun h => (scanMessage_eq_frame_iff.mp h).cut.symm
  intro inbound
  induction inbound with
  | nil =>
    intro inbound' buf buf' m h
    unfold readMessage at h
    split at h
    · rename_i hscan
      cases h
      rw [← List.append_assoc, taken hscan]
    · cases h
    · cases h
      rfl
  | cons recv inbound ih =>
    intro inbound' buf buf' m h
    unfold readMessage at h
    split at h
    · rename_i hscan
      cases h
      rw [← List.append_assoc, taken hscan]
    · cases h
    · split at h
      · -- the peer's close brings nothing
        cases h
        rfl
      · rw [ih h, List.flatMap_cons, List.append_assoc]
        rfl
      · cases h

private theorem nextMessage_unread {s s' : ControlSession} {m : Str} (h : nextMessage s = .ok m s')
    (nonempty : m ≠ []) : s'.reader.unread.length < s.reader.unread.length := by
  obtain ⟨r, hr, rfl⟩ := focus_eq_ok_iff.mp h
  unfold RtspReader.nextMessage at hr
  split at hr
  · rename_i raw buf inbound hread
    cases hr
    have taken : raw ++ (s.reader.leaving buf inbound).unread = s.reader.unread :=
      readMessage_unread hread
    have some_bytes : 0 < raw.length := by
      rw [List.length_pos_iff]
      rintro rfl
      exact nonempty rfl
    rw [← taken, List.length_append]
    exact Nat.lt_add_of_pos_left some_bytes
  · cases hr

private theorem sendall_reader {s s' : ControlSession} {text : Str}
    (h : sendall text s = .ok () s') :
    s'.reader.unread = s.reader.unread := by
  obtain ⟨sock, hsock, rfl⟩ := focus_eq_ok_iff.mp h
  unfold Sock.sendall at hsock
  split at hsock <;> cases hsock <;> rfl

private theorem sendAll_reader {texts : List Str} : ∀ {s s' : ControlSession},
    sendAll texts s = .ok () s' → s'.reader.unread = s.reader.unread := by
  induction texts with
  | nil =>
    intro s s' h
    cases h
    rfl
  | cons text texts ih =>
    intro s s' h
    obtain ⟨_, s₁, first, others⟩ := bind_eq_ok_iff.mp h
    rw [ih others, sendall_reader first]

private theorem ackMessage_reader {message : Str} {s s' : ControlSession}
    (h : ackMessage message s = .ok () s') : s'.reader.unread = s.reader.unread := by
  unfold ackMessage at h
  split at h
  · cases h
    rfl
  · obtain ⟨acks, s₁, built, sent⟩ := bind_eq_ok_iff.mp h
    obtain ⟨n, _, rfl⟩ := focus_eq_ok_iff.mp built
    exact (sendAll_reader sent).trans rfl

/-- A round that another follows leaves fewer bytes. -/
theorem steadyRound_unread {s s' : ControlSession} (h : steadyRound s = .ok true s') :
    s'.reader.unread.length < s.reader.unread.length := by
  obtain ⟨next, s₁, hnext, rest⟩ := bind_eq_ok_iff.mp h
  cases next with
  | none => cases rest
  | some message =>
    obtain ⟨_, s₂, acked, last⟩ := bind_eq_ok_iff.mp rest
    have goes_on : isTeardown message = false ∧ s₂ = s' := by
      cases hteardown : isTeardown message <;> rw [hteardown] at last <;> cases last
      exact ⟨rfl, rfl⟩
    obtain ⟨noTeardown, rfl⟩ := goes_on
    rw [ackMessage_reader acked]
    refine nextMessage_unread (m := message) ?_ ?_
    · unfold nextSteadyMessage at hnext
      split at hnext <;> cases hnext
      assumption
    · rintro rfl
      cases noTeardown

/-- The loop of `run_steady_state`. -/
def steadyLoop (s : ControlSession) : EStateM.Result PyError ControlSession Unit :=
  match _h : steadyRound s with
  | .ok true s' => steadyLoop s'
  | .ok false s' => .ok () s'
  | .error e s' => .error e s'
termination_by s.reader.unread.length
decreasing_by exact steadyRound_unread _h

/-- One round, and what the loop does after it. -/
theorem steadyLoop_eq (s : ControlSession) : steadyLoop s =
    match steadyRound s with
    | .ok true s' => steadyLoop s'
    | .ok false s' => .ok () s'
    | .error e s' => .error e s' := by
  conv =>
    lhs
    unfold steadyLoop
  split <;> rename_i h <;> rw [h]

/-- `run_steady_state`. -/
def runSteadyState : Running Unit := do
  settimeout
  tryFinally steadyLoop (onNegotiator markTornDown)

/-- The session after a `settimeout`. -/
def ControlSession.timeoutSet (s : ControlSession) (timeouts : List (Option SockFault)) :
    ControlSession :=
  { s with reader := { s.reader with sock := { s.reader.sock with timeouts := timeouts } } }

/-- `settimeout` returns, or raises what the socket does. -/
theorem settimeout_cases (s : ControlSession) :
    (s.reader.sock.SetsTimeout ∧ ∃ timeouts, settimeout s = .ok () (s.timeoutSet timeouts)) ∨
      ¬ s.reader.sock.SetsTimeout ∧ ∃ fault timeouts,
        settimeout s = .error (SockFault.error fault) (s.timeoutSet timeouts) := by
  rcases s.reader.sock.settimeout_cases with
    ⟨sets, timeouts, returned⟩ | ⟨not, fault, timeouts, raised⟩
  · exact .inl ⟨sets, timeouts, focus_of_ok returned⟩
  · exact .inr ⟨not, fault, timeouts, focus_of_error raised⟩

/-- What `run_steady_state` leaves is what its loop leaves, torn down, once the timeout is set. -/
theorem stateAfter_runSteadyState {s s' : ControlSession} (set : settimeout s = .ok () s') :
    stateAfter (runSteadyState s) =
      { stateAfter (steadyLoop s') with
        negotiator := { (stateAfter (steadyLoop s')).negotiator with state := .tornDown } } := by
  rw [runSteadyState, bind_of_ok set]
  exact stateAfter_finally (focus_of_ok rfl)

end Castd.Wfdsink
