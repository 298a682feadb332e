import Castd.Wfdsink.ControlSession
import Castd.Wfdsink.Message

/-!
# The order of the handshake

`negotiate` returns when every stage passes, and a stage passes on what a handler looks for in the
message, which is not its kind. The rules follow the text of `negotiate`, as those for what raises
`ValueError` do.

What the handlers look for is stated on the texts of the messages alone (`Acceptable`). The second
message plays no part in it, and nothing in it tells a request from a response.
-/

namespace Castd.Wfdsink

open Lib WfdNegotiator

/-! ## What passes -/

/-- The texts of the first reads, up to one that raises. -/
def heard : Nat → Bytes → List Recv → List Str
  | 0, _, _ => []
  | k + 1, buf, inbound =>
    match readMessage buf inbound with
    | (.ok message, buf', inbound') => decode message :: heard k buf' inbound'
    | (.error _, _, _) => []

/-- So many reads hear no more messages. -/
theorem heard_length_le (k : Nat) : ∀ (buf : Bytes) (inbound : List Recv),
    (heard k buf inbound).length ≤ k := by
  induction k with
  | zero => exact fun _ _ => Nat.le_refl 0
  | succ k ih =>
    intro buf inbound
    unfold heard
    split
    · exact Nat.succ_le_succ (ih _ _)
    · exact Nat.zero_le _

/-- The stages that read. -/
def readsOf : List Stage → Nat
  | [] => 0
  | .send :: stages => readsOf stages
  | .read _ :: stages => readsOf stages + 1

/-- The stages that send. -/
def sendsOf : List Stage → Nat
  | [] => 0
  | .send :: stages => sendsOf stages + 1
  | .read _ :: stages => sendsOf stages

/-- There is a message for every stage that reads, and it passes. -/
def Judged : List Stage → List Str → Prop
  | [], _ => True
  | .send :: stages, messages => Judged stages messages
  | .read _ :: _, [] => False
  | .read verdict :: stages, message :: messages =>
    verdict message = .passes ∧ Judged stages messages

/-- So many calls of `sendall` return. -/
def SendsReturn (k : Nat) (sends : List (Option SockFault)) : Prop :=
  ∀ outcome ∈ sends.take k, outcome = none

/-- The stages pass over a socket. -/
def Passes (stages : List Stage) (r : RtspReader) : Prop :=
  Judged stages (heard (readsOf stages) r.buf r.sock.inbound) ∧
    SendsReturn (sendsOf stages) r.sock.sends

/-- From a negotiator with `I`, the action returns when its stages pass, and otherwise raises short
of STREAMING. -/
def Decides {α : Type} (I : WfdNegotiator → Prop) (x : Running α) (stages : List Stage) : Prop :=
  ∀ s : ControlSession, I s.negotiator →
    (∃ a s', x s = .ok a s') ∧ Passes stages s.reader ∨
      (∃ e s', x s = .error e s' ∧ s'.negotiator.state ≠ .streaming) ∧ ¬ Passes stages s.reader

section

variable {α β : Type} {I J : WfdNegotiator → Prop} {stages : List Stage}

theorem decides_return {a : α} : Decides I (pure a) [] :=
  fun s _ => .inl ⟨⟨a, s, rfl⟩, trivial, nofun⟩

/-- A send that raises ends the handshake. -/
theorem decides_send {text : Str} {k : Unit → Running α} (short : ∀ n, I n → n.state ≠ .streaming)
    (rest : Decides I (k ()) stages) : Decides I (sendall text >>= k) (.send :: stages) := by
  have onward : ∀ (s : ControlSession) (sock : Sock), I s.negotiator →
      sendall text s = .ok () { s with reader := { s.reader with sock := sock } } →
      (Passes (.send :: stages) s.reader ↔ Passes stages { s.reader with sock := sock }) →
      (∃ a s', (sendall text >>= k) s = .ok a s') ∧ Passes (.send :: stages) s.reader ∨
        (∃ e s', (sendall text >>= k) s = .error e s' ∧ s'.negotiator.state ≠ .streaming) ∧
          ¬ Passes (.send :: stages) s.reader := by
    intro s sock holds sent same
    rw [bind_of_ok sent, same]
    exact rest { s with reader := { s.reader with sock := sock } } holds
  intro s holds
  cases hsends : s.reader.sock.sends with
  | nil =>
    refine onward s _ holds (focus_of_ok (by rw [Sock.sendall, hsends])) ?_
    simp [Passes, SendsReturn, readsOf, Judged, hsends]
  | cons outcome sends =>
    cases outcome with
    | none =>
      refine onward s _ holds (focus_of_ok (by rw [Sock.sendall, hsends])) ?_
      simp [Passes, SendsReturn, sendsOf, readsOf, Judged, hsends]
    | some fault =>
      have raised : sendall text s = .error fault.error _ :=
        focus_of_error (by rw [Sock.sendall, hsends])
      refine .inr ⟨⟨_, _, bind_of_error raised, short _ holds⟩, ?_⟩
      rintro ⟨_, sends⟩
      rw [hsends] at sends
      cases sends (some fault) List.mem_cons_self

/-- A request that is built raises nothing. -/
theorem decides_build {build : Negotiating β} {k : β → Running α}
    (builds : ∀ n, I n → ∃ b n', build n = .ok b n' ∧ J n')
    (rest : ∀ b, Decides J (k b) stages) : Decides I (onNegotiator build >>= k) stages := by
  intro s holds
  obtain ⟨b, n', hbuild, holds'⟩ := builds _ holds
  have built : onNegotiator build s = .ok b { s with negotiator := n' } := focus_of_ok hbuild
  rw [bind_of_ok built]
  exact rest b _ holds'

private theorem decides_read {k : Str → Running α} {verdict : Str → Verdict}
    (short : ∀ n, I n → n.state ≠ .streaming)
    (rest : ∀ m (s : ControlSession), I s.negotiator →
      (∃ a s', k m s = .ok a s') ∧ verdict m = .passes ∧ Passes stages s.reader ∨
        (∃ e s', k m s = .error e s' ∧ s'.negotiator.state ≠ .streaming) ∧
          ¬ (verdict m = .passes ∧ Passes stages s.reader)) :
    Decides I (nextMessage >>= k) (.read verdict :: stages) := by
  intro s holds
  cases hread : readMessage s.reader.buf s.reader.sock.inbound with
  | mk outcome left =>
    obtain ⟨buf, inbound⟩ := left
    cases outcome with
    | ok message =>
      have read : nextMessage s = .ok (decode message) _ :=
        focus_of_ok (by rw [RtspReader.nextMessage, hread])
      have unfolded : Passes (.read verdict :: stages) s.reader ↔
          verdict (decode message) = .passes ∧ Passes stages (s.reader.leaving buf inbound) := by
        unfold Passes
        rw [readsOf, heard, hread]
        exact and_assoc
      rw [bind_of_ok read, unfolded]
      exact rest (decode message) { s with reader := s.reader.leaving buf inbound } holds
    | error e =>
      have raised : nextMessage s = .error e _ :=
        focus_of_error (by rw [RtspReader.nextMessage, hread])
      refine .inr ⟨⟨_, _, bind_of_error raised, short _ holds⟩, ?_⟩
      rintro ⟨judged, _⟩
      rw [readsOf, heard, hread] at judged
      exact judged

/-- A message that is not looked at. -/
theorem decides_skip {k : Str → Running α} (short : ∀ n, I n → n.state ≠ .streaming)
    (rest : ∀ m, Decides I (k m) stages) :
    Decides I (nextMessage >>= k) (.read (fun _ => .passes) :: stages) := by
  refine decides_read short fun m s holds => ?_
  simpa using rest m s holds

/-- A message that a handler judges. -/
theorem decides_judged {handle : Str → Negotiating β} {k : Str → β → Running α}
    {verdict : Str → Verdict} (short : ∀ n, I n → n.state ≠ .streaming)
    (judges : ∀ m, Judges I (handle m) (verdict m) J)
    (keeps : ∀ m n e n', handle m n = .error e n' → n' = n)
    (rest : ∀ m b, Decides J (k m b) stages) :
    Decides I (nextMessage >>= fun m => onNegotiator (handle m) >>= k m)
      (.read verdict :: stages) := by
  refine decides_read short fun m s holds => ?_
  have fails : verdict m ≠ .passes → ∀ e n', handle m s.negotiator = .error e n' →
      (∃ e s', (onNegotiator (handle m) >>= k m) s = .error e s' ∧
          s'.negotiator.state ≠ .streaming) ∧
        ¬ (verdict m = .passes ∧ Passes stages s.reader) := by
    intro notPassed e n' handled
    have raised : onNegotiator (handle m) s = .error e { s with negotiator := n' } :=
      focus_of_error handled
    refine ⟨⟨_, _, bind_of_error raised, ?_⟩, fun passed => notPassed passed.1⟩
    rw [keeps m _ e n' handled]
    exact short _ holds
  cases hverdict : verdict m with
  | passes =>
    obtain ⟨b, n', handled, holds'⟩ := (judges m).passes hverdict _ holds
    have done : onNegotiator (handle m) s = .ok b { s with negotiator := n' } :=
      focus_of_ok handled
    rw [bind_of_ok done]
    simpa using rest m b _ holds'
  | fails =>
    obtain ⟨e, n', handled⟩ := (judges m).fails hverdict _ holds
    rw [hverdict] at fails
    exact .inr (fails nofun _ n' handled)
  | overlong =>
    obtain ⟨n', handled⟩ := (judges m).overlong hverdict _ holds
    rw [hverdict] at fails
    exact .inr (fails nofun _ n' handled)

end

/-! ## The handshake -/

private theorem decides_rules : StageRules fun _ => Decides where
  done := fun _ => decides_return
  send := decides_send
  build := decides_build
  skip := decides_skip
  judged := decides_judged

/-- `negotiate` returns when the stages of the handshake pass, and otherwise raises short of
STREAMING. -/
private theorem negotiate_decides (sourceIp : Str) :
    Decides (·.state = .waitM1) (negotiate sourceIp) handshake :=
  decides_rules.negotiate sourceIp

/-- The order is checked: `negotiate` returns on messages in their order only, and on others it
raises without reaching STREAMING. -/
def ChecksOrder (sourceIp : Str) (s : ControlSession) : Prop :=
  let messages := heard 7 s.reader.buf s.reader.sock.inbound
  (∀ session s', negotiate sourceIp s = .ok session s' →
    Follow (handshakeKinds s.negotiator.ownCseq) messages) ∧
  (¬ Follow (handshakeKinds s.negotiator.ownCseq) messages →
    ∃ e s', negotiate sourceIp s = .error e s' ∧ s'.negotiator.state ≠ .streaming)

/-! ## What the handlers look for -/

/-- The text of a response to M6 has a port that `int()` converts and a session id. -/
structure HasSession (response : Str) : Prop where
  port : ∃ i digits, First (PortAt response) i digits ∧ digits.length ≤ maxStrDigits
  session : ∃ i token, SessionAt response i token

/-- The texts that the seven handlers take: a `CSeq` number somewhere in the first, the third, the
fourth and the fifth, a port and a session id somewhere in the sixth, and `200 OK` somewhere in the
seventh. -/
def Acceptable : List Str → Prop
  | [m1, _, m3, m4, m5, m6, m7] =>
    (∀ request ∈ [m1, m3, m4, m5], ∃ i digits, CseqAt request i digits) ∧ HasSession m6 ∧
      "200 OK".toList <:+: m7
  | _ => False

private theorem needsCseq_passes_iff {request : Str} :
    needsCseq request = .passes ↔ ∃ i digits, CseqAt request i digits := by
  have nowhere := @cseqRe_search_eq_none_iff request
  unfold needsCseq
  cases found : cseqRe.search request with
  | none => exact iff_of_false nofun fun ⟨i, digits, place⟩ => nowhere.mp found i digits place
  | some digits =>
    refine iff_of_true rfl ?_
    by_contra none
    rw [nowhere.mpr fun i digits place => none ⟨i, digits, place⟩] at found
    cases found

private theorem needsPortAndSession_passes_iff {response : Str} :
    needsPortAndSession response = .passes ↔ HasSession response := by
  unfold needsPortAndSession
  cases hport : serverPortRe.search response with
  | none =>
    refine iff_of_false nofun fun has => ?_
    obtain ⟨⟨i, digits, first, _⟩, _⟩ := has
    exact serverPortRe_search_eq_none_iff.mp hport i digits first.1
  | some digits =>
    cases hid : sessionRe.search response with
    | none =>
      refine iff_of_false nofun fun has => ?_
      obtain ⟨_, i, token, place⟩ := has
      exact sessionRe_search_eq_none_iff.mp hid i token place
    | some token =>
      obtain ⟨i, port⟩ := serverPortRe_search_eq_some_iff.mp hport
      obtain ⟨j, session⟩ := sessionRe_search_eq_some_iff.mp hid
      by_cases fits : digits.length ≤ maxStrDigits
      · exact iff_of_true (if_pos fits) ⟨⟨i, digits, port, fits⟩, j, token, session.1⟩
      · refine iff_of_false (by simp [fits]) fun has => ?_
        obtain ⟨⟨_, _, other, short⟩, _⟩ := has
        cases hport.symm.trans (serverPortRe_search_eq_some_iff.mpr ⟨_, other⟩)
        exact fits short

private theorem needsOk_passes_iff {response : Str} :
    needsOk response = .passes ↔ "200 OK".toList <:+: response := by
  rw [needsOk, ← contains_iff_isInfix]
  split <;> simp_all

private theorem judged_handshake_iff {messages : List Str} (few : messages.length ≤ 7) :
    Judged handshake messages ↔ Acceptable messages := by
  match messages, few with
  | [m1, m2, m3, m4, m5, m6, m7], _ =>
    simp only [handshake, Judged, Acceptable, needsCseq_passes_iff, needsPortAndSession_passes_iff,
      needsOk_passes_iff, List.forall_mem_cons, List.not_mem_nil, false_imp_iff, implies_true,
      true_and, and_true, and_assoc]
  | [], _ | [_], _ | [_, _], _ | [_, _, _], _ | [_, _, _, _], _ | [_, _, _, _, _], _ |
    [_, _, _, _, _, _], _ => simp [handshake, Judged, Acceptable]

/-- The order is checked on a socket exactly when the messages are in their order, or a handler
does not find in one of them what it looks for, or fewer than seven are read, or a call of `sendall`
raises.

No handler looks at a method or at whose CSeq a response has, and the second message is not looked
at. So an order that is not the protocol's is only noticed by accident. -/
theorem negotiate_checks_order_iff (sourceIp : Str) {s : ControlSession}
    (waits : s.negotiator.state = .waitM1) :
    ChecksOrder sourceIp s ↔
      Follow (handshakeKinds s.negotiator.ownCseq) (heard 7 s.reader.buf s.reader.sock.inbound) ∨
        ¬ Acceptable (heard 7 s.reader.buf s.reader.sock.inbound) ∨
        ¬ SendsReturn 7 s.reader.sock.sends := by
  have accepted : Passes handshake s.reader ↔
      Acceptable (heard 7 s.reader.buf s.reader.sock.inbound) ∧
        SendsReturn 7 s.reader.sock.sends :=
    and_congr_left' (judged_handshake_iff (heard_length_le 7 _ _))
  rw [← not_and_or, ← accepted]
  rcases negotiate_decides sourceIp s waits with ⟨⟨session, s', returned⟩, passes⟩ | ⟨raised, fails⟩
  · constructor
    · intro checks
      exact .inl (checks.1 session s' returned)
    · rintro (ordered | fails)
      · exact ⟨fun _ _ _ => ordered, fun others => absurd ordered others⟩
      · exact absurd passes fails
  · obtain ⟨e, s', raised, short⟩ := raised
    refine iff_of_true ⟨fun session t returned => ?_, fun _ => ⟨e, s', raised, short⟩⟩ (.inr fails)
    cases raised.symm.trans returned

/-- A source that keeps to the order. -/
theorem negotiate_checks_order_of_source :
    ChecksOrder "192.168.173.80".toList (.fresh {} 1028 [[sourceMessage 1, sourceMessage 2,
      sourceMessage 3, sourceMessage 4, sourceMessage 5, sourceMessage 6,
      sourceMessage 7].flatten]) :=
  (negotiate_checks_order_iff _ rfl).mpr <| .inl <| by
    simp only [sourceMessage, String.toList_append]
    repeat rw [String.toList_ofList]
    decide +kernel

/-- The messages of a source whose M3 overtakes its response to M2. -/
def overtaking : ControlSession :=
  .fresh {} 1028 [[sourceMessage 1, sourceMessage 3, sourceMessage 2, sourceMessage 4,
    sourceMessage 5, sourceMessage 6, sourceMessage 7].flatten]

/-- The response to M2 is answered as if it were M3, and the handshake completes. -/
theorem overtaking_m3_is_not_detected :
    overtaking.negotiator.state = .waitM1 ∧ ¬ ChecksOrder "192.168.173.80".toList overtaking ∧
      (stateAfter (negotiate "192.168.173.80".toList overtaking)).negotiator.state =
        .streaming := by
  have completes : (valueOf (negotiate "192.168.173.80".toList overtaking)).isSome = true := by
    simp only [overtaking, sourceMessage, String.toList_append]
    repeat rw [String.toList_ofList]
    decide +kernel
  have others : ¬ Follow (handshakeKinds overtaking.negotiator.ownCseq)
      (heard 7 overtaking.reader.buf overtaking.reader.sock.inbound) := by
    simp only [overtaking, sourceMessage, String.toList_append]
    repeat rw [String.toList_ofList]
    decide +kernel
  have streams : (stateAfter (negotiate "192.168.173.80".toList overtaking)).negotiator.state =
      .streaming := by
    simp only [overtaking, sourceMessage, String.toList_append]
    repeat rw [String.toList_ofList]
    decide +kernel
  refine ⟨rfl, fun checks => ?_, streams⟩
  obtain ⟨e, s', raised, _⟩ := checks.2 others
  rw [raised] at completes
  cases completes

end Castd.Wfdsink
