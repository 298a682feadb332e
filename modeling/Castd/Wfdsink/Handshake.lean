import Castd.Wfdsink.Session

/-!
# When the handshake raises `ValueError`

`negotiate` raises `NegotiationError`, an `OSError`, or the `ValueError` of an `int()` that is
given too many digits. The last one comes from the length that a header announces or from the
`server_port` of the response to M6.

The handshake as a list of stages says which messages it comes to: a stage sends, or reads a
message and asks something of it. `Overlong` is the condition on the script of the socket, and
`negotiate_raises_iff` the statement. It is put together stage by stage (`RaisesWhen`).
-/

namespace Castd.Wfdsink

open Lib WfdNegotiator

/-! ## What the peer's bytes show -/

/-- The data that arrives before the first answer that brings none. -/
def arriving : List Recv → Bytes
  | .data (b :: bs) :: inbound => b :: bs ++ arriving inbound
  | _ => []

theorem arriving_data {c : Bytes} {inbound : List Recv} (nonempty : c ≠ []) :
    arriving (.data c :: inbound) = c ++ arriving inbound := by
  cases c with
  | nil => exact absurd rfl nonempty
  | cons b bs => rfl

/-- The first header of the stream announces its body in more digits than `int()` converts. -/
def LongHeader (s : Bytes) : Prop :=
  ∃ header rest digits, s = header ++ rest ∧ IsHeader header ∧
    contentLengthRe.search header = some digits ∧ maxStrDigits < digits.length

theorem scanMessage_fails_iff {s : Bytes} {e : PyError} :
    scanMessage s = .fails e ↔ e = .valueError ∧ LongHeader s := by
  rw [scanMessage_eq_fails_iff]
  constructor
  · rintro ⟨rfl, header, rest, cut, isHeader, hnone⟩
    obtain ⟨digits, hsearch, tooLong⟩ := announced_eq_none_iff.mp hnone
    exact ⟨rfl, header, rest, digits, cut, isHeader, hsearch, tooLong⟩
  · rintro ⟨rfl, header, rest, digits, cut, isHeader, hsearch, tooLong⟩
    exact ⟨rfl, header, rest, cut, isHeader,
      announced_eq_none_iff.mpr ⟨digits, hsearch, tooLong⟩⟩

private theorem longHeader_append_iff {buf t : Bytes} (settled : scanMessage buf ≠ .more) :
    LongHeader (buf ++ t) ↔ LongHeader buf := by
  cases hscan : scanMessage buf with
  | more => exact absurd hscan settled
  | fails e =>
    have longer : scanMessage (buf ++ t) = .fails e := rtspFramer.fails_append hscan t
    exact iff_of_true (scanMessage_fails_iff.mp longer).2 (scanMessage_fails_iff.mp hscan).2
  | frame m rest =>
    have longer : scanMessage (buf ++ t) = .frame m (rest ++ t) := rtspFramer.frame_append hscan t
    refine iff_of_false (fun long => ?_) (fun long => ?_)
    · rw [scanMessage_fails_iff.mpr ⟨rfl, long⟩] at longer
      cases longer
    · rw [scanMessage_fails_iff.mpr ⟨rfl, long⟩] at hscan
      cases hscan

/-- With no long header at its front a buffer is not failed. -/
theorem longHeader_iff {buf : Bytes} : LongHeader buf ↔ scanMessage buf = .fails .valueError :=
  ⟨fun long => scanMessage_fails_iff.mpr ⟨rfl, long⟩, fun h => (scanMessage_fails_iff.mp h).2⟩

/-- A read raises `ValueError` when what arrives starts with a long header. -/
theorem readMessage_valueError_iff {inbound : List Recv} : ∀ {buf : Bytes},
    (readMessage buf inbound).1 = .error .valueError ↔ LongHeader (buf ++ arriving inbound) := by
  induction inbound with
  | nil =>
    intro buf
    unfold readMessage arriving
    rw [List.append_nil, longHeader_iff]
    cases hscan : scanMessage buf with
    | more => simp
    | fails e => simp
    | frame m rest => simp
  | cons recv inbound ih =>
    intro buf
    by_cases more : scanMessage buf = .more
    · unfold readMessage
      rw [more]
      cases recv with
      | data bytes =>
        cases bytes with
        | nil =>
          show Except.ok buf = _ ↔ LongHeader (buf ++ [])
          rw [List.append_nil, longHeader_iff, more]
          simp
        | cons b bs =>
          show (readMessage (buf ++ b :: bs) inbound).1 = _ ↔ _
          rw [ih, arriving, List.append_assoc]
      | raises fault =>
        show Except.error fault.error = _ ↔ LongHeader (buf ++ [])
        rw [List.append_nil, longHeader_iff, more]
        cases fault <;> simp [SockFault.error]
    · rw [longHeader_append_iff more, longHeader_iff]
      unfold readMessage
      cases hscan : scanMessage buf with
      | more => exact absurd hscan more
      | fails e => simp
      | frame m rest => simp

/-- A blank line cannot go on with a Content-Length. -/
theorem blankLine_bars : ∀ c ∈ blankLine.head?,
    contentLengthRe.Bars c ∧ contentLengthRe.keep c = false := by
  intro c hc
  cases hc
  decide

/-- A header with one Content-Length, of so many digits, is long. -/
theorem longHeader_of_only {lines digits : Bytes} (isHeader : IsHeader (lines ++ blankLine))
    (only : contentLengthRe.Only lines digits) (tooLong : maxStrDigits < digits.length)
    (rest : Bytes) : LongHeader (lines ++ blankLine ++ rest) :=
  ⟨lines ++ blankLine, rest, digits, rfl, isHeader, only.search_append blankLine_bars, tooLong⟩

/-- Lines that end with a Content-Length of `n` times the digit `d`. -/
def linesWithLength (front : Bytes) (n : Nat) (d : UInt8) : Bytes :=
  front ++ encode "Content-Length: ".toList ++ List.replicate n d

section

variable {front : Bytes} {n : Nat} {d : UInt8}

/-- They have one Content-Length, unless the lines before already have one. -/
theorem linesWithLength_only (digit : isDigitByte d = true)
    (other : sameByteIgnoringCase 67 d = false) (some_digits : n ≠ 0)
    (once : ∀ i < (front ++ encode "Content-Length: ".toList).length,
      contentLengthRe.Here ((linesWithLength front n d).drop i) → i = front.length) :
    contentLengthRe.Only (linesWithLength front n d) (List.replicate n d) := by
  have digits : ∀ b ∈ List.replicate n d, b = d := fun b hb => List.eq_of_mem_replicate hb
  have parts : linesWithLength front n d = front ++ (encode "Content-Length:".toList ++
      ([32] ++ (List.replicate n d ++ []))) := by
    have name : encode "Content-Length: ".toList = encode "Content-Length:".toList ++ [32] := by
      decide
    rw [linesWithLength, name]
    simp only [List.append_assoc, List.append_nil]
  refine FieldPattern.Only.of_parts (c := 67) front _ _ [] rfl (by decide)
    (List.forall_mem_singleton.mpr (by decide)) ?_ ?_ nofun parts ?_ once
  · intro b hb
    rw [digits b hb]
    exact digit
  · rw [Ne, List.replicate_eq_nil_iff]
    exact some_digits
  · intro b hb
    rw [digits b hb]
    exact other

/-- They are a header with the blank line after them, unless one starts before. -/
theorem linesWithLength_isHeader (other : d ≠ 13)
    (clear : ∀ i < (front ++ encode "Content-Length: ".toList).length,
      ¬ blankLine <+: (linesWithLength front n d ++ blankLine).drop i) :
    IsHeader (linesWithLength front n d ++ blankLine) :=
  isHeader_of_clear (fun lineEnd => other (List.eq_of_mem_replicate lineEnd).symm) clear

end

/-! ## The stages -/

/-- What a stage says to the message it reads. -/
inductive Verdict
  | passes
  | fails
  /-- It gives `int()` too many digits. -/
  | overlong
  deriving DecidableEq

/-- A stage of the handshake. -/
inductive Stage
  | send
  | read (verdict : Str → Verdict)

/-- A request has to carry a CSeq. -/
def needsCseq (request : Str) : Verdict :=
  match cseqRe.search request with
  | some _ => .passes
  | none => .fails

/-- The response to M6 has to carry a port and a session id. -/
def needsPortAndSession (response : Str) : Verdict :=
  match serverPortRe.search response, sessionRe.search response with
  | some port, some _ => if port.length ≤ maxStrDigits then .passes else .overlong
  | _, _ => .fails

/-- The response to M7 has to acknowledge. -/
def needsOk (response : Str) : Verdict :=
  if contains "200 OK".toList response then .passes else .fails

/-- M1 to M7. The response to M2 is read and not looked at. -/
def handshake : List Stage := [
  .read needsCseq, .send,
  .send, .read fun _ => .passes,
  .read needsCseq, .send,
  .read needsCseq, .send,
  .read needsCseq, .send,
  .send, .read needsPortAndSession,
  .send, .read needsOk]

/-- The stages come to a message with an overlong field: every `sendall` before it returns, every
message before it arrives and passes, and it has a long header or gets the verdict. -/
def Overlong : List Stage → Bytes → List Recv → List (Option SockFault) → Prop
  | [], _, _, _ => False
  | .send :: _, _, _, some _ :: _ => False
  | .send :: stages, buf, inbound, none :: sends => Overlong stages buf inbound sends
  | .send :: stages, buf, inbound, [] => Overlong stages buf inbound []
  | .read verdict :: stages, buf, inbound, sends =>
    LongHeader (buf ++ arriving inbound) ∨
      match readMessage buf inbound with
      | (.ok message, buf', inbound') =>
        verdict (decode message) = .overlong ∨
          verdict (decode message) = .passes ∧ Overlong stages buf' inbound' sends
      | (.error _, _, _) => False

instance (s : Bytes) : Decidable (LongHeader s) := decidable_of_iff _ longHeader_iff.symm

instance decidableOverlong : ∀ (stages : List Stage) (buf : Bytes) (inbound : List Recv)
    (sends : List (Option SockFault)), Decidable (Overlong stages buf inbound sends)
  | [], _, _, _ => instDecidableFalse
  | .send :: _, _, _, some _ :: _ => instDecidableFalse
  | .send :: stages, buf, inbound, none :: sends => decidableOverlong stages buf inbound sends
  | .send :: stages, buf, inbound, [] => decidableOverlong stages buf inbound []
  | .read verdict :: stages, buf, inbound, sends =>
    match hread : readMessage buf inbound with
    | (.ok message, buf', inbound') =>
      have := decidableOverlong stages buf' inbound' sends
      decidable_of_iff (LongHeader (buf ++ arriving inbound) ∨
        verdict (decode message) = .overlong ∨
          verdict (decode message) = .passes ∧ Overlong stages buf' inbound' sends)
        (by rw [Overlong, hread])
    | (.error e, buf', inbound') =>
      decidable_of_iff (LongHeader (buf ++ arriving inbound)) (by rw [Overlong, hread, or_false])

/-- From a negotiator with `I`, the action raises `ValueError` when its stages come to an overlong
field, and only then. -/
def RaisesWhen {α : Type} (I : WfdNegotiator → Prop) (x : Running α) (stages : List Stage) :
    Prop :=
  ∀ s : ControlSession, I s.negotiator →
    ((∃ s', x s = .error .valueError s') ↔
      Overlong stages s.reader.buf s.reader.sock.inbound s.reader.sock.sends)

/-- A handler does what the verdict says, and takes `I` to `J` where it passes. -/
structure Judges {α : Type} (I : WfdNegotiator → Prop) (handle : Negotiating α)
    (verdict : Verdict) (J : WfdNegotiator → Prop) : Prop where
  passes : verdict = .passes → ∀ n, I n → ∃ a n', handle n = .ok a n' ∧ J n'
  fails : verdict = .fails → ∀ n, I n → ∃ e n', handle n = .error (.negotiation e) n'
  overlong : verdict = .overlong → ∀ n, I n → ∃ n', handle n = .error .valueError n'

/-- A stage that reads is overlong when a long header arrives. -/
theorem overlong_of_longHeader {verdict : Str → Verdict} {stages : List Stage} {buf : Bytes}
    {inbound : List Recv} {sends : List (Option SockFault)}
    (long : LongHeader (buf ++ arriving inbound)) :
    Overlong (.read verdict :: stages) buf inbound sends := by
  unfold Overlong
  exact .inl long

section

variable {α β : Type} {I J : WfdNegotiator → Prop} {stages : List Stage}

private theorem raisesWhen_return {a : α} : RaisesWhen I (pure a) [] := by
  intro s _
  refine iff_of_false ?_ id
  rintro ⟨s', h⟩
  cases h

private theorem raisesWhen_send {text : Str} {k : Unit → Running α}
    (rest : RaisesWhen I (k ()) stages) :
    RaisesWhen I (sendall text >>= k) (.send :: stages) := by
  intro s holds
  cases hsends : s.reader.sock.sends with
  | nil =>
    have sent : sendall text s = .ok () _ :=
      focus_of_ok (by rw [Sock.sendall, hsends])
    rw [bind_of_ok sent]
    exact rest _ holds
  | cons outcome sends =>
    cases outcome with
    | none =>
      have sent : sendall text s = .ok () _ :=
        focus_of_ok (by rw [Sock.sendall, hsends])
      rw [bind_of_ok sent]
      exact rest _ holds
    | some fault =>
      have raised : sendall text s = .error fault.error _ :=
        focus_of_error (by rw [Sock.sendall, hsends])
      rw [bind_of_error raised]
      refine iff_of_false ?_ id
      rintro ⟨s', h⟩
      cases fault <;> cases h

private theorem raisesWhen_build {build : Negotiating β} {k : β → Running α}
    (builds : ∀ n, I n → ∃ b n', build n = .ok b n' ∧ J n')
    (rest : ∀ b, RaisesWhen J (k b) stages) : RaisesWhen I (onNegotiator build >>= k) stages := by
  intro s holds
  obtain ⟨b, n', hbuild, holds'⟩ := builds _ holds
  have built : onNegotiator build s = .ok b { s with negotiator := n' } := focus_of_ok hbuild
  rw [bind_of_ok built]
  exact rest b _ holds'

private theorem raisesWhen_read {k : Str → Running α} {verdict : Str → Verdict}
    (rest : ∀ m (s : ControlSession), I s.negotiator →
      ((∃ s', k m s = .error .valueError s') ↔ verdict m = .overlong ∨
        verdict m = .passes ∧
          Overlong stages s.reader.buf s.reader.sock.inbound s.reader.sock.sends)) :
    RaisesWhen I (nextMessage >>= k) (.read verdict :: stages) := by
  intro s holds
  unfold Overlong
  rw [← readMessage_valueError_iff]
  cases hread : readMessage s.reader.buf s.reader.sock.inbound with
  | mk outcome left =>
    obtain ⟨buf, inbound⟩ := left
    cases outcome with
    | ok message =>
      have read : nextMessage s = .ok (decode message) _ :=
        focus_of_ok (by rw [RtspReader.nextMessage, hread])
      rw [bind_of_ok read]
      have later := rest (decode message) { s with reader := s.reader.leaving buf inbound } holds
      refine later.trans ?_
      constructor
      · intro h
        exact .inr h
      · rintro (h | h)
        · cases h
        · exact h
    | error e =>
      have raised : nextMessage s = .error e _ :=
        focus_of_error (by rw [RtspReader.nextMessage, hread])
      rw [bind_of_error raised]
      constructor
      · rintro ⟨s', h⟩
        cases h
        exact .inl rfl
      · rintro (h | h)
        · cases h
          exact ⟨_, rfl⟩
        · exact h.elim

private theorem raisesWhen_skip {k : Str → Running α} (rest : ∀ m, RaisesWhen I (k m) stages) :
    RaisesWhen I (nextMessage >>= k) (.read (fun _ => .passes) :: stages) := by
  refine raisesWhen_read fun m s holds => (rest m s holds).trans ?_
  simp

private theorem raisesWhen_judged {handle : Str → Negotiating β} {k : Str → β → Running α}
    {verdict : Str → Verdict} (judges : ∀ m, Judges I (handle m) (verdict m) J)
    (rest : ∀ m b, RaisesWhen J (k m b) stages) :
    RaisesWhen I (nextMessage >>= fun m => onNegotiator (handle m) >>= k m)
      (.read verdict :: stages) := by
  refine raisesWhen_read fun m s holds => ?_
  cases hverdict : verdict m with
  | passes =>
    obtain ⟨b, n', handled, holds'⟩ := (judges m).passes hverdict _ holds
    have done : onNegotiator (handle m) s = .ok b { s with negotiator := n' } :=
      focus_of_ok handled
    rw [bind_of_ok done]
    exact (rest m b _ holds').trans (by simp)
  | fails =>
    obtain ⟨e, n', handled⟩ := (judges m).fails hverdict _ holds
    have raised : onNegotiator (handle m) s = .error (.negotiation e) { s with negotiator := n' } :=
      focus_of_error handled
    rw [bind_of_error raised]
    simp
  | overlong =>
    obtain ⟨n', handled⟩ := (judges m).overlong hverdict _ holds
    have raised : onNegotiator (handle m) s = .error .valueError { s with negotiator := n' } :=
      focus_of_error handled
    rw [bind_of_error raised]
    simp

end

/-! ## The handlers judge -/

/-- A handler of a request judges by its CSeq. -/
theorem judges_answerRequest {what : String} {state next : WfdState} {request : Str}
    {reply : Str → Negotiating Str}
    (replies : ∀ c n, n.state = state → ∃ response n', reply c n = .ok response n') :
    Judges (·.state = state) (answerRequest what state next request reply) (needsCseq request)
      (·.state = next) where
  passes := by
    intro h n stands
    cases cseq : cseqRe.search request with
    | none =>
      rw [needsCseq, cseq] at h
      cases h
    | some c =>
      obtain ⟨response, n', replied⟩ := replies c n stands
      exact ⟨response, _, answerRequest_ok n' stands cseq replied, rfl⟩
  fails := by
    intro h n stands
    cases cseq : cseqRe.search request with
    | none => exact ⟨_, _, answerRequest_noCseq stands cseq⟩
    | some c =>
      rw [needsCseq, cseq] at h
      cases h
  overlong := by
    intro h
    unfold needsCseq at h
    split at h <;> cases h

private theorem judges_parseM6Response {response : Str} :
    Judges (·.state = .waitM6Response) (parseM6Response response) (needsPortAndSession response)
      (fun n => n.state = .waitM7Response ∧ n.session.sessionId.isSome = true) := by
  cases hport : serverPortRe.search response with
  | none =>
    have verdict : needsPortAndSession response = .fails := by rw [needsPortAndSession, hport]
    rw [verdict]
    exact ⟨nofun, fun _ n stands => ⟨_, _, parseM6Response_noServerPort stands hport⟩, nofun⟩
  | some port =>
    cases hid : sessionRe.search response with
    | none =>
      have verdict : needsPortAndSession response = .fails := by
        rw [needsPortAndSession, hport, hid]
      rw [verdict]
      exact ⟨nofun, fun _ n stands => ⟨_, _, parseM6Response_noSessionId stands hport hid⟩, nofun⟩
    | some sessionId =>
      by_cases short : port.length ≤ maxStrDigits
      · have verdict : needsPortAndSession response = .passes := by
          simp only [needsPortAndSession, hport, hid, if_pos short]
        have value : intOfDigits port = some (ofDigits port) := if_pos short
        rw [verdict]
        exact ⟨fun _ n stands => ⟨_, _, parseM6Response_ok stands hport hid value, rfl, rfl⟩,
          nofun, nofun⟩
      · have verdict : needsPortAndSession response = .overlong := by
          simp only [needsPortAndSession, hport, hid, if_neg short]
        have value : intOfDigits port = none := if_neg short
        rw [verdict]
        exact ⟨nofun, nofun,
          fun _ n stands => ⟨_, parseM6Response_valueError stands hport hid value⟩⟩

private theorem judges_confirmStreaming {response : Str} :
    Judges (·.state = .waitM7Response) (confirmStreaming response) (needsOk response)
      (·.state = .streaming) := by
  cases acked : contains "200 OK".toList response with
  | true =>
    have verdict : needsOk response = .passes := by rw [needsOk, if_pos acked]
    rw [verdict]
    exact ⟨fun _ n stands => ⟨_, _, confirmStreaming_ok stands acked, rfl⟩, nofun, nofun⟩
  | false =>
    have verdict : needsOk response = .fails := by
      rw [needsOk, if_neg (by rw [acked]; exact Bool.false_ne_true)]
    rw [verdict]
    exact ⟨nofun, fun _ n stands => ⟨_, _, confirmStreaming_notAcknowledged stands acked⟩, nofun⟩

/-! ## The handshake by its stages -/

/-- Rules for a property of actions and their stages: it holds where nothing is left to do, and
before a send, a request that is built or a message that is read it holds if it does after. -/
structure StageRules
    (P : (α : Type) → (WfdNegotiator → Prop) → Running α → List Stage → Prop) : Prop where
  done : ∀ {α : Type} {I : WfdNegotiator → Prop} (a : α), P α I (pure a) []
  send : ∀ {α : Type} {I : WfdNegotiator → Prop} {stages : List Stage} {text : Str}
    {k : Unit → Running α}, (∀ n, I n → n.state ≠ .streaming) → P α I (k ()) stages →
      P α I (sendall text >>= k) (.send :: stages)
  build : ∀ {α β : Type} {I J : WfdNegotiator → Prop} {stages : List Stage} {build : Negotiating β}
    {k : β → Running α}, (∀ n, I n → ∃ b n', build n = .ok b n' ∧ J n') →
      (∀ b, P α J (k b) stages) → P α I (onNegotiator build >>= k) stages
  skip : ∀ {α : Type} {I : WfdNegotiator → Prop} {stages : List Stage} {k : Str → Running α},
    (∀ n, I n → n.state ≠ .streaming) → (∀ m, P α I (k m) stages) →
      P α I (nextMessage >>= k) (.read (fun _ => .passes) :: stages)
  judged : ∀ {α β : Type} {I J : WfdNegotiator → Prop} {stages : List Stage}
    {handle : Str → Negotiating β} {k : Str → β → Running α} {verdict : Str → Verdict},
    (∀ n, I n → n.state ≠ .streaming) → (∀ m, Judges I (handle m) (verdict m) J) →
      (∀ m n e n', handle m n = .error e n' → n' = n) → (∀ m b, P α J (k m b) stages) →
        P α I (nextMessage >>= fun m => onNegotiator (handle m) >>= k m) (.read verdict :: stages)

/-- A state short of STREAMING. -/
theorem short_of_state {state : WfdState} (other : state ≠ .streaming) :
    ∀ n : WfdNegotiator, n.state = state → n.state ≠ .streaming := by
  intro n stands
  rwa [stands]

/-- What has the rules holds of `negotiate` and the stages of the handshake. -/
theorem StageRules.negotiate {P : (α : Type) → (WfdNegotiator → Prop) → Running α → List Stage →
    Prop} (rules : StageRules P) (sourceIp : Str) :
    P _ (·.state = .waitM1) (negotiate sourceIp) handshake := by
  refine rules.judged (short_of_state (by decide))
    (fun _ => judges_answerRequest fun c n _ => ⟨_, _, rfl⟩)
    (fun _ _ _ _ => answerRequest_keeps fun c => ⟨_, _, rfl⟩) fun _ _ => ?_
  refine rules.send (short_of_state (by decide)) ?_
  refine rules.build (J := (·.state = .waitM3))
    (fun n stands => ⟨_, _, buildM2OptionsRequest_ok, stands⟩) fun _ => ?_
  refine rules.send (short_of_state (by decide)) ?_
  refine rules.skip (short_of_state (by decide)) fun _ => ?_
  refine rules.judged (short_of_state (by decide))
    (fun _ => judges_answerRequest fun c n _ => ⟨_, _, rfl⟩)
    (fun _ _ _ _ => answerRequest_keeps fun c => ⟨_, _, rfl⟩) fun _ _ => ?_
  refine rules.send (short_of_state (by decide)) ?_
  refine rules.judged (short_of_state (by decide))
    (fun _ => judges_answerRequest fun c n _ => ⟨_, _, rfl⟩)
    (fun _ _ _ _ => answerRequest_keeps fun c => ⟨_, _, rfl⟩) fun _ _ => ?_
  refine rules.send (short_of_state (by decide)) ?_
  refine rules.judged (short_of_state (by decide))
    (fun _ => judges_answerRequest fun c n _ => ⟨_, _, rfl⟩)
    (fun _ _ _ _ => answerRequest_keeps fun c => ⟨_, _, rfl⟩) fun _ _ => ?_
  refine rules.send (short_of_state (by decide)) ?_
  refine rules.build (J := (·.state = .waitM6Response))
    (fun n stands => ⟨_, _, buildM6SetupRequest_ok sourceIp, stands⟩) fun _ => ?_
  refine rules.send (short_of_state (by decide)) ?_
  refine rules.judged (short_of_state (by decide)) (fun _ => judges_parseM6Response)
    (fun _ _ _ _ => parseM6Response_keeps) fun _ _ => ?_
  refine rules.build (J := (·.state = .waitM7Response)) (fun n holds => ?_) fun _ => ?_
  · obtain ⟨stands, recorded⟩ := holds
    obtain ⟨sessionId, hid⟩ := Option.isSome_iff_exists.mp recorded
    exact ⟨_, _, buildM7PlayRequest_ok sourceIp hid, stands⟩
  refine rules.send (short_of_state (by decide)) ?_
  exact rules.judged (short_of_state (by decide)) (fun _ => judges_confirmStreaming)
    (fun _ _ _ _ => confirmStreaming_keeps) fun _ _ => rules.done _

private theorem raisesWhen_rules : StageRules fun _ => RaisesWhen where
  done := fun _ => raisesWhen_return
  send := fun _ => raisesWhen_send
  build := raisesWhen_build
  skip := fun _ => raisesWhen_skip
  judged := fun _ judges _ => raisesWhen_judged judges

/-- `negotiate` raises `ValueError` when the handshake comes to an overlong field, and only
then. -/
theorem negotiate_raises_iff (sourceIp : Str) :
    RaisesWhen (·.state = .waitM1) (negotiate sourceIp) handshake :=
  raisesWhen_rules.negotiate sourceIp

end Castd.Wfdsink
