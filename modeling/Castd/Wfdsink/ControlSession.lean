import Castd.Wfdsink.Conversation

/-!
# A whole control session

What the sink sends in a session that goes through the handshake and on to the steady state, over
every cut of the stream into chunks.

The code has two notions of where a message ends. The reader goes by the Content-Length, and
`build_steady_state_ack` splits what it is given at blank lines. They agree on a request whose body
names no method (`SteadyRequest.acked`).
-/

namespace Castd.Wfdsink

open Lib WfdNegotiator

/-! ## Requests of the steady state -/

/-- A header's one Content-Length, or that it has none, is right for a body of `size` bytes. -/
def LengthOf (lines : Bytes) : Option Bytes → Nat → Prop
  | none, size => contentLengthRe.Absent lines ∧ size = 0
  | some digits, size => contentLengthRe.Only lines digits ∧
      ofDigits (digits.map fun b => Char.ofNat b.toNat) = size

/-- A GET_PARAMETER or SET_PARAMETER request: a header with one CSeq and at most one
Content-Length, and a body of so many bytes that names neither method. -/
structure SteadyRequest where
  /-- The header up to its blank line. -/
  lines : Bytes
  body : Bytes
  cseq : Str
  /-- The digits of the Content-Length. -/
  length : Option Bytes
  ascii : ∀ b ∈ lines ++ blankLine ++ body, b < 0x80
  isHeader : IsHeader (lines ++ blankLine)
  method : asksForAck (decode lines) = true
  oneCseq : cseqRe.Only (decode lines) cseq
  oneLength : LengthOf lines length body.length
  bodyQuiet : asksForAck (decode body) = false

namespace SteadyRequest

variable (q : SteadyRequest)

/-- The bytes of a request. -/
def message : Bytes := q.lines ++ blankLine ++ q.body

/-- It carries the TEARDOWN trigger. -/
def tearsDown : Bool := isTeardown (decode q.message)

/-- `int()` converts its Content-Length. -/
def LengthFits : Prop := ∀ digits, q.length = some digits → digits.length ≤ maxStrDigits

variable {q}

private theorem blankLine_absent : contentLengthRe.Absent blankLine := by
  intro i
  by_cases inside : i < 4
  · revert i
    decide
  · rw [List.drop_of_length_le (Nat.le_of_not_lt inside)]
    decide

private theorem search_header (q : SteadyRequest) :
    contentLengthRe.search (q.lines ++ blankLine) = q.length := by
  have oneLength := q.oneLength
  cases hlength : q.length with
  | none =>
    rw [hlength] at oneLength
    exact (oneLength.1.append blankLine_absent fun c hc => (blankLine_bars c hc).1).search
  | some digits =>
    rw [hlength] at oneLength
    exact oneLength.1.search_append blankLine_bars

private theorem isFrame (fits : q.LengthFits) (rest : Bytes) :
    IsFrame (q.message ++ rest) q.message rest := by
  refine ⟨rfl, q.lines ++ blankLine, q.body, rfl, q.isHeader, ?_⟩
  have oneLength := q.oneLength
  unfold announced
  rw [q.search_header]
  cases hlength : q.length with
  | none =>
    rw [hlength] at oneLength
    rw [oneLength.2]
  | some digits =>
    rw [hlength] at oneLength
    have short : (digits.map fun b => Char.ofNat b.toNat).length ≤ maxStrDigits := by
      rw [List.length_map]
      exact fits digits hlength
    show intOfDigits _ = _
    rw [intOfDigits, if_pos short, oneLength.2]

private theorem longHeader (fits : ¬ q.LengthFits) (rest : Bytes) :
    LongHeader (q.message ++ rest) := by
  unfold LengthFits at fits
  push Not at fits
  obtain ⟨digits, hlength, tooLong⟩ := fits
  refine ⟨q.lines ++ blankLine, q.body ++ rest, digits, ?_, q.isHeader, ?_, tooLong⟩
  · rw [message, List.append_assoc]
  · rw [q.search_header, hlength]

private theorem split_message (q : SteadyRequest) :
    split crlf2 (decode q.message) = decode q.lines :: split crlf2 (decode q.body) := by
  have inLines : ∀ b ∈ q.lines, b < 0x80 := fun b hb => q.ascii b (by simp [hb])
  have inBody : ∀ b ∈ q.body, b < 0x80 := fun b hb => q.ascii b (by simp [hb])
  obtain ⟨headEnd, found, size⟩ := find_header q.isHeader q.body
  have here : headEnd = q.lines.length := by
    rw [List.length_append] at size
    exact Nat.add_right_cancel size
  have inText : find crlf2 (decode q.message) = some q.lines.length := by
    rw [message, decode_ascii q.ascii, ← here, ← found]
    exact find_map ofNat_toNat_injective blankLine _
  rw [split_of_find (by decide) inText]
  have cut : decode q.message = decode q.lines ++ (crlf2 ++ decode q.body) := by
    rw [message, decode_ascii q.ascii, decode_ascii inLines, decode_ascii inBody, List.map_append,
      List.map_append, List.append_assoc]
    rfl
  have sizes : (decode q.lines).length = q.lines.length := by
    rw [decode_ascii inLines, List.length_map]
  rw [cut, ← sizes, List.take_left, ← List.drop_drop, List.drop_left, List.drop_left]

/-- A request is answered once, with its CSeq. -/
theorem acked {n : WfdNegotiator} (stands : n.state = .streaming) :
    buildSteadyStateAck (decode q.message) n = .ok [okResponse q.cseq] n := by
  refine buildSteadyStateAck_of_one stands q.split_message q.method q.oneCseq.search ?_
  intro entry hentry
  cases asks : asksForAck entry with
  | false => rfl
  | true =>
    have inBody := asksForAck_of_isInfix asks (infix_of_mem_split hentry)
    rw [q.bodyQuiet] at inBody
    cases inBody

private theorem decode_message_ne_nil (q : SteadyRequest) : (decode q.message).isEmpty = false := by
  rw [message, decode_ascii q.ascii]
  simp [blankLine]

end SteadyRequest

/-- The requests up to the first that tears the session down, with it. -/
def upToTeardown : List SteadyRequest → List SteadyRequest
  | [] => []
  | q :: qs => if q.tearsDown then [q] else q :: upToTeardown qs

/-- The acks the sink owes. -/
def acksFor (requests : List SteadyRequest) : List Str :=
  (upToTeardown requests).map fun q => okResponse q.cseq

private theorem acksFor_cons_ne_nil (q : SteadyRequest) (requests : List SteadyRequest) :
    acksFor (q :: requests) ≠ [] := by
  have first : q ∈ upToTeardown (q :: requests) := by
    rw [upToTeardown]
    split <;> exact List.mem_cons_self
  exact fun none => List.ne_nil_of_mem first (List.map_eq_nil_iff.mp none)

/-! ## The loop -/

section

variable {r : RtspReader} {n : WfdNegotiator} {q : SteadyRequest} {rest : Bytes}
  {sent : List Bytes}

private theorem steadyRound_request (stands : n.state = .streaming) (fits : q.LengthFits)
    (delivers : r.Delivers (q.message ++ rest) sent) :
    ∃ r', steadyRound { reader := r, negotiator := n } =
        .ok (!q.tearsDown) { reader := r', negotiator := n } ∧
      r'.Delivers rest (sent ++ [encode (okResponse q.cseq)]) := by
  obtain ⟨r₁, read, delivers₁⟩ := delivers.nextMessage_frame (q.isFrame fits rest)
  obtain ⟨sock, sending, delivers₂⟩ := delivers₁.sendall (encode (okResponse q.cseq))
  have hnext : nextMessage { reader := r, negotiator := n } =
      .ok (decode q.message) { reader := r₁, negotiator := n } := focus_of_ok read
  have found : nextSteadyMessage { reader := r, negotiator := n } =
      .ok (some (decode q.message)) { reader := r₁, negotiator := n } := by
    rw [nextSteadyMessage, hnext]
  have built : onNegotiator (buildSteadyStateAck (decode q.message))
      { reader := r₁, negotiator := n } =
      .ok [okResponse q.cseq] { reader := r₁, negotiator := n } := focus_of_ok (q.acked stands)
  have hsend : sendall (okResponse q.cseq) { reader := r₁, negotiator := n } =
      .ok () { reader := { r₁ with sock := sock }, negotiator := n } := focus_of_ok sending
  have acked : ackMessage (decode q.message) { reader := r₁, negotiator := n } =
      .ok () { reader := { r₁ with sock := sock }, negotiator := n } := by
    rw [ackMessage, if_neg (by rw [q.decode_message_ne_nil]; exact Bool.false_ne_true),
      bind_of_ok built, sendAll, bind_of_ok hsend]
    rfl
  refine ⟨{ r₁ with sock := sock }, ?_, delivers₂⟩
  rw [steadyRound, bind_of_ok found]
  dsimp only
  rw [bind_of_ok acked]
  rfl

private theorem steadyRound_long (fits : ¬ q.LengthFits)
    (delivers : r.Delivers (q.message ++ rest) sent) :
    ∃ r', steadyRound { reader := r, negotiator := n } =
        .error .valueError { reader := r', negotiator := n } ∧ r'.sock.sent = sent := by
  obtain ⟨r', raised, left⟩ :=
    delivers.nextMessage_fails (longHeader_iff.mp (q.longHeader fits rest))
  have hnext : nextMessage { reader := r, negotiator := n } =
      .error .valueError { reader := r', negotiator := n } := focus_of_error raised
  have found : nextSteadyMessage { reader := r, negotiator := n } =
      .error .valueError { reader := r', negotiator := n } := by
    rw [nextSteadyMessage, hnext]
  exact ⟨r', bind_of_error found, left.sent⟩

private theorem steadyRound_end (delivers : r.Delivers [] sent) :
    ∃ r', steadyRound { reader := r, negotiator := n } =
        .ok false { reader := r', negotiator := n } ∧ r'.sock.sent = sent := by
  obtain ⟨r', read, delivers'⟩ := delivers.nextMessage_end
  have hnext : nextMessage { reader := r, negotiator := n } =
      .ok [] { reader := r', negotiator := n } := focus_of_ok read
  have found : nextSteadyMessage { reader := r, negotiator := n } =
      .ok (some []) { reader := r', negotiator := n } := by
    rw [nextSteadyMessage, hnext]
  exact ⟨r', bind_of_ok found, delivers'.sent⟩

end

/-- The loop acks every request up to the first that tears down, exactly when the lengths of all of
them fit. -/
private theorem steadyLoop_requests {n : WfdNegotiator} (stands : n.state = .streaming)
    (requests : List SteadyRequest) : ∀ (r : RtspReader) (sent : List Bytes),
    r.Delivers (requests.map SteadyRequest.message).flatten sent →
      ((stateAfter (steadyLoop { reader := r, negotiator := n })).reader.sock.sent =
          sent ++ (acksFor requests).map encode ↔
        ∀ q ∈ upToTeardown requests, q.LengthFits) := by
  induction requests with
  | nil =>
    intro r sent delivers
    obtain ⟨r', last, unsent⟩ := steadyRound_end (n := n) delivers
    rw [steadyLoop_eq, last]
    refine iff_of_true ?_ nofun
    show r'.sock.sent = sent ++ []
    rw [unsent, List.append_nil]
  | cons q requests ih =>
    intro r sent delivers
    rw [List.map_cons, List.flatten_cons] at delivers
    rw [steadyLoop_eq]
    by_cases fits : q.LengthFits
    · obtain ⟨r', round, delivers'⟩ := steadyRound_request stands fits delivers
      rw [round]
      cases ends : q.tearsDown with
      | true =>
        have one : upToTeardown (q :: requests) = [q] := by rw [upToTeardown, if_pos ends]
        rw [acksFor, one]
        refine iff_of_true delivers'.sent fun q' hq' => ?_
        rw [List.mem_singleton.mp hq']
        exact fits
      | false =>
        have more : upToTeardown (q :: requests) = q :: upToTeardown requests := by
          rw [upToTeardown, ends]
          rfl
        have later := ih r' _ delivers'
        rw [List.append_assoc] at later
        rw [acksFor, more, List.forall_mem_cons]
        exact later.trans ⟨fun all => ⟨fits, all⟩, fun all => all.2⟩
    · obtain ⟨r', raised, unsent⟩ := steadyRound_long (n := n) fits delivers
      rw [raised]
      have first : q ∈ upToTeardown (q :: requests) := by
        rw [upToTeardown]
        split <;> exact List.mem_cons_self
      refine iff_of_false (fun all => ?_) (fun all => fits (all q first))
      have same : sent = sent ++ (acksFor (q :: requests)).map encode := unsent.symm.trans all
      exact acksFor_cons_ne_nil q requests
        (List.map_eq_nil_iff.mp (List.self_eq_append_right.mp same))

/-! ## The session -/

/-- A fresh negotiator and a reader over the chunks. -/
def ControlSession.fresh (capabilities : WfdCapabilities) (sinkRtpPort : Nat)
    (chunks : List Bytes) : ControlSession :=
  { reader := { sock := { inbound := chunks.map .data } }
    negotiator := .new capabilities sinkRtpPort }

/-- `negotiate` and then `run_steady_state` on the same reader and negotiator. -/
def runControlSession (sourceIp : Str) : Running Unit := do
  let _ ← negotiate sourceIp
  runSteadyState

/-- A handshake that completes over its seven messages completes over every stream that starts
with them, sends the same, and leaves the rest of the stream. -/
private theorem negotiate_of_messages {capabilities : WfdCapabilities} {sinkRtpPort : Nat}
    {sourceIp : Str} {m1 m2 m3 m4 m5 m6 m7 : Bytes} {session : WfdSessionParams}
    (messages : ∀ m ∈ [m1, m2, m3, m4, m5, m6, m7], IsFrame m m [])
    (returns : valueOf (negotiate sourceIp (.fresh capabilities sinkRtpPort
      [[m1, m2, m3, m4, m5, m6, m7].flatten])) = some session)
    {r : RtspReader} {rest : Bytes}
    (delivers : r.Delivers ([m1, m2, m3, m4, m5, m6, m7].flatten ++ rest) []) :
    ∃ c1 c3 c4 c5 sessionId r' n', cseqRe.search (decode m1) = some c1 ∧
      cseqRe.search (decode m3) = some c3 ∧ cseqRe.search (decode m4) = some c4 ∧
      cseqRe.search (decode m5) = some c5 ∧ session.sessionId = some sessionId ∧
      negotiate sourceIp { reader := r, negotiator := .new capabilities sinkRtpPort } =
        .ok session { reader := r', negotiator := n' } ∧
      n'.state = .streaming ∧
      r'.Delivers rest ([m1Response c1, m2Request 1,
        m3Response c3 ((WfdNegotiator.new capabilities sinkRtpPort).buildCapabilityBody
          (decode m3)),
        okResponse c4, okResponse c5, m6Request sourceIp 2 sinkRtpPort,
        m7Request sourceIp 3 sessionId].map encode) := by
  have speaks := negotiate_speaks sourceIp messages
  -- over the seven messages alone the conversation completes
  have some_bytes : [m1, m2, m3, m4, m5, m6, m7].flatten ≠ [] := by
    have first := (rtspFramer.frame_eq (scanMessage_eq_frame_iff.mpr
      (messages m1 List.mem_cons_self))).2
    exact List.append_ne_nil_of_left_ne_nil first _
  have alone := RtspReader.Delivers.of_chunks [[m1, m2, m3, m4, m5, m6, m7].flatten]
    (by simpa using some_bytes)
  rw [List.flatten_singleton, ← List.append_nil [m1, m2, m3, m4, m5, m6, m7].flatten] at alone
  obtain ⟨s, hs⟩ := valueOf_eq_some_iff.mp returns
  have spoken := speaks _ (.new capabilities sinkRtpPort) _ _ alone
  rw [List.append_nil] at spoken
  cases hconverse : converse sourceIp (decode m1) (decode m3) (decode m4) (decode m5) (decode m6)
      (decode m7) (.new capabilities sinkRtpPort) with
  | error e n' =>
    rw [hconverse] at spoken
    obtain ⟨s', raised⟩ := spoken
    have both := hs.symm.trans raised
    cases both
  | ok result n' =>
    obtain ⟨said, session'⟩ := result
    rw [hconverse] at spoken
    obtain ⟨r₁, returned, _⟩ := spoken
    have both := hs.symm.trans returned
    cases both
    obtain ⟨c1, c3, c4, c5, sessionId, cseq1, cseq3, cseq4, cseq5, _, hid, rfl, streaming⟩ :=
      converse_eq_ok rfl hconverse
    -- with more to come it is the same conversation
    have again := speaks _ (.new capabilities sinkRtpPort) _ _ delivers
    rw [hconverse] at again
    obtain ⟨r', negotiated, left⟩ := again
    exact ⟨c1, c3, c4, c5, sessionId, r', n', cseq1, cseq3, cseq4, cseq5, hid, negotiated,
      streaming, left⟩

/-- What the sink sends in a whole session: M1 to M7, with the CSeq of the requests it answers, its
own requests numbered 1, 2 and 3, and the session id it recorded; then one ack for each request, in
order and with its CSeq, up to and with the first that tears the session down. It does exactly when
none of these requests has a Content-Length of more digits than `int()` converts. -/
theorem control_session_sends_iff {capabilities : WfdCapabilities} {sinkRtpPort : Nat}
    {sourceIp : Str} {m1 m2 m3 m4 m5 m6 m7 : Bytes} {session : WfdSessionParams}
    (messages : ∀ m ∈ [m1, m2, m3, m4, m5, m6, m7], IsFrame m m [])
    (returns : valueOf (negotiate sourceIp (.fresh capabilities sinkRtpPort
      [[m1, m2, m3, m4, m5, m6, m7].flatten])) = some session)
    (requests : List SteadyRequest) {chunks : List Bytes} (nonempty : ∀ c ∈ chunks, c ≠ [])
    (cut : chunks.flatten = [m1, m2, m3, m4, m5, m6, m7].flatten ++
      (requests.map SteadyRequest.message).flatten) :
    ∃ c1 c3 c4 c5 sessionId, cseqRe.search (decode m1) = some c1 ∧
      cseqRe.search (decode m3) = some c3 ∧ cseqRe.search (decode m4) = some c4 ∧
      cseqRe.search (decode m5) = some c5 ∧ session.sessionId = some sessionId ∧
      ((stateAfter (runControlSession sourceIp
          (.fresh capabilities sinkRtpPort chunks))).reader.sock.sent =
          ([m1Response c1, m2Request 1,
              m3Response c3 ((WfdNegotiator.new capabilities sinkRtpPort).buildCapabilityBody
                (decode m3)),
              okResponse c4, okResponse c5, m6Request sourceIp 2 sinkRtpPort,
              m7Request sourceIp 3 sessionId] ++ acksFor requests).map encode ↔
        ∀ q ∈ upToTeardown requests, q.LengthFits) := by
  have delivers := RtspReader.Delivers.of_chunks chunks nonempty
  rw [cut] at delivers
  obtain ⟨c1, c3, c4, c5, sessionId, r, n, cseq1, cseq3, cseq4, cseq5, hid, negotiated, streaming,
    left⟩ := negotiate_of_messages messages returns delivers
  refine ⟨c1, c3, c4, c5, sessionId, cseq1, cseq3, cseq4, cseq5, hid, ?_⟩
  have whole : runControlSession sourceIp (.fresh capabilities sinkRtpPort chunks) =
      runSteadyState { reader := r, negotiator := n } := bind_of_ok negotiated
  rw [whole, stateAfter_runSteadyState (left.settimeout n), List.map_append]
  exact steadyLoop_requests streaming requests r _ left

/-! ## Two sessions -/

/-- The messages of a source up to the response to M7. -/
def sourceMessage : Nat → Bytes
  | 1 => encode "OPTIONS * RTSP/1.0\r\nCSeq: 1\r\n\r\n".toList
  | 2 => encode "RTSP/1.0 200 OK\r\nCSeq: 1\r\n\r\n".toList
  | 3 => encode ("GET_PARAMETER * RTSP/1.0\r\nCSeq: 2\r\nContent-Length: 18\r\n\r\n" ++
      "wfd_audio_codecs\r\n").toList
  | 4 => encode "SET_PARAMETER * RTSP/1.0\r\nCSeq: 3\r\n\r\n".toList
  | 5 => encode "SET_PARAMETER * RTSP/1.0\r\nCSeq: 4\r\n\r\n".toList
  | 6 => encode ("RTSP/1.0 200 OK\r\nCSeq: 2\r\nSession: 8734\r\n" ++
      "Transport: RTP/AVP/UDP;server_port=48753\r\n\r\n").toList
  | _ => encode "RTSP/1.0 200 OK\r\nCSeq: 3\r\n\r\n".toList

theorem sourceMessage_isFrame : ∀ m ∈ [sourceMessage 1, sourceMessage 2, sourceMessage 3,
    sourceMessage 4, sourceMessage 5, sourceMessage 6, sourceMessage 7], IsFrame m m [] := by
  have scanned : ∀ m ∈ [sourceMessage 1, sourceMessage 2, sourceMessage 3, sourceMessage 4,
      sourceMessage 5, sourceMessage 6, sourceMessage 7], scanMessage m = .frame m [] := by
    simp only [sourceMessage, String.toList_append]
    repeat rw [String.toList_ofList]
    decide +kernel
  exact fun m hm => scanMessage_eq_frame_iff.mp (scanned m hm)

private theorem sourceMessage_returns : valueOf (negotiate "192.168.173.80".toList (.fresh {} 1028
    [[sourceMessage 1, sourceMessage 2, sourceMessage 3, sourceMessage 4, sourceMessage 5,
      sourceMessage 6, sourceMessage 7].flatten])) =
    some { sinkRtpPort := 1028, serverPort := some 48753
           sessionId := some "8734".toList } := by
  simp only [sourceMessage, String.toList_append]
  repeat rw [String.toList_ofList]
  decide +kernel

/-- A teardown. -/
def teardown : SteadyRequest where
  lines := encode "SET_PARAMETER * RTSP/1.0\r\nCSeq: 7\r\nContent-Length: 30".toList
  body := encode "wfd_trigger_method: TEARDOWN\r\n".toList
  cseq := ['7']
  length := some [51, 48]
  ascii := by decide +kernel
  isHeader := by
    show IsHeader (encode "SET_PARAMETER * RTSP/1.0\r\nCSeq: 7\r\n".toList ++
      encode "Content-Length: 30".toList ++ blankLine)
    exact isHeader_of_clear (by decide) (by decide +kernel)
  method := by decide +kernel
  oneCseq := .of_text "SET_PARAMETER * RTSP/1.0\r\n".toList "CSeq:".toList [' ']
    "\r\nContent-Length: 30".toList rfl (by decide)
    (List.forall_mem_singleton.mpr (by decide)) (List.forall_mem_singleton.mpr (by decide)) nofun
    (fun d hd => by cases hd; decide) (by decide +kernel) (by decide +kernel)
  oneLength := ⟨.of_text (encode "SET_PARAMETER * RTSP/1.0\r\nCSeq: 7\r\n".toList)
    (encode "Content-Length:".toList) [32] [] rfl (by decide)
    (List.forall_mem_singleton.mpr (by decide)) (by decide +kernel) nofun nofun
    (by decide +kernel) (by decide +kernel), by decide +kernel⟩
  bodyQuiet := by decide +kernel

/-- Two teardowns in one segment with the response to M7: the first is acked. -/
theorem control_session_sends_of_two_teardowns :
    ∃ c1 c3 c4 c5 sessionId,
      (stateAfter (runControlSession "192.168.173.80".toList (.fresh {} 1028
          [sourceMessage 1 ++ sourceMessage 2, sourceMessage 3 ++ sourceMessage 4,
            sourceMessage 5 ++ sourceMessage 6,
            sourceMessage 7 ++ teardown.message ++ teardown.message]))).reader.sock.sent =
        ([m1Response c1, m2Request 1,
            m3Response c3 ((WfdNegotiator.new {} 1028).buildCapabilityBody
              (decode (sourceMessage 3))),
            okResponse c4, okResponse c5, m6Request "192.168.173.80".toList 2 1028,
            m7Request "192.168.173.80".toList 3 sessionId] ++
          acksFor [teardown, teardown]).map encode := by
  have cut : [sourceMessage 1 ++ sourceMessage 2, sourceMessage 3 ++ sourceMessage 4,
      sourceMessage 5 ++ sourceMessage 6,
      sourceMessage 7 ++ teardown.message ++ teardown.message].flatten =
      [sourceMessage 1, sourceMessage 2, sourceMessage 3, sourceMessage 4, sourceMessage 5,
        sourceMessage 6, sourceMessage 7].flatten ++
        ([teardown, teardown].map SteadyRequest.message).flatten := by
    simp only [List.flatten_cons, List.flatten_nil, List.map_cons, List.map_nil,
      List.append_assoc, List.append_nil]
  obtain ⟨c1, c3, c4, c5, sessionId, _, _, _, _, _, sends⟩ := control_session_sends_iff
    sourceMessage_isFrame sourceMessage_returns [teardown, teardown] (by decide +kernel) cut
  refine ⟨c1, c3, c4, c5, sessionId, sends.mpr ?_⟩
  have owed : upToTeardown [teardown, teardown] = [teardown] := by
    have ends : teardown.tearsDown = true := by decide +kernel
    rw [upToTeardown, if_pos ends]
  rw [owed]
  intro q hq digits hlength
  rw [List.mem_singleton.mp hq] at hlength
  cases hlength
  decide

/-- The header of a keep-alive whose Content-Length is so many zeros. -/
def keepAliveLines (n : Nat) : Bytes :=
  linesWithLength (encode "GET_PARAMETER * RTSP/1.0\r\nCSeq: 6\r\n".toList) n 48

private theorem keepAliveLines_ascii (n : Nat) : ∀ b ∈ keepAliveLines n, b < 0x80 := by
  intro b hb
  have front : ∀ b ∈ encode "GET_PARAMETER * RTSP/1.0\r\nCSeq: 6\r\n".toList ++
      encode "Content-Length: ".toList, b < 0x80 := by
    decide +kernel
  rcases List.mem_append.mp hb with inFront | inZeros
  · exact front b inFront
  · rw [List.eq_of_mem_replicate inZeros]
    decide

private theorem decode_keepAliveLines (n : Nat) : decode (keepAliveLines n) =
    "GET_PARAMETER * RTSP/1.0\r\nCSeq: 6\r\nContent-Length: ".toList ++
      List.replicate n '0' := by
  have text : decode (encode "GET_PARAMETER * RTSP/1.0\r\nCSeq: 6\r\n".toList ++
      encode "Content-Length: ".toList) =
      "GET_PARAMETER * RTSP/1.0\r\nCSeq: 6\r\nContent-Length: ".toList := by
    decide +kernel
  have zeros : decode (List.replicate n 48) = List.replicate n '0' := by
    rw [decode_ascii fun b hb => by rw [List.eq_of_mem_replicate hb]; decide, List.map_replicate]
    rfl
  have ascii := keepAliveLines_ascii n
  unfold keepAliveLines linesWithLength at ascii ⊢
  rw [decode_append_ascii ascii, text, zeros]

private theorem keepAlive_parts (zeros : Str) :
    "GET_PARAMETER * RTSP/1.0\r\nCSeq: 6\r\nContent-Length: ".toList ++ zeros =
      "GET_PARAMETER * RTSP/1.0\r\n".toList ++ ("CSeq:".toList ++ ([' '] ++ (['6'] ++
        ("\r\nContent-Length: ".toList ++ zeros)))) := by
  have front : "GET_PARAMETER * RTSP/1.0\r\nCSeq: 6\r\nContent-Length: ".toList =
      "GET_PARAMETER * RTSP/1.0\r\n".toList ++ ("CSeq:".toList ++ ([' '] ++ (['6'] ++
        "\r\nContent-Length: ".toList))) := by
    decide +kernel
  rw [front]
  simp only [List.append_assoc]

/-- A keep-alive without a body, whose Content-Length is 4301 zeros. -/
def longKeepAlive : SteadyRequest where
  lines := keepAliveLines 4301
  body := []
  cseq := ['6']
  length := some (List.replicate 4301 48)
  ascii := by
    intro b hb
    rw [List.append_nil] at hb
    rcases List.mem_append.mp hb with inLines | inBlank
    · exact keepAliveLines_ascii 4301 b inLines
    · have blank : ∀ b ∈ blankLine, b < 0x80 := by decide +kernel
      exact blank b inBlank
  isHeader := linesWithLength_isHeader (by decide) (by decide +kernel)
  method := by
    rw [decode_keepAliveLines]
    exact asksForAck_of_isInfix (by decide +kernel) (List.prefix_append _ _).isInfix
  oneCseq := by
    rw [decode_keepAliveLines]
    refine .of_parts "GET_PARAMETER * RTSP/1.0\r\n".toList "CSeq:".toList [' ']
      ("\r\nContent-Length: ".toList ++ List.replicate 4301 '0') rfl (by decide)
      (List.forall_mem_singleton.mpr (by decide)) (List.forall_mem_singleton.mpr (by decide)) nofun
      ?_ (keepAlive_parts _) ?_ (by decide +kernel)
    · intro d hd
      obtain rfl : d = '\r' := (Option.some.inj hd).symm
      decide
    · intro d hd
      rw [List.eq_of_mem_replicate hd]
      decide
  oneLength := by
    refine ⟨linesWithLength_only rfl rfl (by decide) (by decide +kernel), ?_⟩
    rw [List.map_replicate]
    exact ofDigits_zeros 4301
  bodyQuiet := by decide +kernel

/-- After a handshake that completes, the long keep-alive is not acked. -/
theorem long_keep_alive_is_not_acked :
    (valueOf (negotiate "192.168.173.80".toList (.fresh {} 1028
      [[sourceMessage 1, sourceMessage 2, sourceMessage 3, sourceMessage 4, sourceMessage 5,
        sourceMessage 6, sourceMessage 7].flatten]))).isSome = true ∧
    ¬ ∃ c1 c3 c4 c5 sessionId,
      (stateAfter (runControlSession "192.168.173.80".toList (.fresh {} 1028
          [[sourceMessage 1, sourceMessage 2, sourceMessage 3, sourceMessage 4, sourceMessage 5,
            sourceMessage 6, sourceMessage 7].flatten ++
              longKeepAlive.message]))).reader.sock.sent =
        ([m1Response c1, m2Request 1,
            m3Response c3 ((WfdNegotiator.new {} 1028).buildCapabilityBody
              (decode (sourceMessage 3))),
            okResponse c4, okResponse c5, m6Request "192.168.173.80".toList 2 1028,
            m7Request "192.168.173.80".toList 3 sessionId] ++
          acksFor [longKeepAlive]).map encode := by
  refine ⟨by rw [sourceMessage_returns]; rfl, ?_⟩
  rintro ⟨c1, c3, c4, c5, sessionId, sends⟩
  have fits : ¬ longKeepAlive.LengthFits := by
    intro fits
    have short := fits _ rfl
    rw [List.length_replicate] at short
    exact absurd short (by decide)
  have delivers := RtspReader.Delivers.of_chunks
    [[sourceMessage 1, sourceMessage 2, sourceMessage 3, sourceMessage 4, sourceMessage 5,
      sourceMessage 6, sourceMessage 7].flatten ++ longKeepAlive.message] fun c hc => by
    rw [List.mem_singleton.mp hc]
    exact List.append_ne_nil_of_left_ne_nil (by decide +kernel) _
  rw [List.flatten_singleton] at delivers
  obtain ⟨_, _, _, _, _, r, n, _, _, _, _, _, negotiated, _, left⟩ :=
    negotiate_of_messages sourceMessage_isFrame sourceMessage_returns delivers
  rw [← List.append_nil longKeepAlive.message] at left
  obtain ⟨r', raised, unsent⟩ := steadyRound_long (n := n) fits left
  have whole : runControlSession "192.168.173.80".toList (.fresh {} 1028
      [[sourceMessage 1, sourceMessage 2, sourceMessage 3, sourceMessage 4, sourceMessage 5,
        sourceMessage 6, sourceMessage 7].flatten ++ longKeepAlive.message]) =
      runSteadyState { reader := r, negotiator := n } := bind_of_ok negotiated
  rw [whole, stateAfter_runSteadyState (left.settimeout n), steadyLoop_eq, raised] at sends
  have sizes := congrArg List.length (unsent.symm.trans sends)
  rw [List.length_map, List.length_map, List.length_append] at sizes
  have owed := List.length_pos_iff.mpr (acksFor_cons_ne_nil longKeepAlive [])
  simp only [List.length_cons, List.length_nil] at sizes
  omega

end Castd.Wfdsink
