import Castd.Wfdsink.Handshake

/-!
# The handshake as a conversation

Over a socket that delivers whole messages, `negotiate` does nothing but pass them to the
negotiator and send what it answers. `converse` is that conversation with the socket taken away:
seven messages in, the texts the sink says out. `negotiate_speaks` is the refinement: on every
stream that starts with the seven messages, however it is cut, `negotiate` returns or raises as
the conversation does, has sent what was said, and leaves the rest of the stream unread.

The refinement is put together by one rule for each statement of `negotiate`.
-/

namespace Castd.Wfdsink

open Lib WfdNegotiator

/-! ## A socket that delivers -/

/-- The reader has `stream` still to return, in whatever chunks, and then the peer's close; every
`sendall` returns, and those before have sent `sent`. -/
structure RtspReader.Delivers (r : RtspReader) (stream : Bytes) (sent : List Bytes) : Prop where
  inbound : ∃ chunks : List Bytes, r.sock.inbound = chunks.map .data ∧ (∀ c ∈ chunks, c ≠ []) ∧
    r.buf ++ chunks.flatten = stream
  sends : r.sock.sends = []
  timeouts : r.sock.timeouts = []
  sent : r.sock.sent = sent

namespace RtspReader.Delivers

variable {r : RtspReader} {stream m rest : Bytes} {sent : List Bytes}

theorem of_chunks (chunks : List Bytes) (nonempty : ∀ c ∈ chunks, c ≠ []) :
    ({ sock := { inbound := chunks.map .data } } : RtspReader).Delivers chunks.flatten [] :=
  ⟨⟨chunks, rfl, nonempty, rfl⟩, rfl, rfl, rfl⟩

/-- The next message is the first frame of the stream. -/
theorem nextMessage_frame (h : r.Delivers stream sent) (frame : IsFrame stream m rest) :
    ∃ r', r.nextMessage = .ok (decode m) r' ∧ r'.Delivers rest sent := by
  obtain ⟨⟨chunks, inbound, nonempty, rfl⟩, sends, timeouts, sent⟩ := h
  have scanned : rtspFramer.scan (r.buf ++ chunks.flatten) = .frame m rest :=
    scanMessage_eq_frame_iff.mpr frame
  obtain ⟨buf, unread, hread, kept, nonempty'⟩ := Framer.read_of_frame nonempty scanned
  have read : r.nextMessage = .ok (decode m) (r.leaving buf (unread.map .data)) := by
    rw [RtspReader.nextMessage, inbound, readMessage_data, hread]
    rfl
  exact ⟨_, read, ⟨unread, rfl, nonempty', kept⟩, sends, timeouts, sent⟩

/-- Where no frame is left, the next message is the rest of the stream. -/
theorem nextMessage_more (h : r.Delivers stream sent) (more : scanMessage stream = .more) :
    ∃ r', r.nextMessage = .ok (decode stream) r' ∧ r'.Delivers [] sent := by
  obtain ⟨⟨chunks, inbound, nonempty, rfl⟩, sends, timeouts, sent⟩ := h
  have hread := Framer.read_of_more (F := rtspFramer) nonempty more
  have read : r.nextMessage = .ok (decode (r.buf ++ chunks.flatten)) (r.leaving [] []) := by
    rw [RtspReader.nextMessage, inbound, readMessage_data, hread]
    rfl
  exact ⟨_, read, ⟨[], rfl, List.forall_mem_nil _, rfl⟩, sends, timeouts, sent⟩

/-- Where the reader raises, it keeps the stream. -/
theorem nextMessage_fails (h : r.Delivers stream sent) {e : PyError}
    (fails : scanMessage stream = .fails e) :
    ∃ r', r.nextMessage = .error e r' ∧ r'.Delivers stream sent := by
  obtain ⟨⟨chunks, inbound, nonempty, rfl⟩, sends, timeouts, sent⟩ := h
  obtain ⟨buf, unread, hread, kept, nonempty'⟩ :=
    Framer.read_of_fails (F := rtspFramer) nonempty fails
  have raised : r.nextMessage = .error e (r.leaving buf (unread.map .data)) := by
    rw [RtspReader.nextMessage, inbound, readMessage_data, hread]
    rfl
  exact ⟨_, raised, ⟨unread, rfl, nonempty', kept⟩, sends, timeouts, sent⟩

/-- After the stream the message is empty. -/
theorem nextMessage_end (h : r.Delivers [] sent) :
    ∃ r', r.nextMessage = .ok [] r' ∧ r'.Delivers [] sent := h.nextMessage_more rfl

/-- A send is recorded. -/
theorem sendall (h : r.Delivers stream sent) (data : Bytes) :
    ∃ sock, r.sock.sendall data = .ok () sock ∧
      ({ r with sock := sock } : RtspReader).Delivers stream (sent ++ [data]) := by
  obtain ⟨inbound, sends, timeouts, sent⟩ := h
  have done : r.sock.sendall data =
      .ok () { r.sock with sends := [], sent := r.sock.sent ++ [data] } := by
    rw [Sock.sendall, sends]
  exact ⟨_, done, inbound, rfl, timeouts, by rw [← sent]⟩

/-- A timeout is set, and nothing else happens. -/
theorem settimeout (h : r.Delivers stream sent) (n : WfdNegotiator) :
    Wfdsink.settimeout { reader := r, negotiator := n } =
      .ok () { reader := r, negotiator := n } := by
  have set : r.sock.settimeout = .ok () r.sock := by
    rw [Sock.settimeout, h.timeouts]
  exact focus_of_ok set

end RtspReader.Delivers

/-! ## The conversation -/

/-- Says a text before the rest of a conversation. -/
def say {α : Type} (text : Str) (rest : Negotiating (List Str × α)) :
    Negotiating (List Str × α) := do
  let (said, a) ← rest
  return (text :: said, a)

/-- The handshake of the negotiator alone. -/
def converse (sourceIp m1 m3 m4 m5 m6 m7 : Str) : Negotiating (List Str × WfdSessionParams) := do
  let m1Response ← handleM1Options m1
  say m1Response do
    let m2Request ← buildM2OptionsRequest
    say m2Request do
      let m3Response ← handleM3GetParameter m3
      say m3Response do
        let m4Response ← handleM4SetParameter m4
        say m4Response do
          let m5Response ← handleM5Generic m5
          say m5Response do
            let m6Request ← buildM6SetupRequest sourceIp
            say m6Request do
              let session ← parseM6Response m6
              let m7Request ← buildM7PlayRequest sourceIp
              say m7Request do
                confirmStreaming m7
                return ([], session)

/-- Over a socket that delivers the messages, `x` does what the conversation `y` does. -/
def Speaks {α : Type} (x : Running α) (y : Negotiating (List Str × α)) (messages : List Bytes) :
    Prop :=
  ∀ (r : RtspReader) (n : WfdNegotiator) (rest : Bytes) (sent : List Bytes),
    r.Delivers (messages.flatten ++ rest) sent →
      match y n with
      | .ok (said, a) n' => ∃ r', x { reader := r, negotiator := n } =
          .ok a { reader := r', negotiator := n' } ∧ r'.Delivers rest (sent ++ said.map encode)
      | .error e _ => ∃ s', x { reader := r, negotiator := n } = .error e s'

section

variable {α β : Type} {messages : List Bytes}

private theorem speaks_return {a : α} : Speaks (pure a) (pure ([], a)) [] := by
  intro r n rest sent delivers
  exact ⟨r, rfl, by simpa using delivers⟩

private theorem speaks_read {m : Bytes} {k : Str → Running α} {y : Negotiating (List Str × α)}
    (message : IsFrame m m []) (rest : Speaks (k (decode m)) y messages) :
    Speaks (nextMessage >>= k) y (m :: messages) := by
  intro r n after sent delivers
  have first : IsFrame ((m :: messages).flatten ++ after) m (messages.flatten ++ after) :=
    ⟨by rw [List.flatten_cons, List.append_assoc], message.shape⟩
  obtain ⟨r', read, delivers'⟩ := delivers.nextMessage_frame first
  have hnext : nextMessage { reader := r, negotiator := n } =
      .ok (decode m) { reader := r', negotiator := n } := focus_of_ok read
  rw [bind_of_ok hnext]
  exact rest r' n after sent delivers'

private theorem speaks_send {text : Str} {k : Unit → Running α} {y : Negotiating (List Str × α)}
    (rest : Speaks (k ()) y messages) : Speaks (sendall text >>= k) (say text y) messages := by
  intro r n after sent delivers
  obtain ⟨sock, sending, delivers'⟩ := delivers.sendall (encode text)
  have hsend : sendall text { reader := r, negotiator := n } =
      .ok () { reader := { r with sock := sock }, negotiator := n } := focus_of_ok sending
  rw [bind_of_ok hsend]
  have spoken := rest _ n after _ delivers'
  unfold say
  cases hy : y n with
  | ok result n' =>
    obtain ⟨said, a⟩ := result
    rw [hy] at spoken
    obtain ⟨r', hk, delivers''⟩ := spoken
    rw [bind_of_ok hy]
    refine ⟨r', hk, ?_⟩
    rwa [List.append_assoc] at delivers''
  | error e n' =>
    rw [hy] at spoken
    rw [bind_of_error hy]
    exact spoken

private theorem speaks_call {method : Negotiating β} {k : β → Running α}
    {y : β → Negotiating (List Str × α)} (rest : ∀ b, Speaks (k b) (y b) messages) :
    Speaks (onNegotiator method >>= k) (method >>= y) messages := by
  intro r n after sent delivers
  cases hmethod : method n with
  | ok b n' =>
    have called : onNegotiator method { reader := r, negotiator := n } =
        .ok b { reader := r, negotiator := n' } := focus_of_ok hmethod
    rw [bind_of_ok called, bind_of_ok hmethod]
    exact rest b r n' after sent delivers
  | error e n' =>
    have raised : onNegotiator method { reader := r, negotiator := n } =
        .error e { reader := r, negotiator := n' } := focus_of_error hmethod
    rw [bind_of_error raised, bind_of_error hmethod]
    exact ⟨_, rfl⟩

end

/-- `negotiate` over the socket is the conversation. -/
theorem negotiate_speaks (sourceIp : Str) {m1 m2 m3 m4 m5 m6 m7 : Bytes}
    (messages : ∀ m ∈ [m1, m2, m3, m4, m5, m6, m7], IsFrame m m []) :
    Speaks (negotiate sourceIp)
      (converse sourceIp (decode m1) (decode m3) (decode m4) (decode m5) (decode m6) (decode m7))
      [m1, m2, m3, m4, m5, m6, m7] := by
  refine speaks_read (messages m1 (by simp)) (speaks_call fun _ => speaks_send ?_)
  refine speaks_call fun _ => speaks_send ?_
  refine speaks_read (messages m2 (by simp)) ?_
  refine speaks_read (messages m3 (by simp)) (speaks_call fun _ => speaks_send ?_)
  refine speaks_read (messages m4 (by simp)) (speaks_call fun _ => speaks_send ?_)
  refine speaks_read (messages m5 (by simp)) (speaks_call fun _ => speaks_send ?_)
  refine speaks_call fun _ => speaks_send ?_
  refine speaks_read (messages m6 (by simp)) (speaks_call fun _ => ?_)
  refine speaks_call fun _ => speaks_send ?_
  exact speaks_read (messages m7 (by simp)) (speaks_call fun _ => speaks_return)

/-! ## What the sink says -/

/-- A text said is what a method returns, and the rest of the conversation follows. -/
theorem say_eq_ok {α : Type} {method : Negotiating Str} {y : Str → Negotiating (List Str × α)}
    {n n' : WfdNegotiator} {said : List Str} {a : α}
    (h : (method >>= fun text => say text (y text)) n = .ok (said, a) n') :
    ∃ text n'' others, method n = .ok text n'' ∧ y text n'' = .ok (others, a) n' ∧
      said = text :: others := by
  obtain ⟨text, n'', called, saying⟩ := bind_eq_ok_iff.mp h
  obtain ⟨⟨others, b⟩, n₂, rest, last⟩ := bind_eq_ok_iff.mp saying
  cases last
  exact ⟨text, n'', others, called, rest, rfl⟩

/-- A handshake that completes: the sink has answered M1, M3, M4 and M5 with the CSeq it found in
each, and its own requests are numbered 1, 2 and 3, the last with the session id it recorded. -/
theorem converse_eq_ok {sourceIp m1 m3 m4 m5 m6 m7 : Str} {n n' : WfdNegotiator}
    {said : List Str} {session : WfdSessionParams} (fresh : n.ownCseq = 0)
    (h : converse sourceIp m1 m3 m4 m5 m6 m7 n = .ok (said, session) n') :
    ∃ c1 c3 c4 c5 sessionId, cseqRe.search m1 = some c1 ∧ cseqRe.search m3 = some c3 ∧
      cseqRe.search m4 = some c4 ∧ cseqRe.search m5 = some c5 ∧
      sessionRe.search m6 = some sessionId ∧ session.sessionId = some sessionId ∧
      said = [m1Response c1, m2Request 1, m3Response c3 (n.buildCapabilityBody m3), okResponse c4,
        okResponse c5, m6Request sourceIp 2 n.session.sinkRtpPort,
        m7Request sourceIp 3 sessionId] ∧
      n'.state = .streaming := by
  obtain ⟨_, _, said1, h1, rest1, rfl⟩ := say_eq_ok h
  obtain ⟨_, c1, _, cseq1, replied1, rfl⟩ := answerRequest_eq_ok h1
  cases replied1
  obtain ⟨_, _, said2, h2, rest2, rfl⟩ := say_eq_ok rest1
  cases h2
  obtain ⟨_, _, said3, h3, rest3, rfl⟩ := say_eq_ok rest2
  obtain ⟨_, c3, _, cseq3, replied3, rfl⟩ := answerRequest_eq_ok h3
  cases replied3
  obtain ⟨_, _, said4, h4, rest4, rfl⟩ := say_eq_ok rest3
  obtain ⟨_, c4, _, cseq4, replied4, rfl⟩ := answerRequest_eq_ok h4
  cases replied4
  obtain ⟨_, _, said5, h5, rest5, rfl⟩ := say_eq_ok rest4
  obtain ⟨_, c5, _, cseq5, replied5, rfl⟩ := answerRequest_eq_ok h5
  cases replied5
  obtain ⟨_, _, said6, h6, rest6, rfl⟩ := say_eq_ok rest5
  cases h6
  obtain ⟨_, _, parsed, rest⟩ := bind_eq_ok_iff.mp rest6
  obtain ⟨_, sessionId, _, _, found, _, rfl, rfl⟩ := parseM6Response_eq_ok rfl parsed
  obtain ⟨_, _, said7, h7, rest7, rfl⟩ := say_eq_ok rest
  rw [buildM7PlayRequest_ok sourceIp rfl] at h7
  cases h7
  obtain ⟨_, _, confirmed, last⟩ := bind_eq_ok_iff.mp rest7
  obtain ⟨_, rfl⟩ := confirmStreaming_eq_ok rfl confirmed
  cases last
  refine ⟨c1, c3, c4, c5, sessionId, cseq1, cseq3, cseq4, cseq5, found, rfl, ?_, rfl⟩
  obtain ⟨_, _, uibc⟩ := withUibcPort_frame n.session m4
  have port : (withUibcPort n.session m4).sinkRtpPort = n.session.sinkRtpPort := by rw [uibc]
  show [m1Response c1, m2Request (n.ownCseq + 1), m3Response c3 (n.buildCapabilityBody m3),
    okResponse c4, okResponse c5,
    m6Request sourceIp (n.ownCseq + 1 + 1) (withUibcPort n.session m4).sinkRtpPort,
    m7Request sourceIp (n.ownCseq + 1 + 1 + 1) sessionId] = _
  rw [port, fresh]

end Castd.Wfdsink
