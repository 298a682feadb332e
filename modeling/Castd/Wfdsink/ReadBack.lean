import Castd.Config
import Castd.Wfdsink.CapabilityAnswer
import Castd.Wfdsink.Transcript

/-!
# What a peer reads

A peer that reads as the sink does gets what the sink sends back, one text for one message, exactly
when the response to M3 is never sent or what M3 asks for is ASCII (`peer_reads_back_iff`). All
other messages of a control session are frames, whatever the source sends.
-/

namespace Castd.Wfdsink

open Lib WfdNegotiator

/-! ## A peer that reads -/

/-- A peer reads back what was sent: over every cut into chunks the calls of `next_message` return
the texts, one for one, and then "". -/
def ReadsBack (sent : List Bytes) : Prop :=
  ∃ said : List Str, sent = said.map encode ∧
    ∀ chunks : List Bytes, (∀ c ∈ chunks, c ≠ []) → chunks.flatten = sent.flatten →
      ∃ r r', RtspReader.nextMessages said.length
        { sock := { inbound := chunks.map .data } } = .ok said r ∧ r.nextMessage = .ok [] r'

private theorem isFrame_append {m : Bytes} (frame : IsFrame m m []) (rest : Bytes) :
    IsFrame (m ++ rest) m rest := ⟨rfl, frame.shape⟩

private theorem nextMessages_texts {said : List Str} : ∀ {r : RtspReader} {rest : Bytes}
    {sent : List Bytes}, (∀ text ∈ said, IsFrame (encode text) (encode text) []) →
      r.Delivers ((said.map encode).flatten ++ rest) sent →
        ∃ r', RtspReader.nextMessages said.length r = .ok said r' ∧ r'.Delivers rest sent := by
  induction said with
  | nil => exact fun _ delivers => ⟨_, rfl, delivers⟩
  | cons text said ih =>
    intro r rest sent frames delivers
    rw [List.map_cons, List.flatten_cons, List.append_assoc] at delivers
    rw [List.forall_mem_cons] at frames
    obtain ⟨r₁, read, delivers₁⟩ := delivers.nextMessage_frame (isFrame_append frames.1 _)
    obtain ⟨r₂, reads, delivers₂⟩ := ih frames.2 delivers₁
    rw [decode_encode] at read
    refine ⟨r₂, ?_, delivers₂⟩
    rw [List.length_cons, RtspReader.nextMessages, bind_of_ok read, bind_of_ok reads]
    rfl

private theorem readsBack_of_frames {said : List Str}
    (frames : ∀ text ∈ said, IsFrame (encode text) (encode text) []) :
    ReadsBack (said.map encode) := by
  refine ⟨said, rfl, fun chunks nonempty whole => ?_⟩
  have delivers := RtspReader.Delivers.of_chunks chunks nonempty
  rw [whole, ← List.append_nil (List.flatten _)] at delivers
  obtain ⟨r, reads, delivers⟩ := nextMessages_texts frames delivers
  obtain ⟨r', read, _⟩ := delivers.nextMessage_end
  exact ⟨r, r', reads, read⟩

/-- A text of plain lines is a frame of its own. -/
theorem headerText_isFrame_alone {lines : List Str} (some_lines : lines ≠ [])
    (plain : ∀ line ∈ lines, PlainLine (encode line)) :
    IsFrame (encode (headerText lines)) (encode (headerText lines)) [] := by
  have frame := headerText_isFrame some_lines plain []
  rwa [List.append_nil] at frame

theorem okResponse_isFrame {cseq : Str} (clean : Clean cseq) :
    IsFrame (encode (okResponse cseq)) (encode (okResponse cseq)) [] := by
  rw [okResponse_eq]
  refine headerText_isFrame_alone (List.cons_ne_nil _ _) ?_
  rw [List.forall_mem_cons, List.forall_mem_singleton]
  exact ⟨fixedLine_plain (by decide), fieldLine_plain (by decide) clean⟩

theorem m1Response_isFrame {cseq : Str} (clean : Clean cseq) :
    IsFrame (encode (m1Response cseq)) (encode (m1Response cseq)) [] := by
  rw [m1Response_eq]
  refine headerText_isFrame_alone (List.cons_ne_nil _ _) ?_
  rw [List.forall_mem_cons, List.forall_mem_cons, List.forall_mem_singleton]
  exact ⟨fixedLine_plain (by decide), fieldLine_plain (by decide) clean,
    fixedLine_plain (by decide)⟩

theorem m2Request_isFrame (cseq : Nat) :
    IsFrame (encode (m2Request cseq)) (encode (m2Request cseq)) [] := by
  rw [m2Request_eq]
  refine headerText_isFrame_alone (List.cons_ne_nil _ _) ?_
  rw [List.forall_mem_cons, List.forall_mem_cons, List.forall_mem_singleton]
  exact ⟨fixedLine_plain (by decide), fieldLine_plain (by decide) (clean_decimal cseq),
    fixedLine_plain (by decide)⟩

theorem m6Request_isFrame {sourceIp : Str} (host : Clean sourceIp) (cseq port : Nat) :
    IsFrame (encode (m6Request sourceIp cseq port)) (encode (m6Request sourceIp cseq port)) [] := by
  have transport : Clean "RTP/AVP/UDP;unicast;client_port=".toList := by
    unfold Clean
    decide +kernel
  rw [m6Request_eq]
  refine headerText_isFrame_alone (List.cons_ne_nil _ _) ?_
  rw [List.forall_mem_cons, List.forall_mem_cons, List.forall_mem_singleton]
  exact ⟨streamLine_plain (by decide) host, fieldLine_plain (by decide) (clean_decimal cseq),
    fieldLine_plain (by decide) (clean_append transport (clean_decimal port))⟩

theorem m7Request_isFrame {sourceIp sessionId : Str} (host : Clean sourceIp)
    (clean : Clean sessionId) (cseq : Nat) :
    IsFrame (encode (m7Request sourceIp cseq sessionId))
      (encode (m7Request sourceIp cseq sessionId)) [] := by
  rw [m7Request_eq]
  refine headerText_isFrame_alone (List.cons_ne_nil _ _) ?_
  rw [List.forall_mem_cons, List.forall_mem_cons, List.forall_mem_singleton]
  exact ⟨streamLine_plain (by decide) host, fieldLine_plain (by decide) (clean_decimal cseq),
    fieldLine_plain (by decide) clean⟩

/-! ## What the sink sends are frames -/

/-- Between two states the sink has sent texts that are frames, and nothing else. -/
def FramesBetween (s t : ControlSession) : Prop :=
  ∃ said : List Str, t.reader.sock.sent = s.reader.sock.sent ++ said.map encode ∧
    ∀ text ∈ said, IsFrame (encode text) (encode text) []

namespace FramesBetween

variable {α β : Type} {s t u : ControlSession}

private theorem of_sent_eq (same : t.reader.sock.sent = s.reader.sock.sent) : FramesBetween s t :=
  ⟨[], by rw [same, List.map_nil, List.append_nil], nofun⟩

theorem trans (h : FramesBetween s t) (h' : FramesBetween t u) : FramesBetween s u := by
  obtain ⟨said, sent, frames⟩ := h
  obtain ⟨later, sent', frames'⟩ := h'
  refine ⟨said ++ later, ?_, List.forall_mem_append.mpr ⟨frames, frames'⟩⟩
  rw [sent', sent, List.append_assoc, List.map_append]

/-- What one action and those after it send. -/
theorem bind {x : Running α} {k : α → Running β} (first : FramesBetween s (stateAfter (x s)))
    (rest : ∀ a s', x s = .ok a s' → FramesBetween s' (stateAfter (k a s'))) :
    FramesBetween s (stateAfter ((x >>= k) s)) := by
  cases hx : x s with
  | ok a s' =>
    rw [hx] at first
    rw [bind_of_ok hx]
    exact first.trans (rest a s' hx)
  | error e s' =>
    rw [hx] at first
    rw [bind_of_error hx]
    exact first

theorem nextMessage : FramesBetween s (stateAfter (nextMessage s)) := by
  have same : ∀ r : RtspReader, (stateAfter r.nextMessage).sock.sent = r.sock.sent := by
    intro r
    unfold RtspReader.nextMessage
    split <;> rfl
  refine of_sent_eq ?_
  unfold Wfdsink.nextMessage
  rw [stateAfter_focus]
  exact same s.reader

theorem onNegotiator (method : Negotiating α) :
    FramesBetween s (stateAfter (onNegotiator method s)) := by
  refine of_sent_eq ?_
  unfold Wfdsink.onNegotiator
  rw [stateAfter_focus]

theorem sendall {text : Str} (frame : IsFrame (encode text) (encode text) []) :
    FramesBetween s (stateAfter (sendall text s)) := by
  cases sent : Wfdsink.sendall text s with
  | ok _ s' =>
    obtain ⟨_, _, _, added⟩ := sendall_adds sent
    exact ⟨[text], added, List.forall_mem_singleton.mpr frame⟩
  | error e s' => exact of_sent_eq (sendall_adds_nothing sent)

/-- A request that is read and answered. -/
theorem answer {handle : Str → Negotiating Str} {k : Running α}
    (frame : ∀ m n response n', handle m n = .ok response n' →
      IsFrame (encode response) (encode response) [])
    (rest : ∀ s', FramesBetween s' (stateAfter (k s'))) :
    FramesBetween s (stateAfter ((do
      let request ← Wfdsink.nextMessage
      let response ← Wfdsink.onNegotiator (handle request)
      Wfdsink.sendall response
      k) s)) := by
  refine nextMessage.bind fun m s₁ _ => (onNegotiator _).bind fun response s₂ answered => ?_
  obtain ⟨n', handled, _⟩ := focus_eq_ok_iff.mp answered
  exact (sendall (frame _ _ _ _ handled)).bind fun _ s₃ _ => rest s₃

end FramesBetween

private theorem clean_cseq {message c : Str} (h : cseqRe.search message = some c) : Clean c :=
  clean_of_search h (by decide) (by decide)

private theorem answerRequest_isFrame {what : String} {state next : WfdState}
    {request response : Str}
    {reply : Str → Negotiating Str} {n n' : WfdNegotiator}
    (h : answerRequest what state next request reply n = .ok response n')
    (frame : ∀ c n'', Clean c → reply c n = .ok response n'' →
      IsFrame (encode response) (encode response) []) :
    IsFrame (encode response) (encode response) [] := by
  obtain ⟨_, c, n'', cseq, replied, _⟩ := answerRequest_eq_ok h
  exact frame c n'' (clean_cseq cseq) replied

private theorem readUpToM3_frames (s : ControlSession) :
    FramesBetween s (stateAfter (readUpToM3 s)) := by
  refine .answer (fun m n response n' handled => ?_) fun s₁ => ?_
  · refine answerRequest_isFrame handled fun c n'' clean replied => ?_
    cases replied
    exact m1Response_isFrame clean
  · refine (FramesBetween.onNegotiator _).bind fun request s₂ built => ?_
    obtain ⟨n', handled, _⟩ := focus_eq_ok_iff.mp built
    cases handled
    refine (FramesBetween.sendall (m2Request_isFrame _)).bind fun _ s₃ _ => ?_
    refine FramesBetween.nextMessage.bind fun _ s₄ _ => ?_
    exact FramesBetween.nextMessage.bind fun _ s₅ _ => .onNegotiator _

private theorem closeHandshake_frames {sourceIp : Str} (host : Clean sourceIp)
    (s : ControlSession) :
    FramesBetween s (stateAfter (closeHandshake sourceIp s)) := by
  refine .answer (fun m n response n' handled => ?_) fun s₁ => ?_
  · refine answerRequest_isFrame handled fun c n'' clean replied => ?_
    cases replied
    exact okResponse_isFrame clean
  refine .answer (fun m n response n' handled => ?_) fun s₂ => ?_
  · refine answerRequest_isFrame handled fun c n'' clean replied => ?_
    cases replied
    exact okResponse_isFrame clean
  refine (FramesBetween.onNegotiator _).bind fun request s₃ built => ?_
  obtain ⟨n', handled, _⟩ := focus_eq_ok_iff.mp built
  cases handled
  refine (FramesBetween.sendall (m6Request_isFrame host _ _)).bind fun _ s₄ _ => ?_
  refine FramesBetween.nextMessage.bind fun m6 s₅ _ => ?_
  refine (FramesBetween.onNegotiator _).bind fun session s₆ parsed => ?_
  -- PLAY carries the session id that the response to M6 has just been found to hold
  obtain ⟨n₆, hparsed, rfl⟩ := focus_eq_ok_iff.mp parsed
  obtain ⟨stands, _⟩ := expect_bind_eq_ok hparsed
  obtain ⟨_, sessionId, _, _, found, _, rfl, rfl⟩ := parseM6Response_eq_ok stands hparsed
  have cleanId : Clean sessionId := clean_of_search found (by decide) (by decide)
  refine (FramesBetween.onNegotiator _).bind fun request s₇ built => ?_
  obtain ⟨n₇, hbuilt, rfl⟩ := focus_eq_ok_iff.mp built
  rw [buildM7PlayRequest_ok sourceIp rfl] at hbuilt
  cases hbuilt
  refine (FramesBetween.sendall (m7Request_isFrame host cleanId _)).bind fun _ s₈ _ => ?_
  refine FramesBetween.nextMessage.bind fun m7 s₉ _ => ?_
  exact (FramesBetween.onNegotiator _).bind fun _ _ _ => .of_sent_eq rfl

private theorem clean_of_acksOf {entries : List Str} : ∀ {acks : List Str} {n n' : WfdNegotiator},
    acksOf entries n = .ok acks n' → ∀ ack ∈ acks, ∃ c, Clean c ∧ ack = okResponse c := by
  induction entries with
  | nil =>
    intro acks n n' h
    cases h
    exact nofun
  | cons entry entries ih =>
    intro acks n n' h
    unfold acksOf at h
    split at h
    · obtain ⟨c, n₁, extracted, rest⟩ := bind_eq_ok_iff.mp h
      obtain ⟨others, n₂, later, last⟩ := bind_eq_ok_iff.mp rest
      cases last
      rw [List.forall_mem_cons]
      refine ⟨⟨c, ?_, rfl⟩, ih later⟩
      cases cseq : cseqRe.search entry with
      | none => cases (extractCseq_of_none cseq).symm.trans extracted
      | some c' =>
        cases (extractCseq_of_some cseq).symm.trans extracted
        exact clean_cseq cseq
    · exact ih h

private theorem sendAll_frames {texts : List Str}
    (frames : ∀ text ∈ texts, IsFrame (encode text) (encode text) []) :
    ∀ s : ControlSession, FramesBetween s (stateAfter (sendAll texts s)) := by
  induction texts with
  | nil => exact fun s => .of_sent_eq rfl
  | cons text texts ih =>
    intro s
    rw [List.forall_mem_cons] at frames
    exact (FramesBetween.sendall frames.1).bind fun _ s' _ => ih frames.2 s'

private theorem ackMessage_frames (message : Str) (s : ControlSession) :
    FramesBetween s (stateAfter (ackMessage message s)) := by
  unfold ackMessage
  split
  · exact .of_sent_eq rfl
  · refine (FramesBetween.onNegotiator _).bind fun acks s₁ built => sendAll_frames ?_ s₁
    obtain ⟨n', acked, _⟩ := focus_eq_ok_iff.mp built
    obtain ⟨_, collected⟩ := expect_bind_eq_ok acked
    intro ack hack
    obtain ⟨c, clean, rfl⟩ := clean_of_acksOf collected ack hack
    exact okResponse_isFrame clean

private theorem steadyRound_frames (s : ControlSession) :
    FramesBetween s (stateAfter (steadyRound s)) := by
  have read : FramesBetween s (stateAfter (nextSteadyMessage s)) := by
    have next : FramesBetween s (stateAfter (nextMessage s)) := .nextMessage
    unfold nextSteadyMessage
    cases h : nextMessage s with
    | ok message s' =>
      rw [h] at next
      exact next
    | error e s' =>
      rw [h] at next
      cases e <;> exact next
  refine read.bind fun next s₁ _ => ?_
  cases next with
  | none => exact .of_sent_eq rfl
  | some message => exact (ackMessage_frames message s₁).bind fun _ _ _ => .of_sent_eq rfl

private theorem steadyLoop_frames (s : ControlSession) :
    FramesBetween s (stateAfter (steadyLoop s)) := by
  induction hlen : s.reader.unread.length using Nat.strongRecOn generalizing s with
  | ind len ih =>
    have round := steadyRound_frames s
    rw [steadyLoop_eq]
    cases h : steadyRound s with
    | ok goesOn s' =>
      rw [h] at round
      cases goesOn with
      | true => exact round.trans (ih _ (hlen ▸ steadyRound_unread h) s' rfl)
      | false => exact round
    | error e s' =>
      rw [h] at round
      exact round

private theorem runSteadyState_frames (s : ControlSession) :
    FramesBetween s (stateAfter (runSteadyState s)) := by
  rcases settimeout_cases s with ⟨_, timeouts, set⟩ | ⟨_, fault, timeouts, raised⟩
  · have before : FramesBetween s (s.timeoutSet timeouts) := .of_sent_eq rfl
    rw [stateAfter_runSteadyState set]
    exact before.trans ((steadyLoop_frames _).trans (.of_sent_eq rfl))
  · rw [runSteadyState, bind_of_error raised]
    exact .of_sent_eq rfl

/-! ## The session -/

/-- The names that M3 asks for are ASCII, and its response has a Content-Length that `int()`
converts. -/
structure ReadableAnswer (n : WfdNegotiator) (m3 : Str) : Prop where
  ascii : AsciiAnswer n.capabilities m3
  fits : (decimal (n.buildCapabilityBody m3).length).length ≤ maxStrDigits

/-- What a session sends that comes to answer M3: the response to M1, M2, the response to M3, and
then frames. -/
private theorem runControlSession_sent {sourceIp : Str} (host : Clean sourceIp) {s : ControlSession}
    (stands : s.negotiator.state = .waitM1) :
    FramesBetween s (stateAfter (runControlSession sourceIp s)) ∧
        (∀ m3, ¬ AnswersM3 s.reader m3) ∨
      ∃ m3 c1 c3 said, AnswersM3 s.reader m3 ∧ Clean c1 ∧ Clean c3 ∧
        (stateAfter (runControlSession sourceIp s)).reader.sock.sent = s.reader.sock.sent ++
          (m1Response c1 :: m2Request (s.negotiator.ownCseq + 1) ::
            m3Response c3 (s.negotiator.buildCapabilityBody m3) :: said).map encode ∧
        ∀ text ∈ said, IsFrame (encode text) (encode text) [] := by
  have later : ∀ s₁, FramesBetween s₁ (stateAfter ((closeHandshake sourceIp >>= fun _ =>
      runSteadyState) s₁)) :=
    fun s₁ => (closeHandshake_frames host s₁).bind fun _ s₂ _ => runSteadyState_frames s₂
  have whole : runControlSession sourceIp =
      openHandshake >>= fun _ => closeHandshake sourceIp >>= fun _ => runSteadyState := by
    unfold runControlSession
    rw [negotiate_eq, bind_assoc]
  rw [whole]
  rcases openHandshake_decides s stands with returned | raised
  · right
    obtain ⟨⟨_, s₁, opened⟩, _⟩ := returned
    obtain ⟨m3, c1, c3, m1, answers, cseq1, cseq3, sent⟩ := openHandshake_sent stands opened
    obtain ⟨said, sent', frames⟩ := later s₁
    refine ⟨m3, c1, c3, said, answers, clean_cseq cseq1, clean_cseq cseq3, ?_, frames⟩
    rw [bind_of_ok opened, sent', sent, List.append_assoc, ← List.map_append]
    rfl
  · left
    obtain ⟨⟨e, s₁, opened, _⟩, fails⟩ := raised
    refine ⟨?_, fun m3 answers => fails answers.passes⟩
    rw [bind_of_error opened]
    have reads := readUpToM3_frames s
    unfold openHandshake at opened
    cases hread : readUpToM3 s with
    | ok response s₂ =>
      rw [hread] at reads
      rw [bind_of_ok hread] at opened
      exact reads.trans (.of_sent_eq (sendall_adds_nothing opened))
    | error e' s₂ =>
      rw [hread] at reads
      rw [bind_of_error hread] at opened
      cases opened
      exact reads

private theorem nextMessages_skip {k : Nat} {m : Str} {ms : List Str} {r r' : RtspReader}
    {rest : Bytes}
    {sent : List Bytes} (frame : IsFrame (encode m) (encode m) [])
    (delivers : r.Delivers (encode m ++ rest) sent)
    (h : RtspReader.nextMessages (k + 1) r = .ok (m :: ms) r') :
    ∃ r₁, r₁.Delivers rest sent ∧ RtspReader.nextMessages k r₁ = .ok ms r' := by
  obtain ⟨r₁, read, reads⟩ := nextMessages_cons_eq_ok h
  obtain ⟨r₂, next, delivers'⟩ := delivers.nextMessage_frame (isFrame_append frame rest)
  rw [decode_encode] at next
  cases next.symm.trans read
  exact ⟨_, delivers', reads⟩

private theorem readable_of_readsBack {n : WfdNegotiator} {m3 c1 c3 : Str} {cseq : Nat}
    {said : List Str} (clean1 : Clean c1) (clean3 : Clean c3)
    (reads : ReadsBack ((m1Response c1 :: m2Request cseq ::
      m3Response c3 (n.buildCapabilityBody m3) :: said).map encode)) : ReadableAnswer n m3 := by
  obtain ⟨texts, same, reads⟩ := reads
  obtain rfl := (List.map_injective_iff.mpr encode_injective) same
  have first := m1Response_isFrame clean1
  have some_bytes : encode (m1Response c1) ≠ [] :=
    (rtspFramer.frame_eq (scanMessage_eq_frame_iff.mpr first)).2
  -- a peer that gets everything in one chunk
  have nonempty : ∀ c ∈ [((m1Response c1 :: m2Request cseq ::
      m3Response c3 (n.buildCapabilityBody m3) :: said).map encode).flatten], c ≠ [] :=
    List.forall_mem_singleton.mpr (List.append_ne_nil_of_left_ne_nil some_bytes _)
  obtain ⟨r, _, read, _⟩ := reads _ nonempty List.flatten_singleton
  have delivers := RtspReader.Delivers.of_chunks _ nonempty
  rw [List.flatten_singleton] at delivers
  obtain ⟨r₁, delivers₁, read₁⟩ := nextMessages_skip first delivers read
  obtain ⟨r₂, delivers₂, read₂⟩ := nextMessages_skip (m2Request_isFrame cseq) delivers₁ read₁
  obtain ⟨r₃, read₃, _⟩ := nextMessages_cons_eq_ok read₂
  obtain ⟨ascii, fits⟩ := ascii_of_nextMessage clean3 (getLast?_body n m3) delivers₂ read₃
  exact ⟨ascii_body_iff.mp ascii, fits⟩

/-- What the sink sends in a control session is read back by a peer, and each message is as long as
its header announces, exactly when M3 is not answered or the names that it asks for are ASCII.

The response to M3 is the one message with a body. Its Content-Length is the number of characters,
and `sendall` is given the encoded text. -/
theorem peer_reads_back_iff {config : RoomConfig} {cap : WfdCapabilities} {sinkRtpPort : Nat}
    {sourceIp : Str} {s : ControlSession} (host : Clean sourceIp)
    (fresh : s.negotiator = .new { cap with deviceName := config.deviceName } sinkRtpPort)
    (unsent : s.reader.sock.sent = []) :
    (ReadsBack (stateAfter (runControlSession sourceIp s)).reader.sock.sent ↔
      ∀ m3, AnswersM3 s.reader m3 → ReadableAnswer s.negotiator m3) ∧
    ((∀ m ∈ (stateAfter (runControlSession sourceIp s)).reader.sock.sent, IsFrame m m []) ↔
      ∀ m3, AnswersM3 s.reader m3 → ReadableAnswer s.negotiator m3) := by
  have stands : s.negotiator.state = .waitM1 := by rw [fresh]; rfl
  rcases runControlSession_sent host stands with unanswered | answered
  · obtain ⟨⟨said, sent, frames⟩, never⟩ := unanswered
    rw [sent, unsent, List.nil_append]
    refine ⟨iff_of_true (readsBack_of_frames frames) fun m3 answers => absurd answers (never m3),
      iff_of_true ?_ fun m3 answers => absurd answers (never m3)⟩
    intro m hm
    obtain ⟨text, htext, rfl⟩ := List.mem_map.mp hm
    exact frames text htext
  · obtain ⟨m3, c1, c3, said, answers, clean1, clean3, sent, frames⟩ := answered
    rw [sent, unsent, List.nil_append]
    have only : (∀ m, AnswersM3 s.reader m → ReadableAnswer s.negotiator m) ↔
        ReadableAnswer s.negotiator m3 := by
      constructor
      · exact fun all => all m3 answers
      · intro readable m answers'
        cases answers.third.symm.trans answers'.third
        exact readable
    have whole : (∀ m ∈ (m1Response c1 :: m2Request (s.negotiator.ownCseq + 1) ::
        m3Response c3 (s.negotiator.buildCapabilityBody m3) :: said).map encode,
        IsFrame m m []) ↔ ReadableAnswer s.negotiator m3 := by
      rw [List.forall_mem_map, List.forall_mem_cons, List.forall_mem_cons, List.forall_mem_cons,
        m3Response_isFrame_iff clean3, ascii_body_iff]
      constructor
      · rintro ⟨_, _, readable, _⟩
        exact ⟨readable.1, readable.2⟩
      · intro readable
        exact ⟨m1Response_isFrame clean1, m2Request_isFrame _, ⟨readable.ascii, readable.fits⟩,
          frames⟩
    rw [only]
    refine ⟨⟨readable_of_readsBack clean1 clean3, fun readable => readsBack_of_frames ?_⟩, whole⟩
    exact List.forall_mem_map.mp (whole.mpr readable)

/-! ## Two rooms -/

/-- A `receiver.conf` for a room. -/
def receiverConf (roomName : String) : Str :=
  ("room_name=" ++ roomName ++
    "\nwps_pin=12345670\npassphrase=castcast\nchannel=36\n").toList

/-- The configuration of a room. -/
def roomNamed (roomName : String) : RoomConfig where
  roomName := roomName.toList
  wpsPin := "12345670".toList
  passphrase := "castcast".toList
  channel := 36

/-- An M3 that asks for the name. -/
def friendlyNameM3 : Bytes :=
  encode ("GET_PARAMETER * RTSP/1.0\r\nCSeq: 2\r\nContent-Length: 21\r\n\r\n" ++
    "intel_friendly_name\r\n").toList

/-- The session of a room whose source asks for the name. -/
def sessionOf (room : RoomConfig) : ControlSession :=
  .fresh { ({} : WfdCapabilities) with deviceName := room.deviceName } 1028
    [sourceMessage 1, sourceMessage 2, friendlyNameM3, sourceMessage 4, sourceMessage 5,
      sourceMessage 6, sourceMessage 7]

private theorem readMessage_alone {m : Bytes} (frame : IsFrame m m []) (inbound : List Recv) :
    readMessage [] (.data m :: inbound) = (.ok m, [], inbound) := by
  have scanned := scanMessage_eq_frame_iff.mpr frame
  have some_bytes : m ≠ [] := (rtspFramer.frame_eq scanned).2
  cases m with
  | nil => exact absurd rfl some_bytes
  | cons b bs =>
    rw [readMessage_cons_of_more rfl]
    exact readMessage_frame scanned inbound

private theorem sessionOf_answersM3 (room : RoomConfig) (m3 : Str) :
    AnswersM3 (sessionOf room).reader m3 ↔ m3 = decode friendlyNameM3 := by
  have asks : scanMessage friendlyNameM3 = .frame friendlyNameM3 [] := by decide +kernel
  have hears : heard 3 (sessionOf room).reader.buf (sessionOf room).reader.sock.inbound =
      [decode (sourceMessage 1), decode (sourceMessage 2), decode friendlyNameM3] := by
    have options := sourceMessage_isFrame (sourceMessage 1) (by simp)
    have acked := sourceMessage_isFrame (sourceMessage 2) (by simp)
    show heard 3 [] (.data (sourceMessage 1) :: .data (sourceMessage 2) ::
      .data friendlyNameM3 :: _) = _
    simp only [heard, readMessage_alone options, readMessage_alone acked,
      readMessage_alone (scanMessage_eq_frame_iff.mp asks)]
  have first : needsCseq (decode (sourceMessage 1)) = .passes := by decide +kernel
  have third : needsCseq (decode friendlyNameM3) = .passes := by decide +kernel
  constructor
  · intro answers
    have is := answers.third
    rw [hears] at is
    exact (Option.some.inj is).symm
  · rintro rfl
    refine ⟨⟨?_, List.forall_mem_nil _⟩, by rw [hears]; rfl⟩
    show Judged _ (heard 3 _ _)
    rw [hears]
    exact ⟨first, rfl, third, trivial⟩

theorem peer_reads_back_of_ascii_name :
    ReadsBack (stateAfter (runControlSession "192.168.173.80".toList
      (sessionOf (roomNamed "Lobby")))).reader.sock.sent := by
  have host : Clean "192.168.173.80".toList := by simp [Clean]
  have both := @peer_reads_back_iff (roomNamed "Lobby") {} 1028 "192.168.173.80".toList
    (sessionOf (roomNamed "Lobby")) host rfl rfl
  refine both.1.mpr ?_
  intro m3 answers
  obtain rfl := (sessionOf_answersM3 _ m3).mp answers
  constructor
  · exact ⟨fun _ => by decide, fun _ => by decide, fun _ => by decide⟩
  · decide +kernel

/-- A name with an umlaut is accepted, and a peer that asks for it does not get the response to M3
back. -/
theorem peer_misreads_umlaut :
    parseRoomConfig (receiverConf "Büro") = .ok (roomNamed "Büro") ∧
    ¬ ReadsBack (stateAfter (runControlSession "192.168.173.80".toList
      (sessionOf (roomNamed "Büro")))).reader.sock.sent ∧
    ∃ m ∈ (stateAfter (runControlSession "192.168.173.80".toList
      (sessionOf (roomNamed "Büro")))).reader.sock.sent, ¬ IsFrame m m [] := by
  have host : Clean "192.168.173.80".toList := by simp [Clean]
  have cut : ¬ ReadableAnswer (sessionOf (roomNamed "Büro")).negotiator
      (decode friendlyNameM3) := by
    intro readable
    have asked : contains "intel_friendly_name".toList (decode friendlyNameM3) = true := by
      decide +kernel
    have ascii := readable.ascii.deviceName (.inl asked)
    revert ascii
    decide
  refine ⟨by decide +kernel, ?_⟩
  rcases runControlSession_sent host (s := sessionOf (roomNamed "Büro")) rfl with silent | answered
  · exact absurd ((sessionOf_answersM3 _ _).mpr rfl) (silent.2 _)
  · obtain ⟨m3, c1, c3, said, answers, clean1, clean3, sent, _⟩ := answered
    obtain rfl := (sessionOf_answersM3 _ m3).mp answers
    rw [sent]
    refine ⟨fun reads => cut (readable_of_readsBack clean1 clean3 reads), encode (m3Response c3
      ((sessionOf (roomNamed "Büro")).negotiator.buildCapabilityBody (decode friendlyNameM3))),
      List.mem_append_right _ (by simp), fun frame => cut ?_⟩
    have whole := (m3Response_isFrame_iff clean3).mp frame
    exact ⟨ascii_body_iff.mp whole.1, whole.2⟩

end Castd.Wfdsink
