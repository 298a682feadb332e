import Castd.Wfdsink.WindowsSource

/-!
# The handshake with a source

The source runs on a thread of its own against `negotiate`. The two run against each other over two
streams that deliver in any pieces and any order.

In every such run neither thread raises, no state is stuck before both have returned, and the sink
then has the session id and the port that the source gave (`handshake_completes`).
-/

namespace Castd.Wfdsink

open Lib WfdNegotiator

/-! ## The sink -/

/-- The end of a control session. -/
def sinkEnd : Endpoint PyError ControlSession where
  reader := (·.reader)
  setReader := fun s r => { s with reader := r }
  raised := id
  reader_set := fun _ _ => rfl
  set_set := fun _ _ _ => rfl

private theorem nextMessage_eq : nextMessage = sinkEnd.nextMessage := by
  funext s
  cases h : s.reader.nextMessage with
  | ok m r =>
    rw [show nextMessage s = .ok m { s with reader := r } from focus_of_ok h]
    simp only [Endpoint.nextMessage, sinkEnd, h]
  | error e r =>
    rw [show nextMessage s = .error e { s with reader := r } from focus_of_error h]
    simp only [Endpoint.nextMessage, sinkEnd, h, id]

private theorem sendall_eq (text : Str) : sendall text = sinkEnd.sendall text := by
  funext s
  cases h : s.reader.sock.sendall (encode text) with
  | ok _ sock =>
    rw [show sendall text s = .ok () { s with reader := { s.reader with sock := sock } } from
      focus_of_ok h]
    simp only [Endpoint.sendall, sinkEnd, h]
  | error e sock =>
    rw [show sendall text s = .error e { s with reader := { s.reader with sock := sock } } from
      focus_of_error h]
    simp only [Endpoint.sendall, sinkEnd, h, id]

private theorem followsFrom_method {α β : Type} {side : Side} {r : RtspReader}
    {n n' : WfdNegotiator}
    {method : Negotiating β} {k : β → Running α} {b : β} {script : Script UInt8}
    {done : α → ControlSession → Prop} (returns : method n = .ok b n')
    (rest : sinkEnd.FollowsFrom side ⟨r, n'⟩ (k b) script done) :
    sinkEnd.FollowsFrom side ⟨r, n⟩ (onNegotiator method >>= k) script done := by
  have calls : ∀ r', onNegotiator method (sinkEnd.setReader ⟨r, n⟩ r') =
      .ok b (sinkEnd.setReader ⟨r, n'⟩ r') := fun _ => focus_of_ok returns
  exact Endpoint.followsFrom_call calls rest

/-! ## The script -/

/-- The handshake, the source to the left. -/
def WindowsSource.script (c : WindowsSource) (cap : WfdCapabilities) : Script UInt8 := [
  (.left, encode c.m1),
  (.right, encode (m1Response (decimal c.cseq))),
  (.right, encode (m2Request 1)),
  (.left, encode (okResponse "1".toList)),
  (.left, encode c.m3),
  (.right, encode (m3Response (decimal (c.cseq + 1))
    ((WfdNegotiator.new cap).buildCapabilityBody c.m3))),
  (.left, encode c.m4),
  (.right, encode (okResponse (decimal (c.cseq + 2)))),
  (.left, encode c.m5),
  (.right, encode (okResponse (decimal (c.cseq + 3)))),
  (.right, encode (m6Request c.sourceIp 2 1028)),
  (.left, encode c.m6Response),
  (.right, encode (m7Request c.sourceIp 3 c.sessionId)),
  (.left, encode (okResponse (decimal (c.cseq + 5))))]

namespace WindowsSource

variable {c : WindowsSource}

private theorem answers_m4 {n : WfdNegotiator} (stands : n.state = .waitM4) :
    ∃ port hidc, handleM4SetParameter c.m4 n = .ok (okResponse (decimal (c.cseq + 2)))
      { n with session := { n.session with uibcPort := port, useHidc := hidc }
               state := .waitM5 } := by
  have cseq : cseqRe.search c.m4 = some (decimal (c.cseq + 2)) := cseq_rtsp (by decide) _ _
  obtain ⟨port, hidc, frame⟩ := withUibcPort_frame n.session c.m4
  refine ⟨port, hidc, ?_⟩
  rw [← frame]
  exact answerRequest_ok { n with session := withUibcPort n.session c.m4 } stands cseq rfl

/-- `negotiate` follows the script. -/
theorem sink_follows (fits : c.Fits) (cap : WfdCapabilities) (r : RtspReader) :
    sinkEnd.FollowsFrom .right ⟨r, .new cap⟩ (negotiate c.sourceIp) (c.script cap)
      fun session s => session.serverPort = some c.serverPort ∧
        session.sessionId = some c.sessionId ∧ s.negotiator.session = session ∧
        s.negotiator.state = .streaming := by
  have port : intOfDigits (decimal c.serverPort) = some c.serverPort := by
    have short : (decimal c.serverPort).length ≤ 5 :=
      (Nat.length_toDigits_le_iff (by decide) (by decide)).mpr
        (Nat.lt_of_le_of_lt fits.serverPort (by decide))
    rw [intOfDigits, if_pos (Nat.le_trans short (by decide)), ofDigits_decimal]
  unfold negotiate script
  simp only [nextMessage_eq, sendall_eq]
  refine Endpoint.followsFrom_read (rtsp_isFrame (by decide) _) ?_
  refine followsFrom_method (answerRequest_ok _ rfl (cseq_rtsp (by decide) _ _) rfl) ?_
  refine Endpoint.followsFrom_send ?_
  refine followsFrom_method buildM2OptionsRequest_ok (Endpoint.followsFrom_send ?_)
  refine Endpoint.followsFrom_read (okResponse_isFrame (clean_decimal 1)) ?_
  refine Endpoint.followsFrom_read (rtsp_isFrame_of_body (by decide) _ fits.queryNames.1
    fits.queryNames.2) ?_
  refine followsFrom_method (answerRequest_ok _ rfl (cseq_rtsp (by decide) _ _) rfl) ?_
  refine Endpoint.followsFrom_send ?_
  refine Endpoint.followsFrom_read (rtsp_isFrame_of_body (by decide) _ fits.m4Body.1
    fits.m4Body.2) ?_
  obtain ⟨uibcPort, useHidc, m4⟩ :=
    c.answers_m4 (n := { WfdNegotiator.new cap with state := .waitM4, ownCseq := 1 }) rfl
  refine followsFrom_method m4 ?_
  refine Endpoint.followsFrom_send ?_
  refine Endpoint.followsFrom_read (rtsp_isFrame (by decide) _) ?_
  refine followsFrom_method (answerRequest_ok _ rfl (cseq_rtsp (by decide) _ _) rfl) ?_
  refine Endpoint.followsFrom_send ?_
  refine followsFrom_method (buildM6SetupRequest_ok _) (Endpoint.followsFrom_send ?_)
  refine Endpoint.followsFrom_read (m6Response_isFrame fits) ?_
  refine followsFrom_method (parseM6Response_ok rfl (serverPort_m6Response fits)
    (sessionId_m6Response fits) port) ?_
  refine followsFrom_method (buildM7PlayRequest_ok _ rfl) (Endpoint.followsFrom_send ?_)
  refine Endpoint.followsFrom_read (okResponse_isFrame (clean_decimal _)) ?_
  refine followsFrom_method (confirmStreaming_ok rfl (contains_okResponse _)) ?_
  exact Endpoint.followsFrom_return fun _ => ⟨rfl, rfl, rfl, rfl⟩

/-- `fake_windows_source` follows it as well. -/
theorem source_follows (fits : c.Fits) {cap : WfdCapabilities} (r : RtspReader)
    (readable : ReadableAnswer (.new cap) c.m3) (named : cap.deviceName = c.friendlyName) :
    sourceEnd.FollowsFrom .left r c.fakeWindowsSource (c.script cap) fun _ _ => True := by
  have last : sourceEnd.sendall (okResponse (decimal (c.cseq + 5))) =
      sourceEnd.sendall (okResponse (decimal (c.cseq + 5))) >>= pure := (bind_pure _).symm
  unfold fakeWindowsSource script
  rw [last]
  refine Endpoint.followsFrom_send ?_
  refine Endpoint.followsFrom_read (m1Response_isFrame (clean_decimal _)) ?_
  refine followsFrom_assert (m1Response_passes _).1 ?_
  refine followsFrom_assert (m1Response_passes _).2 ?_
  refine Endpoint.followsFrom_read (m2Request_isFrame _) ?_
  refine followsFrom_assert (by decide +kernel) ?_
  refine followsFrom_statement cseqAfterName_m2Request ?_
  refine Endpoint.followsFrom_send (Endpoint.followsFrom_send ?_)
  refine Endpoint.followsFrom_read ((m3Response_isFrame_iff (clean_decimal _)).mpr
    ⟨ascii_body_iff.mpr readable.ascii, readable.fits⟩) ?_
  refine followsFrom_assert (m3Response_passes fits _ named).1 ?_
  refine followsFrom_assert (m3Response_passes fits _ named).2 ?_
  refine Endpoint.followsFrom_send ?_
  refine Endpoint.followsFrom_read (okResponse_isFrame (clean_decimal _)) ?_
  refine followsFrom_assert (contains_okResponse _) (Endpoint.followsFrom_send ?_)
  refine Endpoint.followsFrom_read (okResponse_isFrame (clean_decimal _)) ?_
  refine followsFrom_assert (contains_okResponse _) ?_
  refine Endpoint.followsFrom_read (m6Request_isFrame fits.sourceIp _ _) ?_
  refine followsFrom_assert (begins_m6Request _ _ _) ?_
  refine followsFrom_assert (contains_clientPort _ _) (Endpoint.followsFrom_send ?_)
  refine Endpoint.followsFrom_read (m7Request_isFrame fits.sourceIp fits.clean_sessionId _) ?_
  refine followsFrom_assert (begins_m7Request _ _ _) ?_
  refine followsFrom_assert (contains_session _ _ _) (Endpoint.followsFrom_send ?_)
  exact Endpoint.followsFrom_return fun _ => trivial

/-! ## The two threads -/

section

variable (c : WindowsSource) (cap : WfdCapabilities)

/-- How the thread of the source stands when so many pieces have reached it. -/
def sourceResult (pieces : List Bytes) : EStateM.Result SourceError RtspReader Unit :=
  sourceEnd.resultOf (.hearing []) c.fakeWindowsSource pieces

/-- How `negotiate` stands on a new connection. -/
def sinkResult (pieces : List Bytes) : EStateM.Result PyError ControlSession WfdSessionParams :=
  sinkEnd.resultOf ⟨.hearing [], .new cap⟩ (negotiate c.sourceIp) pieces

/-- What the two send to each other. -/
def threads : Parties UInt8
  | .left => fun pieces => sourceEnd.sentBy (c.sourceResult pieces)
  | .right => fun pieces => sinkEnd.sentBy (c.sinkResult cap pieces)

/-- The sink has returned with what the source gave it, and streams. -/
def Negotiated (s : Talk UInt8) : Prop :=
  ∃ session s', c.sinkResult cap (s.received .right) = .ok session s' ∧
    session.serverPort = some c.serverPort ∧ session.sessionId = some c.sessionId ∧
    s'.negotiator.session = session ∧ s'.negotiator.state = .streaming

/-- The source has returned. -/
def SourceDone (s : Talk UInt8) : Prop := ∃ r, c.sourceResult (s.received .left) = .ok () r

end

private theorem sink_stands (fits : c.Fits) {cap : WfdCapabilities} {parties : Parties UInt8}
    {s : Talk UInt8} (h : Talk.InScript parties (c.script cap) s) :
    (c.Negotiated cap s ↔ s.heard .right = ((c.script cap).of .left).flatten) ∧
      (¬ c.Negotiated cap s →
        ∃ s', c.sinkResult cap (s.received .right) = .error .timeoutError s') := by
  obtain ⟨returns, waits⟩ := (sink_follows fits cap (.hearing [])).returns_or_waits
    (h.nonempty .right) (h.heard .right)
  by_cases whole : s.heard .right = ((c.script cap).of .left).flatten
  · obtain ⟨session, s', done, holds, _⟩ := returns whole
    have returned : c.Negotiated cap s := ⟨session, s', done, holds⟩
    exact ⟨iff_of_true returned whole, absurd returned⟩
  · obtain ⟨s', raised⟩ := waits whole
    refine ⟨iff_of_false ?_ whole, fun _ => ⟨s', raised⟩⟩
    rintro ⟨session, s'', done, _⟩
    cases raised.symm.trans done

section

variable (fits : c.Fits) {cap : WfdCapabilities} (readable : ReadableAnswer (.new cap) c.m3)
  (named : cap.deviceName = c.friendlyName)

include fits readable named

private theorem threads_follow (side : Side) :
    FollowsScript (c.script cap) side (c.threads cap side) := by
  cases side with
  | left => exact (source_follows fits _ readable named).followsScript
  | right => exact (sink_follows fits cap _).followsScript

/-- And so does the source. -/
theorem source_stands {parties : Parties UInt8} {s : Talk UInt8}
    (h : Talk.InScript parties (c.script cap) s) :
    (c.SourceDone s ↔ s.heard .left = ((c.script cap).of .right).flatten) ∧
      (¬ c.SourceDone s →
        ∃ r, c.sourceResult (s.received .left) = .error (.reader .timeoutError) r) := by
  obtain ⟨returns, waits⟩ := (source_follows fits (.hearing []) readable named).returns_or_waits
    (h.nonempty .left) (h.heard .left)
  by_cases whole : s.heard .left = ((c.script cap).of .right).flatten
  · obtain ⟨_, r, done, _, _⟩ := returns whole
    have returned : c.SourceDone s := ⟨r, done⟩
    exact ⟨iff_of_true returned whole, absurd returned⟩
  · obtain ⟨r, raised⟩ := waits whole
    refine ⟨iff_of_false ?_ whole, fun _ => ⟨r, raised⟩⟩
    rintro ⟨r', done⟩
    cases raised.symm.trans done

private theorem over_iff_returned {s : Talk UInt8}
    (h : Talk.InScript (c.threads cap) (c.script cap) s) :
    (∀ d, Talk.step (c.threads cap) s d = none) ↔ c.Negotiated cap s ∧ c.SourceDone s := by
  rw [Talk.over_iff h (threads_follow fits readable named), (sink_stands fits h).1,
    (source_stands fits readable named h).1, Side.forall_iff, and_comm]
  rfl

end

/-- A source and the sink, over any deliveries of what they send: neither raises, nothing is left to
deliver exactly when both have returned and the sink has the port and the session id of the source,
a run has no more deliveries than the messages have bytes, and from every state of it the handshake
can be completed. -/
theorem handshake_completes (fits : c.Fits) {cap : WfdCapabilities}
    (readable : ReadableAnswer (.new cap) c.m3) (named : cap.deviceName = c.friendlyName)
    {ds : List Delivery} {s : Talk UInt8} (ran : (talk (c.threads cap)).run ds = some s) :
    (c.Negotiated cap s ∨
        ∃ s', c.sinkResult cap (s.received .right) = .error .timeoutError s') ∧
      (c.SourceDone s ∨
        ∃ r, c.sourceResult (s.received .left) = .error (.reader .timeoutError) r) ∧
      ((∀ d, Talk.step (c.threads cap) s d = none) ↔ c.Negotiated cap s ∧ c.SourceDone s) ∧
      ds.length ≤ ((c.script cap).of .left).flatten.length +
        ((c.script cap).of .right).flatten.length ∧
      ∃ more t, (talk (c.threads cap)).runFrom s more = some t ∧ c.Negotiated cap t ∧
        c.SourceDone t := by
  have follow := threads_follow fits readable named
  have h := Talk.inScript_of_reachable follow (System.runFrom_leads _ ran)
  obtain ⟨more, t, ran', ht, ended⟩ := Talk.exists_over follow h
  obtain ⟨sink, source⟩ := (over_iff_returned fits readable named ht).mp ended
  exact ⟨or_iff_not_imp_left.mpr (sink_stands fits h).2,
    or_iff_not_imp_left.mpr (source_stands fits readable named h).2,
    over_iff_returned fits readable named h, Talk.length_le_of_run follow ran, more, t, ran', sink,
    source⟩

end WindowsSource

/-- `test_full_handshake_against_realistic_windows_source`. -/
def realWindowsSource : WindowsSource where
  sourceIp := "192.168.173.80".toList
  queryNames := ["wfd_video_formats", "wfd_audio_codecs", "wfd_uibc_capability",
    "wfd_idr_request_capability", "intel_friendly_name", "intel_sink_manufacturer_name",
    "intel_sink_model_name", "intel_sink_version", "intel_sink_device_URL"].flatMap
      fun name => name.toList ++ crlf
  m4Body := [
    "wfd_video_formats: 00 00 02 10 00 001FEFF 3FFFFFFF 00000FFF 00 0000 0000 00 none none",
    "wfd_audio_codecs: LPCM 00000002 00", "wfd_uibc_capability: input_category_list=HIDC;" ++
      "hidc_cap_list=Keyboard/USB, Mouse/USB, MultiTouch/USB, Gesture/USB, RemoteControl/USB, " ++
      "Joystick/USB;port=none"].flatMap fun line => line.toList ++ crlf
  friendlyName := "MR-3F-A".toList
  sessionId := "8734659201".toList
  serverPort := 48753

/-- What castd offers in the room of that name. -/
def roomCapabilities : WfdCapabilities :=
  { deviceName := "MR-3F-A".toList, audioCodec := "AAC".toList }

theorem realWindowsSource_fits : realWindowsSource.Fits := by
  have host : Clean "192.168.173.80".toList := by simp [Clean]
  have ascii : ∀ {text : Str}, (text.all fun c => decide (c.toNat < 0x80)) = true → Ascii text :=
    fun all c hc => of_decide_eq_true (List.all_eq_true.mp all c hc)
  have digits : ("8734659201".toList.all isWord) = true := by decide +kernel
  exact ⟨host, ⟨ascii (by decide +kernel), by decide +kernel⟩,
    ⟨ascii (by decide +kernel), by decide +kernel⟩, by decide +kernel,
    ⟨List.cons_ne_nil _ _, fun d hd => .inl (List.all_eq_true.mp digits d hd)⟩, by decide⟩

theorem roomCapabilities_readable : ReadableAnswer (.new roomCapabilities) realWindowsSource.m3 :=
  ⟨⟨fun _ => by decide, fun _ => by decide, fun _ => by decide⟩, by decide +kernel⟩

/-- The two come to an end. -/
theorem handshake_completes_with_real_source :
    ∃ ds t, (talk (realWindowsSource.threads roomCapabilities)).run ds = some t ∧
      realWindowsSource.Negotiated roomCapabilities t ∧ realWindowsSource.SourceDone t :=
  (@WindowsSource.handshake_completes _ realWindowsSource_fits _ roomCapabilities_readable rfl [] {}
    rfl).2.2.2.2

end Castd.Wfdsink
