import Castd.Lib.Action
import Castd.Lib.CharClass
import Castd.Lib.Pieces
import Castd.Lib.Pattern

/-!
# The negotiator

`castd/wfdsink/rtsp.py`. The methods of `WfdNegotiator` are actions that keep the negotiator as
their state, so a method that raises leaves the state it had reached. Each has a lemma that says
when it succeeds and what it does then, and one that says when it raises.

An error carries what its text interpolates; `NegotiationError.text` is the text, given Python's
`repr` of a string. What the methods log is left out.
-/

namespace Castd.Wfdsink

open Lib

/-! ## Fields -/

private theorem toNat_mem_of_isSpace {c : Char} (h : isSpace c = true) :
    c.toNat ∈ [9, 10, 11, 12, 13, 28, 29, 30, 31, 32] ++ spaces := by
  simp only [isSpace, Bool.or_eq_true, Bool.and_eq_true, decide_eq_true_eq,
    List.contains_eq_mem] at h
  simp only [List.mem_append, List.mem_cons, List.not_mem_nil, or_false]
  rcases h with (⟨low, high⟩ | ⟨low, high⟩) | ⟨_, other⟩
  · left
    omega
  · left
    omega
  · exact .inr other

private theorem not_word_of_isSpace {c : Char} (h : isSpace c = true) :
    isDigit c = false ∧ (isWord c || c == '.') = false := by
  have blanks : ∀ n ∈ [9, 10, 11, 12, 13, 28, 29, 30, 31, 32] ++ spaces,
      isDigit (Char.ofNat n) = false ∧
        (isWord (Char.ofNat n) || Char.ofNat n == '.') = false := by
    decide +kernel
  have at_c := blanks _ (toNat_mem_of_isSpace h)
  rwa [Char.ofNat_toNat] at at_c

/-- `_CSEQ_RE`. -/
def cseqRe : FieldPattern Char where
  same := sameIgnoringCase
  literal := "CSeq:".toList
  blank := isSpace
  keep := isDigit
  exclusive := fun _ h => (not_word_of_isSpace h).1

/-- `_SERVER_PORT_RE`, up to its first group. -/
def serverPortRe : FieldPattern Char where
  same := (· == ·)
  literal := "server_port=".toList
  blank := fun _ => false
  keep := isDigit
  exclusive := fun _ h => absurd h Bool.false_ne_true

/-- `_SESSION_RE`. -/
def sessionRe : FieldPattern Char where
  same := (· == ·)
  literal := "Session:".toList
  blank := isSpace
  keep := fun c => isWord c || c == '.'
  exclusive := fun _ h => (not_word_of_isSpace h).2

/-- The group of `_UIBC_PORT_RE` from its second character on: up to the first `;`, line end or
end of the text, with no blank before it. -/
def uibcPortFrom : Str → Str → Option Str
  | group, [] => some group.reverse
  | group, c :: s =>
    if c = ';' ∨ c = '\r' ∨ c = '\n' then some group.reverse
    else if isSpace c then none
    else uibcPortFrom (c :: group) s

/-- `_UIBC_PORT_RE` at the front of a text. -/
def uibcPortHere (s : Str) : Option Str :=
  match afterLiteral (· == ·) "port=".toList s with
  | some (c :: rest) => if isSpace c then none else uibcPortFrom [c] rest
  | _ => none

/-- `_UIBC_PORT_RE.search`. -/
def uibcPort : Str → Option Str
  | [] => none
  | c :: s =>
    match uibcPortHere (c :: s) with
    | some port => some port
    | none => uibcPort s

/-! ## Data -/

/-- The values of `WfdNegotiator.state`. -/
inductive WfdState
  | waitM1
  | waitM3
  | waitM4
  | waitM5
  | waitM6Response
  | waitM7Response
  | streaming
  | tornDown
  deriving DecidableEq, Repr

/-- The string the source uses for a state. -/
def WfdState.name : WfdState → String
  | .waitM1 => "WAIT_M1"
  | .waitM3 => "WAIT_M3"
  | .waitM4 => "WAIT_M4"
  | .waitM5 => "WAIT_M5"
  | .waitM6Response => "WAIT_M6_RESPONSE"
  | .waitM7Response => "WAIT_M7_RESPONSE"
  | .streaming => "STREAMING"
  | .tornDown => "TORN_DOWN"

/-- `WfdSessionParams`. -/
structure WfdSessionParams where
  sinkRtpPort : Nat
  serverPort : Option Nat := none
  sessionId : Option Str := none
  uibcPort : Option Str := none
  useHidc : Bool := false
  audioCodec : Str := "LPCM".toList
  negotiatedEdid : Option Bytes := none
  deriving DecidableEq

/-- `WfdCapabilities`. -/
structure WfdCapabilities where
  audioCodec : Str := "LPCM".toList
  allow1080p60 : Bool := false
  deviceName : Str := "lazycast".toList
  sinkModel : Str := "castd".toList
  sinkVersion : Str := "1.0".toList
  enableUibc : Bool := false
  edid : Option Bytes := none
  deriving DecidableEq

/-- `NegotiationError`, one constructor for each text. -/
inductive NegotiationError
  /-- What came, and the state it came in. -/
  | unexpectedState (what : String) (state : WfdState)
  | noCseq (message : Str)
  | noServerPort (response : Str)
  | noSessionId (response : Str)
  | m6NotParsed
  | m7NotAcknowledged (response : Str)
  deriving DecidableEq

/-- The text of an error. -/
def NegotiationError.text (repr : Str → Str) : NegotiationError → Str
  | .unexpectedState what state =>
    what.toList ++ " received in unexpected state ".toList ++ state.name.toList
  | .noCseq message => "no CSeq header in message: ".toList ++ repr message
  | .noServerPort response => "no server_port in M6 response: ".toList ++ repr response
  | .noSessionId response => "no Session id in M6 response: ".toList ++ repr response
  | .m6NotParsed => "cannot build M7 before M6 response is parsed".toList
  | .m7NotAcknowledged response => "M7 not acknowledged: ".toList ++ repr response

/-- The exceptions of a control session. `TimeoutError` is an `OSError` too. -/
inductive PyError
  | negotiation (error : NegotiationError)
  /-- `int()` of more digits than it converts. -/
  | valueError
  | timeoutError
  | osError
  deriving DecidableEq

/-- `WfdNegotiator`. -/
structure WfdNegotiator where
  capabilities : WfdCapabilities
  session : WfdSessionParams
  state : WfdState := .waitM1
  ownCseq : Nat := 0
  deriving DecidableEq

/-- `WfdNegotiator.__init__`. -/
def WfdNegotiator.new (capabilities : WfdCapabilities) (sinkRtpPort : Nat := 1028) :
    WfdNegotiator :=
  { capabilities := capabilities, session := { sinkRtpPort := sinkRtpPort } }

/-- A method of the negotiator. -/
abbrev Negotiating := EStateM PyError WfdNegotiator

/-- An integer in an f-string. -/
def decimal (n : Nat) : Str := Nat.toDigits 10 n

/-- A line end. -/
def crlf : Str := ['\r', '\n']

/-- A blank line after a header. -/
def crlf2 : Str := ['\r', '\n', '\r', '\n']

/-! ## What the sink writes -/

/-- `200 OK` to a request. -/
def okResponse (cseq : Str) : Str := "RTSP/1.0 200 OK\r\nCSeq: ".toList ++ cseq ++ crlf2

/-- The response to M1. -/
def m1Response (cseq : Str) : Str :=
  "RTSP/1.0 200 OK\r\nCSeq: ".toList ++ cseq ++
    "\r\nPublic: org.wfa.wfd1.0, SET_PARAMETER, GET_PARAMETER\r\n\r\n".toList

/-- M2. -/
def m2Request (cseq : Nat) : Str :=
  "OPTIONS * RTSP/1.0\r\nCSeq: ".toList ++ decimal cseq ++
    "\r\nRequire: org.wfa.wfd1.0\r\n\r\n".toList

/-- The response to M3. -/
def m3Response (cseq body : Str) : Str :=
  "RTSP/1.0 200 OK\r\nCSeq: ".toList ++ cseq ++
    "\r\nContent-Type: text/parameters\r\nContent-Length: ".toList ++ decimal body.length ++
    crlf2 ++ body

/-- M6. -/
def m6Request (sourceIp : Str) (cseq sinkRtpPort : Nat) : Str :=
  "SETUP rtsp://".toList ++ sourceIp ++ "/wfd1.0/streamid=0 RTSP/1.0\r\nCSeq: ".toList ++
    decimal cseq ++ "\r\nTransport: RTP/AVP/UDP;unicast;client_port=".toList ++
    decimal sinkRtpPort ++ crlf2

/-- M7. -/
def m7Request (sourceIp : Str) (cseq : Nat) (sessionId : Str) : Str :=
  "PLAY rtsp://".toList ++ sourceIp ++ "/wfd1.0/streamid=0 RTSP/1.0\r\nCSeq: ".toList ++
    decimal cseq ++ "\r\nSession: ".toList ++ sessionId ++ crlf2

/-- An integer in upper case hexadecimal, at least four digits. -/
def hex4 (n : Nat) : Str :=
  let digits := (Nat.toDigits 16 n).map Char.toUpper
  List.replicate (4 - digits.length) '0' ++ digits

/-- `bytes.hex`. -/
def hexBytes (data : Bytes) : Str :=
  data.flatMap fun b => [Nat.digitChar (b.toNat / 16), Nat.digitChar (b.toNat % 16)]

/-- The line that declares the user input back channel. -/
def uibcLine (enabled : Bool) : Str :=
  ("wfd_uibc_capability: input_category_list=GENERIC, HIDC;generic_cap_list=Keyboard, Mouse;" ++
    "hidc_cap_list=Keyboard/USB, Mouse/USB;port=").toList ++
    (if enabled then "7336".toList else "none".toList)

/-- The lines of the capability body that M3 may ask for by name. -/
def requestedLines (cap : WfdCapabilities) (m3Request : Str) : List Str :=
  let asked := fun (name : String) => contains name.toList m3Request
  (match cap.edid with
    | some edid =>
      if asked "wfd_display_edid" && !edid.isEmpty then
        ["wfd_display_edid: ".toList ++ hex4 (edid.length / 256 + 1) ++ [' '] ++ hexBytes edid]
      else []
    | none => []) ++
  (if asked "intel_friendly_name" then
    ["intel_friendly_name: ".toList ++ cap.deviceName] else []) ++
  (if asked "intel_sink_manufacturer_name" then
    ["intel_sink_manufacturer_name: ".toList ++ cap.deviceName] else []) ++
  (if asked "intel_sink_model_name" then
    ["intel_sink_model_name: ".toList ++ cap.sinkModel] else []) ++
  (if asked "intel_sink_version" then
    ["intel_sink_version: ".toList ++ cap.sinkVersion] else []) ++
  (if asked "intel_sink_device_URL" then ["intel_sink_device_URL: none".toList] else []) ++
  (if asked "wfd_idr_request_capability" then ["wfd_idr_request_capability: 1".toList] else [])

/-- `_build_capability_body`. -/
def WfdNegotiator.buildCapabilityBody (n : WfdNegotiator) (m3Request : Str) : Str :=
  let cap := n.capabilities
  let nativeByte := if cap.allow1080p60 then "40".toList else "38".toList
  let videoFmtMask := if cap.allow1080p60 then "0001FFFF".toList else "00019CFF".toList
  let lines := [
    "wfd_client_rtp_ports: RTP/AVP/UDP;unicast ".toList ++ decimal n.session.sinkRtpPort ++
      " 0 mode=play".toList,
    "wfd_audio_codecs: ".toList ++
      (if cap.audioCodec = "LPCM".toList then "LPCM 00000002 00".toList
        else "AAC 00000001 00".toList),
    "wfd_video_formats: ".toList ++ nativeByte ++ " 00 02 10 ".toList ++ videoFmtMask ++
      " 00000000 00000000 00 0000 0000 00 none none".toList,
    "wfd_3d_video_formats: none".toList,
    "wfd_coupled_sink: none".toList,
    "wfd_connector_type: 05".toList,
    uibcLine cap.enableUibc,
    "wfd_standby_resume_capability: none".toList,
    "wfd_content_protection: none".toList]
  (lines ++ requestedLines cap m3Request).flatMap fun line => line ++ crlf

/-! ## The handlers -/

namespace WfdNegotiator

/-- `_extract_cseq`. -/
def extractCseq (message : Str) : Negotiating Str :=
  match cseqRe.search message with
  | some cseq => pure cseq
  | none => throw (.negotiation (.noCseq message))

/-- The check that opens a handler. -/
def expect (what : String) (state : WfdState) : Negotiating Unit := do
  let n ← get
  if n.state ≠ state then throw (.negotiation (.unexpectedState what n.state))

/-- `self.state = ...`. -/
def setState (state : WfdState) : Negotiating Unit := modify fun n => { n with state := state }

/-- `_next_cseq`. -/
def nextCseq : Negotiating Nat := do
  modify fun n => { n with ownCseq := n.ownCseq + 1 }
  return (← get).ownCseq

/-- A handler of a request: the check of the state, the CSeq, the response, the next state. -/
def answerRequest (what : String) (state next : WfdState) (request : Str)
    (reply : Str → Negotiating Str) : Negotiating Str := do
  expect what state
  let cseq ← extractCseq request
  let response ← reply cseq
  setState next
  return response

/-- `handle_m1_options`. -/
def handleM1Options (request : Str) : Negotiating Str :=
  answerRequest "M1" .waitM1 .waitM3 request fun cseq => return m1Response cseq

/-- `build_m2_options_request`. -/
def buildM2OptionsRequest : Negotiating Str := do
  let cseq ← nextCseq
  return m2Request cseq

/-- `handle_m3_get_parameter`. -/
def handleM3GetParameter (request : Str) : Negotiating Str :=
  answerRequest "M3" .waitM3 .waitM4 request fun cseq => do
    return m3Response cseq ((← get).buildCapabilityBody request)

/-- One round of the loop of `_parse_uibc_port`. -/
def parseUibcEntry (session : WfdSessionParams) (entry : Str) : WfdSessionParams :=
  if contains "wfd_uibc_capability:".toList entry then
    match Wfdsink.uibcPort entry with
    | some port =>
      if port = "none".toList then session
      else { session with uibcPort := some port, useHidc := true }
    | none => session
  else session

/-- `_parse_uibc_port`. -/
def parseUibcPort (request : Str) : Negotiating Unit :=
  modify fun n => { n with session := (split crlf2 request).foldl parseUibcEntry n.session }

/-- `handle_m4_set_parameter`. -/
def handleM4SetParameter (request : Str) : Negotiating Str :=
  answerRequest "M4" .waitM4 .waitM5 request fun cseq => do
    parseUibcPort request
    return okResponse cseq

/-- `handle_m5_generic`. -/
def handleM5Generic (request : Str) : Negotiating Str :=
  answerRequest "M5" .waitM5 .waitM6Response request fun cseq => return okResponse cseq

/-- `build_m6_setup_request`. -/
def buildM6SetupRequest (sourceIp : Str) : Negotiating Str := do
  let cseq ← nextCseq
  return m6Request sourceIp cseq (← get).session.sinkRtpPort

/-- `parse_m6_response`. -/
def parseM6Response (response : Str) : Negotiating WfdSessionParams := do
  expect "M6 response" .waitM6Response
  match serverPortRe.search response, sessionRe.search response with
  | none, _ => throw (.negotiation (.noServerPort response))
  | some _, none => throw (.negotiation (.noSessionId response))
  | some port, some sessionId =>
    match intOfDigits port with
    | none => throw .valueError
    | some serverPort =>
      modify fun n => { n with
        session := { n.session with serverPort := some serverPort, sessionId := some sessionId }
        state := .waitM7Response }
      return (← get).session

/-- `build_m7_play_request`. -/
def buildM7PlayRequest (sourceIp : Str) : Negotiating Str := do
  match (← get).session.sessionId with
  | none => throw (.negotiation .m6NotParsed)
  | some sessionId =>
    let cseq ← nextCseq
    return m7Request sourceIp cseq sessionId

/-- `confirm_streaming`. -/
def confirmStreaming (response : Str) : Negotiating Unit := do
  expect "M7 response" .waitM7Response
  if contains "200 OK".toList response then setState .streaming
  else throw (.negotiation (.m7NotAcknowledged response))

/-- `is_teardown`. -/
def isTeardown (message : Str) : Bool :=
  message.isEmpty || contains "wfd_trigger_method: TEARDOWN".toList message

/-- Whether `build_steady_state_ack` answers a part of a message. -/
def asksForAck (entry : Str) : Bool :=
  contains "GET_PARAMETER".toList entry || contains "SET_PARAMETER".toList entry

/-- The loop of `build_steady_state_ack`. -/
def acksOf : List Str → Negotiating (List Str)
  | [] => return []
  | entry :: entries =>
    if asksForAck entry then do
      let cseq ← extractCseq entry
      let acks ← acksOf entries
      return okResponse cseq :: acks
    else acksOf entries

/-- `build_steady_state_ack`. -/
def buildSteadyStateAck (message : Str) : Negotiating (List Str) := do
  expect "steady-state message" .streaming
  acksOf (split crlf2 message)

/-- `mark_torn_down`. -/
def markTornDown : Negotiating Unit := setState .tornDown

/-! ## What a method does -/

variable {n : WfdNegotiator} {request response c : Str}

private theorem expect_of_eq {what : String} {state : WfdState} (stands : n.state = state) :
    expect what state n = .ok () n := by
  unfold expect
  rw [get_bind, if_neg (not_not_intro stands)]
  rfl

private theorem expect_of_ne {what : String} {state : WfdState} (stands : n.state ≠ state) :
    expect what state n = .error (.negotiation (.unexpectedState what n.state)) n := by
  unfold expect
  rw [get_bind, if_pos stands]
  rfl

/-- What follows the check of the state runs in that state only. -/
theorem expect_bind_eq_ok {α : Type} {what : String} {state : WfdState} {k : Unit → Negotiating α}
    {a : α} {n' : WfdNegotiator} (h : (expect what state >>= k) n = .ok a n') :
    n.state = state ∧ k () n = .ok a n' := by
  by_cases stands : n.state = state
  · rw [bind_of_ok (expect_of_eq stands)] at h
    exact ⟨stands, h⟩
  · rw [bind_of_error (expect_of_ne stands)] at h
    cases h

theorem extractCseq_of_some (cseq : cseqRe.search request = some c) :
    extractCseq request n = .ok c n := by
  unfold extractCseq
  rw [cseq]
  rfl

theorem extractCseq_of_none (cseq : cseqRe.search request = none) :
    extractCseq request n = .error (.negotiation (.noCseq request)) n := by
  unfold extractCseq
  rw [cseq]
  rfl

section

variable {what : String} {state next : WfdState} {reply : Str → Negotiating Str}

/-- A request in its state, with a CSeq, is answered. -/
theorem answerRequest_ok (n' : WfdNegotiator) (stands : n.state = state)
    (cseq : cseqRe.search request = some c)
    (replied : reply c n = .ok response n') :
    answerRequest what state next request reply n = .ok response { n' with state := next } := by
  unfold answerRequest
  rw [bind_of_ok (expect_of_eq stands), bind_of_ok (extractCseq_of_some cseq), bind_of_ok replied]
  rfl

/-- A request without a CSeq raises, and the negotiator is as it was. -/
theorem answerRequest_noCseq (stands : n.state = state)
    (cseq : cseqRe.search request = none) :
    answerRequest what state next request reply n = .error (.negotiation (.noCseq request)) n := by
  unfold answerRequest
  rw [bind_of_ok (expect_of_eq stands), bind_of_error (extractCseq_of_none cseq)]

private theorem answerRequest_unexpected (stands : n.state ≠ state) :
    answerRequest what state next request reply n =
      .error (.negotiation (.unexpectedState what n.state)) n := by
  unfold answerRequest
  rw [bind_of_error (expect_of_ne stands)]

/-- A handler that answers stood in its state and found a CSeq. -/
theorem answerRequest_eq_ok {n' : WfdNegotiator}
    (h : answerRequest what state next request reply n = .ok response n') :
    n.state = state ∧ ∃ c n'', cseqRe.search request = some c ∧ reply c n = .ok response n'' ∧
      n' = { n'' with state := next } := by
  by_cases stands : n.state = state
  · cases cseq : cseqRe.search request with
    | none =>
      rw [answerRequest_noCseq stands cseq] at h
      cases h
    | some c =>
      refine ⟨stands, c, ?_⟩
      cases replied : reply c n with
      | ok r n'' =>
        rw [answerRequest_ok n'' stands cseq replied] at h
        cases h
        exact ⟨n'', rfl, rfl, rfl⟩
      | error e n'' =>
        unfold answerRequest at h
        rw [bind_of_ok (expect_of_eq stands), bind_of_ok (extractCseq_of_some cseq),
          bind_of_error replied] at h
        cases h
  · rw [answerRequest_unexpected stands] at h
    cases h

end

/-- A handler of a request raises and changes nothing, or answers and goes to the next state. -/
theorem answerRequest_cases {what : String} {state next : WfdState} {request : Str}
    {reply : Str → Negotiating Str} {J : WfdNegotiator → Prop}
    (replies : ∀ c, ∃ response n', reply c n = .ok response n' ∧ J n') :
    (∃ e, answerRequest what state next request reply n = .error e n) ∨
      n.state = state ∧ ∃ response n', J n' ∧
        answerRequest what state next request reply n = .ok response { n' with state := next } := by
  by_cases stands : n.state = state
  · cases cseq : cseqRe.search request with
    | none => exact .inl ⟨_, answerRequest_noCseq stands cseq⟩
    | some c =>
      obtain ⟨response, n', replied, holds⟩ := replies c
      exact .inr ⟨stands, response, n', holds, answerRequest_ok n' stands cseq replied⟩
  · exact .inl ⟨_, answerRequest_unexpected stands⟩

/-- A handler of a request that raises leaves the negotiator as it was. -/
theorem answerRequest_keeps {what : String} {state next : WfdState} {request : Str}
    {reply : Str → Negotiating Str} {n' : WfdNegotiator} {e : PyError}
    (replies : ∀ c, ∃ response n', reply c n = .ok response n')
    (h : answerRequest what state next request reply n = .error e n') : n' = n := by
  have cases : (∃ e, answerRequest what state next request reply n = .error e n) ∨ _ :=
    answerRequest_cases (J := fun _ => True) fun c => by simpa using replies c
  rcases cases with raised | answered
  · obtain ⟨e', raised⟩ := raised
    rw [raised] at h
    cases h
    rfl
  · obtain ⟨_, response, n'', _, answered⟩ := answered
    rw [answered] at h
    cases h

/-- The session after `_parse_uibc_port`. -/
def withUibcPort (session : WfdSessionParams) (request : Str) : WfdSessionParams :=
  (split crlf2 request).foldl parseUibcEntry session

/-- `_parse_uibc_port` records the back channel and nothing else. -/
theorem withUibcPort_frame (session : WfdSessionParams) (request : Str) :
    ∃ port hidc, withUibcPort session request =
      { session with uibcPort := port, useHidc := hidc } := by
  unfold withUibcPort
  generalize split crlf2 request = entries
  induction entries generalizing session with
  | nil => exact ⟨session.uibcPort, session.useHidc, rfl⟩
  | cons entry entries ih =>
    have one : ∃ port hidc, parseUibcEntry session entry =
        { session with uibcPort := port, useHidc := hidc } := by
      unfold parseUibcEntry
      split
      · split
        · split
          · exact ⟨session.uibcPort, session.useHidc, rfl⟩
          · exact ⟨_, _, rfl⟩
        · exact ⟨session.uibcPort, session.useHidc, rfl⟩
      · exact ⟨session.uibcPort, session.useHidc, rfl⟩
    obtain ⟨port₁, hidc₁, first⟩ := one
    obtain ⟨port, hidc, others⟩ := ih (parseUibcEntry session entry)
    refine ⟨port, hidc, ?_⟩
    rw [List.foldl_cons, others, first]

theorem buildM2OptionsRequest_ok :
    buildM2OptionsRequest n = .ok (m2Request (n.ownCseq + 1)) { n with ownCseq := n.ownCseq + 1 } :=
  rfl

theorem buildM6SetupRequest_ok (sourceIp : Str) :
    buildM6SetupRequest sourceIp n =
      .ok (m6Request sourceIp (n.ownCseq + 1) n.session.sinkRtpPort)
        { n with ownCseq := n.ownCseq + 1 } :=
  rfl

/-- A response to M6 with a port and a session id is recorded. -/
theorem parseM6Response_ok {port sessionId : Str} {serverPort : Nat}
    (stands : n.state = .waitM6Response) (hport : serverPortRe.search response = some port)
    (hid : sessionRe.search response = some sessionId)
    (value : intOfDigits port = some serverPort) :
    parseM6Response response n = .ok
      { n.session with serverPort := some serverPort, sessionId := some sessionId }
      { n with
        session := { n.session with serverPort := some serverPort, sessionId := some sessionId }
        state := .waitM7Response } := by
  unfold parseM6Response
  rw [bind_of_ok (expect_of_eq stands), hport, hid]
  simp only [value]
  rfl

/-- A port of more digits than `int()` converts raises, and the negotiator is as it was. -/
theorem parseM6Response_valueError {port sessionId : Str} (stands : n.state = .waitM6Response)
    (hport : serverPortRe.search response = some port)
    (hid : sessionRe.search response = some sessionId) (value : intOfDigits port = none) :
    parseM6Response response n = .error .valueError n := by
  unfold parseM6Response
  rw [bind_of_ok (expect_of_eq stands), hport, hid]
  simp only [value]
  rfl

theorem parseM6Response_noServerPort (stands : n.state = .waitM6Response)
    (hport : serverPortRe.search response = none) :
    parseM6Response response n = .error (.negotiation (.noServerPort response)) n := by
  unfold parseM6Response
  rw [bind_of_ok (expect_of_eq stands), hport]
  rfl

theorem parseM6Response_noSessionId {port : Str} (stands : n.state = .waitM6Response)
    (hport : serverPortRe.search response = some port)
    (hid : sessionRe.search response = none) :
    parseM6Response response n = .error (.negotiation (.noSessionId response)) n := by
  unfold parseM6Response
  rw [bind_of_ok (expect_of_eq stands), hport, hid]
  rfl

/-- A response to M6 that raises leaves the negotiator as it was. -/
theorem parseM6Response_keeps {n' : WfdNegotiator} {e : PyError}
    (h : parseM6Response response n = .error e n') : n' = n := by
  by_cases stands : n.state = .waitM6Response
  · cases hport : serverPortRe.search response with
    | none =>
      rw [parseM6Response_noServerPort stands hport] at h
      cases h
      rfl
    | some port =>
      cases hid : sessionRe.search response with
      | none =>
        rw [parseM6Response_noSessionId stands hport hid] at h
        cases h
        rfl
      | some sessionId =>
        cases value : intOfDigits port with
        | none =>
          rw [parseM6Response_valueError stands hport hid value] at h
          cases h
          rfl
        | some serverPort =>
          rw [parseM6Response_ok stands hport hid value] at h
          cases h
  · unfold parseM6Response at h
    rw [bind_of_error (expect_of_ne stands)] at h
    cases h
    rfl

/-- A response to M6 that is parsed has a port and a session id, which are recorded. -/
theorem parseM6Response_eq_ok {n' : WfdNegotiator} {session : WfdSessionParams}
    (stands : n.state = .waitM6Response) (h : parseM6Response response n = .ok session n') :
    ∃ port sessionId serverPort, serverPortRe.search response = some port ∧
      sessionRe.search response = some sessionId ∧ intOfDigits port = some serverPort ∧
      session = { n.session with serverPort := some serverPort, sessionId := some sessionId } ∧
      n' = { n with session := session, state := .waitM7Response } := by
  cases hport : serverPortRe.search response with
  | none =>
    rw [parseM6Response_noServerPort stands hport] at h
    cases h
  | some port =>
    cases hid : sessionRe.search response with
    | none =>
      rw [parseM6Response_noSessionId stands hport hid] at h
      cases h
    | some sessionId =>
      cases value : intOfDigits port with
      | none =>
        rw [parseM6Response_valueError stands hport hid value] at h
        cases h
      | some serverPort =>
        rw [parseM6Response_ok stands hport hid value] at h
        cases h
        exact ⟨port, sessionId, serverPort, rfl, rfl, value, rfl, rfl⟩

theorem buildM7PlayRequest_ok {sessionId : Str} (sourceIp : Str)
    (hid : n.session.sessionId = some sessionId) :
    buildM7PlayRequest sourceIp n = .ok (m7Request sourceIp (n.ownCseq + 1) sessionId)
      { n with ownCseq := n.ownCseq + 1 } := by
  unfold buildM7PlayRequest
  rw [get_bind, hid]
  rfl

/-- PLAY is not built before a session id is recorded. -/
theorem buildM7PlayRequest_notParsed (sourceIp : Str) (hid : n.session.sessionId = none) :
    buildM7PlayRequest sourceIp n = .error (.negotiation .m6NotParsed) n := by
  unfold buildM7PlayRequest
  rw [get_bind, hid]
  rfl

theorem confirmStreaming_ok (stands : n.state = .waitM7Response)
    (acked : contains "200 OK".toList response = true) :
    confirmStreaming response n = .ok () { n with state := .streaming } := by
  unfold confirmStreaming
  rw [bind_of_ok (expect_of_eq stands), if_pos acked]
  rfl

theorem confirmStreaming_notAcknowledged (stands : n.state = .waitM7Response)
    (acked : contains "200 OK".toList response = false) :
    confirmStreaming response n = .error (.negotiation (.m7NotAcknowledged response)) n := by
  unfold confirmStreaming
  rw [bind_of_ok (expect_of_eq stands), acked]
  rfl

theorem confirmStreaming_eq_ok {n' : WfdNegotiator} (stands : n.state = .waitM7Response)
    (h : confirmStreaming response n = .ok () n') :
    contains "200 OK".toList response = true ∧ n' = { n with state := .streaming } := by
  cases acked : contains "200 OK".toList response with
  | true =>
    rw [confirmStreaming_ok stands acked] at h
    cases h
    exact ⟨rfl, rfl⟩
  | false =>
    rw [confirmStreaming_notAcknowledged stands acked] at h
    cases h

/-- A response to M7 that raises leaves the negotiator as it was. -/
theorem confirmStreaming_keeps {n' : WfdNegotiator} {e : PyError}
    (h : confirmStreaming response n = .error e n') : n' = n := by
  by_cases stands : n.state = .waitM7Response
  · cases acked : contains "200 OK".toList response with
    | true =>
      rw [confirmStreaming_ok stands acked] at h
      cases h
    | false =>
      rw [confirmStreaming_notAcknowledged stands acked] at h
      cases h
      rfl
  · unfold confirmStreaming at h
    rw [bind_of_error (expect_of_ne stands)] at h
    cases h
    rfl

/-- A part that names a method is part of a text that does. -/
theorem asksForAck_of_isInfix {entry text : Str} (asks : asksForAck entry = true)
    (within : entry <:+: text) : asksForAck text = true := by
  unfold asksForAck at asks ⊢
  rw [Bool.or_eq_true] at asks ⊢
  rcases asks with get | set
  · exact .inl (contains_of_isInfix get within)
  · exact .inr (contains_of_isInfix set within)

/-- The CSeqs of the parts that ask for an ack; `none` when one of these has no CSeq. -/
def ackCseqs (entries : List Str) : Option (List Str) :=
  (entries.filter asksForAck).mapM cseqRe.search

private theorem acksOf_ok {entries cseqs : List Str} (found : ackCseqs entries = some cseqs) :
    acksOf entries n = .ok (cseqs.map okResponse) n := by
  induction entries generalizing cseqs with
  | nil =>
    cases found
    rfl
  | cons entry entries ih =>
    unfold acksOf
    unfold ackCseqs at found ih
    by_cases asks : asksForAck entry = true
    · rw [List.filter_cons_of_pos asks, List.mapM_cons] at found
      obtain ⟨cseq, first, found⟩ := Option.bind_eq_some_iff.mp found
      obtain ⟨others, rest, found⟩ := Option.bind_eq_some_iff.mp found
      cases found
      rw [if_pos asks, bind_of_ok (extractCseq_of_some first), bind_of_ok (ih rest)]
      rfl
    · rw [List.filter_cons_of_neg asks] at found
      rw [if_neg asks]
      exact ih found

private theorem acksOf_noCseq {entries : List Str} (missing : ackCseqs entries = none) :
    ∃ entry, acksOf entries n = .error (.negotiation (.noCseq entry)) n := by
  induction entries with
  | nil => cases missing
  | cons entry entries ih =>
    unfold acksOf
    unfold ackCseqs at missing ih
    by_cases asks : asksForAck entry = true
    · rw [if_pos asks]
      rw [List.filter_cons_of_pos asks, List.mapM_cons] at missing
      cases first : cseqRe.search entry with
      | none => exact ⟨entry, by rw [bind_of_error (extractCseq_of_none first)]⟩
      | some cseq =>
        rw [bind_of_ok (extractCseq_of_some first)]
        rw [first] at missing
        cases rest : (entries.filter asksForAck).mapM cseqRe.search with
        | none =>
          obtain ⟨other, raised⟩ := ih rest
          exact ⟨other, by rw [bind_of_error raised]⟩
        | some others =>
          rw [rest] at missing
          cases missing
    · rw [List.filter_cons_of_neg asks] at missing
      rw [if_neg asks]
      exact ih missing

/-- A message is answered when its parts are. -/
theorem buildSteadyStateAck_ok {message : Str} {cseqs : List Str} (stands : n.state = .streaming)
    (found : ackCseqs (split crlf2 message) = some cseqs) :
    buildSteadyStateAck message n = .ok (cseqs.map okResponse) n := by
  unfold buildSteadyStateAck
  rw [bind_of_ok (expect_of_eq stands), acksOf_ok found]

/-- A message raises when a part does, and the negotiator is as it was. -/
theorem buildSteadyStateAck_noCseq {message : Str} (stands : n.state = .streaming)
    (missing : ackCseqs (split crlf2 message) = none) :
    ∃ entry, buildSteadyStateAck message n = .error (.negotiation (.noCseq entry)) n := by
  obtain ⟨entry, raised⟩ := acksOf_noCseq (n := n) missing
  refine ⟨entry, ?_⟩
  unfold buildSteadyStateAck
  rw [bind_of_ok (expect_of_eq stands), raised]

/-- A message in another state raises, and the negotiator is as it was. -/
theorem buildSteadyStateAck_unexpected {message : Str} (stands : n.state ≠ .streaming) :
    ∃ e, buildSteadyStateAck message n = .error e n := by
  unfold buildSteadyStateAck
  exact ⟨_, bind_of_error (expect_of_ne stands)⟩

/-- A message whose first part alone has a method name is answered once. -/
theorem buildSteadyStateAck_of_one {message entry : Str} {entries : List Str}
    (stands : n.state = .streaming) (parts : split crlf2 message = entry :: entries)
    (asks : asksForAck entry = true) (cseq : cseqRe.search entry = some c)
    (quiet : ∀ e ∈ entries, asksForAck e = false) :
    buildSteadyStateAck message n = .ok [okResponse c] n := by
  have others : entries.filter asksForAck = [] :=
    List.filter_eq_nil_iff.mpr fun e he => ne_true_of_eq_false (quiet e he)
  have found : ackCseqs (split crlf2 message) = some [c] := by
    rw [ackCseqs, parts, List.filter_cons_of_pos asks, others]
    simp [cseq]
  exact buildSteadyStateAck_ok stands found

end WfdNegotiator

end Castd.Wfdsink
