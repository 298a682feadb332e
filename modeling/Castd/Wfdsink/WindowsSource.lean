import Castd.Wfdsink.ReadBack
import Castd.Wfdsink.Scripted

/-!
# A source

`fake_windows_source` of `castd/tests/test_rtsp_integration.py` is what the repository takes a
source to be. The test looks at one set of values. Here the values are parameters (`WindowsSource`),
and `Fits` is what makes them those of a source.

What the source sends are frames in which the sink finds the CSeq, the port and the session id, and
what the sink sends passes the assertions of the source.
-/

namespace Castd.Wfdsink

open Lib

/-! ## The source -/

/-- What the thread of the source raises. -/
inductive SourceError
  | reader (error : PyError)
  | assertionError
  | indexError
  deriving DecidableEq

/-- A statement of the thread of the source, which keeps its reader. -/
abbrev SourceThread := EStateM SourceError RtspReader

/-- Its end of the connection. -/
def sourceEnd : Endpoint SourceError RtspReader where
  reader := id
  setReader := fun _ r => r
  raised := .reader
  reader_set := fun _ _ => rfl
  set_set := fun _ _ _ => rfl

/-- `assert`. -/
def assertThat (holds : Bool) : SourceThread Unit :=
  if holds then return () else throw .assertionError

/-- `m2_request.split("CSeq:")[1].split("\r")[0].strip()`. -/
def cseqAfterName (m2Request : Str) : SourceThread Str :=
  match split "CSeq:".toList m2Request with
  | _ :: rest :: _ => return strip ((split ['\r'] rest).headD [])
  | _ => throw .indexError

/-- `_rtsp`. -/
def rtsp (methodLine : Str) (cseq : Nat) (body : Str) : Str :=
  methodLine ++ "\r\nCSeq: ".toList ++ decimal cseq ++ crlf ++
    (if body = [] then []
      else "Content-Type: text/parameters\r\nContent-Length: ".toList ++ decimal body.length ++
        crlf) ++
    crlf ++ body

/-- The values that `fake_windows_source` works with. -/
structure WindowsSource where
  sourceIp : Str
  /-- The CSeq of M1. The messages after it count on. -/
  cseq : Nat := 1
  /-- The body of M3. -/
  queryNames : Str
  m4Body : Str
  /-- The name that it looks for in the response to M3. -/
  friendlyName : Str
  sessionId : Str
  serverPort : Nat

namespace WindowsSource

variable (c : WindowsSource)

def m1 : Str := rtsp "OPTIONS * RTSP/1.0".toList c.cseq []

def m3 : Str := rtsp "GET_PARAMETER rtsp://x/wfd1.0 RTSP/1.0".toList (c.cseq + 1) c.queryNames

def m4 : Str := rtsp "SET_PARAMETER rtsp://x/wfd1.0 RTSP/1.0".toList (c.cseq + 2) c.m4Body

def m5 : Str := rtsp "SET_PARAMETER rtsp://x/wfd1.0 RTSP/1.0".toList (c.cseq + 3) []

/-- The response to M6. -/
def m6Response : Str :=
  "RTSP/1.0 200 OK\r\nCSeq: ".toList ++ decimal (c.cseq + 4) ++ "\r\nSession: ".toList ++
    c.sessionId ++ "\r\nTransport: RTP/AVP/UDP;unicast;client_port=1028;server_port=".toList ++
    decimal c.serverPort ++ crlf2

/-- `fake_windows_source`. -/
def fakeWindowsSource : SourceThread Unit := do
  sourceEnd.sendall c.m1
  let m1Response ← sourceEnd.nextMessage
  assertThat (contains "200 OK".toList m1Response)
  assertThat (contains "Public: org.wfa.wfd1.0".toList m1Response)
  let m2Request ← sourceEnd.nextMessage
  assertThat ("OPTIONS * RTSP/1.0".toList.isPrefixOf m2Request)
  let m2Cseq ← cseqAfterName m2Request
  sourceEnd.sendall (okResponse m2Cseq)
  sourceEnd.sendall c.m3
  let m3Response ← sourceEnd.nextMessage
  assertThat (contains "wfd_client_rtp_ports: RTP/AVP/UDP;unicast 1028".toList m3Response)
  assertThat (contains ("intel_friendly_name: ".toList ++ c.friendlyName) m3Response)
  sourceEnd.sendall c.m4
  let m4Response ← sourceEnd.nextMessage
  assertThat (contains "200 OK".toList m4Response)
  sourceEnd.sendall c.m5
  let m5Response ← sourceEnd.nextMessage
  assertThat (contains "200 OK".toList m5Response)
  let m6Request ← sourceEnd.nextMessage
  assertThat (("SETUP rtsp://".toList ++ c.sourceIp ++ "/wfd1.0/streamid=0".toList).isPrefixOf
    m6Request)
  assertThat (contains "client_port=1028".toList m6Request)
  sourceEnd.sendall c.m6Response
  let m7Request ← sourceEnd.nextMessage
  assertThat (("PLAY rtsp://".toList ++ c.sourceIp ++ "/wfd1.0/streamid=0".toList).isPrefixOf
    m7Request)
  assertThat (contains ("Session: ".toList ++ c.sessionId) m7Request)
  sourceEnd.sendall (okResponse (decimal (c.cseq + 5)))

/-- The values of a source that the handshake is for: an address, bodies whose length in characters
is that in bytes, a query for the friendly name, a port, and a session id that `parse_m6_response`
reads. -/
structure Fits : Prop where
  sourceIp : Clean c.sourceIp
  queryNames : Ascii c.queryNames ∧ (decimal c.queryNames.length).length ≤ maxStrDigits
  m4Body : Ascii c.m4Body ∧ (decimal c.m4Body.length).length ≤ maxStrDigits
  asks : contains "intel_friendly_name".toList c.queryNames = true
  sessionId : c.sessionId ≠ [] ∧ ∀ d ∈ c.sessionId, isWord d = true ∨ d = '.'
  serverPort : c.serverPort ≤ 65535

end WindowsSource

/-! ## Its statements -/

/-- A statement of the source on a text that it has read. -/
theorem followsFrom_statement {α β : Type} {side : Side} {r : RtspReader} {x : SourceThread β}
    {k : β → SourceThread α} {b : β} {script : Script UInt8} {done : α → RtspReader → Prop}
    (returns : ∀ r, x r = .ok b r) (rest : sourceEnd.FollowsFrom side r (k b) script done) :
    sourceEnd.FollowsFrom side r (x >>= k) script done := by
  have calls : ∀ r', x (sourceEnd.setReader r r') = .ok b (sourceEnd.setReader r r') := returns
  exact Endpoint.followsFrom_call calls rest

/-- An assertion that holds. -/
theorem followsFrom_assert {α : Type} {side : Side} {r : RtspReader} {holds : Bool}
    {k : Unit → SourceThread α} {script : Script UInt8} {done : α → RtspReader → Prop}
    (true : holds = true) (rest : sourceEnd.FollowsFrom side r (k ()) script done) :
    sourceEnd.FollowsFrom side r (assertThat holds >>= k) script done :=
  followsFrom_statement (fun _ => by rw [true]; rfl) rest

/-! ## What the source says -/

/-- The first lines of the requests of the source. -/
def requestLines : List Str := ["OPTIONS * RTSP/1.0".toList,
  "GET_PARAMETER rtsp://x/wfd1.0 RTSP/1.0".toList, "SET_PARAMETER rtsp://x/wfd1.0 RTSP/1.0".toList]

private theorem requestLines_clear : ∀ line ∈ requestLines, line ≠ [] ∧ '\r' ∉ line ∧
    (∀ i < (encode line).length, ¬ contentLengthRe.Here ((encode line).drop i)) ∧
      ∀ i < line.length, ¬ cseqRe.Here (line.drop i) := by
  decide +kernel

private theorem requestLine_plain {line : Str} (known : line ∈ requestLines) :
    PlainLine (encode line) := by
  obtain ⟨nonempty, noReturn, clear, _⟩ := requestLines_clear line known
  exact plainLine_of_text nonempty noReturn clear

private theorem matchHere_decimal {p : FieldPattern Char} {name blanks post : Str} (n : Nat)
    (digits : p.keep = isDigit) (hname : afterLiteral p.same p.literal name = some [])
    (hblank : ∀ c ∈ blanks, p.blank c = true) (hpost : ∀ c ∈ post.head?, p.keep c = false) :
    p.matchHere (name ++ (blanks ++ (decimal n ++ post))) = some (decimal n) := by
  refine FieldPattern.matchHere_of_field hname hblank (fun c hc => ?_) Nat.toDigits_ne_nil hpost
  have value : digitValue c = some (c.toNat - 48) := by
    rw [digitValue]
    exact if_pos (isDigit_of_mem_decimal hc)
  rw [digits, isDigit, value]
  rfl

private theorem not_mem_decimal (n : Nat) {d : Char} (other : ¬ (48 ≤ d.toNat ∧ d.toNat ≤ 57)) :
    d ∉ decimal n := fun mem => other (isDigit_of_mem_decimal mem)

private theorem absent_of_char {p : FieldPattern Char} {l : Char} {text : Str}
    (exactly : p.same = (· == ·)) (among : l ∈ p.literal) (other : l ∉ text) : p.Absent text := by
  refine FieldPattern.absent_of_not_mem among fun d mem => ?_
  rw [exactly, beq_eq_false_iff_ne]
  rintro rfl
  exact other mem

private theorem bars_lineEnd {p : FieldPattern Char} (carriageReturn : p.Bars '\r')
    (lineFeed : p.Bars '\n') : ∀ c ∈ crlf, p.Bars c := by
  intro c hc
  have either : c = '\r' ∨ c = '\n' := by simpa [crlf] using hc
  rcases either with rfl | rfl
  · exact carriageReturn
  · exact lineFeed

/-- A request has the CSeq that it is given. -/
theorem cseq_rtsp {line : Str} (known : line ∈ requestLines) (cseq : Nat) (body : Str) :
    cseqRe.search (rtsp line cseq body) = some (decimal cseq) := by
  obtain ⟨_, _, _, clear⟩ := requestLines_clear line known
  have field : "\r\nCSeq: ".toList = crlf ++ ("CSeq:".toList ++ [' ']) := by simp [crlf]
  unfold rtsp
  simp only [field, List.append_assoc]
  refine FieldPattern.search_of_line (by decide) (FieldPattern.absent_of_tails (by decide) clear)
    (bars_lineEnd (by decide) (by decide)) (List.cons_ne_nil _ _)
    (matchHere_decimal cseq rfl (by decide) (List.forall_mem_singleton.mpr (by decide)) ?_)
  intro c hc
  cases hc
  decide

/-- A request without a body is a frame. -/
theorem rtsp_isFrame {line : Str} (known : line ∈ requestLines) (cseq : Nat) :
    IsFrame (encode (rtsp line cseq [])) (encode (rtsp line cseq [])) [] := by
  have field : "\r\nCSeq: ".toList = crlf ++ ("CSeq:".toList ++ [' ']) := by simp [crlf]
  have lines : rtsp line cseq [] = headerText [line, fieldLine "CSeq:" (decimal cseq)] := by
    unfold rtsp headerText fieldLine
    simp only [field, if_pos, List.flatMap_cons, List.flatMap_nil, List.append_assoc,
      List.append_nil, List.singleton_append]
  rw [lines]
  refine headerText_isFrame_alone (List.cons_ne_nil _ _) ?_
  rw [List.forall_mem_cons, List.forall_mem_singleton]
  exact ⟨requestLine_plain known, fieldLine_plain (by decide) (clean_decimal cseq)⟩

/-- A header whose last line announces a length. -/
def lengthHeader (lines : List Str) (length : Nat) : Str :=
  headerText (lines ++ [fieldLine "Content-Length:" (decimal length)])

section

variable {lines : List Str}

private theorem encode_lengthHeader (lines : List Str) (length : Nat) :
    encode (lengthHeader lines length) =
      headerOf (lines.map encode ++ [encode (fieldLine "Content-Length:" (decimal length))]) := by
  rw [lengthHeader, encode_headerText, List.map_append, List.map_singleton]

private theorem search_lengthHeader (plain : ∀ line ∈ lines, PlainLine (encode line))
    (length : Nat) :
    contentLengthRe.search (encode (lengthHeader lines length)) =
      contentLengthRe.search
        (headerOf [encode (fieldLine "Content-Length:" (decimal length))]) := by
  rw [encode_lengthHeader]
  refine search_headerOf_append _ fun line hline => ?_
  obtain ⟨text, htext, rfl⟩ := List.mem_map.mp hline
  exact (plain text htext).absent

private theorem announced_lengthHeader (plain : ∀ line ∈ lines, PlainLine (encode line))
    (length : Nat) :
    announced (encode (lengthHeader lines length)) = intOfDigits (decimal length) := by
  obtain ⟨m3Lines, m3Plain, m3⟩ : ∃ m3Lines, (∀ line ∈ m3Lines, PlainLine (encode line)) ∧
      m3Header (decimal 1) length = lengthHeader m3Lines length := by
    refine ⟨["RTSP/1.0 200 OK".toList, fieldLine "CSeq:" (decimal 1),
      "Content-Type: text/parameters".toList], ?_, rfl⟩
    rw [List.forall_mem_cons, List.forall_mem_cons, List.forall_mem_singleton]
    exact ⟨fixedLine_plain (by decide), fieldLine_plain (by decide) (clean_decimal 1),
      fixedLine_plain (by decide)⟩
  have given := announced_m3Header (clean_decimal 1) length
  unfold announced at given ⊢
  rw [m3, search_lengthHeader m3Plain] at given
  rw [search_lengthHeader plain]
  exact given

private theorem lengthHeader_isHeader (plain : ∀ line ∈ lines, PlainLine (encode line))
    (length : Nat) :
    IsHeader (encode (lengthHeader lines length)) := by
  rw [encode_lengthHeader]
  refine isHeader_headerOf (List.concat_ne_nil _ _) ?_
  rw [List.forall_mem_append, List.forall_mem_singleton]
  refine ⟨fun line hline => ?_, ?_, fun mem => ?_⟩
  · obtain ⟨text, htext, rfl⟩ := List.mem_map.mp hline
    exact ⟨(plain text htext).nonempty, (plain text htext).noReturn⟩
  · rw [fieldLine, encode_append]
    exact List.append_ne_nil_of_left_ne_nil (by simp [encode_cons]) _
  · have inLine : '\r' ∈ fieldLine "Content-Length:" (decimal length) :=
      mem_of_mem_encode mem (by decide)
    rcases List.mem_append.mp inLine with inName | inValue
    · simp at inName
    · rcases List.mem_cons.mp inValue with blank | digit
      · exact absurd blank (by decide)
      · exact (clean_decimal length).1 digit

private theorem lengthHeader_isFrame {body : Str} (plain : ∀ line ∈ lines, PlainLine (encode line))
    (ascii : Ascii body) (fits : (decimal body.length).length ≤ maxStrDigits) :
    IsFrame (encode (lengthHeader lines body.length ++ body))
      (encode (lengthHeader lines body.length ++ body)) [] := by
  refine ⟨(List.append_nil _).symm, _, _, encode_append _ _, lengthHeader_isHeader plain _, ?_⟩
  rw [announced_lengthHeader plain, intOfDigits, if_pos fits, ofDigits_decimal,
    encode_length_eq_iff.mpr ascii]

end

/-- A request with an ASCII body is a frame. -/
theorem rtsp_isFrame_of_body {line : Str} (known : line ∈ requestLines) (cseq : Nat) {body : Str}
    (ascii : Ascii body) (fits : (decimal body.length).length ≤ maxStrDigits) :
    IsFrame (encode (rtsp line cseq body)) (encode (rtsp line cseq body)) [] := by
  by_cases empty : body = []
  · subst empty
    exact rtsp_isFrame known cseq
  have field : "\r\nCSeq: ".toList = crlf ++ ("CSeq:".toList ++ [' ']) := by simp [crlf]
  have bodyFields : "Content-Type: text/parameters\r\nContent-Length: ".toList =
      "Content-Type: text/parameters".toList ++ (crlf ++ ("Content-Length:".toList ++ [' '])) := by
    simp [crlf]
  have lines : rtsp line cseq body = lengthHeader [line, fieldLine "CSeq:" (decimal cseq),
      "Content-Type: text/parameters".toList] body.length ++ body := by
    unfold rtsp lengthHeader headerText fieldLine
    simp only [field, bodyFields, if_neg empty, List.flatMap_cons, List.flatMap_nil,
      List.append_assoc, List.append_nil, List.nil_append, List.cons_append]
  rw [lines]
  refine lengthHeader_isFrame ?_ ascii fits
  rw [List.forall_mem_cons, List.forall_mem_cons, List.forall_mem_singleton]
  exact ⟨requestLine_plain known, fieldLine_plain (by decide) (clean_decimal cseq),
    fixedLine_plain (by decide)⟩

namespace WindowsSource

variable {c : WindowsSource}

private theorem m6Response_eq : c.m6Response = headerText ["RTSP/1.0 200 OK".toList,
    fieldLine "CSeq:" (decimal (c.cseq + 4)), fieldLine "Session:" c.sessionId,
    fieldLine "Transport:" ("RTP/AVP/UDP;unicast;client_port=1028;server_port=".toList ++
      decimal c.serverPort)] := by
  have session : "\r\nSession: ".toList = crlf ++ ("Session:".toList ++ [' ']) := by simp [crlf]
  have transport : "\r\nTransport: RTP/AVP/UDP;unicast;client_port=1028;server_port=".toList =
      crlf ++ ("Transport:".toList ++ ([' '] ++
        "RTP/AVP/UDP;unicast;client_port=1028;server_port=".toList)) := by
    simp [crlf]
  unfold m6Response headerText fieldLine
  simp only [okFront_eq, session, transport, crlf2_eq, List.flatMap_cons, List.flatMap_nil,
    List.append_assoc, List.append_nil, List.cons_append, List.nil_append]

private theorem Fits.not_mem_sessionId (fits : c.Fits) {d : Char}
    (other : sessionRe.keep d = false) :
    d ∉ c.sessionId := by
  intro mem
  have keeps : sessionRe.keep d = true := by
    show (isWord d || d == '.') = true
    rw [Bool.or_eq_true, beq_iff_eq]
    exact fits.sessionId.2 d mem
  rw [other] at keeps
  cases keeps

theorem Fits.clean_sessionId (fits : c.Fits) : Clean c.sessionId :=
  ⟨fits.not_mem_sessionId (by decide), fits.not_mem_sessionId (by decide)⟩

theorem m6Response_isFrame (fits : c.Fits) :
    IsFrame (encode c.m6Response) (encode c.m6Response) [] := by
  have transport : Clean "RTP/AVP/UDP;unicast;client_port=1028;server_port=".toList := by
    unfold Clean
    decide
  rw [m6Response_eq]
  refine headerText_isFrame_alone (List.cons_ne_nil _ _) ?_
  rw [List.forall_mem_cons, List.forall_mem_cons, List.forall_mem_cons, List.forall_mem_singleton]
  exact ⟨fixedLine_plain (by decide), fieldLine_plain (by decide) (clean_decimal _),
    fieldLine_plain (by decide) fits.clean_sessionId,
    fieldLine_plain (by decide) (clean_append transport (clean_decimal _))⟩

theorem serverPort_m6Response (fits : c.Fits) :
    serverPortRe.search c.m6Response = some (decimal c.serverPort) := by
  have field : "\r\nTransport: RTP/AVP/UDP;unicast;client_port=1028;server_port=".toList =
      "\r\nTransport: RTP/AVP/UDP;unicast".toList ++ (";client_port=1028".toList ++
        ([';'] ++ "server_port=".toList)) := by
    simp
  have noField : '=' ∉ "RTSP/1.0 200 OK\r\nCSeq: ".toList ++ (decimal (c.cseq + 4) ++
      ("\r\nSession: ".toList ++
        (c.sessionId ++ "\r\nTransport: RTP/AVP/UDP;unicast".toList))) := by
    have noDigit := not_mem_decimal (c.cseq + 4) (d := '=') (by decide)
    have noId := fits.not_mem_sessionId (d := '=') (by decide)
    simp [noDigit, noId]
  have client : serverPortRe.Absent ";client_port=1028".toList :=
    FieldPattern.absent_of_tails (by decide) (by decide)
  have absent := (absent_of_char rfl (by decide) noField).append client fun d hd => by
    cases hd
    decide
  have cut : c.m6Response = ("RTSP/1.0 200 OK\r\nCSeq: ".toList ++ (decimal (c.cseq + 4) ++
      ("\r\nSession: ".toList ++ (c.sessionId ++ "\r\nTransport: RTP/AVP/UDP;unicast".toList))) ++
        ";client_port=1028".toList) ++ ([';'] ++ ("server_port=".toList ++ ([] ++
          (decimal c.serverPort ++ crlf2)))) := by
    unfold m6Response
    simp only [field, List.append_assoc, List.nil_append]
  rw [cut]
  refine FieldPattern.search_of_line (by decide) absent
    (List.forall_mem_singleton.mpr (by decide)) (List.cons_ne_nil _ _)
    (matchHere_decimal c.serverPort rfl (by decide) (List.forall_mem_nil _) ?_)
  intro d hd
  cases hd
  decide

theorem sessionId_m6Response (fits : c.Fits) :
    sessionRe.search c.m6Response = some c.sessionId := by
  have field : "\r\nSession: ".toList = crlf ++ ("Session:".toList ++ [' ']) := by simp [crlf]
  have last : "\r\nTransport: RTP/AVP/UDP;unicast;client_port=1028;server_port=".toList =
      '\r' :: "\nTransport: RTP/AVP/UDP;unicast;client_port=1028;server_port=".toList := by simp
  have noField : 'i' ∉ "RTSP/1.0 200 OK\r\nCSeq: ".toList ++ decimal (c.cseq + 4) := by
    have noDigit := not_mem_decimal (c.cseq + 4) (d := 'i') (by decide)
    simp [noDigit]
  have cut : c.m6Response = ("RTSP/1.0 200 OK\r\nCSeq: ".toList ++ decimal (c.cseq + 4)) ++
      (crlf ++ ("Session:".toList ++ ([' '] ++ (c.sessionId ++
        ("\r\nTransport: RTP/AVP/UDP;unicast;client_port=1028;server_port=".toList ++
          (decimal c.serverPort ++ crlf2)))))) := by
    unfold m6Response
    simp only [field, List.append_assoc]
  rw [cut]
  refine FieldPattern.search_of_line (by decide) (absent_of_char rfl (by decide) noField)
    (bars_lineEnd (by decide) (by decide)) (List.cons_ne_nil _ _)
    (FieldPattern.matchHere_of_field (by decide) (List.forall_mem_singleton.mpr (by decide))
      (fun d hd => ?_) fits.sessionId.1 fun d hd => ?_)
  · show (isWord d || d == '.') = true
    rw [Bool.or_eq_true, beq_iff_eq]
    exact fits.sessionId.2 d hd
  · rw [last] at hd
    cases hd
    decide

/-! ## What it looks for -/

private theorem contains_status (rest : Str) :
    contains "200 OK".toList ("RTSP/1.0 200 OK\r\nCSeq: ".toList ++ rest) = true := by
  have status : contains "200 OK".toList "RTSP/1.0 200 OK\r\nCSeq: ".toList = true := by
    decide
  exact contains_of_isInfix status (List.prefix_append _ _).isInfix

theorem contains_okResponse (cseq : Str) : contains "200 OK".toList (okResponse cseq) = true := by
  unfold okResponse
  rw [List.append_assoc]
  exact contains_status _

/-- The response to M1 passes the assertions. -/
theorem m1Response_passes (cseq : Str) : contains "200 OK".toList (m1Response cseq) = true ∧
    contains "Public: org.wfa.wfd1.0".toList (m1Response cseq) = true := by
  have methods : contains "Public: org.wfa.wfd1.0".toList
      "\r\nPublic: org.wfa.wfd1.0, SET_PARAMETER, GET_PARAMETER\r\n\r\n".toList = true := by
    decide
  unfold m1Response
  constructor
  · rw [List.append_assoc]
    exact contains_status _
  · exact contains_of_isInfix methods (List.suffix_append _ _).isInfix

/-- The source acknowledges M2 with the CSeq that it finds in it. -/
theorem cseqAfterName_m2Request (r : RtspReader) :
    cseqAfterName (m2Request 1) r = .ok "1".toList r := by
  have pieces : split "CSeq:".toList (m2Request 1) = ["OPTIONS * RTSP/1.0\r\n".toList,
      " 1\r\nRequire: org.wfa.wfd1.0\r\n\r\n".toList] := by
    decide
  have value : strip ((split ['\r'] " 1\r\nRequire: org.wfa.wfd1.0\r\n\r\n".toList).headD []) =
      "1".toList := by
    decide
  unfold cseqAfterName
  rw [pieces]
  exact congrArg (EStateM.Result.ok · r) value

private theorem contains_m3Response {cseq text line : Str} {lines : List Str}
    (begins : text <+: line)
    (mem : line ∈ lines) :
    contains text (m3Response cseq (lines.flatMap fun line => line ++ crlf)) = true := by
  refine contains_iff_isInfix.mpr ?_
  have inBody : line ++ crlf <:+: lines.flatMap fun line => line ++ crlf :=
    List.infix_of_mem_flatten (List.mem_map_of_mem mem)
  unfold m3Response
  exact ((begins.trans (List.prefix_append _ _)).isInfix.trans inBody).trans
    (List.suffix_append _ _).isInfix

/-- The response to M3 passes them as well, for a sink with the name that the source looks for. -/
theorem m3Response_passes (fits : c.Fits) {cap : WfdCapabilities} (cseq : Str)
    (named : cap.deviceName = c.friendlyName) :
    contains "wfd_client_rtp_ports: RTP/AVP/UDP;unicast 1028".toList
        (m3Response cseq ((WfdNegotiator.new cap).buildCapabilityBody c.m3)) = true ∧
      contains ("intel_friendly_name: ".toList ++ c.friendlyName)
        (m3Response cseq ((WfdNegotiator.new cap).buildCapabilityBody c.m3)) = true := by
  have asked : contains "intel_friendly_name".toList c.m3 = true :=
    contains_of_isInfix fits.asks (List.suffix_append _ _).isInfix
  have ports : "wfd_client_rtp_ports: RTP/AVP/UDP;unicast 1028".toList =
      "wfd_client_rtp_ports: RTP/AVP/UDP;unicast ".toList ++ decimal 1028 := by
    decide
  unfold WfdNegotiator.buildCapabilityBody
  constructor
  · rw [ports]
    exact contains_m3Response (List.prefix_append _ _) List.mem_cons_self
  · have line : "intel_friendly_name: ".toList ++ cap.deviceName ∈ (if
        contains "intel_friendly_name".toList c.m3 then
          ["intel_friendly_name: ".toList ++ cap.deviceName] else []) := by
      rw [if_pos asked]
      exact List.mem_singleton_self _
    rw [← named]
    refine contains_m3Response List.prefix_rfl (List.mem_append_right _ ?_)
    exact List.mem_append_left _ (List.mem_append_left _ (List.mem_append_left _
      (List.mem_append_left _ (List.mem_append_left _ (List.mem_append_right _ line)))))

private theorem begins_streamRequest (front rest : Str) :
    (front ++ "/wfd1.0/streamid=0".toList).isPrefixOf
      (front ++ ("/wfd1.0/streamid=0 RTSP/1.0\r\nCSeq: ".toList ++ rest)) = true := by
  have path : "/wfd1.0/streamid=0 RTSP/1.0\r\nCSeq: ".toList =
      "/wfd1.0/streamid=0".toList ++ " RTSP/1.0\r\nCSeq: ".toList := by
    simp
  rw [List.isPrefixOf_iff_prefix, path, List.append_assoc, List.prefix_append_right_inj]
  exact List.prefix_append _ _

theorem begins_m6Request (sourceIp : Str) (cseq port : Nat) :
    ("SETUP rtsp://".toList ++ sourceIp ++ "/wfd1.0/streamid=0".toList).isPrefixOf
      (m6Request sourceIp cseq port) = true := by
  have begins := begins_streamRequest ("SETUP rtsp://".toList ++ sourceIp) (decimal cseq ++
    ("\r\nTransport: RTP/AVP/UDP;unicast;client_port=".toList ++ (decimal port ++ crlf2)))
  unfold m6Request
  simp only [List.append_assoc] at begins ⊢
  exact begins

theorem begins_m7Request (sourceIp sessionId : Str) (cseq : Nat) :
    ("PLAY rtsp://".toList ++ sourceIp ++ "/wfd1.0/streamid=0".toList).isPrefixOf
      (m7Request sourceIp cseq sessionId) = true := by
  have begins := begins_streamRequest ("PLAY rtsp://".toList ++ sourceIp)
    (decimal cseq ++ ("\r\nSession: ".toList ++ (sessionId ++ crlf2)))
  unfold m7Request
  simp only [List.append_assoc] at begins ⊢
  exact begins

theorem contains_clientPort (sourceIp : Str) (cseq : Nat) :
    contains "client_port=1028".toList (m6Request sourceIp cseq 1028) = true := by
  have transport : contains "client_port=1028".toList
      ("\r\nTransport: RTP/AVP/UDP;unicast;client_port=".toList ++ decimal 1028) = true := by
    decide
  refine contains_of_isInfix transport ?_
  unfold m6Request
  rw [List.append_assoc (_ ++ _) _ (decimal 1028)]
  exact List.infix_append _ _ _

theorem contains_session (sourceIp sessionId : Str) (cseq : Nat) :
    contains ("Session: ".toList ++ sessionId) (m7Request sourceIp cseq sessionId) = true := by
  have field : "\r\nSession: ".toList = crlf ++ "Session: ".toList := by simp [crlf]
  unfold m7Request
  rw [contains_iff_isInfix, field, ← List.append_assoc _ crlf, List.append_assoc _ _ sessionId]
  exact List.infix_append _ _ _

end WindowsSource

end Castd.Wfdsink
