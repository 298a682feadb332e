import Castd.Config.Lines
import Castd.Lib.Pieces
import Castd.Wfdsink.CapabilityAnswer

/-!
# What the answer to M3 offers

The body of the response to M3 is a text of parameters. `WfdNegotiator.offers` is the table that it
stands for, and a source that reads the text line by line reads that table, each name once. It gets
the text from as many bytes as the response announces, though, which are all of them when the names
that it asked for are ASCII (`m3_answer_reads_back`).
-/

namespace Castd.Wfdsink

open Lib

/-- `name: value`, and a line end. -/
def wfdParameters : ParameterFormat Char where
  separator := [':', ' ']
  ending := crlf
  separator_ne_nil := List.cons_ne_nil _ _
  ending_ne_nil := List.cons_ne_nil _ _

/-- What the sink offers in any case. -/
def WfdNegotiator.fixedOffers (n : WfdNegotiator) : List (Str × Str) :=
  let cap := n.capabilities
  [("wfd_client_rtp_ports".toList,
      "RTP/AVP/UDP;unicast ".toList ++ decimal n.session.sinkRtpPort ++ " 0 mode=play".toList),
    ("wfd_audio_codecs".toList,
      if cap.audioCodec = "LPCM".toList then "LPCM 00000002 00".toList
      else "AAC 00000001 00".toList),
    ("wfd_video_formats".toList,
      (if cap.allow1080p60 then "40".toList else "38".toList) ++ " 00 02 10 ".toList ++
        (if cap.allow1080p60 then "0001FFFF".toList else "00019CFF".toList) ++
        " 00000000 00000000 00 0000 0000 00 none none".toList),
    ("wfd_3d_video_formats".toList, "none".toList),
    ("wfd_coupled_sink".toList, "none".toList),
    ("wfd_connector_type".toList, "05".toList),
    ("wfd_uibc_capability".toList,
      ("input_category_list=GENERIC, HIDC;generic_cap_list=Keyboard, Mouse;" ++
        "hidc_cap_list=Keyboard/USB, Mouse/USB;port=").toList ++
        if cap.enableUibc then "7336".toList else "none".toList),
    ("wfd_standby_resume_capability".toList, "none".toList),
    ("wfd_content_protection".toList, "none".toList)]

/-- What the sink has to say to a name that M3 may ask for. -/
def WfdCapabilities.answers (cap : WfdCapabilities) : List (Str × Option Str) :=
  [("wfd_display_edid".toList, (cap.edid.filter (!·.isEmpty)).map fun edid =>
      hex4 (edid.length / 256 + 1) ++ [' '] ++ hexBytes edid),
    ("intel_friendly_name".toList, some cap.deviceName),
    ("intel_sink_manufacturer_name".toList, some cap.deviceName),
    ("intel_sink_model_name".toList, some cap.sinkModel),
    ("intel_sink_version".toList, some cap.sinkVersion),
    ("intel_sink_device_URL".toList, some "none".toList),
    ("wfd_idr_request_capability".toList, some "1".toList)]

/-- An answer that is asked for. -/
def askedFor (m3Request : Str) (answer : Str × Option Str) : Option (Str × Str) :=
  if contains answer.1 m3Request then answer.2.map (answer.1, ·) else none

/-- What the sink offers to a request. -/
def WfdNegotiator.offers (n : WfdNegotiator) (m3Request : Str) : List (Str × Str) :=
  n.fixedOffers ++ n.capabilities.answers.filterMap (askedFor m3Request)

/-- The names of a record that M3 may ask for stand in one line. -/
structure WfdCapabilities.OneLine (cap : WfdCapabilities) : Prop where
  deviceName : '\n' ∉ cap.deviceName
  sinkModel : '\n' ∉ cap.sinkModel
  sinkVersion : '\n' ∉ cap.sinkVersion

/-- The value of a hexadecimal digit, in upper case. -/
def hexDigit (c : Char) : Nat := if c.isDigit then c.toNat - 48 else c.toNat - 55

/-- The modes that a value of `wfd_video_formats` offers: the number of the preferred one, and the
bits of all. -/
def videoModes (value : Str) : Option (Nat × Nat) :=
  let number := fun digits : Str => digits.foldl (fun n c => 16 * n + hexDigit c) 0
  match words (· == ' ') value with
  | preferred :: _ :: _ :: _ :: modes :: _ => some (number preferred / 8, number modes)
  | _ => none

/-! ## The table -/

private theorem map_line_askedFor (m3Request name : Str) (answer : Option Str)
    (answers : List (Str × Option Str)) :
    (((name, answer) :: answers).filterMap (askedFor m3Request)).map wfdParameters.line =
      (if contains name m3Request then (answer.map fun value => name ++ [':', ' '] ++ value).toList
        else []) ++ (answers.filterMap (askedFor m3Request)).map wfdParameters.line := by
  rw [List.filterMap_cons, askedFor]
  cases contains name m3Request <;> cases answer <;> rfl

private theorem requestedLines_eq (cap : WfdCapabilities) (m3Request : Str) :
    requestedLines cap m3Request =
      (cap.answers.filterMap (askedFor m3Request)).map wfdParameters.line := by
  have edid : ∀ edid : Bytes,
      "wfd_display_edid: ".toList ++ hex4 (edid.length / 256 + 1) ++ [' '] ++ hexBytes edid =
        "wfd_display_edid".toList ++ [':', ' '] ++
        (hex4 (edid.length / 256 + 1) ++ [' '] ++ hexBytes edid) := by simp
  have friendly : "intel_friendly_name: ".toList ++ cap.deviceName =
      "intel_friendly_name".toList ++ [':', ' '] ++ cap.deviceName := by simp
  have manufacturer : "intel_sink_manufacturer_name: ".toList ++ cap.deviceName =
      "intel_sink_manufacturer_name".toList ++ [':', ' '] ++ cap.deviceName := by simp
  have model : "intel_sink_model_name: ".toList ++ cap.sinkModel =
      "intel_sink_model_name".toList ++ [':', ' '] ++ cap.sinkModel := by simp
  have version : "intel_sink_version: ".toList ++ cap.sinkVersion =
      "intel_sink_version".toList ++ [':', ' '] ++ cap.sinkVersion := by simp
  have url : "intel_sink_device_URL: none".toList =
      "intel_sink_device_URL".toList ++ [':', ' '] ++ "none".toList := by simp
  have idr : "wfd_idr_request_capability: 1".toList =
      "wfd_idr_request_capability".toList ++ [':', ' '] ++ "1".toList := by simp
  unfold requestedLines WfdCapabilities.answers
  simp only [map_line_askedFor, List.filterMap_nil, List.map_nil, List.append_nil, Option.map_some,
    Option.toList_some, edid, friendly, manufacturer, model, version, url, idr]
  rw [← List.append_assoc, ← List.append_assoc, ← List.append_assoc, ← List.append_assoc,
    ← List.append_assoc]
  congr 6
  cases cap.edid with
  | none => cases contains "wfd_display_edid".toList m3Request <;> rfl
  | some edid =>
    cases h : edid.isEmpty <;> cases contains "wfd_display_edid".toList m3Request <;>
      simp [h, Option.filter]

private theorem buildCapabilityBody_eq (n : WfdNegotiator) (m3Request : Str) :
    n.buildCapabilityBody m3Request = wfdParameters.write (n.offers m3Request) := by
  unfold WfdNegotiator.buildCapabilityBody WfdNegotiator.offers
  dsimp only
  rw [requestedLines_eq, ParameterFormat.write, List.flatMap_append, List.flatMap_append,
    List.flatMap_map]
  refine congrArg (· ++ _) ?_
  have ports : "wfd_client_rtp_ports: RTP/AVP/UDP;unicast ".toList =
      "wfd_client_rtp_ports".toList ++ [':', ' '] ++ "RTP/AVP/UDP;unicast ".toList := by
    simp
  have audio : "wfd_audio_codecs: ".toList = "wfd_audio_codecs".toList ++ [':', ' '] := by
    simp
  have video : "wfd_video_formats: ".toList = "wfd_video_formats".toList ++ [':', ' '] := by
    simp
  have stereo : "wfd_3d_video_formats: none".toList =
      "wfd_3d_video_formats".toList ++ [':', ' '] ++ "none".toList := by simp
  have coupled : "wfd_coupled_sink: none".toList =
      "wfd_coupled_sink".toList ++ [':', ' '] ++ "none".toList := by simp
  have connector : "wfd_connector_type: 05".toList =
      "wfd_connector_type".toList ++ [':', ' '] ++ "05".toList := by simp
  have standby : "wfd_standby_resume_capability: none".toList =
      "wfd_standby_resume_capability".toList ++ [':', ' '] ++ "none".toList := by simp
  have protection : "wfd_content_protection: none".toList =
      "wfd_content_protection".toList ++ [':', ' '] ++ "none".toList := by simp
  have uibc :
      ("wfd_uibc_capability: input_category_list=GENERIC, HIDC;generic_cap_list=Keyboard, Mouse;" ++
        "hidc_cap_list=Keyboard/USB, Mouse/USB;port=").toList =
      "wfd_uibc_capability".toList ++ [':', ' '] ++
        ("input_category_list=GENERIC, HIDC;generic_cap_list=Keyboard, Mouse;" ++
          "hidc_cap_list=Keyboard/USB, Mouse/USB;port=").toList := by simp
  unfold WfdNegotiator.fixedOffers uibcLine
  simp only [List.flatMap_cons, List.flatMap_nil, ParameterFormat.line, wfdParameters, ports, audio,
    video, stereo, coupled, connector, standby, protection, uibc, List.append_assoc]

/-! ## Reading it back -/

private theorem clear_of_oneLine {name value : Str} (plain : ∀ c ∈ name, c ≠ ' ' ∧ c ≠ '\n')
    (oneLine : '\n' ∉ value) : wfdParameters.Clear (name, value) := by
  constructor
  · intro cut
    have blank : ' ' ∈ name ++ [':'] := cut.subset (.tail _ (.head _))
    rcases List.mem_append.mp blank with inName | colon
    · exact (plain _ inName).1 rfl
    · exact absurd colon (by decide)
  · intro cut
    have feed : '\n' ∈ name ++ [':', ' '] ++ value ++ ['\r'] := cut.subset (.tail _ (.head _))
    simp only [List.mem_append] at feed
    rcases feed with ((inName | separator) | inValue) | return_
    · exact (plain _ inName).2 rfl
    · exact absurd separator (by decide)
    · exact oneLine inValue
    · exact absurd return_ (by decide)

/-- The names that the sink may have something to say to. -/
def parameterNames : List Str :=
  ["wfd_client_rtp_ports".toList, "wfd_audio_codecs".toList, "wfd_video_formats".toList,
    "wfd_3d_video_formats".toList, "wfd_coupled_sink".toList, "wfd_connector_type".toList,
    "wfd_uibc_capability".toList, "wfd_standby_resume_capability".toList,
    "wfd_content_protection".toList, "wfd_display_edid".toList, "intel_friendly_name".toList,
    "intel_sink_manufacturer_name".toList, "intel_sink_model_name".toList,
    "intel_sink_version".toList, "intel_sink_device_URL".toList,
    "wfd_idr_request_capability".toList]

private theorem names_of_offers (n : WfdNegotiator) (m3Request : Str) :
    ((n.offers m3Request).map Prod.fst).Sublist parameterNames := by
  have asked : ∀ answers : List (Str × Option Str),
      ((answers.filterMap (askedFor m3Request)).map Prod.fst).Sublist (answers.map Prod.fst) := by
    intro answers
    induction answers with
    | nil => exact .slnil
    | cons answer answers ih =>
      rw [List.filterMap_cons, askedFor]
      obtain ⟨name, answer⟩ := answer
      cases contains name m3Request <;> cases answer
      · exact ih.cons _
      · exact ih.cons _
      · exact ih.cons _
      · exact ih.cons_cons _
  rw [WfdNegotiator.offers, List.map_append]
  exact (asked n.capabilities.answers).append_left (n.fixedOffers.map Prod.fst)

private theorem plain_of_parameterName {name : Str} (h : name ∈ parameterNames) :
    ∀ c ∈ name, c ≠ ' ' ∧ c ≠ '\n' := by
  have all : (parameterNames.all fun name => name.all fun c => c != ' ' && c != '\n') = true := by
    decide
  intro c hc
  simpa using List.all_eq_true.mp (List.all_eq_true.mp all name h) c hc

private theorem lineFeed_not_mem {text : Str} (visible : ∀ c ∈ text, 32 ≤ c.toNat) : '\n' ∉ text :=
  fun mem => absurd (visible _ mem) (by decide)

private theorem oneLine_edid (edid : Bytes) :
    '\n' ∉ hex4 (edid.length / 256 + 1) ++ [' '] ++ hexBytes edid := by
  have upper : ∀ k < 16, 32 ≤ (Nat.digitChar k).toUpper.toNat := by decide
  have lower : ∀ k < 16, 32 ≤ (Nat.digitChar k).toNat := by decide
  refine lineFeed_not_mem fun c hc => ?_
  simp only [hex4, hexBytes, List.mem_append, List.mem_replicate, List.mem_map, List.mem_flatMap,
    List.mem_cons, List.not_mem_nil, or_false] at hc
  rcases hc with ((⟨_, rfl⟩ | ⟨d, hd, rfl⟩) | rfl) | ⟨b, _, rfl | rfl⟩
  · decide
  · obtain ⟨k, small, rfl⟩ := digitChar_of_mem_toDigits hd
    exact upper k small
  · decide
  · exact lower _ (by have := b.toNat_lt; omega)
  · exact lower _ (by omega)

private theorem oneLine_of_offers {n : WfdNegotiator} (oneLine : n.capabilities.OneLine)
    (m3Request : Str) :
    ∀ offer ∈ n.offers m3Request, '\n' ∉ offer.2 := by
  have fixed : ∀ offer ∈ n.fixedOffers, '\n' ∉ offer.2 := by
    have digits : '\n' ∉ decimal n.session.sinkRtpPort :=
      lineFeed_not_mem fun c hc => Nat.le_trans (by decide) (isDigit_of_mem_decimal hc).1
    unfold WfdNegotiator.fixedOffers
    simp only [List.forall_mem_cons, List.mem_append, not_or]
    refine ⟨⟨⟨by decide, digits⟩, by decide⟩, ?_, ⟨⟨⟨?_, by decide⟩, ?_⟩, by decide⟩, by decide,
      by decide, by decide, ⟨by simp, ?_⟩, by decide, by decide, List.forall_mem_nil _⟩
    all_goals
      split <;> decide
  have asked : ∀ answer ∈ n.capabilities.answers, ∀ value ∈ answer.2, '\n' ∉ value := by
    unfold WfdCapabilities.answers
    simp only [List.forall_mem_cons, Option.mem_def, Option.some_inj, forall_eq']
    refine ⟨fun value isEdid => ?_, oneLine.deviceName, oneLine.deviceName, oneLine.sinkModel,
      oneLine.sinkVersion, by decide, by decide, List.forall_mem_nil _⟩
    obtain ⟨edid, _, rfl⟩ := Option.map_eq_some_iff.mp isEdid
    exact oneLine_edid edid
  intro offer h
  rcases List.mem_append.mp h with isFixed | isAsked
  · exact fixed offer isFixed
  · obtain ⟨answer, among, given⟩ := List.mem_filterMap.mp isAsked
    unfold askedFor at given
    split at given
    · obtain ⟨value, isValue, rfl⟩ := Option.map_eq_some_iff.mp given
      exact asked answer among value isValue
    · cases given

private theorem videoModes_offered (n : WfdNegotiator) (m3Request : Str) :
    ((n.offers m3Request).lookup "wfd_video_formats".toList).bind videoModes =
      some (if n.capabilities.allow1080p60 then (8, 0x1FFFF) else (7, 0x19CFF)) := by
  have found : (n.offers m3Request).lookup "wfd_video_formats".toList = some
      ((if n.capabilities.allow1080p60 then "40".toList else "38".toList) ++ " 00 02 10 ".toList ++
        (if n.capabilities.allow1080p60 then "0001FFFF".toList else "00019CFF".toList) ++
        " 00000000 00000000 00 0000 0000 00 none none".toList) := by
    rw [WfdNegotiator.offers, List.lookup_append]
    rfl
  rw [found]
  cases n.capabilities.allow1080p60 <;> decide

private theorem oneLine_of_accepted {text : Str} {config : RoomConfig}
    (accepted : parseRoomConfig text = .ok config) : '\n' ∉ config.deviceName := by
  obtain ⟨_, _, roomName, _⟩ := parseRoomConfig_eq_ok_iff.mp accepted
  intro feed
  exact absurd (unbroken_of_lastValue roomName _ feed) (by decide)

private theorem read_body {n : WfdNegotiator} (oneLine : n.capabilities.OneLine) (request : Str) :
    wfdParameters.read (n.buildCapabilityBody request) = some (n.offers request) := by
  rw [buildCapabilityBody_eq]
  refine ParameterFormat.read_write fun offer offered => ?_
  have name : offer.1 ∈ parameterNames :=
    (names_of_offers n request).subset (List.mem_map_of_mem offered)
  exact clear_of_oneLine (plain_of_parameterName name)
    (oneLine_of_offers oneLine request _ offered)

/-! ## On the wire -/

/-- The bytes that a source takes for the body of the message that a stream starts with: as many as
the header announces. -/
def BodyAt (stream body : Bytes) : Prop :=
  ∃ header rest, stream = header ++ body ++ rest ∧ IsHeader header ∧
    announced header = some body.length

/-- The announced number of bytes is that of the characters, so the body is as many bytes of the
encoded text. -/
private theorem bodyAt_m3Response_iff {cseq body : Str} (clean : Clean cseq) (rest : Bytes)
    {content : Bytes} :
    BodyAt (encode (m3Response cseq body) ++ rest) content ↔
      (decimal body.length).length ≤ maxStrDigits ∧ content = (encode body).take body.length := by
  have stream : encode (m3Response cseq body) ++ rest =
      encode (m3Header cseq body.length) ++ (encode body ++ rest) := by
    rw [m3Response_eq, encode_append, List.append_assoc]
  have bytes := length_le_encode_length body
  constructor
  · rintro ⟨header, left, cut, isHeader, length⟩
    rw [stream, List.append_assoc] at cut
    obtain ⟨headEnd, ends, size⟩ := find_header isHeader (content ++ left)
    obtain ⟨headEnd', ends', size'⟩ :=
      find_header (m3Header_isHeader clean body.length) (encode body ++ rest)
    rw [cut, ends] at ends'
    have sizes : header.length = (encode (m3Header cseq body.length)).length := by
      rw [← size, ← size', Option.some.inj ends']
    obtain ⟨same, bodies⟩ := List.append_inj cut.symm sizes
    rw [same, announced_m3Header clean, intOfDigits, ofDigits_decimal] at length
    split at length
    next fits =>
      refine ⟨fits, ?_⟩
      have size := Option.some.inj length
      have taken := congrArg (List.take content.length) bodies
      rw [List.take_left, ← size, List.take_append_of_le_length bytes] at taken
      exact taken
    next => cases length
  · rintro ⟨fits, rfl⟩
    refine ⟨encode (m3Header cseq body.length), (encode body).drop body.length ++ rest, ?_,
      m3Header_isHeader clean _, ?_⟩
    · rw [stream, List.append_assoc, ← List.append_assoc (List.take _ _), List.take_append_drop]
    · rw [announced_m3Header clean, intOfDigits, if_pos fits, ofDigits_decimal, List.length_take,
        Nat.min_eq_left bytes]

/-- The text that those bytes are decoded to is the text of the table when it is ASCII, and only
then. -/
private theorem read_taken_iff {n : WfdNegotiator} (oneLine : n.capabilities.OneLine)
    (request : Str) :
    wfdParameters.read (decode ((encode (n.buildCapabilityBody request)).take
        (n.buildCapabilityBody request).length)) = some (n.offers request) ↔
      AsciiAnswer n.capabilities request := by
  have whole := List.take_append_drop (n.buildCapabilityBody request).length
    (encode (n.buildCapabilityBody request))
  constructor
  · intro reads
    have text := ParameterFormat.write_read reads
    rw [← buildCapabilityBody_eq] at text
    have nothing := eq_encode_of_prefix whole text.symm fun c hc => by
      rw [getLast?_body] at hc
      obtain rfl := Option.some.inj hc
      decide
    have sizes := List.drop_eq_nil_iff.mp nothing
    exact ascii_body_iff.mp
      (encode_length_eq_iff.mp (Nat.le_antisymm sizes (length_le_encode_length _)))
  · intro ascii
    rw [← encode_length_eq_iff.mpr (ascii_body_iff.mpr ascii), List.take_length, decode_encode]
    exact read_body oneLine request

/-- A source that takes as many bytes as the response to M3 announces, whatever follows, and reads
them line by line has the table of what the sink offers exactly when the names that it asked for are
ASCII, and the length has not too many digits: the sink counts characters. The table has each name
once. The preferred mode is one of the modes that are offered, and 1080p60 is one of them if it is
allowed. -/
theorem m3_answer_reads_back {text : Str} {config : RoomConfig}
    (accepted : parseRoomConfig text = .ok config) {n n' : WfdNegotiator} {request response : Str}
    (device : n.capabilities.deviceName = config.deviceName)
    (model : '\n' ∉ n.capabilities.sinkModel) (version : '\n' ∉ n.capabilities.sinkVersion)
    (answered : WfdNegotiator.handleM3GetParameter request n = .ok response n') :
    (∀ rest, (∃ content, BodyAt (encode response ++ rest) content ∧
          wfdParameters.read (decode content) = some (n.offers request)) ↔
        AsciiAnswer n.capabilities request ∧
          (decimal (n.buildCapabilityBody request).length).length ≤ maxStrDigits) ∧
      ((n.offers request).map Prod.fst).Nodup ∧
      ∃ preferred modes,
        ((n.offers request).lookup "wfd_video_formats".toList).bind videoModes =
          some (preferred, modes) ∧
        modes.testBit preferred = true ∧ modes.testBit 8 = n.capabilities.allow1080p60 := by
  refine ⟨fun rest => ?_, ?_, ?_⟩
  · obtain ⟨_, cseq, _, found, replied, _⟩ := WfdNegotiator.answerRequest_eq_ok answered
    cases replied
    have clean : Clean cseq := clean_of_search found (by decide) (by decide)
    have oneLine : n.capabilities.OneLine :=
      ⟨device ▸ oneLine_of_accepted accepted, model, version⟩
    simp only [bodyAt_m3Response_iff clean, ← read_taken_iff oneLine]
    constructor
    · rintro ⟨_, ⟨fits, rfl⟩, reads⟩
      exact ⟨reads, fits⟩
    · rintro ⟨reads, fits⟩
      exact ⟨_, ⟨fits, rfl⟩, reads⟩
  · exact (names_of_offers n request).nodup (by decide)
  · refine ⟨_, _, videoModes_offered n request, ?_⟩
    cases n.capabilities.allow1080p60 <;> decide

/-- The negotiator of a room, at M3. -/
def atM3 (deviceName : String) : WfdNegotiator :=
  { WfdNegotiator.new { deviceName := deviceName.toList } with state := .waitM3 }

/-- A source that asks for the name of the sink. -/
def asksForName : Str :=
  "GET_PARAMETER * RTSP/1.0\r\nCSeq: 2\r\nContent-Length: 21\r\n\r\nintel_friendly_name\r\n".toList

/-- It reads the name as it was configured. -/
theorem m3_answer_reads_back_name :
    ∃ content, BodyAt (encode (m3Response "2".toList ((atM3 "Room 3").buildCapabilityBody
          asksForName))) content ∧
        wfdParameters.read (decode content) = some ((atM3 "Room 3").offers asksForName) ∧
        ((atM3 "Room 3").offers asksForName).lookup "intel_friendly_name".toList =
          some "Room 3".toList := by
  have accepted : parseRoomConfig ("room_name = Room 3\nwps_pin=12345670\n".toList ++
      "passphrase=12345678\nchannel=36".toList) =
      .ok ⟨"Room 3".toList, "12345670".toList, "12345678".toList, 36⟩ := rfl
  have answered : WfdNegotiator.handleM3GetParameter asksForName (atM3 "Room 3") = .ok
      (m3Response "2".toList ((atM3 "Room 3").buildCapabilityBody asksForName))
      { atM3 "Room 3" with state := .waitM4 } :=
    WfdNegotiator.answerRequest_ok (atM3 "Room 3") rfl (by decide) rfl
  obtain ⟨content, body, reads⟩ :=
    ((m3_answer_reads_back accepted rfl (by decide) (by decide) answered).1 []).mpr
      ⟨⟨fun _ => by decide, fun _ => by decide, fun _ => by decide⟩, by decide +kernel⟩
  rw [List.append_nil] at body
  exact ⟨content, body, reads, by decide⟩

end Castd.Wfdsink
