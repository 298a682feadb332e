import Castd.Wfdsink.Message

/-!
# What the response to M6 says

`parse_m6_response` is to record the port of the Transport header and the id of the Session header,
or to raise `NegotiationError`. It searches the whole response for a number after `server_port=`
and for word characters and dots after `Session:`.

`RecordsWhole` is what it is to do, in terms of the header fields, and `ReadableM6` when it does, in
terms of the places in the text where such a field stands (`parseM6Response_recordsWhole_iff`). A
session id with another character that RFC 2326 allows is never recorded whole.
-/

namespace Castd.Wfdsink

open Lib WfdNegotiator

/-! ## The fields -/

/-- The value of a parameter of the Transport header. -/
def transportParameter (name : String) (response : Str) : Option Str :=
  (headerField "Transport" response).bind fun value =>
    (split [';'] value).findSome? fun parameter =>
      afterLiteral (· == ·) (name.toList ++ ['=']) (parameter.dropWhile isSpace)

/-- The port of the source, the first of a range. -/
def transportPort (response : Str) : Option Nat :=
  ((transportParameter "server_port" response).bind leadingNumber).map (·.1)

/-- The session id: the Session header up to the first `;` or blank. -/
def sessionToken (response : Str) : Option Str :=
  (headerField "Session" response).map (List.takeWhile fun c => c != ';' && !isSpace c)

/-! ## Recording -/

/-- `parse_m6_response` records the port of the Transport header and the id of the Session header,
and PLAY then carries that id; or it raises `NegotiationError` and changes nothing. -/
def RecordsWhole (response : Str) (n : WfdNegotiator) : Prop :=
  match parseM6Response response n with
  | .ok _ n' => ∃ port token, transportPort response = some port ∧ port ≤ 65535 ∧
      sessionToken response = some token ∧
      n'.session.serverPort = some port ∧ n'.session.sessionId = some token ∧
      ∀ sourceIp, ∃ play n'', buildM7PlayRequest sourceIp n' = .ok play n'' ∧
        "\r\nSession: ".toList ++ token ++ crlf2 <:+ play
  | .error (.negotiation _) n' => n' = n
  | .error _ _ => False

/-- A response that can be read. The leftmost `server_port=` with digits after it has the number of
the Transport header there, wherever it stands, and the leftmost `Session:` with a word after it has
the whole id of the Session header there. A response without a place of the one or the other kind is
rejected. -/
inductive ReadableM6 (response : Str) : Prop
  | noPort (missing : ∀ i digits, ¬ PortAt response i digits)
  | noSession (missing : ∀ i token, ¬ SessionAt response i token)
  | readable {i j : Nat} {digits token : Str}
    (port : First (PortAt response) i digits)
    (fits : digits.length ≤ maxStrDigits)
    (range : ofDigits digits ≤ 65535)
    (transport : transportPort response = some (ofDigits digits))
    (session : First (SessionAt response) j token)
    (whole : sessionToken response = some token)

private theorem session_suffix_m7Request (sourceIp : Str) (cseq : Nat) (sessionId : Str) :
    "\r\nSession: ".toList ++ sessionId ++ crlf2 <:+ m7Request sourceIp cseq sessionId := by
  unfold m7Request
  rw [List.append_assoc _ "\r\nSession: ".toList, List.append_assoc, List.append_assoc,
    ← List.append_assoc "\r\nSession: ".toList]
  exact List.suffix_append _ _

private theorem recordsWhole_iff_readable {n : WfdNegotiator} {response : Str}
    (stands : n.state = .waitM6Response) : RecordsWhole response n ↔ ReadableM6 response := by
  unfold RecordsWhole
  cases hport : serverPortRe.search response with
  | none =>
    rw [parseM6Response_noServerPort stands hport]
    exact iff_of_true rfl (.noPort (serverPortRe_search_eq_none_iff.mp hport))
  | some digits =>
    obtain ⟨i, port⟩ := serverPortRe_search_eq_some_iff.mp hport
    cases hid : sessionRe.search response with
    | none =>
      rw [parseM6Response_noSessionId stands hport hid]
      exact iff_of_true rfl (.noSession (sessionRe_search_eq_none_iff.mp hid))
    | some token =>
      obtain ⟨j, session⟩ := sessionRe_search_eq_some_iff.mp hid
      by_cases fits : digits.length ≤ maxStrDigits
      · have value : intOfDigits digits = some (ofDigits digits) := if_pos fits
        rw [parseM6Response_ok stands hport hid value]
        constructor
        · rintro ⟨port', token', transport, range, whole, ⟨⟩, ⟨⟩, _⟩
          exact .readable port fits range transport session whole
        · rintro (missing | missing | ⟨port', _, range, transport, session', whole⟩)
          · exact absurd port.1 (missing i digits)
          · exact absurd session.1 (missing j token)
          · cases hport.symm.trans (serverPortRe_search_eq_some_iff.mpr ⟨_, port'⟩)
            cases hid.symm.trans (sessionRe_search_eq_some_iff.mpr ⟨_, session'⟩)
            refine ⟨_, _, transport, range, whole, rfl, rfl, fun sourceIp => ?_⟩
            exact ⟨_, _, buildM7PlayRequest_ok sourceIp rfl, session_suffix_m7Request _ _ _⟩
      · have value : intOfDigits digits = none := if_neg fits
        rw [parseM6Response_valueError stands hport hid value]
        refine iff_of_false id ?_
        rintro (missing | missing | ⟨port', short, _⟩)
        · exact missing i digits port.1
        · exact missing j token session.1
        · cases hport.symm.trans (serverPortRe_search_eq_some_iff.mpr ⟨_, port'⟩)
          exact fits short

private theorem not_readable_of_symbol {response token : Str} {c : Char} {i j : Nat}
    {digits word : Str} (session : sessionToken response = some token) (symbol : c ∈ token)
    (noWord : isWord c = false) (noDot : c ≠ '.') (port : PortAt response i digits)
    (found : SessionAt response j word) : ¬ ReadableM6 response := by
  rintro (missing | missing | ⟨_, _, _, _, ⟨first, _⟩, whole⟩)
  · exact missing i digits port
  · exact missing j word found
  · cases session.symm.trans whole
    obtain ⟨_, _, _, _, _, _, _, kinds, _⟩ := first
    rcases kinds c symbol with isWord | isDot
    · rw [noWord] at isWord
      cases isWord
    · exact noDot isDot

/-- For every text as response to M6: the port and the session id are recorded whole or the
response is rejected exactly when it is readable. When it has both fields and the id in its Session
header has a character that is neither a word character nor a dot, as `12-34` has, they are not. -/
theorem parseM6Response_recordsWhole_iff {n : WfdNegotiator} {response : Str}
    (stands : n.state = .waitM6Response) :
    (RecordsWhole response n ↔ ReadableM6 response) ∧
      ((∃ token, sessionToken response = some token ∧
          ∃ c ∈ token, isWord c = false ∧ c ≠ '.') →
        (∃ i digits, PortAt response i digits) → (∃ j word, SessionAt response j word) →
          ¬ RecordsWhole response n) := by
  refine ⟨recordsWhole_iff_readable stands, ?_⟩
  rintro ⟨token, session, c, symbol, noWord, noDot⟩ ⟨i, digits, port⟩ ⟨j, word, found⟩ whole
  exact not_readable_of_symbol session symbol noWord noDot port found
    ((recordsWhole_iff_readable stands).mp whole)

private theorem readable_of_search {response digits token : Str}
    (port : serverPortRe.search response = some digits) (fits : digits.length ≤ maxStrDigits)
    (range : ofDigits digits ≤ 65535) (transport : transportPort response = some (ofDigits digits))
    (session : sessionRe.search response = some token)
    (whole : sessionToken response = some token) :
    ReadableM6 response := by
  obtain ⟨_, portFirst⟩ := serverPortRe_search_eq_some_iff.mp port
  obtain ⟨_, sessionFirst⟩ := sessionRe_search_eq_some_iff.mp session
  exact .readable portFirst fits range transport sessionFirst whole

/-- A response to M6 with a range of ports and a timeout. -/
def sessionResponse (id : String) : Str :=
  ("RTSP/1.0 200 OK\r\nCSeq: 2\r\nSession: " ++ id ++ ";timeout=60\r\n" ++
    "Transport: RTP/AVP/UDP;unicast;client_port=1028;server_port=48753-48754\r\n\r\n").toList

private theorem sessionResponse_eq (id : String) : sessionResponse id =
    "RTSP/1.0 200 OK\r\nCSeq: 2\r\nSession: ".toList ++ id.toList ++ ";timeout=60\r\n".toList ++
      "Transport: RTP/AVP/UDP;unicast;client_port=1028;server_port=48753-48754\r\n\r\n".toList := by
  simp only [sessionResponse, String.toList_append]

/-- A negotiator that waits for the response to M6. -/
def waitingForM6 : WfdNegotiator := { WfdNegotiator.new {} 1028 with state := .waitM6Response }

theorem recordsWhole_of_digits : RecordsWhole (sessionResponse "8734.1_a") waitingForM6 := by
  have stands : waitingForM6.state = .waitM6Response := rfl
  have port : serverPortRe.search (sessionResponse "8734.1_a") = some "48753".toList := by
    rw [sessionResponse_eq]
    repeat rw [String.toList_ofList]
    decide +kernel
  have first : sessionRe.search (sessionResponse "8734.1_a") = some "8734.1_a".toList := by
    rw [sessionResponse_eq]
    repeat rw [String.toList_ofList]
    decide +kernel
  have transport : transportPort (sessionResponse "8734.1_a") =
      some (ofDigits "48753".toList) := by
    rw [sessionResponse_eq]
    repeat rw [String.toList_ofList]
    decide +kernel
  have session : sessionToken (sessionResponse "8734.1_a") = some "8734.1_a".toList := by
    rw [sessionResponse_eq]
    repeat rw [String.toList_ofList]
    decide +kernel
  have fits : "48753".toList.length ≤ maxStrDigits := by decide +kernel
  have range : ofDigits "48753".toList ≤ 65535 := by decide +kernel
  have readable : ReadableM6 (sessionResponse "8734.1_a") :=
    readable_of_search port fits range transport first session
  rw [(parseM6Response_recordsWhole_iff stands).1]
  exact readable

/-- Of the session id `12-34` the part before the hyphen is recorded, and PLAY carries it. -/
theorem session_id_is_cut_at_hyphen :
    (stateAfter (parseM6Response (sessionResponse "12-34") waitingForM6)).session.sessionId =
      some "12".toList ∧
    sessionToken (sessionResponse "12-34") = some "12-34".toList ∧
    ¬ RecordsWhole (sessionResponse "12-34") waitingForM6 := by
  have recorded : (stateAfter (parseM6Response (sessionResponse "12-34")
      waitingForM6)).session.sessionId = some "12".toList := by
    rw [sessionResponse_eq]
    repeat rw [String.toList_ofList]
    decide +kernel
  have token : sessionToken (sessionResponse "12-34") = some "12-34".toList := by
    rw [sessionResponse_eq]
    repeat rw [String.toList_ofList]
    decide +kernel
  refine ⟨recorded, token, ?_⟩
  have parsed :
      (valueOf (parseM6Response (sessionResponse "12-34") waitingForM6)).isSome = true := by
    rw [sessionResponse_eq]
    repeat rw [String.toList_ofList]
    decide +kernel
  unfold RecordsWhole
  cases hparse : parseM6Response (sessionResponse "12-34") waitingForM6 with
  | ok session n' =>
    rw [hparse] at recorded
    rintro ⟨port, token', _, _, whole, _, kept, _⟩
    cases token.symm.trans whole
    cases recorded.symm.trans kept
  | error e n' =>
    rw [hparse] at parsed
    cases parsed

end Castd.Wfdsink
