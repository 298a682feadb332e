import Castd.Wfdsink.MessageOrder

/-!
# The opening of a handshake

`negotiate` up to its response to M3. Over any socket, an opening that returns has sent what the
conversation over the messages it heard says (`openHandshake_transcribes`), and it returns when its
stages pass. The rules follow the text of `negotiate`.
-/

namespace Castd.Wfdsink

open Lib WfdNegotiator

/-- A send that returns adds the bytes of the text, and nothing else. -/
theorem sendall_adds {text : Str} {s s' : ControlSession} (h : sendall text s = .ok () s') :
    s'.negotiator = s.negotiator ∧ s'.reader.buf = s.reader.buf ∧
      s'.reader.sock.inbound = s.reader.sock.inbound ∧
      s'.reader.sock.sent = s.reader.sock.sent ++ [encode text] := by
  obtain ⟨sock, hsock, rfl⟩ := focus_eq_ok_iff.mp h
  unfold Sock.sendall at hsock
  split at hsock <;> cases hsock <;> exact ⟨rfl, rfl, rfl, rfl⟩

/-- A send that raises has sent nothing. -/
theorem sendall_adds_nothing {text : Str} {s s' : ControlSession} {e : PyError}
    (h : sendall text s = .error e s') : s'.reader.sock.sent = s.reader.sock.sent := by
  obtain ⟨sock, hsock, rfl⟩ := focus_eq_error_iff.mp h
  unfold Sock.sendall at hsock
  split at hsock <;> cases hsock
  rfl

/-- Where the action returns after these messages, it has sent what the conversation says. -/
def Transcribes {α : Type} (x : Running α) (y : Negotiating (List Str × α))
    (messages : List Str) : Prop :=
  ∀ (s s' : ControlSession) (a : α), x s = .ok a s' →
    heard messages.length s.reader.buf s.reader.sock.inbound = messages →
      ∃ said, y s.negotiator = .ok (said, a) s'.negotiator ∧
        s'.reader.sock.sent = s.reader.sock.sent ++ said.map encode

section

variable {α β : Type} {messages : List Str}

private theorem transcribes_return {a : α} : Transcribes (pure a) (pure ([], a)) [] := by
  intro s s' b h _
  cases h
  exact ⟨[], rfl, by simp⟩

private theorem transcribes_read {m : Str} {k : Str → Running α} {y : Negotiating (List Str × α)}
    (rest : Transcribes (k m) y messages) : Transcribes (nextMessage >>= k) y (m :: messages) := by
  intro s s' a h hears
  obtain ⟨text, s₁, read, later⟩ := bind_eq_ok_iff.mp h
  obtain ⟨r, hr, rfl⟩ := focus_eq_ok_iff.mp read
  unfold RtspReader.nextMessage at hr
  split at hr
  · rename_i raw buf inbound hread
    cases hr
    rw [List.length_cons, heard, hread] at hears
    obtain ⟨rfl, others⟩ := List.cons.inj hears
    exact rest { s with reader := s.reader.leaving buf inbound } s' a later others
  · cases hr

private theorem transcribes_send {text : Str} {k : Unit → Running α}
    {y : Negotiating (List Str × α)}
    (rest : Transcribes (k ()) y messages) :
    Transcribes (sendall text >>= k) (say text y) messages := by
  intro s s' a h hears
  obtain ⟨_, s₁, sent, later⟩ := bind_eq_ok_iff.mp h
  obtain ⟨negotiator, buf, inbound, added⟩ := sendall_adds sent
  rw [← buf, ← inbound] at hears
  obtain ⟨said, spoken, sends⟩ := rest s₁ s' a later hears
  refine ⟨text :: said, ?_, ?_⟩
  · rw [negotiator] at spoken
    rw [say, bind_of_ok spoken]
    rfl
  · rw [sends, added, List.append_assoc]
    rfl

private theorem transcribes_call {method : Negotiating β} {k : β → Running α}
    {y : β → Negotiating (List Str × α)} (rest : ∀ b, Transcribes (k b) (y b) messages) :
    Transcribes (onNegotiator method >>= k) (method >>= y) messages := by
  intro s s' a h hears
  obtain ⟨b, s₁, called, later⟩ := bind_eq_ok_iff.mp h
  obtain ⟨n, hn, rfl⟩ := focus_eq_ok_iff.mp called
  obtain ⟨said, spoken, sends⟩ := rest b { s with negotiator := n } s' a later hears
  exact ⟨said, by rw [bind_of_ok hn, spoken], sends⟩

end

/-! ## The opening -/

/-- `negotiate` up to the response to M3. -/
def readUpToM3 : Running Str := do
  let request ← nextMessage
  let response ← onNegotiator (handleM1Options request)
  sendall response
  let m2Request ← onNegotiator buildM2OptionsRequest
  sendall m2Request
  let _m2Response ← nextMessage
  let request ← nextMessage
  onNegotiator (handleM3GetParameter request)

/-- `negotiate` with the response to M3. -/
def openHandshake : Running Unit := do
  let response ← readUpToM3
  sendall response

/-- `negotiate` after the response to M3. -/
def closeHandshake (sourceIp : Str) : Running WfdSessionParams := do
  let request ← nextMessage
  let response ← onNegotiator (handleM4SetParameter request)
  sendall response
  let request ← nextMessage
  let response ← onNegotiator (handleM5Generic request)
  sendall response
  let m6Request ← onNegotiator (buildM6SetupRequest sourceIp)
  sendall m6Request
  let m6Response ← nextMessage
  let session ← onNegotiator (parseM6Response m6Response)
  let m7Request ← onNegotiator (buildM7PlayRequest sourceIp)
  sendall m7Request
  let m7Response ← nextMessage
  onNegotiator (confirmStreaming m7Response)
  return session

theorem negotiate_eq (sourceIp : Str) :
    negotiate sourceIp = openHandshake >>= fun _ => closeHandshake sourceIp := by
  unfold negotiate openHandshake readUpToM3 closeHandshake
  simp only [bind_assoc]

/-- The opening of the negotiator alone. -/
def converseUpToM3 (m1 m3 : Str) : Negotiating (List Str × Str) := do
  let m1Response ← handleM1Options m1
  say m1Response do
    let m2Request ← buildM2OptionsRequest
    say m2Request do
      let m3Response ← handleM3GetParameter m3
      return ([], m3Response)

private theorem readUpToM3_transcribes (m1 m2 m3 : Str) :
    Transcribes readUpToM3 (converseUpToM3 m1 m3) [m1, m2, m3] := by
  have whole : readUpToM3 = nextMessage >>= fun request =>
      onNegotiator (handleM1Options request) >>= fun response => sendall response >>= fun _ =>
        onNegotiator buildM2OptionsRequest >>= fun m2Request => sendall m2Request >>= fun _ =>
          nextMessage >>= fun _ => nextMessage >>= fun request =>
            onNegotiator (handleM3GetParameter request) >>= pure := by
    unfold readUpToM3
    simp only [bind_pure]
  rw [whole]
  refine transcribes_read (transcribes_call fun _ => transcribes_send ?_)
  refine transcribes_call fun _ => transcribes_send ?_
  refine transcribes_read (transcribes_read (transcribes_call fun _ => ?_))
  exact transcribes_return

private theorem converseUpToM3_eq_ok {m1 m3 response : Str} {n n' : WfdNegotiator} {said : List Str}
    (h : converseUpToM3 m1 m3 n = .ok (said, response) n') :
    ∃ c1 c3, cseqRe.search m1 = some c1 ∧ cseqRe.search m3 = some c3 ∧
      said = [m1Response c1, m2Request (n.ownCseq + 1)] ∧
      response = m3Response c3 (n.buildCapabilityBody m3) := by
  obtain ⟨_, _, said1, h1, rest1, rfl⟩ := say_eq_ok h
  obtain ⟨_, c1, _, cseq1, replied1, rfl⟩ := answerRequest_eq_ok h1
  cases replied1
  obtain ⟨_, _, said2, h2, rest2, rfl⟩ := say_eq_ok rest1
  cases h2
  obtain ⟨_, _, h3, last⟩ := bind_eq_ok_iff.mp rest2
  obtain ⟨_, c3, _, cseq3, replied3, rfl⟩ := answerRequest_eq_ok h3
  cases replied3
  cases last
  exact ⟨c1, c3, cseq1, cseq3, rfl, rfl⟩

/-- The opening returns when its stages pass. -/
theorem openHandshake_decides :
    Decides (·.state = .waitM1) openHandshake (handshake.take 6) := by
  have whole : openHandshake = nextMessage >>= fun request =>
      onNegotiator (handleM1Options request) >>= fun response => sendall response >>= fun _ =>
        onNegotiator buildM2OptionsRequest >>= fun m2Request => sendall m2Request >>= fun _ =>
          nextMessage >>= fun _ => nextMessage >>= fun request =>
            onNegotiator (handleM3GetParameter request) >>= fun response =>
              sendall response >>= pure := by
    unfold openHandshake readUpToM3
    simp only [bind_assoc, bind_pure]
  rw [whole]
  refine decides_judged (short_of_state (by decide))
    (fun _ => judges_answerRequest fun c n _ => ⟨_, _, rfl⟩)
    (fun _ _ _ _ => answerRequest_keeps fun c => ⟨_, _, rfl⟩) fun _ _ => ?_
  refine decides_send (short_of_state (by decide)) ?_
  refine decides_build (J := (·.state = .waitM3))
    (fun n stands => ⟨_, _, buildM2OptionsRequest_ok, stands⟩) fun _ => ?_
  refine decides_send (short_of_state (by decide)) ?_
  refine decides_skip (short_of_state (by decide)) fun _ => ?_
  refine decides_judged (short_of_state (by decide))
    (fun _ => judges_answerRequest fun c n _ => ⟨_, _, rfl⟩)
    (fun _ _ _ _ => answerRequest_keeps fun c => ⟨_, _, rfl⟩) fun _ _ => ?_
  exact decides_send (short_of_state (by decide)) decides_return

private theorem readsOf_le_of_judged {stages : List Stage} : ∀ {messages : List Str},
    Judged stages messages → readsOf stages ≤ messages.length := by
  induction stages with
  | nil => exact fun _ => Nat.zero_le _
  | cons stage stages ih =>
    intro messages judged
    cases stage with
    | send => exact ih judged
    | read verdict =>
      cases messages with
      | nil => cases judged
      | cons message messages => exact Nat.succ_le_succ (ih judged.2)

/-- The source's M3 is answered: the opening passes over the socket, and `m3` is the third message
that it reads. -/
structure AnswersM3 (r : RtspReader) (m3 : Str) : Prop where
  passes : Passes (handshake.take 6) r
  third : (heard 3 r.buf r.sock.inbound)[2]? = some m3

/-- An opening that returns has answered M1 and M3 and sent M2. -/
theorem openHandshake_sent {s s' : ControlSession} (stands : s.negotiator.state = .waitM1)
    (returns : openHandshake s = .ok () s') :
    ∃ m3 c1 c3 m1, AnswersM3 s.reader m3 ∧ cseqRe.search m1 = some c1 ∧
      cseqRe.search m3 = some c3 ∧ s'.reader.sock.sent = s.reader.sock.sent ++
        [m1Response c1, m2Request (s.negotiator.ownCseq + 1),
          m3Response c3 (s.negotiator.buildCapabilityBody m3)].map encode := by
  have passes : Passes (handshake.take 6) s.reader := by
    rcases openHandshake_decides s stands with returned | raised
    · exact returned.2
    · obtain ⟨⟨e, s₁, raised, _⟩, _⟩ := raised
      cases returns.symm.trans raised
  have size : (heard 3 s.reader.buf s.reader.sock.inbound).length = 3 :=
    Nat.le_antisymm (heard_length_le 3 _ _) (readsOf_le_of_judged passes.1)
  obtain ⟨response, s₁, read, sends⟩ := bind_eq_ok_iff.mp returns
  match hears : heard 3 s.reader.buf s.reader.sock.inbound, size with
  | [m1, m2, m3], _ =>
    obtain ⟨said, spoken, sent⟩ := readUpToM3_transcribes m1 m2 m3 s s₁ response read hears
    obtain ⟨c1, c3, cseq1, cseq3, rfl, rfl⟩ := converseUpToM3_eq_ok spoken
    refine ⟨m3, c1, c3, m1, ⟨passes, by rw [hears]; rfl⟩, cseq1, cseq3, ?_⟩
    obtain ⟨_, _, _, added⟩ := sendall_adds sends
    rw [added, sent, List.append_assoc]
    rfl

end Castd.Wfdsink
