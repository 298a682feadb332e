import Castd.Wfdsink.Conversation

/-!
# Sessions and cuts

What a control session does is a function of the stream alone: over two cuts of one stream into
chunks, `negotiate` and `run_steady_state` end in the same way, with the same negotiator and the
same sent (`negotiate_respects_cuts`, `runSteadyState_respects_cuts`).
-/

namespace Castd.Wfdsink

open Lib WfdNegotiator

/-- Two readers have the same stream to return, and have sent the same. -/
def SameStream (r q : RtspReader) : Prop :=
  ∃ stream sent, r.Delivers stream sent ∧ q.Delivers stream sent

/-- Two sessions on the same stream with the same negotiator. -/
structure SameSession (s t : ControlSession) : Prop where
  reader : SameStream s.reader t.reader
  negotiator : s.negotiator = t.negotiator

private theorem nextMessage_respects : Respects SameSession nextMessage := by
  refine Respects.focus (Q := SameStream) ?_ (fun _ _ same => same.reader)
    fun _ _ _ _ same same' => ⟨same', same.negotiator⟩
  rintro r q ⟨stream, sent, delivers, delivers'⟩
  cases hscan : scanMessage stream with
  | frame m rest =>
    have frame := scanMessage_eq_frame_iff.mp hscan
    obtain ⟨r', read, left⟩ := delivers.nextMessage_frame frame
    obtain ⟨q', read', left'⟩ := delivers'.nextMessage_frame frame
    exact .inl ⟨_, r', q', read, read', rest, sent, left, left'⟩
  | more =>
    obtain ⟨r', read, left⟩ := delivers.nextMessage_more hscan
    obtain ⟨q', read', left'⟩ := delivers'.nextMessage_more hscan
    exact .inl ⟨_, r', q', read, read', [], sent, left, left'⟩
  | fails e =>
    obtain ⟨r', raised, left⟩ := delivers.nextMessage_fails hscan
    obtain ⟨q', raised', left'⟩ := delivers'.nextMessage_fails hscan
    exact .inr ⟨e, r', q', raised, raised', stream, sent, left, left'⟩

private theorem sendall_respects (text : Str) : Respects SameSession (sendall text) := by
  rintro s t ⟨⟨stream, sent, delivers, delivers'⟩, same⟩
  obtain ⟨sock, sending, left⟩ := delivers.sendall (encode text)
  obtain ⟨sock', sending', left'⟩ := delivers'.sendall (encode text)
  exact .inl ⟨(), _, _, focus_of_ok sending, focus_of_ok sending',
    ⟨_, _, left, left'⟩, same⟩

private theorem settimeout_respects : Respects SameSession settimeout := by
  rintro s t ⟨⟨stream, sent, delivers, delivers'⟩, same⟩
  exact .inl ⟨(), _, _, delivers.settimeout _, delivers'.settimeout _,
    ⟨stream, sent, delivers, delivers'⟩, same⟩

private theorem onNegotiator_respects {α : Type} (method : Negotiating α) :
    Respects SameSession (onNegotiator method) :=
  Respects.focus (.of_eq method) (fun _ _ same => same.negotiator)
    fun _ _ _ _ same same' => ⟨same.reader, same'⟩

/-- `negotiate` does the same over every cut of a stream. -/
theorem negotiate_respects_cuts (sourceIp : Str) : Respects SameSession (negotiate sourceIp) := by
  apply nextMessage_respects.bind
  intro m1
  apply (onNegotiator_respects _).bind
  intro m1Response
  apply (sendall_respects _).bind
  intro _
  apply (onNegotiator_respects _).bind
  intro m2Request
  apply (sendall_respects _).bind
  intro _
  apply nextMessage_respects.bind
  intro _
  apply nextMessage_respects.bind
  intro m3
  apply (onNegotiator_respects _).bind
  intro m3Response
  apply (sendall_respects _).bind
  intro _
  apply nextMessage_respects.bind
  intro m4
  apply (onNegotiator_respects _).bind
  intro m4Response
  apply (sendall_respects _).bind
  intro _
  apply nextMessage_respects.bind
  intro m5
  apply (onNegotiator_respects _).bind
  intro m5Response
  apply (sendall_respects _).bind
  intro _
  apply (onNegotiator_respects _).bind
  intro m6Request
  apply (sendall_respects _).bind
  intro _
  apply nextMessage_respects.bind
  intro m6Response
  apply (onNegotiator_respects _).bind
  intro session
  apply (onNegotiator_respects _).bind
  intro m7Request
  apply (sendall_respects _).bind
  intro _
  apply nextMessage_respects.bind
  intro m7Response
  apply (onNegotiator_respects _).bind
  intro _
  exact .pure session

/-! ## The steady state -/

private theorem nextSteadyMessage_respects : Respects SameSession nextSteadyMessage := by
  intro s t same
  unfold nextSteadyMessage
  rcases nextMessage_respects s t same with returned | raised
  · obtain ⟨m, s', t', hs, ht, same'⟩ := returned
    rw [hs, ht]
    exact .inl ⟨_, s', t', rfl, rfl, same'⟩
  · obtain ⟨e, s', t', hs, ht, same'⟩ := raised
    rw [hs, ht]
    cases e with
    | timeoutError => exact .inl ⟨_, s', t', rfl, rfl, same'⟩
    | osError => exact .inl ⟨_, s', t', rfl, rfl, same'⟩
    | negotiation e => exact .inr ⟨_, s', t', rfl, rfl, same'⟩
    | valueError => exact .inr ⟨_, s', t', rfl, rfl, same'⟩

private theorem sendAll_respects : ∀ texts : List Str, Respects SameSession (sendAll texts)
  | [] => .pure ()
  | text :: texts => (sendall_respects text).bind fun _ => sendAll_respects texts

private theorem steadyRound_respects : Respects SameSession steadyRound := by
  apply nextSteadyMessage_respects.bind
  intro next
  cases next with
  | none => exact .pure false
  | some message =>
    refine Respects.bind ?_ fun _ => .pure _
    unfold ackMessage
    split
    · exact .pure ()
    · exact (onNegotiator_respects _).bind sendAll_respects

private theorem steadyLoop_respects : Respects SameSession steadyLoop := by
  intro s
  -- the bytes the first session has left to return
  induction size : s.reader.unread.length using Nat.strongRecOn generalizing s with
  | ind k ih =>
    intro t same
    rw [steadyLoop_eq s, steadyLoop_eq t]
    rcases steadyRound_respects s t same with returned | raised
    · obtain ⟨goesOn, s', t', hs, ht, same'⟩ := returned
      cases goesOn with
      | true =>
        have less := steadyRound_unread hs
        rw [hs, ht]
        exact ih _ (size ▸ less) s' rfl t' same'
      | false =>
        rw [hs, ht]
        exact .inl ⟨(), s', t', rfl, rfl, same'⟩
    · obtain ⟨e, s', t', hs, ht, same'⟩ := raised
      rw [hs, ht]
      exact .inr ⟨e, s', t', rfl, rfl, same'⟩

/-- `run_steady_state` does the same over every cut of a stream. -/
theorem runSteadyState_respects_cuts : Respects SameSession runSteadyState :=
  settimeout_respects.bind fun _ =>
    steadyLoop_respects.andFinally (onNegotiator_respects markTornDown)

end Castd.Wfdsink
