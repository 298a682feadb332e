import Castd.Wfdsink.ControlSession
import Castd.Wfdsink.Cuts

/-!
# A close inside a message

`next_message` is to return the next complete message, or "" when the peer closes. What it returns
for a stream that ends inside a message is the part that arrived (`nextMessage_of_unfinished`), and
`negotiate` and `run_steady_state` go on with it.

`CompleteOnly` is what the docstring says. It holds exactly where the peer closes between two
messages (`complete_only_iff`).
-/

namespace Castd.Wfdsink

open Lib WfdNegotiator

/-! ## Unfinished messages -/

/-- The length of the body that a header announces. -/
def bodyLength (header : Bytes) : Nat :=
  match contentLengthRe.search header with
  | some digits => ofDigits (digits.map fun b => Char.ofNat b.toNat)
  | none => 0

/-- What arrives of a message that the peer's close cuts off: no blank line has ended the header
yet, or the body is shorter than announced. -/
inductive Unfinished : Bytes → Prop
  | inHeader {lines : Bytes} (unended : ¬ blankLine <:+: lines) : Unfinished lines
  | inBody {header body : Bytes} (isHeader : IsHeader header)
    (short : body.length < bodyLength header) : Unfinished (header ++ body)

private theorem bodyLength_of_announced {header : Bytes} {n : Nat} (h : announced header = some n) :
    bodyLength header = n := by
  unfold announced at h
  unfold bodyLength
  cases hsearch : contentLengthRe.search header with
  | none =>
    rw [hsearch] at h
    exact Option.some.inj h
  | some digits =>
    rw [hsearch] at h
    simp only [intOfDigits] at h
    split at h
    · exact Option.some.inj h
    · cases h

/-- The reader finds no message in what is unfinished. -/
theorem Unfinished.scan {rem : Bytes} (h : Unfinished rem) :
    scanMessage rem = .more ∨ scanMessage rem = .fails .valueError := by
  cases h with
  | inHeader unended =>
    left
    have nowhere : find blankLine rem = none := by
      cases found : find blankLine rem with
      | none => rfl
      | some i => exact absurd (contains_iff_isInfix.mp (by rw [contains, found]; rfl)) unended
    rw [scanMessage, nowhere]
  | @inBody header body isHeader short =>
    obtain ⟨headEnd, found, size⟩ := find_header isHeader body
    cases hannounced : announced header with
    | none =>
      exact .inr (scanMessage_eq_fails_iff.mpr ⟨rfl, header, body, rfl, isHeader, hannounced⟩)
    | some n =>
      left
      rw [bodyLength_of_announced hannounced] at short
      have tooShort : ¬ headEnd + 4 + n ≤ (header ++ body).length := by
        rw [List.length_append]
        omega
      rw [scanMessage, found]
      simp only [size, List.take_left, hannounced]
      rw [size] at tooShort
      rw [if_neg tooShort]

namespace RtspReader.Delivers

variable {r : RtspReader} {stream rem : Bytes} {sent : List Bytes}

/-- As many calls as there are frames return them. -/
theorem nextMessages {k : Nat} (frames : AfterFrames k stream rem) :
    ∀ {r : RtspReader}, r.Delivers stream sent →
      ∃ messages r', RtspReader.nextMessages k r = .ok messages r' ∧ r'.Delivers rem sent := by
  induction frames with
  | none =>
    intro r delivers
    exact ⟨[], r, rfl, delivers⟩
  | @frame _ _ m _ _ frame _ ih =>
    intro r delivers
    obtain ⟨r₁, read, delivers₁⟩ := delivers.nextMessage_frame frame
    obtain ⟨messages, r₂, reads, delivers₂⟩ := ih delivers₁
    refine ⟨decode m :: messages, r₂, ?_, delivers₂⟩
    rw [RtspReader.nextMessages, bind_of_ok read, bind_of_ok reads]
    rfl

/-- What is unfinished when the peer closes is returned as it arrived, unless `int()` raises. -/
theorem nextMessage_of_unfinished (h : r.Delivers rem sent) (unfinished : Unfinished rem) :
    (∃ r', r.nextMessage = .ok (decode rem) r') ∨ ∃ e r', r.nextMessage = .error e r' := by
  rcases unfinished.scan with more | fails
  · obtain ⟨r', read, _⟩ := h.nextMessage_more more
    exact .inl ⟨r', read⟩
  · obtain ⟨r', raised, _⟩ := h.nextMessage_fails fails
    exact .inr ⟨_, r', raised⟩

end RtspReader.Delivers

/-! ## Only complete messages -/

/-- How an action of a session ends: what it returns or raises, what it has sent, and what it has
made of the negotiator. -/
def effect {α : Type} : EStateM.Result PyError ControlSession α →
    Except PyError α × List Bytes × WfdNegotiator
  | .ok a s => (.ok a, s.reader.sock.sent, s.negotiator)
  | .error e s => (.error e, s.reader.sock.sent, s.negotiator)

@[simp] theorem effect_negotiator {α : Type}
    (result : EStateM.Result PyError ControlSession α) :
    (effect result).2.2 = (stateAfter result).negotiator := by
  cases result <;> rfl

/-- A session of a negotiator on a connection that delivers the chunks and is then closed. -/
def ControlSession.on (n : WfdNegotiator) (chunks : List Bytes) : ControlSession :=
  { reader := { sock := { inbound := chunks.map .data } }, negotiator := n }

/-- Of a stream that starts with the `k` messages `complete`, nothing else is processed: the call of
`next_message` after them returns "", and `negotiate`, `run_steady_state` and the one after the
other do as on a connection that delivers `complete` alone. -/
structure CompleteOnly (k : Nat) (complete : Bytes) (chunks : List Bytes) : Prop where
  returnsEmpty : ∃ messages r r',
    RtspReader.nextMessages k { sock := { inbound := chunks.map .data } } = .ok messages r ∧
      r.nextMessage = .ok [] r'
  negotiates : ∀ (sourceIp : Str) (n : WfdNegotiator) (alone : List Bytes),
    (∀ c ∈ alone, c ≠ []) → alone.flatten = complete →
      effect (negotiate sourceIp (.on n chunks)) = effect (negotiate sourceIp (.on n alone))
  pumps : ∀ (n : WfdNegotiator) (alone : List Bytes),
    (∀ c ∈ alone, c ≠ []) → alone.flatten = complete →
      effect (runSteadyState (.on n chunks)) = effect (runSteadyState (.on n alone))
  runs : ∀ (sourceIp : Str) (n : WfdNegotiator) (alone : List Bytes),
    (∀ c ∈ alone, c ≠ []) → alone.flatten = complete →
      effect (runControlSession sourceIp (.on n chunks)) =
        effect (runControlSession sourceIp (.on n alone))

private theorem effect_eq_of_respects {α : Type} {x : Running α} (h : Respects SameSession x)
    (n : WfdNegotiator) {chunks alone : List Bytes} (nonempty : ∀ c ∈ chunks, c ≠ [])
    (nonempty' : ∀ c ∈ alone, c ≠ []) (same : chunks.flatten = alone.flatten) :
    effect (x (.on n chunks)) = effect (x (.on n alone)) := by
  have delivers := RtspReader.Delivers.of_chunks chunks nonempty
  rw [same] at delivers
  have related : SameSession (.on n chunks) (.on n alone) :=
    ⟨⟨_, _, delivers, .of_chunks alone nonempty'⟩, rfl⟩
  rcases h _ _ related with returned | raised
  · obtain ⟨a, s, t, hs, ht, ⟨⟨_, _, left, left'⟩, negotiator⟩⟩ := returned
    rw [hs, ht, effect, effect, left.sent, left'.sent, negotiator]
  · obtain ⟨e, s, t, hs, ht, ⟨⟨_, _, left, left'⟩, negotiator⟩⟩ := raised
    rw [hs, ht, effect, effect, left.sent, left'.sent, negotiator]

/-- For every stream that the peer closes, in every cut into chunks: after the complete messages
the rest is the start of a message, and only complete messages are processed exactly when that is
empty. At the close `next_message` returns what is left as if it were a message. -/
theorem complete_only_iff {k : Nat} {complete rem : Bytes} {chunks : List Bytes}
    (nonempty : ∀ c ∈ chunks, c ≠ []) (closed : chunks.flatten = complete ++ rem)
    (frames : AfterFrames k (complete ++ rem) rem) (unfinished : Unfinished rem) :
    CompleteOnly k complete chunks ↔ rem = [] := by
  constructor
  · intro only
    have delivers := RtspReader.Delivers.of_chunks chunks nonempty
    rw [closed] at delivers
    obtain ⟨messages, r, reads, delivers'⟩ := RtspReader.Delivers.nextMessages frames delivers
    obtain ⟨messages', r₁, r₂, reads', empty⟩ := only.returnsEmpty
    have both := reads.symm.trans reads'
    cases both
    rcases delivers'.nextMessage_of_unfinished unfinished with returned | raised
    · obtain ⟨r₃, returned⟩ := returned
      have both := returned.symm.trans empty
      injection both with text
      exact decode_eq_nil_iff.mp text
    · obtain ⟨e, r₃, raised⟩ := raised
      have both := raised.symm.trans empty
      cases both
  · rintro rfl
    rw [List.append_nil] at closed frames
    have delivers := RtspReader.Delivers.of_chunks chunks nonempty
    rw [closed] at delivers
    obtain ⟨messages, r, reads, delivers'⟩ := RtspReader.Delivers.nextMessages frames delivers
    obtain ⟨r', read, _⟩ := delivers'.nextMessage_end
    constructor
    · exact ⟨messages, r, r', reads, read⟩
    · intro sourceIp n alone nonempty' whole
      exact effect_eq_of_respects (negotiate_respects_cuts sourceIp) n nonempty nonempty'
        (closed.trans whole.symm)
    · intro n alone nonempty' whole
      exact effect_eq_of_respects runSteadyState_respects_cuts n nonempty nonempty'
        (closed.trans whole.symm)
    · intro sourceIp n alone nonempty' whole
      have respects := (negotiate_respects_cuts sourceIp).bind fun _ => runSteadyState_respects_cuts
      exact effect_eq_of_respects respects n nonempty nonempty' (closed.trans whole.symm)

/-! ## A response to M7 cut off after its first line -/

/-- The messages of a source up to the response to M6. -/
def sourceUpToM6 : Bytes := [sourceMessage 1, sourceMessage 2, sourceMessage 3, sourceMessage 4,
  sourceMessage 5, sourceMessage 6].flatten

private theorem sourceUpToM6_frames (rem : Bytes) : AfterFrames 6 (sourceUpToM6 ++ rem) rem := by
  have frame : ∀ {m : Bytes}, m ∈ [sourceMessage 1, sourceMessage 2, sourceMessage 3,
      sourceMessage 4, sourceMessage 5, sourceMessage 6, sourceMessage 7] →
      ∀ rest, IsFrame (m ++ rest) m rest :=
    fun hm _ => ⟨rfl, (sourceMessage_isFrame _ hm).shape⟩
  simp only [sourceUpToM6, List.flatten_cons, List.flatten_nil, List.append_nil, List.append_assoc]
  refine .frame (frame (by simp) _) (.frame (frame (by simp) _) (.frame (frame (by simp) _) ?_))
  exact .frame (frame (by simp) _) (.frame (frame (by simp) _) (.frame (frame (by simp) _) .none))

/-- The start of a response to M7. -/
def cutResponse : Bytes := encode "RTSP/1.0 200 OK".toList

private theorem cutResponse_unfinished : Unfinished cutResponse := by
  refine .inHeader fun occurs => ?_
  have found : contains blankLine cutResponse = true := contains_iff_isInfix.mpr occurs
  revert found
  decide +kernel

theorem complete_only_of_close_between :
    CompleteOnly 6 sourceUpToM6 [sourceUpToM6] ∧
      ¬ CompleteOnly 6 sourceUpToM6 [sourceUpToM6, cutResponse] := by
  have nothing : Unfinished [] := .inHeader fun occurs =>
    absurd (List.eq_nil_of_infix_nil occurs) (by decide)
  constructor
  · refine (complete_only_iff ?_ ?_ (sourceUpToM6_frames []) nothing).mpr rfl
    · exact List.forall_mem_singleton.mpr (by decide +kernel)
    · rw [List.flatten_singleton, List.append_nil]
  · intro only
    have empty := (complete_only_iff ?_ ?_ (sourceUpToM6_frames cutResponse)
      cutResponse_unfinished).mp only
    · revert empty
      decide +kernel
    · decide +kernel
    · rw [List.flatten_cons, List.flatten_singleton]

/-- The peer closes after the status line of its response to M7: the part is returned, and takes
the negotiator to STREAMING. -/
theorem cut_response_starts_streaming :
    (∃ messages r r', RtspReader.nextMessages 6
        { sock := { inbound := [sourceUpToM6, cutResponse].map .data } } = .ok messages r ∧
      r.nextMessage = .ok "RTSP/1.0 200 OK".toList r') ∧
    (stateAfter (negotiate "192.168.173.80".toList
      (.on (.new {} 1028) [sourceUpToM6, cutResponse]))).negotiator.state = .streaming ∧
    (stateAfter (negotiate "192.168.173.80".toList
      (.on (.new {} 1028) [sourceUpToM6]))).negotiator.state = .waitM7Response ∧
    ¬ CompleteOnly 6 sourceUpToM6 [sourceUpToM6, cutResponse] := by
  have starts : (stateAfter (negotiate "192.168.173.80".toList
      (.on (.new {} 1028) [sourceUpToM6, cutResponse]))).negotiator.state = .streaming := by
    decide +kernel
  have waits : (stateAfter (negotiate "192.168.173.80".toList
      (.on (.new {} 1028) [sourceUpToM6]))).negotiator.state = .waitM7Response := by
    decide +kernel
  have nonempty : ∀ c ∈ [sourceUpToM6, cutResponse], c ≠ [] := by decide +kernel
  have nonempty' : ∀ c ∈ [sourceUpToM6], c ≠ [] := by decide +kernel
  have delivers := RtspReader.Delivers.of_chunks _ nonempty
  rw [List.flatten_cons, List.flatten_singleton] at delivers
  obtain ⟨messages, r, reads, left⟩ :=
    RtspReader.Delivers.nextMessages (sourceUpToM6_frames cutResponse) delivers
  have more : scanMessage cutResponse = .more := by decide +kernel
  obtain ⟨r', read, _⟩ := left.nextMessage_more more
  have text : decode cutResponse = "RTSP/1.0 200 OK".toList := by decide +kernel
  refine ⟨⟨messages, r, r', reads, text ▸ read⟩, starts, waits, fun only => ?_⟩
  have same := only.negotiates "192.168.173.80".toList (.new {} 1028) [sourceUpToM6] nonempty'
    List.flatten_singleton
  have negotiators := congrArg (·.2.2.state) same
  simp only [effect_negotiator, starts, waits] at negotiators
  cases negotiators

end Castd.Wfdsink
