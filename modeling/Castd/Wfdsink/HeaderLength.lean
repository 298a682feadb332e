import Castd.Wfdsink.Outbound
import Castd.Wfdsink.SteadyState

/-!
# Where a message ends

A message as its sender means it: a start line, header lines of names and values, and a body whose
length the line named Content-Length gives. The reader searches the header block for the text
instead, from the left, over names, values and line ends. `frames_exactly_iff` says for which
messages it finds the same length.
-/

namespace Castd.Wfdsink

open Lib

/-! ## Messages -/

/-- A header line. -/
structure HeaderLine where
  name : Bytes
  value : Bytes
  deriving DecidableEq

/-- `name: value`. -/
def HeaderLine.line (h : HeaderLine) : Bytes := h.name ++ 58 :: 32 :: h.value

/-- The name is Content-Length in some letter case. -/
def HeaderLine.isContentLength (h : HeaderLine) : Bool :=
  afterLiteral sameByteIgnoringCase (encode "Content-Length".toList) h.name == some []

/-- The number that digits write. -/
def numberOf (digits : Bytes) : Nat := ofDigits (digits.map fun b => Char.ofNat b.toNat)

/-- The value is a number, between spaces and tabs. -/
def HeaderLine.Gives (h : HeaderLine) (n : Nat) : Prop :=
  ∃ before digits after, h.value = before ++ (digits ++ after) ∧
    (∀ b ∈ before ++ after, b = 32 ∨ b = 9) ∧ digits ≠ [] ∧
    (∀ b ∈ digits, isDigitByte b = true) ∧ numberOf digits = n

/-- A message as its sender means it. -/
structure RtspMessage where
  startLine : Bytes
  headers : List HeaderLine
  body : Bytes
  deriving DecidableEq

namespace RtspMessage

/-- The header block. -/
def header (m : RtspMessage) : Bytes := headerOf (m.startLine :: m.headers.map HeaderLine.line)

/-- The message on the wire. -/
def bytes (m : RtspMessage) : Bytes := m.header ++ m.body

/-- No line holds a line end, at most one header line is named Content-Length, it gives the length
of the body, and without one there is no body. -/
structure WellFormed (m : RtspMessage) : Prop where
  startLine : 13 ∉ m.startLine ∧ 10 ∉ m.startLine
  headers : ∀ h ∈ m.headers, 13 ∉ h.name ++ h.value ∧ 10 ∉ h.name ++ h.value
  once : m.headers.countP HeaderLine.isContentLength ≤ 1
  sized : ∀ h ∈ m.headers, h.isContentLength = true → h.Gives m.body.length
  unsized : (∀ h ∈ m.headers, h.isContentLength = false) → m.body = []

/-- At the leftmost place of the header block where the name, blanks and digits stand, they are not
more than `int()` converts and give the length of the body. -/
def LengthFirst (m : RtspMessage) : Prop :=
  ∀ i digits, contentLengthRe.Leftmost m.header i digits →
    digits.length ≤ maxStrDigits ∧ numberOf digits = m.body.length

end RtspMessage

/-- The bytes of messages one after the other. -/
def stream (messages : List RtspMessage) : Bytes := messages.flatMap RtspMessage.bytes

/-- Over every cut of the stream the first calls return the first messages, and leave the others. -/
def FramesExactly (messages : List RtspMessage) : Prop :=
  ∀ r : RtspReader, r.buf ++ arriving r.sock.inbound = stream messages →
    ∀ k ≤ messages.length, ∃ r',
      RtspReader.nextMessages k r = .ok ((messages.take k).map fun m => decode m.bytes) r' ∧
        r'.buf ++ arriving r'.sock.inbound = stream (messages.drop k)

/-! ## The length that is found -/

private theorem lengthName_eq :
    contentLengthRe.literal = encode "Content-Length".toList ++ [58] := by
  decide

/-- A header line named Content-Length is a place where the search finds a number. -/
theorem HeaderLine.starts {h : HeaderLine} (named : h.isContentLength = true) {n : Nat}
    (gives : h.Gives n) (rest : Bytes) :
    ∃ digits, contentLengthRe.Starts (h.line ++ 13 :: rest) digits := by
  obtain ⟨before, digits, after, value, blank, nonempty, all, -⟩ := gives
  rw [List.forall_mem_append] at blank
  refine ⟨digits, ⟨h.name ++ [58], 32 :: before, after ++ 13 :: rest, ?_, ?_, ?_, ?_⟩, nonempty,
    all⟩
  · rw [HeaderLine.line, value]
    simp
  · rw [lengthName_eq]
    exact afterLiteral_append_literal [58] [58] (eq_of_beq named)
  · refine List.forall_mem_cons.mpr ⟨rfl, fun b hb => ?_⟩
    rcases blank.1 b hb with rfl | rfl <;> rfl
  · intro b hb
    cases after with
    | nil =>
      cases hb
      rfl
    | cons c after =>
      cases hb
      rcases blank.2 b List.mem_cons_self with rfl | rfl <;> rfl

namespace RtspMessage

variable {m : RtspMessage}

/-- The blank line of a message ends its header block. -/
theorem WellFormed.isHeader (wf : m.WellFormed) : IsHeader m.header := by
  refine isHeader_headerOf_cons wf.startLine.1 fun line hline => ?_
  obtain ⟨h, hh, rfl⟩ := List.mem_map.mp hline
  have noReturn := (wf.headers h hh).1
  rw [List.mem_append, not_or] at noReturn
  constructor
  · intro empty
    rw [HeaderLine.line, List.append_eq_nil_iff] at empty
    cases empty.2
  · simp [HeaderLine.line, noReturn.1, noReturn.2]

private theorem WellFormed.body_of_search (wf : m.WellFormed)
    (nothing : contentLengthRe.search m.header = none) : m.body = [] := by
  refine wf.unsized fun h hh => Bool.eq_false_iff.mpr fun named => ?_
  obtain ⟨others, later, place⟩ := List.append_of_mem hh
  have cut : m.header = (m.startLine :: others.map HeaderLine.line).flatMap (· ++ [13, 10]) ++
      (h.line ++ 13 :: 10 :: headerOf (later.map HeaderLine.line)) := by
    rw [header, place]
    simp [headerOf]
  obtain ⟨digits, starts⟩ := HeaderLine.starts named (wf.sized h hh named)
    (10 :: headerOf (later.map HeaderLine.line))
  have there : contentLengthRe.Starts (m.header.drop
      ((m.startLine :: others.map HeaderLine.line).flatMap (· ++ [13, 10])).length) digits := by
    rw [cut, List.drop_left]
    exact starts
  exact FieldPattern.search_ne_none_of_starts there nothing

private theorem WellFormed.announced_iff (wf : m.WellFormed) :
    announced m.header = some m.body.length ↔ m.LengthFirst := by
  unfold announced
  cases found : contentLengthRe.search m.header with
  | none =>
    refine iff_of_true ?_ fun i digits leftmost => ?_
    · rw [wf.body_of_search found]
      rfl
    · have search := FieldPattern.search_eq_some_iff.mpr ⟨i, leftmost⟩
      cases found.symm.trans search
  | some digits =>
    obtain ⟨i, leftmost⟩ := FieldPattern.search_eq_some_iff.mp found
    have value : intOfDigits (digits.map fun b => Char.ofNat b.toNat) = some m.body.length ↔
        digits.length ≤ maxStrDigits ∧ numberOf digits = m.body.length := by
      rw [intOfDigits, List.length_map, Option.ite_none_right_eq_some, Option.some.injEq]
      rfl
    dsimp only
    rw [value]
    constructor
    · intro right j other leftmost'
      have search := FieldPattern.search_eq_some_iff.mpr ⟨j, leftmost'⟩
      cases found.symm.trans search
      exact right
    · intro first
      exact first i digits leftmost

private theorem WellFormed.isFrame_iff (wf : m.WellFormed) (rest : Bytes) :
    IsFrame (m.bytes ++ rest) m.bytes rest ↔ m.LengthFirst := by
  rw [← wf.announced_iff]
  constructor
  · rintro ⟨-, header, body, cut, isHeader, size⟩
    obtain ⟨headEnd, found, length⟩ := find_header wf.isHeader m.body
    obtain ⟨headEnd', found', length'⟩ := find_header isHeader body
    rw [← cut] at found'
    cases found.symm.trans found'
    obtain ⟨same, same'⟩ := List.append_inj cut (length.symm.trans length')
    rwa [← same, ← same'] at size
  · intro size
    exact ⟨rfl, m.header, m.body, rfl, wf.isHeader, size⟩

end RtspMessage

/-! ## The calls -/

private theorem nextMessage_of_readMessage {r : RtspReader} {m buf : Bytes} {inbound : List Recv}
    (read : readMessage r.buf r.sock.inbound = (.ok m, buf, inbound)) :
    r.nextMessage = .ok (decode m) (r.leaving buf inbound) := by
  unfold RtspReader.nextMessage
  rw [read]

private theorem scan_of_nextMessage {r r' : RtspReader} {text : Str}
    (silent : r.sock.inbound = [.raises .timeout]) (read : r.nextMessage = .ok text r') :
    ∃ m rest, scanMessage r.buf = .frame m rest ∧
      r'.buf ++ arriving r'.sock.inbound = rest ++ [] := by
  unfold RtspReader.nextMessage at read
  rw [silent] at read
  unfold readMessage at read
  cases scan : scanMessage r.buf with
  | more =>
    rw [scan] at read
    cases read
  | fails e =>
    rw [scan] at read
    cases read
  | frame m rest =>
    rw [scan] at read
    cases read
    exact ⟨m, rest, rfl, rfl⟩

/-- Messages are framed exactly if the first is a frame of the stream and the others are framed
exactly. -/
private theorem framesExactly_cons_iff {m : RtspMessage} {messages : List RtspMessage} :
    FramesExactly (m :: messages) ↔
      IsFrame (m.bytes ++ stream messages) m.bytes (stream messages) ∧
        FramesExactly messages := by
  have cut : stream (m :: messages) = m.bytes ++ stream messages := List.flatMap_cons
  constructor
  · intro framed
    have frame : IsFrame (m.bytes ++ stream messages) m.bytes (stream messages) := by
      -- the whole stream is in the buffer, and nothing more comes
      obtain ⟨r', reads, left⟩ := framed
        { buf := stream (m :: messages), sock := { inbound := [.raises .timeout] } }
        (List.append_nil _) 1 (Nat.le_add_left 1 _)
      obtain ⟨r₁, read, last⟩ := nextMessages_cons_eq_ok reads
      cases last
      obtain ⟨message, rest, scan, left'⟩ := scan_of_nextMessage rfl read
      have others : rest = stream messages := by
        rw [← List.append_nil rest, ← left', left]
        rfl
      have frame : IsFrame (stream (m :: messages)) message rest :=
        scanMessage_eq_frame_iff.mp scan
      rw [others] at frame
      have same : m.bytes = message := List.append_cancel_right (cut.symm.trans frame.cut)
      rwa [cut, ← same] at frame
    refine ⟨frame, fun r arrives k hk => ?_⟩
    obtain ⟨r', reads, left⟩ := framed { r with buf := m.bytes ++ r.buf }
      (by rw [cut, ← arrives, List.append_assoc]) (k + 1) (Nat.succ_le_succ hk)
    obtain ⟨r₁, read, reads'⟩ := nextMessages_cons_eq_ok reads
    have scan : scanMessage (m.bytes ++ r.buf) = .frame m.bytes r.buf :=
      scanMessage_eq_frame_iff.mpr ⟨rfl, frame.shape⟩
    have read' : RtspReader.nextMessage { r with buf := m.bytes ++ r.buf } =
        .ok (decode m.bytes) r := nextMessage_of_readMessage (readMessage_frame scan _)
    cases read.symm.trans read'
    exact ⟨r', reads', left⟩
  · rintro ⟨frame, framed⟩ r arrives k hk
    cases k with
    | zero => exact ⟨r, rfl, arrives⟩
    | succ k =>
      have scan : scanMessage (r.buf ++ arriving r.sock.inbound) =
          .frame m.bytes (stream messages) := by
        rw [arrives, cut]
        exact scanMessage_eq_frame_iff.mpr frame
      obtain ⟨buf, inbound, read, left, -⟩ := readMessage_of_frame scan
      obtain ⟨r', reads, left'⟩ := framed (r.leaving buf inbound) left k (Nat.le_of_succ_le_succ hk)
      refine ⟨r', ?_, left'⟩
      unfold RtspReader.nextMessages
      rw [bind_of_ok (nextMessage_of_readMessage read), bind_of_ok reads]
      rfl

/-- Over every cut of a stream of messages the reader returns exactly these messages, exactly if in
each header block the leftmost place where the name, blanks and digits stand gives the length of the
body. -/
theorem frames_exactly_iff {messages : List RtspMessage} (wf : ∀ m ∈ messages, m.WellFormed) :
    FramesExactly messages ↔ ∀ m ∈ messages, m.LengthFirst := by
  induction messages with
  | nil =>
    refine iff_of_true (fun r arrives k hk => ?_) (List.forall_mem_nil _)
    obtain rfl := Nat.le_zero.mp hk
    exact ⟨r, rfl, arrives⟩
  | cons m messages ih =>
    rw [List.forall_mem_cons] at wf ⊢
    rw [framesExactly_cons_iff, wf.1.isFrame_iff, ih wf.2]

/-- A request with a body. -/
def setParameter : RtspMessage where
  startLine := encode "SET_PARAMETER * RTSP/1.0".toList
  headers := [⟨encode "CSeq".toList, encode "3".toList⟩,
    ⟨encode "content-length".toList, encode "5".toList⟩]
  body := encode "hello".toList

private theorem setParameter_wellFormed : setParameter.WellFormed where
  startLine := by decide
  headers := by decide
  once := by decide
  sized := by
    refine List.forall_mem_cons.mpr ⟨fun named => ?_, List.forall_mem_singleton.mpr fun _ => ?_⟩
    · exact absurd named (by decide)
    · exact ⟨[], encode "5".toList, [], rfl, List.forall_mem_nil _, by decide,
        List.all_eq_true.mp (by decide), by decide⟩
  unsized := fun unnamed =>
    absurd (unnamed _ (List.mem_cons_of_mem _ List.mem_cons_self)) (by decide)

theorem setParameter_twice_framed : FramesExactly [setParameter, setParameter] := by
  have wf : ∀ m ∈ [setParameter, setParameter], m.WellFormed := by
    intro m hm
    obtain rfl := List.eq_of_mem_replicate (n := 2) hm
    exact setParameter_wellFormed
  refine (frames_exactly_iff wf).mpr fun m hm => (wf m hm).announced_iff.mp ?_
  obtain rfl := List.eq_of_mem_replicate (n := 2) hm
  decide

/-- A response whose header line has a name that ends in Content-Length, and no body. -/
def otherLength : RtspMessage where
  startLine := encode "RTSP/1.0 200 OK".toList
  headers := [⟨encode "X-Content-Length".toList, encode "2".toList⟩]
  body := []

/-- The reader takes two bytes of the next message for its body. -/
theorem other_length_moves_boundary :
    (∀ m ∈ [otherLength, setParameter], m.WellFormed) ∧
      ¬ FramesExactly [otherLength, setParameter] := by
  have wf : otherLength.WellFormed :=
    { startLine := by decide
      headers := by decide
      once := by decide
      sized := List.forall_mem_singleton.mpr fun named => absurd named (by decide)
      unsized := fun _ => rfl }
  refine ⟨List.forall_mem_cons.mpr ⟨wf, List.forall_mem_singleton.mpr setParameter_wellFormed⟩,
    fun framed => ?_⟩
  have first := wf.announced_iff.mpr ((wf.isFrame_iff _).mp (framesExactly_cons_iff.mp framed).1)
  exact absurd first (by decide)

end Castd.Wfdsink
