import Castd.Lib.Framing
import Castd.Wfdsink.Rtsp

/-!
# The reader

`RtspReader` of `castd/wfdsink/session.py`, over a socket. A socket is the answers of the `recv`
calls and the outcomes of the `sendall` and `settimeout` calls still to come, in order, and what has
been sent. It answers as scripted whatever the code does in between, so a statement for every script
is one for every peer, every way its bytes are cut, and every fault.

A frame is defined on a stream alone (`IsFrame`, `KthFrame`). What the reader looks for in its
buffer is a frame (`scanMessage_eq_frame_iff`) and the answer stands when more data arrives
(`rtspFramer`), so reading does not depend on the chunks (`next_messages_are_frames`).
-/

namespace Castd.Wfdsink

open Lib

/-! ## The socket -/

/-- What a socket call raises. -/
inductive SockFault
  | timeout
  | osError
  deriving DecidableEq, Repr

/-- The exception of a fault. -/
def SockFault.error : SockFault → PyError
  | .timeout => .timeoutError
  | .osError => .osError

/-- What a `recv` call does. No data is the peer's close. -/
inductive Recv
  | data (data : Bytes)
  | raises (fault : SockFault)
  deriving DecidableEq

/-- A connected socket. The peer has closed when no answer is left, and a `sendall` or `settimeout`
for which no outcome is left returns. A socket that another thread has closed raises from all three;
one without `settimeout` has no outcomes for it. -/
structure Sock where
  inbound : List Recv
  sends : List (Option SockFault) := []
  timeouts : List (Option SockFault) := []
  /-- What `sendall` has sent, oldest first. -/
  sent : List Bytes := []
  deriving DecidableEq

/-- `sendall` of a socket. -/
def Sock.sendall (data : Bytes) : EStateM PyError Sock Unit := fun sock =>
  match sock.sends with
  | some fault :: sends => .error fault.error { sock with sends := sends }
  | none :: sends => .ok () { sock with sends := sends, sent := sock.sent ++ [data] }
  | [] => .ok () { sock with sent := sock.sent ++ [data] }

/-- `settimeout` of a socket. What it sets shows in the answers of `recv` only. -/
def Sock.settimeout : EStateM PyError Sock Unit := fun sock =>
  match sock.timeouts with
  | some fault :: timeouts => .error fault.error { sock with timeouts := timeouts }
  | none :: timeouts => .ok () { sock with timeouts := timeouts }
  | [] => .ok () sock

/-- The next `settimeout` returns. -/
def Sock.SetsTimeout (sock : Sock) : Prop := sock.timeouts.head?.join = none

instance (sock : Sock) : Decidable sock.SetsTimeout := inferInstanceAs (Decidable (_ = none))

/-- `settimeout` takes its outcome off the script and leaves the rest alone. -/
theorem Sock.settimeout_cases (sock : Sock) :
    (sock.SetsTimeout ∧ ∃ timeouts, sock.settimeout = .ok () { sock with timeouts := timeouts }) ∨
      ¬ sock.SetsTimeout ∧ ∃ fault timeouts, sock.settimeout =
        .error (SockFault.error fault) { sock with timeouts := timeouts } := by
  unfold SetsTimeout settimeout
  cases sock.timeouts with
  | nil => exact .inl ⟨rfl, _, rfl⟩
  | cons outcome timeouts =>
    cases outcome with
    | none => exact .inl ⟨rfl, timeouts, rfl⟩
    | some fault => exact .inr ⟨Option.some_ne_none fault, fault, timeouts, rfl⟩

/-! ## Messages in a buffer -/

/-- `_CONTENT_LENGTH_RE`. -/
def contentLengthRe : FieldPattern UInt8 where
  same := sameByteIgnoringCase
  literal := encode "Content-Length:".toList
  blank := isSpaceByte
  keep := isDigitByte
  exclusive := by
    intro b h
    simp only [isSpaceByte, isDigitByte, Bool.or_eq_true, Bool.and_eq_true, decide_eq_true_eq,
      beq_iff_eq, Bool.and_eq_false_iff, decide_eq_false_iff_not] at h ⊢
    left
    intro digit
    rcases h with ⟨_, blank⟩ | rfl
    · exact absurd (UInt8.le_trans digit blank) (by decide)
    · exact absurd digit (by decide)

/-- The blank line that ends a header. -/
def blankLine : Bytes := [13, 10, 13, 10]

/-- How many bytes a header announces for the body, `none` where `int()` raises. -/
def announced (header : Bytes) : Option Nat :=
  match contentLengthRe.search header with
  | some digits => intOfDigits (digits.map fun b => Char.ofNat b.toNat)
  | none => some 0

/-- What the front of the buffer shows to `next_message`. -/
def scanMessage (buf : Bytes) : Scan UInt8 PyError :=
  match find blankLine buf with
  | none => .more
  | some headEnd =>
    match announced (buf.take (headEnd + 4)) with
    | none => .fails .valueError
    | some body =>
      if headEnd + 4 + body ≤ buf.length then
        .frame (buf.take (headEnd + 4 + body)) (buf.drop (headEnd + 4 + body))
      else .more

/-- How the loop of `next_message` ends: the message before it is decoded or what is raised, with
the buffer and the answers it leaves. -/
def readMessage : Bytes → List Recv → Except PyError Bytes × Bytes × List Recv
  | buf, [] =>
    match scanMessage buf with
    | .frame message rest => (.ok message, rest, [])
    | .fails e => (.error e, buf, [])
    | .more => (.ok buf, [], [])
  | buf, recv :: inbound =>
    match scanMessage buf with
    | .frame message rest => (.ok message, rest, recv :: inbound)
    | .fails e => (.error e, buf, recv :: inbound)
    | .more =>
      match recv with
      | .data [] => (.ok buf, [], inbound)
      | .data (b :: bs) => readMessage (buf ++ b :: bs) inbound
      | .raises fault => (.error fault.error, buf, inbound)

/-- A read takes the frame that is in the buffer. -/
theorem readMessage_frame {buf m rest : Bytes} (frame : scanMessage buf = .frame m rest)
    (inbound : List Recv) : readMessage buf inbound = (.ok m, rest, inbound) := by
  cases inbound <;> unfold readMessage <;> rw [frame]

/-- A read goes on with the next data while it finds no frame. -/
theorem readMessage_cons_of_more {buf : Bytes} (more : scanMessage buf = .more) (b : UInt8)
    (bs : Bytes) (inbound : List Recv) : readMessage buf (.data (b :: bs) :: inbound) =
      readMessage (buf ++ b :: bs) inbound := by
  conv =>
    lhs
    unfold readMessage
  rw [more]

/-- `RtspReader`. -/
structure RtspReader where
  sock : Sock
  buf : Bytes := []
  deriving DecidableEq

/-- The reader after a read that leaves `buf` and `inbound`. -/
def RtspReader.leaving (r : RtspReader) (buf : Bytes) (inbound : List Recv) : RtspReader :=
  { r with sock := { r.sock with inbound := inbound }, buf := buf }

/-- `RtspReader.next_message`. -/
def RtspReader.nextMessage : EStateM PyError RtspReader Str := fun r =>
  match readMessage r.buf r.sock.inbound with
  | (.ok message, buf, inbound) => .ok (decode message) (r.leaving buf inbound)
  | (.error e, buf, inbound) => .error e (r.leaving buf inbound)

/-- `n` calls in a row. -/
def RtspReader.nextMessages : Nat → EStateM PyError RtspReader (List Str)
  | 0 => return []
  | n + 1 => do
    let message ← nextMessage
    let messages ← nextMessages n
    return message :: messages

/-- The first of several messages that are read. -/
theorem nextMessages_cons_eq_ok {k : Nat} {m : Str} {ms : List Str} {r r' : RtspReader}
    (h : RtspReader.nextMessages (k + 1) r = .ok (m :: ms) r') :
    ∃ r₁, r.nextMessage = .ok m r₁ ∧ RtspReader.nextMessages k r₁ = .ok ms r' := by
  obtain ⟨m', r₁, read, rest⟩ := bind_eq_ok_iff.mp h
  obtain ⟨ms', r₂, reads, last⟩ := bind_eq_ok_iff.mp rest
  cases last
  exact ⟨r₁, read, reads⟩

/-! ## Frames of a stream -/

/-- A header: it ends with the first blank line. -/
structure IsHeader (header : Bytes) : Prop where
  ends : ∃ lines, header = lines ++ blankLine
  first : ¬ blankLine <:+: header.dropLast

/-- A stream starts with the frame `m`, and goes on with `rest`: a header, and as many bytes as it
announces. -/
structure IsFrame (s m rest : Bytes) : Prop where
  cut : s = m ++ rest
  shape : ∃ header body, m = header ++ body ∧ IsHeader header ∧
    announced header = some body.length

/-- The rest of a stream after `k` frames. -/
inductive AfterFrames : Nat → Bytes → Bytes → Prop
  | none {s : Bytes} : AfterFrames 0 s s
  | frame {k : Nat} {s m rest r : Bytes} (frame : IsFrame s m rest)
    (after : AfterFrames k rest r) : AfterFrames (k + 1) s r

/-- The `k`th frame of a stream, counted from zero. -/
def KthFrame (k : Nat) (s m : Bytes) : Prop := ∃ r rest, AfterFrames k s r ∧ IsFrame r m rest

/-- No message of the stream has a Content-Length of more digits than `int()` converts. -/
def LengthsFit (s : Bytes) : Prop :=
  ∀ k header rest, AfterFrames k s (header ++ rest) → IsHeader header →
    ∀ digits, contentLengthRe.search header = some digits → digits.length ≤ maxStrDigits

/-- The blank line ends where the header does. -/
theorem find_header {header : Bytes} (h : IsHeader header) (rest : Bytes) :
    ∃ headEnd, find blankLine (header ++ rest) = some headEnd ∧ headEnd + 4 = header.length := by
  obtain ⟨⟨lines, rfl⟩, first⟩ := h
  rw [List.dropLast_append_of_ne_nil (by decide)] at first
  refine ⟨lines.length, (find_append_self_iff (by decide) rest).mpr first, ?_⟩
  rw [List.length_append]
  rfl

/-- The front of a buffer up to its first blank line is a header. -/
theorem isHeader_of_find {buf : Bytes} {headEnd : Nat} (h : find blankLine buf = some headEnd) :
    IsHeader (buf.take (headEnd + 4)) := by
  obtain ⟨post, hpost⟩ := eq_append_of_find h
  have inside := le_length_of_find h
  have size : (buf.take headEnd).length = headEnd := by
    rw [List.length_take]
    omega
  have header : buf.take (headEnd + 4) = buf.take headEnd ++ blankLine := by
    have cut : (buf.take headEnd ++ blankLine).length = headEnd + 4 := by
      rw [List.length_append, size]
      rfl
    conv =>
      lhs
      rw [hpost, ← cut, List.take_left]
  refine ⟨⟨buf.take headEnd, header⟩, ?_⟩
  rw [header, List.dropLast_append_of_ne_nil (by decide)]
  refine (find_append_self_iff (by decide) post).mp ?_
  rw [← hpost, h, size]

/-- Lines in which no blank line starts are a header with the one that follows. It is enough to look
at them up to a part without a line end. -/
theorem isHeader_of_clear {front t : Bytes} (noLineEnd : 13 ∉ t)
    (clear : ∀ i < front.length, ¬ blankLine <+: (front ++ t ++ blankLine).drop i) :
    IsHeader (front ++ t ++ blankLine) := by
  have nowhere : ∀ i < (front ++ t).length, ¬ blankLine <+: (front ++ t ++ blankLine).drop i := by
    intro i hi starts
    by_cases early : i < front.length
    · exact clear i early starts
    · obtain ⟨rest, hrest⟩ := starts
      have first := congrArg (·[0]?) hrest
      simp only [List.getElem?_drop, Nat.add_zero, List.getElem?_append_left hi,
        List.getElem?_append_right (Nat.le_of_not_lt early)] at first
      exact noLineEnd (List.mem_of_getElem? first.symm)
  have found : find blankLine (front ++ t ++ blankLine) = some (front ++ t).length := by
    rw [find_append_of_clear nowhere]
    exact congrArg some (Nat.zero_add _)
  have whole := isHeader_of_find found
  rwa [List.take_of_length_le] at whole
  rw [List.length_append]
  exact Nat.le_refl _

/-- What the reader takes off the buffer is a frame, and it takes every frame. -/
theorem scanMessage_eq_frame_iff {s m rest : Bytes} :
    scanMessage s = .frame m rest ↔ IsFrame s m rest := by
  constructor
  · intro h
    unfold scanMessage at h
    split at h
    · cases h
    · rename_i headEnd hfind
      split at h
      · cases h
      · rename_i body hbody
        split at h
        · rename_i fits
          cases h
          refine ⟨(List.take_append_drop _ s).symm, s.take (headEnd + 4),
            (s.drop (headEnd + 4)).take body, List.take_add, isHeader_of_find hfind, ?_⟩
          rw [hbody, List.length_take, List.length_drop]
          congr 1
          omega
        · cases h
  · rintro ⟨rfl, header, body, rfl, isHeader, hbody⟩
    obtain ⟨headEnd, hfind, size⟩ := find_header isHeader (body ++ rest)
    have front : (header ++ (body ++ rest)).take (headEnd + 4) = header := by
      rw [size, List.take_left]
    have total : headEnd + 4 + body.length = (header ++ body).length := by
      rw [size, List.length_append]
    unfold scanMessage
    rw [List.append_assoc, hfind]
    simp only [front, hbody, total]
    rw [← List.append_assoc, List.take_left, List.drop_left, if_pos]
    exact (List.prefix_append _ _).length_le

/-- The reader raises on a header that announces its body with too many digits, and on no
other. -/
theorem scanMessage_eq_fails_iff {s : Bytes} {e : PyError} :
    scanMessage s = .fails e ↔ e = .valueError ∧ ∃ header rest, s = header ++ rest ∧
      IsHeader header ∧ announced header = none := by
  constructor
  · intro h
    unfold scanMessage at h
    split at h
    · cases h
    · rename_i headEnd hfind
      split at h
      · rename_i hnone
        cases h
        exact ⟨rfl, _, _, (List.take_append_drop _ s).symm, isHeader_of_find hfind, hnone⟩
      · split at h <;> cases h
  · rintro ⟨rfl, header, rest, rfl, isHeader, hnone⟩
    obtain ⟨headEnd, hfind, size⟩ := find_header isHeader rest
    unfold scanMessage
    rw [hfind]
    simp only [size, List.take_left, hnone]

/-- A header announces a number unless it does so with too many digits. -/
theorem announced_eq_none_iff {header : Bytes} : announced header = none ↔
    ∃ digits, contentLengthRe.search header = some digits ∧ maxStrDigits < digits.length := by
  unfold announced
  cases hsearch : contentLengthRe.search header with
  | none =>
    constructor
    · intro h
      cases h
    · rintro ⟨digits, same, _⟩
      cases same
  | some digits =>
    simp only [intOfDigits, List.length_map]
    constructor
    · intro h
      refine ⟨digits, rfl, ?_⟩
      by_contra fits
      rw [if_pos (Nat.le_of_not_lt fits)] at h
      cases h
    · rintro ⟨digits', same, tooLong⟩
      cases same
      rw [if_neg (Nat.not_le_of_lt tooLong)]

/-- The reader as a framer. -/
def rtspFramer : Framer UInt8 PyError where
  scan := scanMessage
  frame_eq := by
    intro s m rest h
    obtain ⟨cut, header, body, rfl, ⟨⟨lines, rfl⟩, _⟩, _⟩ := scanMessage_eq_frame_iff.mp h
    refine ⟨cut, ?_⟩
    simp [blankLine]
  frame_append := by
    intro s m rest h t
    obtain ⟨rfl, shape⟩ := scanMessage_eq_frame_iff.mp h
    exact scanMessage_eq_frame_iff.mpr ⟨List.append_assoc _ _ _, shape⟩
  fails_append := by
    intro s e h t
    obtain ⟨rfl, header, rest, rfl, isHeader, hnone⟩ := scanMessage_eq_fails_iff.mp h
    exact scanMessage_eq_fails_iff.mpr
      ⟨rfl, header, rest ++ t, List.append_assoc _ _ _, isHeader, hnone⟩

private theorem after_eq_some_iff {k : Nat} : ∀ {s r : Bytes},
    rtspFramer.after k s = some r ↔ AfterFrames k s r := by
  induction k with
  | zero =>
    intro s r
    constructor
    · intro h
      cases h
      exact .none
    · rintro ⟨⟩
      rfl
  | succ k ih =>
    intro s r
    unfold Framer.after
    constructor
    · intro h
      split at h
      · rename_i m rest hscan
        exact .frame (scanMessage_eq_frame_iff.mp hscan) (ih.mp h)
      · cases h
    · rintro (_ | ⟨frame, after⟩)
      rw [show rtspFramer.scan s = _ from scanMessage_eq_frame_iff.mpr frame]
      exact ih.mpr after

private theorem nthFrame_eq_some_iff {k : Nat} {s m : Bytes} :
    rtspFramer.nthFrame k s = some m ↔ KthFrame k s m := by
  unfold Framer.nthFrame
  constructor
  · intro h
    split at h
    · rename_i r hafter
      split at h
      · rename_i m' rest hscan
        cases h
        exact ⟨r, rest, after_eq_some_iff.mp hafter, scanMessage_eq_frame_iff.mp hscan⟩
      · cases h
    · cases h
  · rintro ⟨r, rest, after, frame⟩
    rw [after_eq_some_iff.mpr after]
    simp only [show rtspFramer.scan r = _ from scanMessage_eq_frame_iff.mpr frame]

/-- A stream whose lengths fit has no frame the reader raises on. -/
theorem LengthsFit.clean {s : Bytes} (h : LengthsFit s) : rtspFramer.Clean s := by
  intro k r e after fails
  obtain ⟨_, header, rest, rfl, isHeader, hnone⟩ := scanMessage_eq_fails_iff.mp fails
  obtain ⟨digits, hsearch, tooLong⟩ := announced_eq_none_iff.mp hnone
  have fits := h k header rest (after_eq_some_iff.mp after) isHeader digits hsearch
  exact absurd fits (Nat.not_le_of_lt tooLong)

/-- What is left of a stream is not longer than the stream. -/
theorem AfterFrames.length_le {k : Nat} {s r : Bytes} (h : AfterFrames k s r) :
    r.length ≤ s.length := by
  induction h with
  | none => exact Nat.le_refl _
  | frame frame _ ih =>
    rw [frame.cut, List.length_append]
    omega

private theorem lengthsFit_of_length_le {s : Bytes} (h : s.length ≤ maxStrDigits) :
    LengthsFit s := by
  intro k header rest after _ digits hsearch
  have kept := (contentLengthRe.infix_of_search hsearch).length_le
  have within := after.length_le
  rw [List.length_append] at within
  omega

/-! ## Reading -/

/-- A read of a framer as the end of a loop of `next_message`. -/
def ofRead : Read UInt8 PyError → Except PyError Bytes × Bytes × List Recv
  | .message m buf unread => (.ok m, buf, unread.map .data)
  | .fails e buf unread => (.error e, buf, unread.map .data)

/-- Chunks of data are read as the framer reads them. -/
theorem readMessage_data (chunks : List Bytes) : ∀ buf : Bytes,
    readMessage buf (chunks.map .data) = ofRead (rtspFramer.read buf chunks) := by
  induction chunks with
  | nil =>
    intro buf
    unfold Framer.read
    rw [show rtspFramer.scan buf = scanMessage buf from rfl]
    rw [List.map_nil]
    unfold readMessage
    cases scanMessage buf <;> rfl
  | cons c chunks ih =>
    intro buf
    unfold Framer.read
    rw [show rtspFramer.scan buf = scanMessage buf from rfl]
    rw [List.map_cons]
    unfold readMessage
    cases scanMessage buf with
    | frame m rest => rfl
    | fails e => rfl
    | more =>
      cases c with
      | nil => rfl
      | cons b bs => exact ih (buf ++ b :: bs)

private theorem nextMessages_of_readN {n : Nat} :
    ∀ {chunks unread raws : List Bytes} {buf buf' : Bytes}
    {sock : Sock}, rtspFramer.readN n buf chunks = some (raws, buf', unread) →
      sock.inbound = chunks.map .data →
      RtspReader.nextMessages n { sock := sock, buf := buf } =
        .ok (raws.map decode)
          { sock := { sock with inbound := unread.map .data }, buf := buf' } := by
  induction n with
  | zero =>
    intro chunks unread raws buf buf' sock h inbound
    cases h
    rw [← inbound]
    rfl
  | succ n ih =>
    intro chunks unread raws buf buf' sock h inbound
    unfold Framer.readN at h
    split at h
    · rename_i m buf₁ chunks₁ hread
      obtain ⟨⟨raws', buf'', unread'⟩, hrest, same⟩ := Option.map_eq_some_iff.mp h
      cases same
      have first : RtspReader.nextMessage { sock := sock, buf := buf } = .ok (decode m)
          { sock := { sock with inbound := chunks₁.map .data }, buf := buf₁ } := by
        unfold RtspReader.nextMessage
        rw [inbound, readMessage_data, hread]
        rfl
      unfold RtspReader.nextMessages
      rw [bind_of_ok first, bind_of_ok (ih hrest rfl)]
      rfl
    · cases h

/-- The reader does not depend on how the stream is cut, and loses nothing. For every stream whose
lengths fit, every cut of it into chunks and every number of calls: the calls return; the bytes of
the messages returned, the buffer and the bytes to come are the stream, also at each head of the
loop of the next call; and the `k`th message is the `k`th frame decoded, or there is none and the
peer's close has been read. -/
theorem next_messages_are_frames {chunks : List Bytes} (nonempty : ∀ c ∈ chunks, c ≠ [])
    (fit : LengthsFit chunks.flatten) (n : Nat) :
    ∃ (raws : List Bytes) (buf : Bytes) (unread : List Bytes),
      RtspReader.nextMessages n { sock := { inbound := chunks.map .data } } =
        .ok (raws.map decode) { sock := { inbound := unread.map .data }, buf := buf } ∧
      raws.length = n ∧
      raws.flatten ++ (buf ++ unread.flatten) = chunks.flatten ∧
      (∀ buf' unread', rtspFramer.Passes buf unread buf' unread' →
        raws.flatten ++ (buf' ++ unread'.flatten) = chunks.flatten) ∧
      ∀ k < n, (∀ m, KthFrame k chunks.flatten m ↔ raws[k]? = some m) ∨
        (∀ m, ¬ KthFrame k chunks.flatten m) ∧ buf = [] ∧ unread = [] := by
  have clean : rtspFramer.Clean ([] ++ chunks.flatten) := fit.clean
  obtain ⟨raws, buf, unread, hreads, length, kept, frames⟩ :=
    rtspFramer.readN_of_clean n nonempty clean
  refine ⟨raws, buf, unread, nextMessages_of_readN hreads rfl, length, kept, ?_, ?_⟩
  · intro buf' unread' passes
    rw [passes.kept.1]
    exact kept
  · intro k hk
    rcases frames k hk with same | ⟨noFrame, ended⟩
    · left
      intro m
      rw [← same]
      exact nthFrame_eq_some_iff.symm
    · right
      refine ⟨fun m frame => ?_, ended⟩
      have found := nthFrame_eq_some_iff.mpr frame
      rw [List.nil_append] at noFrame
      rw [noFrame] at found
      cases found

/-- Two messages in five chunks, cut inside the length, inside the blank line and inside the
body. -/
def fiveChunks : List Bytes :=
  ["A\r\nContent-Length: 1", "1\r\n\r", "\nhello", " world", "B\r\n\r\n"].map
    fun c => encode c.toList

theorem next_messages_are_frames_of_five_chunks :
    ∃ (raws : List Bytes) (buf : Bytes) (unread : List Bytes),
      RtspReader.nextMessages 3 { sock := { inbound := fiveChunks.map .data } } =
        .ok (raws.map decode) { sock := { inbound := unread.map .data }, buf := buf } ∧
      raws.length = 3 ∧ raws.flatten ++ (buf ++ unread.flatten) = fiveChunks.flatten := by
  have nonempty : ∀ c ∈ fiveChunks, c ≠ [] := by decide +kernel
  have fit : LengthsFit fiveChunks.flatten := lengthsFit_of_length_le (by decide +kernel)
  obtain ⟨raws, buf, unread, hreads, length, kept, _⟩ := next_messages_are_frames nonempty fit 3
  exact ⟨raws, buf, unread, hreads, length, kept⟩

end Castd.Wfdsink
