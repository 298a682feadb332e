import Castd.Lib.Encode
import Castd.Wfdsink.Reader

/-!
# What the sink sends, by lines

Every message of the sink is a header of lines, and the response to M3 a body after it. A header
whose lines announce no length is one frame whatever they hold (`headerText_isFrame`); the header of
the response to M3 announces the number that it is given (`announced_m3Header`).
-/

namespace Castd.Wfdsink

open Lib WfdNegotiator

/-! ## Headers of lines -/

/-- A header of lines. -/
def headerOf (lines : List Bytes) : Bytes := lines.flatMap (· ++ [13, 10]) ++ [13, 10]

/-- A line of a header that announces no length. -/
structure PlainLine (line : Bytes) : Prop where
  nonempty : line ≠ []
  noReturn : 13 ∉ line
  absent : contentLengthRe.Absent line

private theorem find_blankLine_line {t : Bytes} (follows : t.head? ≠ some 13) :
    ∀ {line : Bytes}, 13 ∉ line →
      find blankLine (line ++ [13, 10] ++ t) =
        (find blankLine t).map (· + (line ++ [13, 10]).length) := by
  have lineEnd : find blankLine (13 :: 10 :: t) = (find blankLine t).map (· + 2) := by
    have other : blankLine.isPrefixOf (13 :: 10 :: t) = false := by
      cases t with
      | nil => rfl
      | cons b t =>
        have noReturn : (13 == b) = false := by
          rw [beq_eq_false_iff_ne]
          rintro rfl
          exact follows rfl
        simp [blankLine, List.isPrefixOf, noReturn]
    have other' : blankLine.isPrefixOf (10 :: t) = false := rfl
    rw [find, other, find, other']
    simp [Option.map_map, Function.comp_def]
  intro line
  induction line with
  | nil => exact fun _ => lineEnd
  | cons b line ih =>
    intro noReturn
    have inLine : blankLine.isPrefixOf (b :: (line ++ [13, 10] ++ t)) = false := by
      have notFirst : (13 == b) = false := by
        rw [beq_eq_false_iff_ne]
        rintro rfl
        exact noReturn List.mem_cons_self
      simp [blankLine, List.isPrefixOf, notFirst]
    rw [List.cons_append, List.cons_append, find, inLine,
      ih fun later => noReturn (List.mem_cons_of_mem b later)]
    simp [Option.map_map, Function.comp_def, Nat.add_assoc]

private theorem find_blankLine_headerOf {line : Bytes} {lines : List Bytes} (noReturn : 13 ∉ line)
    (plain : ∀ line ∈ lines, line ≠ [] ∧ 13 ∉ line) :
    ∃ headEnd, find blankLine (headerOf (line :: lines)) = some headEnd ∧
      headEnd + 4 = (headerOf (line :: lines)).length := by
  induction lines generalizing line with
  | nil =>
    have one : headerOf [line] = [] ++ line ++ blankLine := by
      simp [headerOf, blankLine]
    have isHeader : IsHeader (headerOf [line]) := by
      rw [one]
      exact isHeader_of_clear noReturn nofun
    have found := find_header isHeader []
    rwa [List.append_nil] at found
  | cons next lines ih =>
    obtain ⟨nonempty, noReturn'⟩ := plain next List.mem_cons_self
    obtain ⟨headEnd, found, size⟩ := ih noReturn' fun l hl => plain l (List.mem_cons_of_mem _ hl)
    have follows : (headerOf (next :: lines)).head? ≠ some 13 := by
      cases next with
      | nil => exact absurd rfl nonempty
      | cons b next =>
        intro same
        cases same
        exact noReturn' List.mem_cons_self
    have cut : headerOf (line :: next :: lines) =
        line ++ [13, 10] ++ headerOf (next :: lines) := by
      rw [headerOf, List.flatMap_cons, List.append_assoc]
      rfl
    rw [cut, find_blankLine_line follows noReturn, found]
    refine ⟨_, rfl, ?_⟩
    simp only [List.length_append] at size ⊢
    omega

theorem isHeader_headerOf_cons {line : Bytes} {lines : List Bytes} (noReturn : 13 ∉ line)
    (plain : ∀ line ∈ lines, line ≠ [] ∧ 13 ∉ line) : IsHeader (headerOf (line :: lines)) := by
  obtain ⟨headEnd, found, size⟩ := find_blankLine_headerOf noReturn plain
  have whole := isHeader_of_find found
  rwa [size, List.take_length] at whole

theorem isHeader_headerOf {lines : List Bytes} (some_lines : lines ≠ [])
    (plain : ∀ line ∈ lines, line ≠ [] ∧ 13 ∉ line) : IsHeader (headerOf lines) := by
  cases lines with
  | nil => exact absurd rfl some_lines
  | cons line lines =>
    exact isHeader_headerOf_cons (plain line List.mem_cons_self).2
      fun l hl => plain l (List.mem_cons_of_mem line hl)

private theorem literal_ne_nil : contentLengthRe.literal ≠ [] := by decide

private theorem return_bars : contentLengthRe.Bars 13 ∧ contentLengthRe.Bars 10 := by decide

/-- Lines that announce no length are passed over. -/
theorem search_headerOf_append {lines : List Bytes} (t : List Bytes)
    (absent : ∀ line ∈ lines, contentLengthRe.Absent line) :
    contentLengthRe.search (headerOf (lines ++ t)) = contentLengthRe.search (headerOf t) := by
  induction lines with
  | nil => rfl
  | cons line lines ih =>
    have cut : headerOf (line :: lines ++ t) = line ++ 13 :: 10 :: headerOf (lines ++ t) := by
      simp [headerOf]
    rw [cut, (absent line List.mem_cons_self).search_append fun c hc => by
        cases hc
        exact return_bars.1,
      FieldPattern.search_cons literal_ne_nil return_bars.1,
      FieldPattern.search_cons literal_ne_nil return_bars.2]
    exact ih fun l hl => absent l (List.mem_cons_of_mem line hl)

private theorem headerOf_isFrame {lines : List Bytes} (some_lines : lines ≠ [])
    (plain : ∀ line ∈ lines, PlainLine line) (rest : Bytes) :
    IsFrame (headerOf lines ++ rest) (headerOf lines) rest := by
  have isHeader := isHeader_headerOf some_lines fun l hl => ⟨(plain l hl).nonempty,
    (plain l hl).noReturn⟩
  have noLength : contentLengthRe.search (headerOf lines) = none := by
    have passed := search_headerOf_append [] fun l hl => (plain l hl).absent
    rw [List.append_nil] at passed
    rw [passed]
    decide
  refine ⟨rfl, headerOf lines, [], (List.append_nil _).symm, isHeader, ?_⟩
  rw [announced, noLength]
  rfl

/-! ## What the sink writes, by lines -/

/-- The text of a header of lines. -/
def headerText (lines : List Str) : Str := lines.flatMap (· ++ crlf) ++ crlf

theorem encode_headerText (lines : List Str) :
    encode (headerText lines) = headerOf (lines.map encode) := by
  have lineEnd : encode crlf = [13, 10] := by decide
  unfold headerText headerOf
  rw [encode_append, lineEnd, List.flatMap_map]
  congr 1
  induction lines with
  | nil => rfl
  | cons line lines ih =>
    rw [List.flatMap_cons, encode_append, encode_append, lineEnd, ih, List.flatMap_cons]

private theorem eq_colon_of_same {b : UInt8} (h : sameByteIgnoringCase 58 b = true) : b = 58 := by
  unfold sameByteIgnoringCase at h
  simp only [beq_iff_eq] at h
  rw [if_neg (by decide)] at h
  split at h
  · rename_i upper
    obtain ⟨above, below⟩ := upper
    rw [UInt8.le_iff_toNat_le] at above below
    have number := congrArg UInt8.toNat h
    rw [UInt8.toNat_add] at number
    simp at above below number
    omega
  · exact h.symm

/-- No line ends and no colons. -/
def Clean (text : Str) : Prop := '\r' ∉ text ∧ ':' ∉ text

theorem clean_append {s t : Str} (h : Clean s) (ht : Clean t) : Clean (s ++ t) := by
  constructor
  · rw [List.mem_append]
    exact fun mem => mem.elim h.1 ht.1
  · rw [List.mem_append]
    exact fun mem => mem.elim h.2 ht.2

theorem clean_decimal (n : Nat) : Clean (decimal n) := by
  have digit : ∀ c ∈ decimal n, c.isDigit = true :=
    fun c hc => Nat.isDigit_of_mem_toDigits (by decide) (by decide) hc
  exact ⟨fun mem => absurd (digit _ mem) (by decide), fun mem => absurd (digit _ mem) (by decide)⟩

/-- What a field holds is clean. -/
theorem clean_of_search {p : FieldPattern Char} {text kept : Str} (h : p.search text = some kept)
    (noReturn : p.keep '\r' = false) (noColon : p.keep ':' = false) : Clean kept := by
  have keeps := FieldPattern.keep_of_search h
  constructor
  · intro mem
    rw [keeps _ mem] at noReturn
    cases noReturn
  · intro mem
    rw [keeps _ mem] at noColon
    cases noColon

private theorem plainLine_of_parts {front value : Str} (nonempty : front ≠ [])
    (noReturn : '\r' ∉ front)
    (clear : ∀ i < (encode front).length, ¬ contentLengthRe.Here ((encode front).drop i))
    (begins : ∀ b ∈ (encode value).head?, contentLengthRe.Bars b) (clean : Clean value) :
    PlainLine (encode (front ++ value)) := by
  have some_bytes : encode front ≠ [] := fun none => nonempty (encode_injective none)
  constructor
  · rw [encode_append]
    exact List.append_ne_nil_of_left_ne_nil some_bytes _
  · intro mem
    rcases List.mem_append.mp (mem_of_mem_encode mem (by decide)) with inFront | inValue
    · exact noReturn inFront
    · exact clean.1 inValue
  · rw [encode_append]
    have colon : (58 : UInt8) ∈ contentLengthRe.literal := by decide
    have frontAbsent := FieldPattern.absent_of_tails literal_ne_nil clear
    refine frontAbsent.append (FieldPattern.absent_of_not_mem colon fun b hb => ?_) begins
    by_contra same
    obtain rfl := eq_colon_of_same (Bool.of_not_eq_false same)
    exact clean.2 (mem_of_mem_encode hb (by decide))

/-- A line that is looked at to its end. -/
theorem plainLine_of_text {text : Str} (nonempty : text ≠ []) (noReturn : '\r' ∉ text)
    (clear : ∀ i < (encode text).length, ¬ contentLengthRe.Here ((encode text).drop i)) :
    PlainLine (encode text) := by
  have plain : PlainLine (encode (text ++ [])) :=
    plainLine_of_parts nonempty noReturn clear (fun b hb => by cases hb)
      ⟨List.not_mem_nil, List.not_mem_nil⟩
  rwa [List.append_nil] at plain

/-! ## The messages by lines -/

/-- The line of a header field. -/
def fieldLine (name : String) (value : Str) : Str := name.toList ++ ' ' :: value

/-- The line of a request for the stream. -/
def streamLine (method : String) (sourceIp : Str) : Str :=
  method.toList ++ ("//".toList ++ sourceIp ++ "/wfd1.0/streamid=0 RTSP/1.0".toList)

/-- The lines that are the same in every message that has them. -/
def fixedLines : List String := ["RTSP/1.0 200 OK", "OPTIONS * RTSP/1.0",
  "Public: org.wfa.wfd1.0, SET_PARAMETER, GET_PARAMETER", "Require: org.wfa.wfd1.0",
  "Content-Type: text/parameters"]

/-- How the lines of a message begin: the names of the fields, the methods, the fixed lines. -/
def lineFronts : List String :=
  ["CSeq:", "Transport:", "Session:", "SETUP rtsp:", "PLAY rtsp:"] ++ fixedLines

private theorem lineFronts_clear : ∀ front ∈ lineFronts, front.toList ≠ [] ∧ '\r' ∉ front.toList ∧
    ∀ i < (encode front.toList).length,
      ¬ contentLengthRe.Here ((encode front.toList).drop i) := by
  decide +kernel

theorem fieldLine_plain {name : String} (known : name ∈ ["CSeq:", "Transport:", "Session:"])
    {value : Str} (clean : Clean value) : PlainLine (encode (fieldLine name value)) := by
  have front : name ∈ lineFronts := by
    simp only [List.mem_cons, List.not_mem_nil, or_false] at known
    rcases known with rfl | rfl | rfl <;> simp [lineFronts]
  obtain ⟨nonempty, noReturn, clear⟩ := lineFronts_clear name front
  refine plainLine_of_parts nonempty noReturn clear (fun b hb => ?_) ?_
  · cases hb
    decide
  · have blank : Clean [' '] := by simp [Clean]
    exact clean_append blank clean

theorem streamLine_plain {method : String} (known : method ∈ ["SETUP rtsp:", "PLAY rtsp:"])
    {sourceIp : Str} (clean : Clean sourceIp) :
    PlainLine (encode (streamLine method sourceIp)) := by
  have front : method ∈ lineFronts := by
    simp only [List.mem_cons, List.not_mem_nil, or_false] at known
    rcases known with rfl | rfl <;> simp [lineFronts]
  obtain ⟨nonempty, noReturn, clear⟩ := lineFronts_clear method front
  have slashes : Clean "//".toList := by simp [Clean]
  have path : Clean "/wfd1.0/streamid=0 RTSP/1.0".toList := by simp [Clean]
  refine plainLine_of_parts nonempty noReturn clear (fun b hb => ?_)
    (clean_append (clean_append slashes clean) path)
  cases hb
  decide

theorem fixedLine_plain {line : String} (known : line ∈ fixedLines) :
    PlainLine (encode line.toList) := by
  obtain ⟨nonempty, noReturn, clear⟩ :=
    lineFronts_clear line (List.mem_append_right _ known)
  exact plainLine_of_text nonempty noReturn clear

/-- A text of plain lines is a frame. -/
theorem headerText_isFrame {lines : List Str} (some_lines : lines ≠ [])
    (plain : ∀ line ∈ lines, PlainLine (encode line)) (rest : Bytes) :
    IsFrame (encode (headerText lines) ++ rest) (encode (headerText lines)) rest := by
  rw [encode_headerText]
  refine headerOf_isFrame (fun none => some_lines (List.map_eq_nil_iff.mp none)) ?_ rest
  intro line hline
  obtain ⟨text, htext, rfl⟩ := List.mem_map.mp hline
  exact plain text htext

theorem crlf2_eq : crlf2 = crlf ++ crlf := rfl

theorem okFront_eq : "RTSP/1.0 200 OK\r\nCSeq: ".toList =
    "RTSP/1.0 200 OK".toList ++ (crlf ++ ("CSeq:".toList ++ [' '])) := by
  simp [crlf]

theorem okResponse_eq (cseq : Str) : okResponse cseq =
    headerText ["RTSP/1.0 200 OK".toList, fieldLine "CSeq:" cseq] := by
  unfold okResponse headerText fieldLine
  simp only [okFront_eq, crlf2_eq, List.flatMap_cons, List.flatMap_nil, List.append_assoc,
    List.append_nil, List.singleton_append]

theorem m1Response_eq (cseq : Str) : m1Response cseq =
    headerText ["RTSP/1.0 200 OK".toList, fieldLine "CSeq:" cseq,
      "Public: org.wfa.wfd1.0, SET_PARAMETER, GET_PARAMETER".toList] := by
  have last : "\r\nPublic: org.wfa.wfd1.0, SET_PARAMETER, GET_PARAMETER\r\n\r\n".toList =
      crlf ++ ("Public: org.wfa.wfd1.0, SET_PARAMETER, GET_PARAMETER".toList ++
        (crlf ++ crlf)) := by
    simp [crlf]
  unfold m1Response headerText fieldLine
  simp only [okFront_eq, last, List.flatMap_cons, List.flatMap_nil, List.append_assoc,
    List.append_nil, List.singleton_append]

theorem m2Request_eq (cseq : Nat) : m2Request cseq =
    headerText ["OPTIONS * RTSP/1.0".toList, fieldLine "CSeq:" (decimal cseq),
      "Require: org.wfa.wfd1.0".toList] := by
  have front : "OPTIONS * RTSP/1.0\r\nCSeq: ".toList =
      "OPTIONS * RTSP/1.0".toList ++ (crlf ++ ("CSeq:".toList ++ [' '])) := by
    simp [crlf]
  have last : "\r\nRequire: org.wfa.wfd1.0\r\n\r\n".toList =
      crlf ++ ("Require: org.wfa.wfd1.0".toList ++ (crlf ++ crlf)) := by
    simp [crlf]
  unfold m2Request headerText fieldLine
  simp only [front, last, List.flatMap_cons, List.flatMap_nil, List.append_assoc,
    List.append_nil, List.singleton_append]

theorem m6Request_eq (sourceIp : Str) (cseq sinkRtpPort : Nat) :
    m6Request sourceIp cseq sinkRtpPort =
      headerText [streamLine "SETUP rtsp:" sourceIp, fieldLine "CSeq:" (decimal cseq),
        fieldLine "Transport:" ("RTP/AVP/UDP;unicast;client_port=".toList ++
          decimal sinkRtpPort)] := by
  have front : "SETUP rtsp://".toList = "SETUP rtsp:".toList ++ "//".toList := by
    simp
  have middle : "/wfd1.0/streamid=0 RTSP/1.0\r\nCSeq: ".toList =
      "/wfd1.0/streamid=0 RTSP/1.0".toList ++ (crlf ++ ("CSeq:".toList ++ [' '])) := by
    simp [crlf]
  have last : "\r\nTransport: RTP/AVP/UDP;unicast;client_port=".toList =
      crlf ++ ("Transport:".toList ++ ([' '] ++ "RTP/AVP/UDP;unicast;client_port=".toList)) := by
    simp [crlf]
  unfold m6Request headerText fieldLine streamLine
  simp only [front, middle, last, crlf2_eq, List.flatMap_cons, List.flatMap_nil,
    List.append_assoc, List.append_nil, List.cons_append, List.nil_append]

theorem m7Request_eq (sourceIp : Str) (cseq : Nat) (sessionId : Str) :
    m7Request sourceIp cseq sessionId =
      headerText [streamLine "PLAY rtsp:" sourceIp, fieldLine "CSeq:" (decimal cseq),
        fieldLine "Session:" sessionId] := by
  have front : "PLAY rtsp://".toList = "PLAY rtsp:".toList ++ "//".toList := by
    simp
  have middle : "/wfd1.0/streamid=0 RTSP/1.0\r\nCSeq: ".toList =
      "/wfd1.0/streamid=0 RTSP/1.0".toList ++ (crlf ++ ("CSeq:".toList ++ [' '])) := by
    simp [crlf]
  have last : "\r\nSession: ".toList = crlf ++ ("Session:".toList ++ [' ']) := by
    simp [crlf]
  unfold m7Request headerText fieldLine streamLine
  simp only [front, middle, last, crlf2_eq, List.flatMap_cons, List.flatMap_nil,
    List.append_assoc, List.append_nil, List.singleton_append]

/-! ## The response to M3 -/

/-- The header of the response to M3. -/
def m3Header (cseq : Str) (length : Nat) : Str :=
  headerText ["RTSP/1.0 200 OK".toList, fieldLine "CSeq:" cseq,
    "Content-Type: text/parameters".toList, fieldLine "Content-Length:" (decimal length)]

theorem m3Response_eq (cseq body : Str) :
    m3Response cseq body = m3Header cseq body.length ++ body := by
  have middle : "\r\nContent-Type: text/parameters\r\nContent-Length: ".toList =
      crlf ++ ("Content-Type: text/parameters".toList ++ (crlf ++
        ("Content-Length:".toList ++ [' ']))) := by
    simp [crlf]
  unfold m3Response m3Header headerText fieldLine
  simp only [okFront_eq, middle, crlf2_eq, List.flatMap_cons, List.flatMap_nil, List.append_assoc,
    List.append_nil, List.cons_append, List.nil_append]

/-- A number is written in digits. -/
theorem isDigit_of_mem_decimal {n : Nat} {c : Char} (h : c ∈ decimal n) :
    48 ≤ c.toNat ∧ c.toNat ≤ 57 := by
  have digit : c.isDigit = true := Nat.isDigit_of_mem_toDigits (by decide) (by decide) h
  simpa [Char.isDigit, UInt32.le_iff_toNat_le] using digit

theorem decimal_ascii (n : Nat) : Ascii (decimal n) := by
  intro c hc
  have range := isDigit_of_mem_decimal hc
  omega

/-- And is read back. -/
theorem ofDigits_decimal (n : Nat) : ofDigits (decimal n) = n := by
  have same : ∀ (digits : Str), (∀ c ∈ digits, 48 ≤ c.toNat ∧ c.toNat ≤ 57) → ∀ start,
      digits.foldl (fun n c => 10 * n + (digitValue c).getD 0) start =
        Nat.ofDigitChars 10 digits start := by
    intro digits
    induction digits with
    | nil => exact fun _ _ => rfl
    | cons c digits ih =>
      intro range start
      rw [List.forall_mem_cons] at range
      have value : digitValue c = some (c.toNat - 48) := by
        rw [digitValue]
        exact if_pos range.1
      rw [List.foldl_cons, ih range.2, value]
      rfl
  have whole := same (decimal n) (fun c hc => isDigit_of_mem_decimal hc) 0
  rw [ofDigits, whole]
  exact Nat.ofDigitChars_ten_toDigits

/-- It announces the length that it is given, unless `int()` raises on it. -/
theorem announced_m3Header {cseq : Str} (clean : Clean cseq) (length : Nat) :
    announced (encode (m3Header cseq length)) = intOfDigits (decimal length) := by
  have absent : ∀ line ∈ ["RTSP/1.0 200 OK".toList, fieldLine "CSeq:" cseq,
      "Content-Type: text/parameters".toList].map encode, contentLengthRe.Absent line := by
    simp only [List.map_cons, List.map_nil, List.forall_mem_cons]
    exact ⟨(fixedLine_plain (by decide)).absent, (fieldLine_plain (by decide) clean).absent,
      (fixedLine_plain (by decide)).absent, nofun⟩
  have cut : encode (m3Header cseq length) = headerOf (["RTSP/1.0 200 OK".toList,
      fieldLine "CSeq:" cseq, "Content-Type: text/parameters".toList].map encode ++
      [encode (fieldLine "Content-Length:" (decimal length))]) := by
    rw [m3Header, encode_headerText]
    rfl
  have field : headerOf [encode (fieldLine "Content-Length:" (decimal length))] =
      encode "Content-Length:".toList ++ ([32] ++ (encode (decimal length) ++
        [13, 10, 13, 10])) := by
    have blank : String.utf8EncodeChar ' ' = [32] := by decide
    rw [headerOf, fieldLine, encode_append, encode_cons, blank, List.flatMap_singleton]
    simp only [List.append_assoc]
    rfl
  have digits : ∀ b ∈ encode (decimal length), contentLengthRe.keep b = true := by
    intro b hb
    rw [encode_ascii (decimal_ascii length)] at hb
    obtain ⟨c, hc, rfl⟩ := List.mem_map.mp hb
    obtain ⟨above, below⟩ := isDigit_of_mem_decimal hc
    have range : (48 : UInt8) ≤ UInt8.ofNat c.toNat ∧ UInt8.ofNat c.toNat ≤ 57 :=
      inRange_of_toNat above below
    show (_ && _) = true
    rw [Bool.and_eq_true, decide_eq_true_eq, decide_eq_true_eq]
    exact range
  have some_digits : encode (decimal length) ≠ [] := fun none =>
    Nat.toDigits_ne_nil (encode_injective none)
  have found : contentLengthRe.search (encode (m3Header cseq length)) =
      some (encode (decimal length)) := by
    rw [cut, search_headerOf_append _ absent, field]
    apply FieldPattern.search_of_matchHere
    apply FieldPattern.matchHere_of_field (by decide +kernel)
      (List.forall_mem_singleton.mpr (by decide)) digits some_digits
    intro c hc
    cases hc
    decide
  rw [announced, found]
  simp only [map_ofNat_encode (decimal_ascii length)]

theorem m3Header_isHeader {cseq : Str} (clean : Clean cseq) (length : Nat) :
    IsHeader (encode (m3Header cseq length)) := by
  rw [m3Header, encode_headerText]
  apply isHeader_headerOf (List.cons_ne_nil _ _)
  simp only [List.map_cons, List.map_nil, List.forall_mem_cons]
  have status : PlainLine (encode "RTSP/1.0 200 OK".toList) := fixedLine_plain (by decide)
  have cseqLine : PlainLine (encode (fieldLine "CSeq:" cseq)) := fieldLine_plain (by decide) clean
  have typeLine : PlainLine (encode "Content-Type: text/parameters".toList) :=
    fixedLine_plain (by decide)
  refine ⟨⟨status.nonempty, status.noReturn⟩, ⟨cseqLine.nonempty, cseqLine.noReturn⟩,
    ⟨typeLine.nonempty, typeLine.noReturn⟩, ⟨?_, ?_⟩, nofun⟩
  · rw [fieldLine, encode_append]
    exact List.append_ne_nil_of_left_ne_nil (by simp [encode_cons]) _
  · intro mem
    have inLine : '\r' ∈ "Content-Length:".toList ++ ' ' :: decimal length :=
      mem_of_mem_encode mem (by decide)
    rcases List.mem_append.mp inLine with inName | inValue
    · simp at inName
    · rcases List.mem_cons.mp inValue with blank | digit
      · exact absurd blank (by decide)
      · exact (clean_decimal length).1 digit

end Castd.Wfdsink
