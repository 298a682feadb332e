import Castd.Wfdsink.Cuts
import Castd.Wfdsink.Outbound

/-!
# The response to M3

The sink computes the Content-Length of its response to M3 on the text, and encodes the text when it
sends it. The two lengths are one when the names that M3 asks for are ASCII (`ascii_body_iff`), and
the response is a frame then and only then (`m3Response_isFrame_iff`).
-/

namespace Castd.Wfdsink

open Lib WfdNegotiator

/-! ## The body -/

/-- The device name, the model and the version are ASCII where M3 asks for them. -/
structure AsciiAnswer (cap : WfdCapabilities) (m3 : Str) : Prop where
  deviceName : contains "intel_friendly_name".toList m3 = true ∨
    contains "intel_sink_manufacturer_name".toList m3 = true → Ascii cap.deviceName
  sinkModel : contains "intel_sink_model_name".toList m3 = true → Ascii cap.sinkModel
  sinkVersion : contains "intel_sink_version".toList m3 = true → Ascii cap.sinkVersion

theorem digitChar_of_mem_toDigits {n : Nat} {c : Char} :
    c ∈ Nat.toDigits 16 n → ∃ k < 16, c = Nat.digitChar k := by
  induction n using Nat.strongRecOn with
  | ind n ih =>
    intro hc
    rw [Nat.toDigits_eq_if (by decide)] at hc
    split at hc
    · rename_i small
      exact ⟨n, small, List.mem_singleton.mp hc⟩
    · rcases List.mem_append.mp hc with front | last
      · exact ih (n / 16) (by omega) front
      · exact ⟨n % 16, Nat.mod_lt _ (by decide), List.mem_singleton.mp last⟩

private theorem hex4_ascii (n : Nat) : Ascii (hex4 n) := by
  have upper : ∀ k < 16, (Nat.digitChar k).toUpper.toNat < 0x80 := by decide
  unfold hex4
  rw [ascii_append_iff]
  constructor
  · intro c hc
    rw [List.eq_of_mem_replicate hc]
    decide
  · intro c hc
    obtain ⟨d, hd, rfl⟩ := List.mem_map.mp hc
    obtain ⟨k, small, rfl⟩ := digitChar_of_mem_toDigits hd
    exact upper k small

private theorem hexBytes_ascii (data : Bytes) : Ascii (hexBytes data) := by
  have lower : ∀ k < 16, (Nat.digitChar k).toNat < 0x80 := by decide
  intro c hc
  obtain ⟨b, _, hb⟩ := List.mem_flatMap.mp hc
  have byte := b.toNat_lt
  rcases List.mem_cons.mp hb with rfl | hb
  · exact lower _ (by omega)
  · rw [List.mem_singleton.mp hb]
    exact lower _ (by omega)

private theorem forall_mem_if {asked : Bool} {line : Str} :
    (∀ l ∈ (if asked then [line] else []), Ascii l) ↔ (asked = true → Ascii line) := by
  cases asked <;> simp

private theorem ascii_line_iff {front text : Str} (ascii : Ascii front) :
    Ascii (front ++ text) ↔ Ascii text := by
  rw [ascii_append_iff]
  exact and_iff_right ascii

private theorem ascii_requestedLines_iff {cap : WfdCapabilities} {m3 : Str} :
    (∀ line ∈ requestedLines cap m3, Ascii line) ↔ AsciiAnswer cap m3 := by
  have edidLine : ∀ edid : Bytes, Ascii ("wfd_display_edid: ".toList ++
      hex4 (edid.length / 256 + 1) ++ [' '] ++ hexBytes edid) := by
    intro edid
    have front : Ascii "wfd_display_edid: ".toList := by decide
    have blank : Ascii [' '] := by decide
    rw [ascii_append_iff, ascii_append_iff, ascii_append_iff]
    exact ⟨⟨⟨front, hex4_ascii _⟩, blank⟩, hexBytes_ascii edid⟩
  have url : Ascii "intel_sink_device_URL: none".toList := by decide
  have idr : Ascii "wfd_idr_request_capability: 1".toList := by decide
  have friendly : Ascii "intel_friendly_name: ".toList := by decide
  have manufacturer : Ascii "intel_sink_manufacturer_name: ".toList := by decide
  have model : Ascii "intel_sink_model_name: ".toList := by decide
  have version : Ascii "intel_sink_version: ".toList := by decide
  unfold requestedLines
  simp only [List.forall_mem_append, forall_mem_if, ascii_line_iff friendly,
    ascii_line_iff manufacturer, ascii_line_iff model, ascii_line_iff version]
  constructor
  · rintro ⟨⟨⟨⟨⟨⟨_, byName⟩, byManufacturer⟩, sinkModel⟩, sinkVersion⟩, _⟩, _⟩
    exact ⟨fun asked => asked.elim byName byManufacturer, sinkModel, sinkVersion⟩
  · rintro ⟨deviceName, sinkModel, sinkVersion⟩
    refine ⟨⟨⟨⟨⟨⟨?_, fun asked => deviceName (.inl asked)⟩, fun asked => deviceName (.inr asked)⟩,
      sinkModel⟩, sinkVersion⟩, fun _ => url⟩, fun _ => idr⟩
    split
    · exact forall_mem_if.mpr fun _ => edidLine _
    · exact List.forall_mem_nil _

theorem ascii_body_iff {n : WfdNegotiator} {m3 : Str} :
    Ascii (n.buildCapabilityBody m3) ↔ AsciiAnswer n.capabilities m3 := by
  have lineEnd : Ascii crlf := by decide
  have flat : ∀ lines : List Str, Ascii (lines.flatMap fun line => line ++ crlf) ↔
      ∀ line ∈ lines, Ascii line := by
    intro lines
    induction lines with
    | nil => exact iff_of_true (List.forall_mem_nil _) (List.forall_mem_nil _)
    | cons line lines ih =>
      rw [List.flatMap_cons, ascii_append_iff, ascii_append_iff, ih, List.forall_mem_cons]
      exact and_congr_left fun _ => and_iff_left lineEnd
  have uibc : ∀ enabled, Ascii (uibcLine enabled) := by decide +kernel
  unfold WfdNegotiator.buildCapabilityBody
  dsimp only
  rw [flat, List.forall_mem_append, ascii_requestedLines_iff]
  apply and_iff_right
  simp only [List.forall_mem_cons, ascii_append_iff]
  refine ⟨⟨⟨?_, decimal_ascii _⟩, ?_⟩, ⟨?_, ?_⟩, ⟨⟨⟨⟨?_, ?_⟩, ?_⟩, ?_⟩, ?_⟩, ?_, ?_, ?_, uibc _, ?_,
    ?_, List.forall_mem_nil _⟩
  case refine_4 => split <;> decide
  case refine_6 => split <;> decide
  case refine_8 => split <;> decide
  all_goals decide

/-- The body ends with a line end. -/
theorem getLast?_body (n : WfdNegotiator) (m3 : Str) :
    (n.buildCapabilityBody m3).getLast? = some '\n' := by
  have ends : ∀ lines : List Str, lines ≠ [] →
      (lines.flatMap fun line => line ++ crlf).getLast? = some '\n' := by
    intro lines some_lines
    obtain ⟨front, last, rfl⟩ := List.eq_nil_or_concat lines |>.resolve_left some_lines
    rw [List.concat_eq_append, List.flatMap_append, List.flatMap_singleton, ← List.append_assoc]
    exact List.getLast?_append_of_ne_nil _ (List.cons_ne_nil _ _)
  unfold WfdNegotiator.buildCapabilityBody
  exact ends _ (List.cons_ne_nil _ _)

/-! ## On the wire -/

section

variable {cseq body : Str}

/-- The frame that the response to M3 starts with: as many bytes of the body as it has
characters. -/
private theorem m3Response_starts (clean : Clean cseq)
    (fits : (decimal body.length).length ≤ maxStrDigits) (rest : Bytes) :
    IsFrame (encode (m3Response cseq body) ++ rest)
      (encode (m3Header cseq body.length) ++ (encode body).take body.length)
      ((encode body).drop body.length ++ rest) := by
  have bytes := length_le_encode_length body
  constructor
  · rw [m3Response_eq, encode_append, List.append_assoc, List.append_assoc, ← List.append_assoc
      (List.take _ _), List.take_append_drop]
  · refine ⟨_, _, rfl, m3Header_isHeader clean _, ?_⟩
    rw [announced_m3Header clean, intOfDigits, if_pos fits, ofDigits_decimal, List.length_take,
      Nat.min_eq_left bytes]

private theorem m3Response_long (clean : Clean cseq)
    (tooLong : ¬ (decimal body.length).length ≤ maxStrDigits) (rest : Bytes) :
    scanMessage (encode (m3Response cseq body) ++ rest) = .fails .valueError := by
  refine scanMessage_eq_fails_iff.mpr ⟨rfl, encode (m3Header cseq body.length),
    encode body ++ rest, ?_, m3Header_isHeader clean _, ?_⟩
  · rw [m3Response_eq, encode_append, List.append_assoc]
  · rw [announced_m3Header clean, intOfDigits, if_neg tooLong]

/-- It is a frame when the body is ASCII, and only then. -/
theorem m3Response_isFrame_iff (clean : Clean cseq) :
    IsFrame (encode (m3Response cseq body)) (encode (m3Response cseq body)) [] ↔
      Ascii body ∧ (decimal body.length).length ≤ maxStrDigits := by
  by_cases fits : (decimal body.length).length ≤ maxStrDigits
  · have starts := m3Response_starts clean fits []
    rw [List.append_nil, List.append_nil] at starts
    rw [and_iff_left fits, ← encode_length_eq_iff]
    constructor
    · intro whole
      have same := (scanMessage_eq_frame_iff.mpr whole).symm.trans
        (scanMessage_eq_frame_iff.mpr starts)
      injection same with _ nothing
      have sizes := List.drop_eq_nil_iff.mp nothing.symm
      exact Nat.le_antisymm sizes (length_le_encode_length body)
    · intro sizes
      rw [← sizes, List.take_length, List.drop_length, sizes, ← encode_append,
        ← m3Response_eq] at starts
      exact starts
  · have long := m3Response_long clean fits []
    rw [List.append_nil] at long
    refine iff_of_false (fun whole => ?_) fun ascii => fits ascii.2
    rw [scanMessage_eq_frame_iff.mpr whole] at long
    cases long

/-- A reader that has it next returns it when the body is ASCII, and only then. -/
theorem ascii_of_nextMessage {r r' : RtspReader} {rest : Bytes} {sent : List Bytes}
    (clean : Clean cseq) (ends : body.getLast? = some '\n')
    (delivers : r.Delivers (encode (m3Response cseq body) ++ rest) sent)
    (returns : r.nextMessage = .ok (m3Response cseq body) r') :
    Ascii body ∧ (decimal body.length).length ≤ maxStrDigits := by
  by_cases fits : (decimal body.length).length ≤ maxStrDigits
  · refine ⟨?_, fits⟩
    obtain ⟨r₁, read, _⟩ := delivers.nextMessage_frame (m3Response_starts clean fits rest)
    have same := read.symm.trans returns
    injection same with text
    have cut : encode (m3Header cseq body.length) ++ (encode body).take body.length ++
        (encode body).drop body.length = encode (m3Response cseq body) := by
      rw [List.append_assoc, List.take_append_drop, m3Response_eq, encode_append]
    have nothing := eq_encode_of_prefix cut text fun c hc => by
      rw [m3Response_eq, List.getLast?_append, ends] at hc
      obtain rfl := Option.some.inj hc
      decide
    have sizes := List.drop_eq_nil_iff.mp nothing
    exact encode_length_eq_iff.mp (Nat.le_antisymm sizes (length_le_encode_length body))
  · exfalso
    obtain ⟨r₁, raised, _⟩ := delivers.nextMessage_fails (m3Response_long clean fits rest)
    cases raised.symm.trans returns

end

end Castd.Wfdsink
