import Mathlib.Data.List.Basic

/-!
# UTF-8

Text is a list of characters and data a list of bytes. `encode` is UTF-8, and `decode` is UTF-8
with replacement: what is not UTF-8 becomes U+FFFD, one for each longest part that starts like a
character and is not continued like one.
-/

namespace Castd.Lib

/-- Text. -/
abbrev Str := List Char

/-- Data. -/
abbrev Bytes := List UInt8

/-- UTF-8. -/
def encode (text : Str) : Bytes := text.flatMap String.utf8EncodeChar

/-- The character that stands for what cannot be decoded. -/
def replacement : Char := Char.ofNat 0xFFFD

/-- A character that is started: its bits so far, the bytes it is owed, and the range of the next
one. -/
structure Pending where
  value : Nat
  owed : Nat
  low : UInt8
  high : UInt8
  deriving DecidableEq, Repr

/-- What a byte can start. -/
inductive Start
  | char (c : Char)
  | pending (p : Pending)
  | invalid
  deriving DecidableEq, Repr

/-- What a byte starts between characters. Overlong forms, surrogates and values above U+10FFFF
are ruled out by the range of the second byte. -/
def start (b : UInt8) : Start :=
  if b < 0x80 then .char (Char.ofNat b.toNat)
  else if b < 0xC2 then .invalid
  else if b < 0xE0 then .pending ⟨b.toNat % 32, 1, 0x80, 0xBF⟩
  else if b < 0xF0 then
    .pending ⟨b.toNat % 16, 2, if b = 0xE0 then 0xA0 else 0x80, if b = 0xED then 0x9F else 0xBF⟩
  else if b < 0xF5 then
    .pending ⟨b.toNat % 8, 3, if b = 0xF0 then 0x90 else 0x80, if b = 0xF4 then 0x8F else 0xBF⟩
  else .invalid

/-- A pending character takes a continuation byte. -/
def Pending.next (p : Pending) (b : UInt8) : Start :=
  let value := 64 * p.value + b.toNat % 64
  if p.owed = 1 then .char (Char.ofNat value) else .pending ⟨value, p.owed - 1, 0x80, 0xBF⟩

/-- Decodes from within a character or between two. -/
def decodeFrom : Option Pending → Bytes → Str
  | none, [] => []
  | some _, [] => [replacement]
  | none, b :: bs =>
    match start b with
    | .char c => c :: decodeFrom none bs
    | .pending p => decodeFrom (some p) bs
    | .invalid => replacement :: decodeFrom none bs
  | some p, b :: bs =>
    if p.low ≤ b ∧ b ≤ p.high then
      match p.next b with
      | .char c => c :: decodeFrom none bs
      | .pending p' => decodeFrom (some p') bs
      | .invalid => replacement :: decodeFrom none bs
    else
      -- the character ends here, and the byte starts anew
      match start b with
      | .char c => replacement :: c :: decodeFrom none bs
      | .pending p' => replacement :: decodeFrom (some p') bs
      | .invalid => replacement :: replacement :: decodeFrom none bs

/-- UTF-8 with replacement. -/
def decode (data : Bytes) : Str := decodeFrom none data

/-- Bytes below 128 are characters. -/
theorem decode_ascii {data : Bytes} (ascii : ∀ b ∈ data, b < 0x80) :
    decode data = data.map fun b => Char.ofNat b.toNat := by
  unfold decode
  induction data with
  | nil => rfl
  | cons b bs ih =>
    have here : start b = .char (Char.ofNat b.toNat) := by
      unfold start
      rw [if_pos (ascii b List.mem_cons_self)]
    unfold decodeFrom
    rw [here, List.map_cons, ← ih fun c hc => ascii c (List.mem_cons_of_mem b hc)]

/-- A byte is the number of its character. -/
theorem ofNat_toNat_injective : Function.Injective fun b : UInt8 => Char.ofNat b.toNat := by
  intro b c same
  have number : ∀ b : UInt8, (Char.ofNat b.toNat).toNat = b.toNat := by
    intro b
    have range : b.toNat.isValidChar := .inl (by have := b.toNat_lt; omega)
    rw [Char.ofNat, dif_pos range]
    rfl
  have numbers := congrArg Char.toNat same
  rw [number, number] at numbers
  exact UInt8.toNat_inj.mp numbers

/-- ASCII data decodes piece by piece. -/
theorem decode_append_ascii {s t : Bytes} (ascii : ∀ b ∈ s ++ t, b < 0x80) :
    decode (s ++ t) = decode s ++ decode t := by
  rw [decode_ascii ascii, decode_ascii fun b hb => ascii b (List.mem_append_left t hb),
    decode_ascii fun b hb => ascii b (List.mem_append_right s hb), List.map_append]

private theorem decodeFrom_pending_ne_nil (data : Bytes) :
    ∀ p : Pending, decodeFrom (some p) data ≠ [] := by
  induction data with
  | nil => exact fun _ => List.cons_ne_nil _ _
  | cons b bs ih =>
    intro p
    unfold decodeFrom
    split
    · split
      · exact List.cons_ne_nil _ _
      · exact ih _
      · exact List.cons_ne_nil _ _
    · split <;> exact List.cons_ne_nil _ _

/-- Only no data decodes to no text. -/
theorem decode_eq_nil_iff {data : Bytes} : decode data = [] ↔ data = [] := by
  constructor
  · intro h
    cases data with
    | nil => rfl
    | cons b bs =>
      unfold decode decodeFrom at h
      split at h
      · cases h
      · exact absurd h (decodeFrom_pending_ne_nil bs _)
      · cases h
  · rintro rfl
    rfl

end Castd.Lib
