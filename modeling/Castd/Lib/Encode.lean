import Castd.Lib.Utf8

/-!
# Encoded text

Decoding gives encoded text back (`decode_encode`), with whatever data after it
(`decode_encode_append`). A part of encoded text that decodes to a text ending in an ASCII character
is all of it (`eq_encode_of_prefix`), and text is ASCII when it has as many bytes as characters
(`encode_length_eq_iff`).
-/

namespace Castd.Lib

/-! ## One character -/

/-- Continuation bytes that complete a character. -/
inductive Completes : Pending → Bytes → Char → Prop
  | last {p : Pending} {b : UInt8} {c : Char} (inRange : p.low ≤ b ∧ b ≤ p.high)
    (next : p.next b = .char c) : Completes p [b] c
  | more {p p' : Pending} {b : UInt8} {bs : Bytes} {c : Char} (inRange : p.low ≤ b ∧ b ≤ p.high)
    (next : p.next b = .pending p') (later : Completes p' bs c) : Completes p (b :: bs) c

/-- A byte below 256 in a range. -/
theorem inRange_of_toNat {low high : UInt8} {n : Nat} (above : low.toNat ≤ n)
    (below : n ≤ high.toNat) : low ≤ UInt8.ofNat n ∧ UInt8.ofNat n ≤ high := by
  have byte : n < 256 := Nat.lt_of_le_of_lt below high.toNat_lt
  rw [UInt8.le_iff_toNat_le, UInt8.le_iff_toNat_le, UInt8.toNat_ofNat_of_lt' byte]
  exact ⟨above, below⟩

private theorem Completes.last_of_toNat {c : Char} {value n : Nat} {low high : UInt8}
    (above : low.toNat ≤ n) (below : n ≤ high.toNat) (whole : 64 * value + n % 64 = c.toNat) :
    Completes ⟨value, 1, low, high⟩ [UInt8.ofNat n] c := by
  have byte : n < 256 := Nat.lt_of_le_of_lt below high.toNat_lt
  refine .last (inRange_of_toNat above below) ?_
  simp only [Pending.next, UInt8.toNat_ofNat_of_lt' byte, whole, Char.ofNat_toNat, if_true]

private theorem Completes.more_of_toNat {c : Char} {value owed n : Nat} {low high : UInt8}
    {bs : Bytes}
    (above : low.toNat ≤ n) (below : n ≤ high.toNat)
    (later : Completes ⟨64 * value + n % 64, owed + 1, 0x80, 0xBF⟩ bs c) :
    Completes ⟨value, owed + 2, low, high⟩ (UInt8.ofNat n :: bs) c := by
  have byte : n < 256 := Nat.lt_of_le_of_lt below high.toNat_lt
  refine .more (inRange_of_toNat above below) ?_ later
  simp [Pending.next, UInt8.toNat_ofNat_of_lt' byte]

private theorem start_ofNat {n : Nat} (byte : n < 256) : start (UInt8.ofNat n) =
    if n < 0x80 then .char (Char.ofNat n)
    else if n < 0xC2 then .invalid
    else if n < 0xE0 then .pending ⟨n % 32, 1, 0x80, 0xBF⟩
    else if n < 0xF0 then
      .pending ⟨n % 16, 2, if n = 0xE0 then 0xA0 else 0x80, if n = 0xED then 0x9F else 0xBF⟩
    else if n < 0xF5 then
      .pending ⟨n % 8, 3, if n = 0xF0 then 0x90 else 0x80, if n = 0xF4 then 0x8F else 0xBF⟩
    else .invalid := by
  have value := UInt8.toNat_ofNat_of_lt' byte
  have same : ∀ b : UInt8, UInt8.ofNat n = b ↔ n = b.toNat := by
    intro b
    rw [← UInt8.toNat_inj, value]
  unfold start
  simp only [UInt8.lt_iff_toNat_lt, same, value]
  rfl

/-- What a character is encoded as: one ASCII byte, or a byte that starts it and bytes that
complete it. -/
private theorem utf8EncodeChar_cases (c : Char) :
    (c.toNat < 0x80 ∧ String.utf8EncodeChar c = [UInt8.ofNat c.toNat] ∧
        start (UInt8.ofNat c.toNat) = .char c) ∨
      0x80 ≤ c.toNat ∧ ∃ b p bs, String.utf8EncodeChar c = b :: bs ∧ start b = .pending p ∧
        Completes p bs c := by
  have scalar : c.toNat < 0xD800 ∨ 0xDFFF < c.toNat ∧ c.toNat < 0x110000 := c.valid
  have unfolded : String.utf8EncodeChar c =
      if c.toNat ≤ 0x7F then [UInt8.ofNat c.toNat]
      else if c.toNat ≤ 0x7FF then
        [UInt8.ofNat (c.toNat / 64 % 0x20 + 0xC0), UInt8.ofNat (c.toNat % 0x40 + 0x80)]
      else if c.toNat ≤ 0xFFFF then
        [UInt8.ofNat (c.toNat / 4096 % 0x10 + 0xE0), UInt8.ofNat (c.toNat / 64 % 0x40 + 0x80),
          UInt8.ofNat (c.toNat % 0x40 + 0x80)]
      else
        [UInt8.ofNat (c.toNat / 262144 % 0x08 + 0xF0), UInt8.ofNat (c.toNat / 4096 % 0x40 + 0x80),
          UInt8.ofNat (c.toNat / 64 % 0x40 + 0x80), UInt8.ofNat (c.toNat % 0x40 + 0x80)] := rfl
  have low : (0x80 : UInt8).toNat = 0x80 := rfl
  have high : (0xBF : UInt8).toNat = 0xBF := rfl
  by_cases one : c.toNat ≤ 0x7F
  · left
    refine ⟨Nat.lt_succ_of_le one, by rw [unfolded, if_pos one], ?_⟩
    rw [start_ofNat (by omega), if_pos (Nat.lt_succ_of_le one), Char.ofNat_toNat]
  right
  refine ⟨by omega, ?_⟩
  rw [if_neg one] at unfolded
  by_cases two : c.toNat ≤ 0x7FF
  · rw [if_pos two] at unfolded
    have begins := start_ofNat (n := c.toNat / 64 % 0x20 + 0xC0) (by omega)
    rw [if_neg (by omega), if_neg (by omega), if_pos (by omega)] at begins
    refine ⟨_, _, _, unfolded, begins, ?_⟩
    exact .last_of_toNat (by omega) (by omega) (by omega)
  rw [if_neg two] at unfolded
  by_cases three : c.toNat ≤ 0xFFFF
  · rw [if_pos three] at unfolded
    have begins := start_ofNat (n := c.toNat / 4096 % 0x10 + 0xE0) (by omega)
    rw [if_neg (by omega), if_neg (by omega), if_neg (by omega), if_pos (by omega)] at begins
    refine ⟨_, _, _, unfolded, begins, .more_of_toNat ?_ ?_ ?_⟩
    · -- no overlong form
      split
      · show 0xA0 ≤ _
        omega
      · omega
    · -- no surrogate
      split
      · show _ ≤ 0x9F
        omega
      · omega
    · exact .last_of_toNat (by omega) (by omega) (by omega)
  · rw [if_neg three] at unfolded
    have begins := start_ofNat (n := c.toNat / 262144 % 0x08 + 0xF0) (by omega)
    rw [if_neg (by omega), if_neg (by omega), if_neg (by omega), if_neg (by omega),
      if_pos (by omega)] at begins
    refine ⟨_, _, _, unfolded, begins, .more_of_toNat ?_ ?_ (.more_of_toNat ?_ ?_ ?_)⟩
    · split
      · show 0x90 ≤ _
        omega
      · omega
    · split
      · show _ ≤ 0x8F
        omega
      · omega
    · omega
    · omega
    · exact .last_of_toNat (by omega) (by omega) (by omega)

/-! ## Text -/

/-- The bytes that complete a character give it. -/
theorem Completes.decodeFrom {p : Pending} {bs : Bytes} {c : Char} (h : Completes p bs c)
    (rest : Bytes) : Lib.decodeFrom (some p) (bs ++ rest) = c :: decode rest := by
  induction h with
  | last inRange next =>
    rw [List.singleton_append, Lib.decodeFrom, if_pos inRange, next]
    rfl
  | more inRange next _ ih =>
    rw [List.cons_append, Lib.decodeFrom, if_pos inRange, next]
    exact ih

private theorem Completes.decodeFrom_cut {p : Pending} {bs : Bytes} {c : Char}
    (h : Completes p bs c) :
    ∀ {part rest : Bytes}, part ++ rest = bs → rest ≠ [] →
      Lib.decodeFrom (some p) part = [replacement] := by
  induction h with
  | last inRange next =>
    intro part rest cut more
    cases part with
    | nil => rfl
    | cons b part =>
      rw [List.cons_append] at cut
      have ends := (List.cons.inj cut).2
      exact absurd (List.append_eq_nil_iff.mp ends).2 more
  | more inRange next _ ih =>
    intro part rest cut more
    cases part with
    | nil => rfl
    | cons b part =>
      rw [List.cons_append] at cut
      obtain ⟨rfl, later⟩ := List.cons.inj cut
      rw [Lib.decodeFrom, if_pos inRange, next]
      exact ih later more

theorem encode_cons (c : Char) (text : Str) :
    encode (c :: text) = String.utf8EncodeChar c ++ encode text := rfl

theorem encode_append (s t : Str) : encode (s ++ t) = encode s ++ encode t :=
  List.flatMap_append

private theorem decode_utf8EncodeChar_append (c : Char) (rest : Bytes) :
    decode (String.utf8EncodeChar c ++ rest) = c :: decode rest := by
  rcases utf8EncodeChar_cases c with ascii | longer
  · obtain ⟨_, bytes, begins⟩ := ascii
    rw [bytes, List.singleton_append, decode, decodeFrom, begins]
    rfl
  · obtain ⟨_, b, p, bs, bytes, begins, completes⟩ := longer
    rw [bytes, List.cons_append, decode, decodeFrom, begins]
    exact completes.decodeFrom rest

/-- Encoded text is decoded, whatever follows. -/
theorem decode_encode_append (text : Str) (rest : Bytes) :
    decode (encode text ++ rest) = text ++ decode rest := by
  induction text with
  | nil => rfl
  | cons c text ih =>
    rw [encode_cons, List.append_assoc, decode_utf8EncodeChar_append, ih]
    rfl

/-- Decoding gives encoded text back. -/
theorem decode_encode (text : Str) : decode (encode text) = text := by
  have whole := decode_encode_append text []
  rwa [List.append_nil, show decode [] = [] from rfl, List.append_nil] at whole

theorem encode_injective : Function.Injective encode :=
  Function.LeftInverse.injective decode_encode

/-- A part of encoded text that decodes to a text ending in an ASCII character is all of it. -/
theorem eq_encode_of_prefix {text : Str} : ∀ {part rest : Bytes}, part ++ rest = encode text →
    decode part = text → (∀ c ∈ text.getLast?, c.toNat < 0x80) → rest = [] := by
  induction text with
  | nil =>
    intro part rest cut _ _
    exact (List.append_eq_nil_iff.mp cut).2
  | cons c text ih =>
    intro part rest cut decoded ends
    rw [encode_cons] at cut
    rcases List.append_eq_append_iff.mp cut with within | beyond
    · obtain ⟨more, bytes, rfl⟩ := within
      cases more with
      | nil =>
        rw [List.append_nil] at bytes
        rw [← bytes, ← List.append_nil (String.utf8EncodeChar c),
          decode_utf8EncodeChar_append] at decoded
        obtain rfl : [] = text := (List.cons.inj decoded).2
        rfl
      | cons b' more =>
        -- the part ends within the first character, which is read as a replacement
        exfalso
        cases part with
        | nil => cases decoded
        | cons b part =>
          rcases utf8EncodeChar_cases c with ascii | longer
          · obtain ⟨_, single, _⟩ := ascii
            have sizes := congrArg List.length (bytes.symm.trans single)
            simp at sizes
          · obtain ⟨notAscii, b₁, p, bs, whole, begins, completes⟩ := longer
            obtain ⟨rfl, later⟩ := List.cons.inj (bytes.symm.trans whole)
            rw [decode, decodeFrom, begins] at decoded
            have cutOff := completes.decodeFrom_cut later (List.cons_ne_nil b' more)
            obtain ⟨rfl, rfl⟩ := List.cons.inj (cutOff.symm.trans decoded)
            exact absurd (ends _ rfl) (by decide)
    · obtain ⟨others, rfl, left⟩ := beyond
      rw [decode_utf8EncodeChar_append] at decoded
      apply ih left.symm (List.cons.inj decoded).2
      intro d hd
      apply ends d
      rw [List.getLast?_cons, Option.mem_def.mp hd]
      rfl

/-! ## ASCII -/

private theorem high_of_mem_utf8EncodeChar {c : Char} {b : UInt8} (h : b ∈ String.utf8EncodeChar c)
    (notAscii : 0x80 ≤ c.toNat) : 0x80 ≤ b.toNat := by
  have number : ∀ n, 0x80 ≤ n → n < 256 → 0x80 ≤ (UInt8.ofNat n).toNat := by
    intro n above byte
    rwa [UInt8.toNat_ofNat_of_lt' byte]
  have unfolded : b ∈ (String.utf8EncodeChar c : List UInt8) := h
  rw [String.utf8EncodeChar] at unfolded
  have value : c.val.toNat = c.toNat := rfl
  simp only [value] at unfolded
  split at unfolded
  · omega
  split at unfolded
  · simp only [List.mem_cons, List.not_mem_nil, or_false] at unfolded
    rcases unfolded with rfl | rfl <;> exact number _ (by omega) (by omega)
  split at unfolded
  · simp only [List.mem_cons, List.not_mem_nil, or_false] at unfolded
    rcases unfolded with rfl | rfl | rfl <;> exact number _ (by omega) (by omega)
  · simp only [List.mem_cons, List.not_mem_nil, or_false] at unfolded
    rcases unfolded with rfl | rfl | rfl | rfl <;> exact number _ (by omega) (by omega)

/-- An ASCII byte of encoded text is a character of the text. -/
theorem mem_of_mem_encode {text : Str} {b : UInt8} (h : b ∈ encode text) (ascii : b < 0x80) :
    Char.ofNat b.toNat ∈ text := by
  obtain ⟨c, hc, hb⟩ := List.mem_flatMap.mp h
  rw [UInt8.lt_iff_toNat_lt] at ascii
  have low : c.toNat < 0x80 := by
    by_contra notAscii
    have high := high_of_mem_utf8EncodeChar hb (Nat.le_of_not_lt notAscii)
    exact absurd ascii (Nat.not_lt_of_le high)
  rcases utf8EncodeChar_cases c with single | longer
  · obtain ⟨_, bytes, _⟩ := single
    have byte : c.toNat < 256 := Nat.lt_of_lt_of_le low (by decide)
    rw [bytes, List.mem_singleton] at hb
    rw [hb, UInt8.toNat_ofNat_of_lt' byte, Char.ofNat_toNat]
    exact hc
  · exact absurd low (Nat.not_lt_of_le longer.1)

/-- Text in ASCII. -/
def Ascii (text : Str) : Prop := ∀ c ∈ text, c.toNat < 0x80

instance (text : Str) : Decidable (Ascii text) :=
  List.decidableBAll (p := fun c : Char => c.toNat < 0x80) text

theorem ascii_append_iff {s t : Str} : Ascii (s ++ t) ↔ Ascii s ∧ Ascii t :=
  List.forall_mem_append

/-- ASCII text is encoded one byte for each character. -/
theorem encode_ascii {text : Str} (ascii : Ascii text) :
    encode text = text.map fun c => UInt8.ofNat c.toNat := by
  induction text with
  | nil => rfl
  | cons c text ih =>
    rw [Ascii, List.forall_mem_cons] at ascii
    rcases utf8EncodeChar_cases c with single | longer
    · rw [encode_cons, single.2.1, ih ascii.2]
      rfl
    · exact absurd ascii.1 (Nat.not_lt_of_le longer.1)

/-- The numbers of its bytes are its characters. -/
theorem map_ofNat_encode {text : Str} (ascii : Ascii text) :
    (encode text).map (fun b => Char.ofNat b.toNat) = text := by
  have same : ∀ c ∈ text, Char.ofNat (UInt8.ofNat c.toNat).toNat = id c := by
    intro c hc
    have byte : c.toNat < 256 := Nat.lt_of_lt_of_le (ascii c hc) (by decide)
    rw [UInt8.toNat_ofNat_of_lt' byte, Char.ofNat_toNat]
    rfl
  rw [encode_ascii ascii, List.map_map]
  exact (List.map_congr_left same).trans (List.map_id text)

private theorem utf8EncodeChar_length (c : Char) :
    1 ≤ (String.utf8EncodeChar c).length ∧
      ((String.utf8EncodeChar c).length = 1 ↔ c.toNat < 0x80) := by
  rcases utf8EncodeChar_cases c with ascii | longer
  · obtain ⟨ascii, bytes, _⟩ := ascii
    rw [bytes]
    exact ⟨Nat.le_refl 1, iff_of_true rfl ascii⟩
  · obtain ⟨notAscii, b, p, bs, bytes, _, completes⟩ := longer
    have more : bs ≠ [] := by
      cases completes <;> exact List.cons_ne_nil _ _
    have size := List.length_pos_iff.mpr more
    rw [bytes, List.length_cons]
    omega

/-- Text has as many bytes as characters, or more. -/
theorem length_le_encode_length (text : Str) : text.length ≤ (encode text).length := by
  induction text with
  | nil => exact Nat.le_refl 0
  | cons c text ih =>
    have first := (utf8EncodeChar_length c).1
    rw [encode_cons, List.length_append, List.length_cons]
    omega

/-- Text has as many bytes as characters when it is ASCII. -/
theorem encode_length_eq_iff {text : Str} :
    (encode text).length = text.length ↔ Ascii text := by
  induction text with
  | nil => exact iff_of_true rfl nofun
  | cons c text ih =>
    have first := (utf8EncodeChar_length c).1
    have others := length_le_encode_length text
    rw [Ascii, List.forall_mem_cons, ← (utf8EncodeChar_length c).2, ← Ascii, ← ih, encode_cons,
      List.length_append, List.length_cons]
    omega

end Castd.Lib
