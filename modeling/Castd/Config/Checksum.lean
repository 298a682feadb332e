import Castd.Config
import Castd.Lib.Codes

/-!
# The checksum of a PIN

A PIN is valid when the sum of its digits, weighted 3 and 1 in turn, is a multiple of ten
(`isValidWpsPin_iff`). Both weights are prime to ten, so a change of one digit is noticed
(`isValidWpsPin_set`) and seven digits have one check digit. `wpsPinChecksumLoop` is the checksum
as it is written elsewhere, a loop over the digits from the last one on.
-/

namespace Castd

open Lib

/-- The weights of the digits, the check digit included. -/
def pinWeights : List Nat := [3, 1, 3, 1, 3, 1, 3, 1]

/-- The values of the digits of a PIN. -/
def pinValues (pin : Str) : List Nat := pin.map fun c => (digitValue c).getD 0

/-! ## What is matched -/

/-- What `_PIN_RE` matches: eight digits, with a line feed after them or not. -/
theorem pinRe_iff {pin : Str} :
    pinRe pin = true ↔ ∃ digits : Str, digits.length = 8 ∧ (∀ c ∈ digits, isDigit c = true) ∧
      (pin = digits ∨ pin = digits ++ ['\n']) := by
  have run : ∀ digits : Str, (digits.length == 8 && digits.all isDigit) = true ↔
      digits.length = 8 ∧ ∀ c ∈ digits, isDigit c = true := fun digits => by
    rw [Bool.and_eq_true, beq_iff_eq, List.all_eq_true]
  unfold pinRe
  by_cases lineFeed : pin.getLast? = some '\n'
  · obtain ⟨digits, rfl⟩ := List.getLast?_eq_some_iff.mp lineFeed
    rw [if_pos lineFeed, List.dropLast_concat, run]
    constructor
    · exact fun ⟨eight, all⟩ => ⟨digits, eight, all, .inr rfl⟩
    · rintro ⟨digits', eight, all, same | same⟩
      · have digit := all '\n' (same ▸ List.mem_concat_self)
        exact absurd digit (by decide)
      · obtain rfl := List.append_cancel_right same
        exact ⟨eight, all⟩
  · rw [if_neg lineFeed, run]
    constructor
    · exact fun ⟨eight, all⟩ => ⟨pin, eight, all, .inl rfl⟩
    · rintro ⟨digits, eight, all, rfl | rfl⟩
      · exact ⟨eight, all⟩
      · exact absurd List.getLast?_concat lineFeed

/-- Of eight characters `_PIN_RE` matches the digits. -/
theorem pinRe_iff_of_length {pin : Str} (eight : pin.length = 8) :
    pinRe pin = true ↔ ∀ c ∈ pin, isDigit c = true := by
  rw [pinRe_iff]
  constructor
  · rintro ⟨digits, eight', all, rfl | rfl⟩
    · exact all
    · rw [List.length_append, eight'] at eight
      cases eight
  · exact fun all => ⟨pin, eight, all, .inl rfl⟩

/-! ## Digits -/

private theorem toNat_of_isDigit {c : Char} (digit : c.isDigit = true) :
    48 ≤ c.toNat ∧ c.toNat ≤ 57 := by
  simp only [Char.isDigit, Bool.and_eq_true, decide_eq_true_eq, ge_iff_le,
    UInt32.le_iff_toNat_le] at digit
  exact digit

theorem digitValue_of_isDigit {c : Char} (digit : c.isDigit = true) :
    digitValue c = some (c.toNat - 48) := if_pos (toNat_of_isDigit digit)

private theorem isDigit_of_ascii {c : Char} (digit : c.isDigit = true) : isDigit c = true := by
  rw [isDigit, digitValue_of_isDigit digit]
  rfl

private theorem eq_of_digitValue_eq {c d : Char} (hc : c.isDigit = true) (hd : d.isDigit = true)
    (same : digitValue d = digitValue c) : d = c := by
  have boundsC := toNat_of_isDigit hc
  have boundsD := toNat_of_isDigit hd
  rw [digitValue_of_isDigit hc, digitValue_of_isDigit hd, Option.some_inj] at same
  exact Char.toNat_inj.mp (by omega)

private theorem exists_ascii_digit {value : Nat} (small : value < 10) :
    ∃ c : Char, c.isDigit = true ∧ digitValue c = some value := by
  have all : ∀ v < 10,
      (Nat.digitChar v).isDigit = true ∧ digitValue (Nat.digitChar v) = some v := by
    decide
  exact ⟨_, all value small⟩

private theorem exists_digitValue {c : Char} (digit : isDigit c = true) :
    ∃ value < 10, digitValue c = some value := by
  obtain ⟨value, h⟩ := Option.isSome_iff_exists.mp digit
  refine ⟨value, ?_, h⟩
  unfold digitValue at h
  dsimp only at h
  split at h
  next ascii =>
    cases h
    omega
  next =>
    split at h
    next => cases h
    next =>
      obtain ⟨first, found, rfl⟩ := Option.map_eq_some_iff.mp h
      have inScript := List.find?_some found
      rw [Bool.and_eq_true, decide_eq_true_eq, decide_eq_true_eq] at inScript
      omega

/-! ## The sum -/

private theorem wpsPinChecksum_digits {a b c d e f g : Nat} (ha : a < 10) (hb : b < 10)
    (hc : c < 10)
    (hd : d < 10) (he : e < 10) (hf : f < 10) (hg : g < 10) :
    wpsPinChecksum
        (10 * (10 * (10 * (10 * (10 * (10 * (10 * 0 + a) + b) + c) + d) + e) + f) + g) =
      (10 - (3 * a + b + 3 * c + d + 3 * e + f + 3 * g) % 10) % 10 := by
  generalize number :
    10 * (10 * (10 * (10 * (10 * (10 * (10 * 0 + a) + b) + c) + d) + e) + f) + g = n
  have first : n / 1000000 % 10 = a := by omega
  have second : n / 100000 % 10 = b := by omega
  have third : n / 10000 % 10 = c := by omega
  have fourth : n / 1000 % 10 = d := by omega
  have fifth : n / 100 % 10 = e := by omega
  have sixth : n / 10 % 10 = f := by omega
  have seventh : n % 10 = g := by omega
  simp only [wpsPinChecksum, first, second, third, fourth, fifth, sixth, seventh, Nat.one_mul]

/-- Eight digits are a valid PIN when their weighted sum is a multiple of ten. -/
theorem isValidWpsPin_iff {pin : Str} (eight : pin.length = 8)
    (digits : ∀ c ∈ pin, isDigit c = true) :
    isValidWpsPin pin = true ↔ weightedSum pinWeights (pinValues pin) % 10 = 0 := by
  rw [isValidWpsPin, (pinRe_iff_of_length eight).mpr digits, Bool.true_and, beq_iff_eq]
  rcases pin with _ | ⟨a, _ | ⟨b, _ | ⟨c, _ | ⟨d, _ | ⟨e, _ | ⟨f, _ | ⟨g, _ | ⟨h, _ |
    ⟨i, rest⟩⟩⟩⟩⟩⟩⟩⟩⟩
  case cons.cons.cons.cons.cons.cons.cons.cons.nil =>
    simp only [List.forall_mem_cons] at digits
    obtain ⟨ha, hb, hc, hd, he, hf, hg, hh, -⟩ := digits
    obtain ⟨a', ba, va⟩ := exists_digitValue ha
    obtain ⟨b', bb, vb⟩ := exists_digitValue hb
    obtain ⟨c', bc, vc⟩ := exists_digitValue hc
    obtain ⟨d', bd, vd⟩ := exists_digitValue hd
    obtain ⟨e', be, ve⟩ := exists_digitValue he
    obtain ⟨f', bf, vf⟩ := exists_digitValue hf
    obtain ⟨g', bg, vg⟩ := exists_digitValue hg
    obtain ⟨h', bh, vh⟩ := exists_digitValue hh
    simp only [List.take, List.drop, ofDigits, List.foldl, pinValues, List.map, va, vb, vc, vd, ve,
      vf, vg, vh, Option.getD_some, wpsPinChecksum_digits ba bb bc bd be bf bg, pinWeights,
      weightedSum]
    omega
  all_goals cases eight

private theorem pinValues_set {pin : Str} {i value : Nat} {d : Char}
    (h : digitValue d = some value) :
    pinValues (pin.set i d) = (pinValues pin).set i value := by
  rw [pinValues, pinValues, List.map_set, h, Option.getD_some]

private theorem exists_weight {i : Nat} (hi : i < 8) :
    ∃ weight, pinWeights[i]? = some weight ∧ Nat.Coprime 10 weight := by
  have all : ∀ weight ∈ pinWeights, Nat.Coprime 10 weight := by decide
  have inside : i < pinWeights.length := hi
  exact ⟨_, List.getElem?_eq_getElem inside, all _ (List.getElem_mem inside)⟩

/-- A PIN with one digit changed is not valid, unless to a digit of the same value. -/
theorem isValidWpsPin_set {pin : Str} (eight : pin.length = 8)
    (digits : ∀ c ∈ pin, isDigit c = true) (valid : isValidWpsPin pin = true) {i : Nat}
    {c d : Char} (old : pin[i]? = some c) (differ : digitValue d ≠ digitValue c) :
    isValidWpsPin (pin.set i d) = false := by
  obtain ⟨hi, rfl⟩ := List.getElem?_eq_some_iff.mp old
  have eight' : (pin.set i d).length = 8 := by rw [List.length_set, eight]
  have written : d ∈ pin.set i d := List.mem_set hi d
  have digits' : isDigit d = true → ∀ c ∈ pin.set i d, isDigit c = true := by
    intro digit c hc
    rcases List.mem_or_eq_of_mem_set hc with old | rfl
    · exact digits c old
    · exact digit
  by_contra valid'
  rw [Bool.not_eq_false] at valid'
  have digit : isDigit d = true :=
    (pinRe_iff_of_length eight').mp (Bool.and_eq_true_iff.mp valid').1 d written
  obtain ⟨value, small, hvalue⟩ := exists_digitValue digit
  obtain ⟨value', small', hvalue'⟩ := exists_digitValue (digits _ (List.getElem_mem hi))
  have sums : weightedSum pinWeights ((pinValues pin).set i value) ≡
      weightedSum pinWeights (pinValues pin) [MOD 10] := by
    rw [← pinValues_set hvalue, Nat.ModEq, (isValidWpsPin_iff eight' (digits' digit)).mp valid',
      (isValidWpsPin_iff eight digits).mp valid]
  have oldValue : (pinValues pin)[i]? = some value' := by
    rw [pinValues, List.getElem?_map, old, Option.map_some, hvalue', Option.getD_some]
  obtain ⟨weight, hweight, coprime⟩ := exists_weight (Nat.lt_of_lt_of_eq hi eight)
  have same := ((weightedSum_set coprime hweight oldValue value).mp sums).eq_of_lt_of_lt small
    small'
  rw [hvalue, hvalue', same] at differ
  exact differ rfl

private theorem existsUnique_checkDigit {seven : Str} (length : seven.length = 7)
    (digits : ∀ c ∈ seven, isDigit c = true) :
    ∃! c : Char, c.isDigit = true ∧ isValidWpsPin (seven ++ [c]) = true := by
  have passes : ∀ {c : Char} {value : Nat}, c.isDigit = true → digitValue c = some value →
      (isValidWpsPin (seven ++ [c]) = true ↔
        (weightedSum [3, 1, 3, 1, 3, 1, 3] (pinValues seven) + 1 * value) % 10 = 0) := by
    intro c value digit hvalue
    have eight : (seven ++ [c]).length = 8 := by rw [List.length_append, length]; rfl
    have all : ∀ d ∈ seven ++ [c], isDigit d = true :=
      List.forall_mem_append.mpr ⟨digits, List.forall_mem_singleton.mpr (isDigit_of_ascii digit)⟩
    have values : pinValues (seven ++ [c]) = pinValues seven ++ [value] := by
      rw [pinValues, List.map_append, List.map_singleton, hvalue]
      rfl
    have short : [3, 1, 3, 1, 3, 1, 3].length = (pinValues seven).length := by
      rw [pinValues, List.length_map, length]
      rfl
    rw [isValidWpsPin_iff eight all, values,
      show pinWeights = [3, 1, 3, 1, 3, 1, 3] ++ [1] from rfl, weightedSum_append short]
    rfl
  obtain ⟨value, ⟨small, sum⟩, unique⟩ := existsUnique_passes (Nat.succ_pos 9)
    (Nat.coprime_one_right 10) (weightedSum [3, 1, 3, 1, 3, 1, 3] (pinValues seven))
  obtain ⟨c, digit, hvalue⟩ := exists_ascii_digit small
  refine ⟨c, ⟨digit, (passes digit hvalue).mpr sum⟩, ?_⟩
  rintro d ⟨digit', valid⟩
  obtain ⟨value', small', hvalue'⟩ := exists_digitValue (isDigit_of_ascii digit')
  have same := unique value' ⟨small', (passes digit' hvalue').mp valid⟩
  exact eq_of_digitValue_eq digit digit' (by rw [hvalue, hvalue', same])

/-! ## The loop -/

/-- `while pin: accum += 3 * (pin % 10); pin //= 10; accum += pin % 10; pin //= 10`. -/
def checksumLoop (pin accum : Nat) : Nat :=
  if pin = 0 then accum
  else checksumLoop (pin / 10 / 10) (accum + 3 * (pin % 10) + pin / 10 % 10)
termination_by pin
decreasing_by omega

/-- The checksum of the last seven digits of a number, by the loop. -/
def wpsPinChecksumLoop (n : Nat) : Nat := (10 - checksumLoop (n % 10000000) 0 % 10) % 10

private theorem checksumLoop_zero (accum : Nat) : checksumLoop 0 accum = accum := by
  rw [checksumLoop, if_pos rfl]

private theorem checksumLoop_round (pin accum : Nat) :
    checksumLoop pin accum =
      checksumLoop (pin / 10 / 10) (accum + 3 * (pin % 10) + pin / 10 % 10) := by
  by_cases none : pin = 0
  · subst none
    rfl
  · conv_lhs => rw [checksumLoop, if_neg none]

private theorem checksumLoop_eq {pin : Nat} (short : pin < 100000000) :
    checksumLoop pin 0 =
      3 * (pin % 10) + pin / 10 % 10 + 3 * (pin / 100 % 10) + pin / 1000 % 10 +
        3 * (pin / 10000 % 10) + pin / 100000 % 10 + 3 * (pin / 1000000 % 10) +
        pin / 10000000 % 10 := by
  have done : pin / 10 / 10 / 10 / 10 / 10 / 10 / 10 / 10 = 0 := by omega
  rw [checksumLoop_round, checksumLoop_round, checksumLoop_round, checksumLoop_round, done,
    checksumLoop_zero]
  simp only [Nat.div_div_eq_div_mul, Nat.zero_add]

private theorem wpsPinChecksum_eq_loop (n : Nat) : wpsPinChecksum n = wpsPinChecksumLoop n := by
  have first : n % 10000000 / 1000000 % 10 = n / 1000000 % 10 := by omega
  have second : n % 10000000 / 100000 % 10 = n / 100000 % 10 := by omega
  have third : n % 10000000 / 10000 % 10 = n / 10000 % 10 := by omega
  have fourth : n % 10000000 / 1000 % 10 = n / 1000 % 10 := by omega
  have fifth : n % 10000000 / 100 % 10 = n / 100 % 10 := by omega
  have sixth : n % 10000000 / 10 % 10 = n / 10 % 10 := by omega
  have seventh : n % 10000000 % 10 = n % 10 := by omega
  have eighth : n % 10000000 / 10000000 % 10 = 0 := by omega
  rw [wpsPinChecksumLoop, checksumLoop_eq (by omega), wpsPinChecksum, first, second, third, fourth,
    fifth, sixth, seventh, eighth]
  omega

/-- A PIN that is typed with one wrong digit is not valid, seven digits have one check digit, and
the checksum is the one that the loop computes. The weights are three and one in turn, and both are
prime to ten. -/
theorem wpsPin_check :
    (∀ pin : Str, pin.length = 8 → (∀ c ∈ pin, c.isDigit = true) → isValidWpsPin pin = true →
      ∀ (i : Nat) (c d : Char), pin[i]? = some c → d.isDigit = true → d ≠ c →
        isValidWpsPin (pin.set i d) = false) ∧
    (∀ seven : Str, seven.length = 7 → (∀ c ∈ seven, c.isDigit = true) →
      ∃! c : Char, c.isDigit = true ∧ isValidWpsPin (seven ++ [c]) = true) ∧
    ∀ n : Nat, wpsPinChecksum n = wpsPinChecksumLoop n := by
  refine ⟨?_, ?_, wpsPinChecksum_eq_loop⟩
  · intro pin eight ascii valid i c d old digit other
    have hc : c.isDigit = true := ascii c (List.mem_of_getElem? old)
    refine isValidWpsPin_set eight (fun c hc => isDigit_of_ascii (ascii c hc)) valid old ?_
    exact fun same => other (eq_of_digitValue_eq hc digit same)
  · exact fun seven length ascii =>
      existsUnique_checkDigit length fun c hc => isDigit_of_ascii (ascii c hc)

/-- A PIN that begins with zeros, with its third digit typed wrong. -/
theorem wpsPin_check_zeros :
    isValidWpsPin "00100007".toList = true ∧ isValidWpsPin "00200007".toList = false ∧
      ∃! c : Char, c.isDigit = true ∧ isValidWpsPin ("0010000".toList ++ [c]) = true := by
  have valid : isValidWpsPin "00100007".toList = true := by decide +kernel
  refine ⟨valid, ?_, wpsPin_check.2.1 _ (by decide) (List.all_eq_true.mp (by decide))⟩
  exact wpsPin_check.1 _ (by decide) (List.all_eq_true.mp (by decide)) valid 2 '1' '2' (by decide)
    (by decide) (by decide)

end Castd
