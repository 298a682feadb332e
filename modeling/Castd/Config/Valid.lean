import Castd.Config.Checksum
import Castd.Config.Lines
import Castd.Lib.Encode
import Mathlib.Algebra.Ring.Nat

/-!
# What an accepted configuration is good for

`parse_room_config` promises a valid configuration or a `ConfigError`. `parseRoomConfigRaises` is
the function with every exception that its calls can raise, and `parseRoomConfigRaises_eq` says
that the handlers leave `ConfigError` only. `RoomConfig.Valid` is what the limits stand for, in
bytes and in ASCII digits; the checks count characters and take any decimal digit
(`PassesInCharacters`), and `accepted_valid_iff` says what the difference is.
-/

namespace Castd

open Lib

/-! ## The exceptions -/

/-- What a call can raise. -/
inductive Raised
  | configError (e : ConfigError)
  | valueError
  | indexError
  | keyError (key : Str)
  deriving DecidableEq

/-- `int()`. -/
def intRaises (text : Str) : Except Raised Int :=
  match int text with
  | some n => .ok n
  | none => .error .valueError

/-- `values[key]`. -/
def getItem (values : List (Str × Str)) (key : Str) : Except Raised Str :=
  match values.lookup key with
  | some value => .ok value
  | none => .error (.keyError key)

/-- `is_valid_wps_pin`. -/
def isValidWpsPinRaises (pin : Str) : Except Raised Bool := do
  if !pinRe pin then return false
  let sevenDigits ← intRaises (pin.take 7)
  let checksumDigit ←
    match pin[7]? with
    | some c => intRaises [c]
    | none => throw .indexError
  return (wpsPinChecksum sevenDigits.toNat : Int) == checksumDigit

/-- `parse_room_config` from the values on. -/
def checkValuesRaises (values : List (Str × Str)) : Except Raised RoomConfig := do
  let missing := requiredKeys.filter fun key => (values.lookup key).isNone
  if !missing.isEmpty then throw (.configError (.missingKeys missing))
  let roomName ← getItem values "room_name".toList
  if roomName.isEmpty || 32 < roomName.length then throw (.configError .roomName)
  let wpsPin ← getItem values "wps_pin".toList
  if !pinRe wpsPin then throw (.configError (.wpsPinDigits wpsPin))
  let validPin ← isValidWpsPinRaises wpsPin
  if !validPin then
    let sevenDigits ← intRaises (wpsPin.take 7)
    throw (.configError (.wpsPinChecksum wpsPin (wpsPinChecksum sevenDigits.toNat)))
  let passphrase ← getItem values "passphrase".toList
  if !(8 ≤ passphrase.length && passphrase.length ≤ 63) then throw (.configError .passphrase)
  let channel ← getItem values "channel".toList
  match intRaises channel with
  | .error .valueError => throw (.configError (.channelInteger channel))
  | .error e => throw e
  | .ok number =>
    if (allowedChannels.lookup number).isNone then throw (.configError .channelAllowed)
    return { roomName := roomName, wpsPin := wpsPin, passphrase := passphrase, channel := number }

/-- `parse_room_config`. -/
def parseRoomConfigRaises (text : Str) : Except Raised RoomConfig := do
  let values ← (parseLines 1 (splitlines text) []).mapError .configError
  checkValuesRaises values

/-! ## The PIN -/

private theorem integerDigits_digits {digits : Str} (all : ∀ c ∈ digits, isDigit c = true)
    (afterDigit : Bool) (some_digit : afterDigit = true ∨ digits ≠ []) :
    integerDigits afterDigit digits = some digits := by
  induction digits generalizing afterDigit with
  | nil =>
    rw [integerDigits, if_pos (some_digit.resolve_right (not_not_intro rfl))]
  | cons c digits ih =>
    rw [List.forall_mem_cons] at all
    rw [integerDigits, if_pos all.1, ih all.2 true (.inl rfl), Option.map_some]

private theorem int_digits {digits : Str} (all : ∀ c ∈ digits, isDigit c = true)
    (nonempty : digits ≠ [])
    (short : digits.length ≤ maxStrDigits) : int digits = some (ofDigits digits : Int) := by
  have value : ((integerDigits false digits).bind intOfDigits).map (fun n => (n : Int)) =
      some (ofDigits digits : Int) := by
    rw [integerDigits_digits all false (.inr nonempty), Option.bind_some, intOfDigits,
      if_pos short]
    rfl
  cases digits with
  | nil => exact absurd rfl nonempty
  | cons c digits =>
    have digit := all c List.mem_cons_self
    unfold int
    split
    next h =>
      cases h
      exact absurd digit (by decide)
    next h =>
      cases h
      exact absurd digit (by decide)
    next => exact value

private theorem exists_of_pinRe {pin : Str} (matched : pinRe pin = true) :
    ∃ seven c rest, pin = seven ++ c :: rest ∧ seven.length = 7 ∧
      (∀ d ∈ seven, isDigit d = true) ∧ isDigit c = true := by
  obtain ⟨digits, eight, all, either⟩ := pinRe_iff.mp matched
  obtain ⟨seven, c, rfl⟩ := List.eq_nil_or_concat digits |>.resolve_left
    (fun none => by rw [none] at eight; cases eight)
  rw [List.concat_eq_append] at all either eight
  rw [List.forall_mem_append, List.forall_mem_singleton] at all
  rw [List.length_append, List.length_singleton, Nat.succ_inj] at eight
  rcases either with rfl | rfl
  · exact ⟨seven, c, [], rfl, eight, all.1, all.2⟩
  · exact ⟨seven, c, ['\n'], List.append_assoc _ _ _, eight, all.1, all.2⟩

private theorem intRaises_take_seven {pin : Str} (matched : pinRe pin = true) :
    intRaises (pin.take 7) = .ok (ofDigits (pin.take 7) : Int) := by
  obtain ⟨seven, c, rest, rfl, length, digits, -⟩ := exists_of_pinRe matched
  rw [List.take_left' length, intRaises,
    int_digits digits (List.ne_nil_of_length_eq_add_one length) (length ▸ by decide)]

private theorem isValidWpsPinRaises_eq (pin : Str) :
    isValidWpsPinRaises pin = .ok (isValidWpsPin pin) := by
  unfold isValidWpsPinRaises isValidWpsPin
  cases matched : pinRe pin with
  | false => rfl
  | true =>
    rw [intRaises_take_seven matched]
    obtain ⟨seven, c, rest, rfl, length, -, digit⟩ := exists_of_pinRe matched
    have eighth : (seven ++ c :: rest)[7]? = some c := by
      rw [List.getElem?_append_right (Nat.le_of_eq length), length]
      rfl
    have one : ((seven ++ c :: rest).drop 7).take 1 = [c] := by
      rw [List.drop_left' length]
      rfl
    have oneRead : intRaises [c] = .ok (ofDigits [c] : Int) := by
      rw [intRaises, int_digits (List.forall_mem_singleton.mpr digit) (List.cons_ne_nil c [])
        (show 1 ≤ maxStrDigits by decide)]
    simp only [eighth, one, oneRead]
    refine congrArg Except.ok (Bool.eq_iff_iff.mpr ?_)
    rw [Int.toNat_natCast, beq_iff_eq, Int.natCast_inj, Bool.true_and, beq_iff_eq]

/-! ## Every exception is handled -/

private theorem ok_bind {α β : Type} (a : α) (k : α → Except Raised β) :
    (Except.ok a >>= k) = k a := rfl

private theorem checkValuesRaises_eq {values : List (Str × Str)}
    {roomName wpsPin passphrase channel : Str}
    (hname : values.lookup "room_name".toList = some roomName)
    (hpin : values.lookup "wps_pin".toList = some wpsPin)
    (hpass : values.lookup "passphrase".toList = some passphrase)
    (hchannel : values.lookup "channel".toList = some channel) :
    checkValuesRaises values =
      (checkValues roomName wpsPin passphrase channel).mapError .configError := by
  have missing : (requiredKeys.filter fun key => (values.lookup key).isNone) = [] := by
    rw [List.filter_eq_nil_iff]
    unfold requiredKeys
    simp only [List.forall_mem_cons, hname, hpin, hpass, hchannel]
    exact ⟨Bool.false_ne_true, Bool.false_ne_true, Bool.false_ne_true, Bool.false_ne_true,
      List.forall_mem_nil _⟩
  unfold checkValuesRaises checkValues getItem
  simp only [missing, hname, hpin, hpass, hchannel, isValidWpsPinRaises_eq, ok_bind,
    List.isEmpty_nil, Bool.not_true, Bool.false_eq_true, if_false]
  cases (roomName.isEmpty || decide (32 < roomName.length)) with
  | true => rfl
  | false =>
  cases matched : pinRe wpsPin with
  | false => rfl
  | true =>
  cases isValidWpsPin wpsPin with
  | false =>
    rw [intRaises_take_seven matched]
    rfl
  | true =>
  cases (decide (8 ≤ passphrase.length) && decide (passphrase.length ≤ 63)) with
  | false => rfl
  | true =>
    unfold intRaises
    cases int channel with
    | none => rfl
    | some n =>
      dsimp only
      cases (allowedChannels.lookup n).isNone with
      | true => rfl
      | false => rfl

private theorem checkValuesRaises_missing {values : List (Str × Str)} {key : Str}
    (required : key ∈ requiredKeys) (missing : values.lookup key = none) :
    checkValuesRaises values = .error (.configError
      (.missingKeys (requiredKeys.filter fun key => (values.lookup key).isNone))) := by
  unfold checkValuesRaises
  have some_missing : (requiredKeys.filter fun key => (values.lookup key).isNone) ≠ [] :=
    List.ne_nil_of_mem (List.mem_filter.mpr ⟨required, by rw [missing]; rfl⟩)
  rw [← List.isEmpty_eq_false_iff] at some_missing
  simp only [some_missing]
  rfl

/-- `ConfigError` is the only exception. -/
theorem parseRoomConfigRaises_eq (text : Str) :
    parseRoomConfigRaises text = (parseRoomConfig text).mapError .configError := by
  unfold parseRoomConfigRaises parseRoomConfig
  cases parseLines 1 (splitlines text) [] with
  | error e => rfl
  | ok values =>
    dsimp only [Bind.bind, Except.bind, Except.mapError]
    cases hname : values.lookup "room_name".toList with
    | none => rw [checkValuesRaises_missing (by decide) hname]; rfl
    | some roomName =>
    cases hpin : values.lookup "wps_pin".toList with
    | none => rw [checkValuesRaises_missing (by decide) hpin]; rfl
    | some wpsPin =>
    cases hpass : values.lookup "passphrase".toList with
    | none => rw [checkValuesRaises_missing (by decide) hpass]; rfl
    | some passphrase =>
    cases hchannel : values.lookup "channel".toList with
    | none => rw [checkValuesRaises_missing (by decide) hchannel]; rfl
    | some channel => exact checkValuesRaises_eq hname hpin hpass hchannel

/-! ## What a valid configuration is -/

/-- The sum that the WSC checksum makes a multiple of ten. -/
def wscSum (pin : Str) : Nat :=
  (List.zipWith (fun weight c => weight * (c.toNat - '0'.toNat)) [3, 1, 3, 1, 3, 1, 3, 1] pin).sum

/-- The limits of a P2P device name and of a WPA2 passphrase are in bytes, and a PIN has eight
ASCII digits. -/
structure RoomConfig.Valid (config : RoomConfig) : Prop where
  roomName : 1 ≤ (encode config.roomName).length ∧ (encode config.roomName).length ≤ 32
  wpsPin : config.wpsPin.length = 8 ∧ (∀ c ∈ config.wpsPin, c.isDigit = true) ∧
    wscSum config.wpsPin % 10 = 0
  passphrase : 8 ≤ (encode config.passphrase).length ∧ (encode config.passphrase).length ≤ 63
  channel : config.channel ∈ allowedChannels.map Prod.fst ∧ config.freqMhz.isSome = true

/-- `parse_room_config` raises `ConfigError` or returns a valid configuration. -/
def AcceptedIsValid (text : Str) : Prop :=
  (∃ e, parseRoomConfigRaises text = .error (.configError e)) ∨
    ∃ config, parseRoomConfigRaises text = .ok config ∧ config.Valid

/-- The checks that are made on a text, which count characters and take any decimal digit. Where the
values end up, in a beacon and in a WPA2 key, it is bytes that count. -/
structure PassesInCharacters (text roomName wpsPin passphrase : Str) : Prop where
  lines : ∀ line ∈ splitlines text, Parses line
  name : lastValue text "room_name".toList = some roomName
  pin : lastValue text "wps_pin".toList = some wpsPin
  pass : lastValue text "passphrase".toList = some passphrase
  checked : ∃ channel, (lastValue text "channel".toList).bind int = some channel ∧
    RoomConfig.Checked ⟨roomName, wpsPin, passphrase, channel⟩

/-- What the checks leave out: the names and the passphrase fit in as many bytes as they may have
characters, and the PIN is in ASCII digits. -/
structure FitsInBytes (roomName wpsPin passphrase : Str) : Prop where
  roomName : (encode roomName).length ≤ 32
  wpsPin : ∀ c ∈ wpsPin, c.isDigit = true
  passphrase : (encode passphrase).length ≤ 63

private theorem wscSum_eq {pin : Str} (ascii : ∀ c ∈ pin, c.isDigit = true) :
    wscSum pin = weightedSum pinWeights (pinValues pin) := by
  rw [wscSum, ← pinWeights]
  generalize pinWeights = weights
  induction weights generalizing pin with
  | nil => rfl
  | cons weight weights ih =>
    cases pin with
    | nil => rfl
    | cons c pin =>
      rw [List.forall_mem_cons] at ascii
      have value : pinValues (c :: pin) = (c.toNat - '0'.toNat) :: pinValues pin := by
        rw [pinValues, List.map_cons, digitValue_of_isDigit ascii.1]
        rfl
      rw [List.zipWith_cons_cons, List.sum_cons, ih ascii.2, value, weightedSum]

private theorem wscSum_of_isValidWpsPin {pin : Str} (valid : isValidWpsPin pin = true)
    (ascii : ∀ c ∈ pin, c.isDigit = true) : pin.length = 8 ∧ wscSum pin % 10 = 0 := by
  obtain ⟨matched, -⟩ := Bool.and_eq_true_iff.mp valid
  have eight : pin.length = 8 := by
    obtain ⟨digits, eight, -, rfl | rfl⟩ := pinRe_iff.mp matched
    · exact eight
    · exact absurd (ascii '\n' List.mem_concat_self) (by decide)
  refine ⟨eight, ?_⟩
  rw [wscSum_eq ascii, ← isValidWpsPin_iff eight ((pinRe_iff_of_length eight).mp matched)]
  exact valid

/-! ## Accepted configurations -/

private theorem passesInCharacters_iff {text roomName wpsPin passphrase : Str} :
    PassesInCharacters text roomName wpsPin passphrase ↔
      ∃ channel, parseRoomConfig text = .ok ⟨roomName, wpsPin, passphrase, channel⟩ := by
  simp only [parseRoomConfig_eq_ok_iff]
  constructor
  · rintro ⟨lines, name, pin, pass, channel, number, checked⟩
    exact ⟨channel, lines, checked, name, pin, pass, number⟩
  · rintro ⟨channel, lines, checked, name, pin, pass, number⟩
    exact ⟨lines, name, pin, pass, channel, number, checked⟩

private theorem RoomConfig.Checked.valid_iff {config : RoomConfig} (checked : config.Checked) :
    config.Valid ↔ FitsInBytes config.roomName config.wpsPin config.passphrase := by
  constructor
  · exact fun valid => ⟨valid.roomName.2, valid.wpsPin.2.1, valid.passphrase.2⟩
  · intro fits
    obtain ⟨eight, sum⟩ := wscSum_of_isValidWpsPin checked.wpsPin fits.wpsPin
    refine ⟨⟨?_, fits.roomName⟩, ⟨eight, fits.wpsPin, sum⟩, ⟨?_, fits.passphrase⟩, ?_,
      checked.channel⟩
    · exact checked.roomName.1.trans (length_le_encode_length _)
    · exact checked.passphrase.1.trans (length_le_encode_length _)
    · obtain ⟨entry, listed, same⟩ := List.lookup_isSome_iff.mp checked.channel
      exact List.mem_map.mpr ⟨entry, listed, (beq_iff_eq.mp same).symm⟩

/-- A text gives a valid configuration or a `ConfigError` exactly if its values, once they pass the
checks, fit in bytes: a device name in 32, a passphrase in 63, and a PIN in ASCII digits. -/
theorem accepted_valid_iff (text : Str) :
    AcceptedIsValid text ↔ ∀ roomName wpsPin passphrase,
      PassesInCharacters text roomName wpsPin passphrase →
        FitsInBytes roomName wpsPin passphrase := by
  simp only [passesInCharacters_iff]
  unfold AcceptedIsValid
  rw [parseRoomConfigRaises_eq]
  cases accepted : parseRoomConfig text with
  | error e =>
    refine iff_of_true (.inl ⟨e, rfl⟩) ?_
    rintro _ _ _ ⟨_, h⟩
    cases h
  | ok config =>
    have valid := (parseRoomConfig_checked accepted).valid_iff
    constructor
    · rintro (⟨e, h⟩ | ⟨_, h, isValid⟩)
      · cases h
      · cases h
        rintro _ _ _ ⟨_, same⟩
        cases same
        exact valid.mp isValid
    · intro fits
      exact .inr ⟨config, rfl, valid.mpr (fits _ _ _ ⟨config.channel, rfl⟩)⟩

/-- A room name of 17 umlauts, which is 34 bytes long. -/
def umlauts : Str := List.replicate 17 'ü'

/-- A room name that is too long for a device name is accepted. -/
theorem umlauts_accepted :
    ¬AcceptedIsValid ("room_name=".toList ++ umlauts ++
      "\nwps_pin=12345670\npassphrase=abcdefgh\nchannel=36\n".toList) := by
  have accepted : parseRoomConfigRaises ("room_name=".toList ++ umlauts ++
      "\nwps_pin=12345670\npassphrase=abcdefgh\nchannel=36\n".toList) =
      .ok ⟨umlauts, "12345670".toList, "abcdefgh".toList, 36⟩ := by
    repeat rw [String.toList_ofList]
    decide +kernel
  rintro (⟨e, h⟩ | ⟨config, h, valid⟩)
  · rw [accepted] at h
    cases h
  · rw [accepted] at h
    cases h
    exact absurd valid.roomName.2 (by decide +kernel)

end Castd
