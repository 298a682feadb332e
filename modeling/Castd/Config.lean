import Castd.Lib.CharClass
import Mathlib.Data.List.DropRight

/-!
# The room configuration

`castd/config.py`: the text of `receiver.conf` and the configuration it parses to. The dictionary of
values is a list of keys with what they were set to, the latest first.
-/

namespace Castd

open Lib

/-- `ALLOWED_CHANNELS`, with the frequency in MHz. -/
def allowedChannels : List (Int × Nat) := [(36, 5180), (40, 5200), (44, 5220), (48, 5240)]

/-- `ConfigError`, one constructor for each text. -/
inductive ConfigError
  | cannotParse (lineno : Nat) (rawLine : Str)
  | missingKeys (missing : List Str)
  | roomName
  | wpsPinDigits (wpsPin : Str)
  /-- The PIN, and the digit that its first seven ask for. -/
  | wpsPinChecksum (wpsPin : Str) (correctChecksum : Nat)
  | passphrase
  | channelInteger (channel : Str)
  | channelAllowed
  deriving DecidableEq

/-- The text of an error. -/
def ConfigError.text (repr : Str → Str) : ConfigError → Str
  | .cannotParse lineno rawLine =>
    "receiver.conf line ".toList ++ Nat.toDigits 10 lineno ++ ": cannot parse ".toList ++
      repr rawLine
  | .missingKeys missing =>
    "receiver.conf missing required key(s): ".toList ++ List.intercalate ", ".toList missing
  | .roomName => "room_name must be 1-32 characters (P2P device name limit)".toList
  | .wpsPinDigits wpsPin => "wps_pin must be exactly 8 digits, got ".toList ++ repr wpsPin
  | .wpsPinChecksum wpsPin correctChecksum =>
    "wps_pin ".toList ++ repr wpsPin ++
      " fails the WSC checksum digit (last digit must be ".toList ++
      Nat.toDigits 10 correctChecksum ++ ", i.e. ".toList ++ wpsPin.take 7 ++
      Nat.toDigits 10 correctChecksum ++
      (") -- an invalid checksum is silently rejected during WPS pairing instead of raising a " ++
        "clear error, so this is checked here instead").toList
  | .passphrase => "passphrase must be 8-63 characters (WPA2-PSK limit)".toList
  | .channelInteger channel => "channel must be an integer, got ".toList ++ repr channel
  | .channelAllowed =>
    "channel must be one of the non-DFS 5GHz channels: ".toList ++
      List.intercalate ", ".toList (allowedChannels.map fun c => Nat.toDigits 10 c.1.toNat)

/-! ## The PIN -/

/-- `wps_pin_checksum`. -/
def wpsPinChecksum (sevenDigits : Nat) : Nat :=
  let accum :=
    3 * (sevenDigits / 1000000 % 10) + 1 * (sevenDigits / 100000 % 10) +
    3 * (sevenDigits / 10000 % 10) + 1 * (sevenDigits / 1000 % 10) +
    3 * (sevenDigits / 100 % 10) + 1 * (sevenDigits / 10 % 10) + 3 * (sevenDigits % 10)
  (10 - accum % 10) % 10

/-- `_PIN_RE`. Its `$` also stands before a line end at the end of the text. -/
def pinRe (pin : Str) : Bool :=
  let digits := if pin.getLast? = some '\n' then pin.dropLast else pin
  digits.length == 8 && digits.all isDigit

/-- `is_valid_wps_pin`. -/
def isValidWpsPin (pin : Str) : Bool :=
  pinRe pin && wpsPinChecksum (ofDigits (pin.take 7)) == ofDigits ((pin.drop 7).take 1)

/-! ## Lines -/

/-- Where `str.splitlines` splits. -/
def isLineBreak (c : Char) : Bool :=
  [0x0A, 0x0B, 0x0C, 0x0D, 0x1C, 0x1D, 0x1E, 0x85, 0x2028, 0x2029].contains c.toNat

/-- `str.splitlines`, with the line read so far, reversed. -/
def splitlinesFrom : Str → Str → List Str
  | line, [] => if line.isEmpty then [] else [line.reverse]
  | line, '\r' :: '\n' :: text => line.reverse :: splitlinesFrom [] text
  | line, c :: text =>
    if isLineBreak c then line.reverse :: splitlinesFrom [] text
    else splitlinesFrom (c :: line) text

/-- `str.splitlines`. -/
def splitlines (text : Str) : List Str := splitlinesFrom [] text

/-- `str.strip`. -/
def strip (text : Str) : Str := (text.dropWhile isSpace).rdropWhile isSpace

/-- `[A-Za-z_]`. -/
def isKeyStart (c : Char) : Bool := c.isAlpha || c == '_'

/-- `[A-Za-z0-9_]`. -/
def isKeyChar (c : Char) : Bool := c.isAlphanum || c == '_'

/-- `_KEY_VALUE_RE` on a line: its two groups. -/
def keyValueRe (line : Str) : Option (Str × Str) :=
  let start := line.dropWhile isSpace
  if start.head?.any isKeyStart then
    match (start.dropWhile isKeyChar).dropWhile isSpace with
    | '=' :: value => some (start.takeWhile isKeyChar, strip value)
    | _ => none
  else none

/-- The loop over the lines of `parse_room_config`. -/
def parseLines : Nat → List Str → List (Str × Str) → Except ConfigError (List (Str × Str))
  | _, [], values => .ok values
  | lineno, rawLine :: lines, values =>
    let line := strip rawLine
    if line.isEmpty || line.head? = some '#' then parseLines (lineno + 1) lines values
    else
      match keyValueRe line with
      | none => .error (.cannotParse lineno rawLine)
      | some entry => parseLines (lineno + 1) lines (entry :: values)

/-! ## The configuration -/

/-- The digits of an integer, single underscores between them left out. -/
def integerDigits : Bool → Str → Option Str
  | afterDigit, [] => if afterDigit then some [] else none
  | afterDigit, c :: text =>
    if isDigit c then (integerDigits true text).map (c :: ·)
    else if c == '_' && afterDigit then integerDigits false text
    else none

/-- `int()` of a text without blanks around it, `none` where it raises `ValueError`. -/
def int : Str → Option Int
  | '-' :: text => ((integerDigits false text).bind intOfDigits).map fun n => -(n : Int)
  | '+' :: text => ((integerDigits false text).bind intOfDigits).map fun n => (n : Int)
  | text => ((integerDigits false text).bind intOfDigits).map fun n => (n : Int)

/-- `RoomConfig`. -/
structure RoomConfig where
  roomName : Str
  wpsPin : Str
  passphrase : Str
  channel : Int
  deriving DecidableEq

/-- `freq_mhz`, `none` where it raises. -/
def RoomConfig.freqMhz (config : RoomConfig) : Option Nat := allowedChannels.lookup config.channel

/-- `device_name`. -/
def RoomConfig.deviceName (config : RoomConfig) : Str := config.roomName

/-- The keys that have to be there. -/
def requiredKeys : List Str :=
  ["room_name".toList, "wps_pin".toList, "passphrase".toList, "channel".toList]

/-- The checks of `parse_room_config` on the values. -/
def checkValues (roomName wpsPin passphrase channel : Str) : Except ConfigError RoomConfig := do
  if roomName.isEmpty || 32 < roomName.length then throw .roomName
  if !pinRe wpsPin then throw (.wpsPinDigits wpsPin)
  if !isValidWpsPin wpsPin then
    throw (.wpsPinChecksum wpsPin (wpsPinChecksum (ofDigits (wpsPin.take 7))))
  if !(8 ≤ passphrase.length && passphrase.length ≤ 63) then throw .passphrase
  match int channel with
  | none => throw (.channelInteger channel)
  | some number =>
    if (allowedChannels.lookup number).isNone then throw .channelAllowed
    return { roomName := roomName, wpsPin := wpsPin, passphrase := passphrase, channel := number }

/-- `parse_room_config`. -/
def parseRoomConfig (text : Str) : Except ConfigError RoomConfig := do
  let values ← parseLines 1 (splitlines text) []
  let value := fun key => values.lookup key
  match value "room_name".toList, value "wps_pin".toList, value "passphrase".toList,
    value "channel".toList with
  | some roomName, some wpsPin, some passphrase, some channel =>
    checkValues roomName wpsPin passphrase channel
  | _, _, _, _ => throw (.missingKeys (requiredKeys.filter fun key => (value key).isNone))

/-- A configuration that is accepted has passed the checks. -/
structure RoomConfig.Checked (config : RoomConfig) : Prop where
  roomName : 1 ≤ config.roomName.length ∧ config.roomName.length ≤ 32
  wpsPin : isValidWpsPin config.wpsPin = true
  passphrase : 8 ≤ config.passphrase.length ∧ config.passphrase.length ≤ 63
  channel : (config.freqMhz).isSome = true

private theorem throw_if_bind_eq_ok_iff {α : Type} {fails : Bool} {e : ConfigError}
    {k : Except ConfigError α} {a : α} :
    (do
      if fails then throw e
      k) = .ok a ↔ fails = false ∧ k = .ok a := by
  cases fails with
  | true => exact iff_of_false (fun h => by cases h) fun h => Bool.noConfusion h.1
  | false => exact (and_iff_right rfl).symm

/-- `checkValues` returns the values when they pass the checks. -/
theorem checkValues_eq_ok_iff {roomName wpsPin passphrase channel : Str} {config : RoomConfig} :
    checkValues roomName wpsPin passphrase channel = .ok config ↔
      config.Checked ∧ config.roomName = roomName ∧ config.wpsPin = wpsPin ∧
        config.passphrase = passphrase ∧ int channel = some config.channel := by
  have name : (roomName.isEmpty || decide (32 < roomName.length)) = false ↔
      1 ≤ roomName.length ∧ roomName.length ≤ 32 := by
    rw [Bool.or_eq_false_iff, List.isEmpty_eq_false_iff, decide_eq_false_iff_not, Nat.not_lt,
      ← List.length_pos_iff]
    rfl
  have pin : isValidWpsPin wpsPin = true → pinRe wpsPin = true := fun valid =>
    (Bool.and_eq_true_iff.mp valid).1
  unfold checkValues
  simp only [throw_if_bind_eq_ok_iff, name, Bool.not_eq_false', Bool.and_eq_true,
    decide_eq_true_eq]
  constructor
  · rintro ⟨name, -, valid, pass, h⟩
    cases number : int channel with
    | none =>
      rw [number] at h
      cases h
    | some n =>
      rw [number] at h
      obtain ⟨allowed, h⟩ := throw_if_bind_eq_ok_iff.mp h
      cases h
      refine ⟨⟨name, valid, pass, ?_⟩, rfl, rfl, rfl, rfl⟩
      exact Option.isSome_iff_ne_none.mpr fun none => by
        rw [RoomConfig.freqMhz] at none
        rw [none] at allowed
        cases allowed
  · rintro ⟨checked, rfl, rfl, rfl, number⟩
    refine ⟨checked.roomName, pin checked.wpsPin, checked.wpsPin, checked.passphrase, ?_⟩
    rw [number]
    refine throw_if_bind_eq_ok_iff.mpr ⟨?_, rfl⟩
    exact Option.isNone_eq_false_iff.mpr checked.channel

/-- `parse_room_config` returns checked configurations only. -/
theorem parseRoomConfig_checked {text : Str} {config : RoomConfig}
    (h : parseRoomConfig text = .ok config) : config.Checked := by
  unfold parseRoomConfig at h
  cases lines : parseLines 1 (splitlines text) [] with
  | error e =>
    rw [lines] at h
    cases h
  | ok values =>
    rw [lines] at h
    dsimp only [Bind.bind, Except.bind] at h
    split at h
    · exact (checkValues_eq_ok_iff.mp h).1
    · cases h

end Castd
