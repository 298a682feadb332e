import Castd.Lib.Codes
import Castd.Lib.Utf8

/-!
# The Wi-Fi QR payload

`castd/airplay/qrcode_wifi.py`, and a scanner for the format: it takes the scheme off, splits the
fields at the semicolons that are not escaped, splits a field at its first colon and removes one
level of escapes from the value. `scan_wifi_payload` is the round trip.
-/

namespace Castd.Airplay

open Lib

/-- The `ValueError` of `build_wifi_qr_payload`. -/
inductive PayloadError
  | emptySsid
  | passphraseLength
  deriving DecidableEq, Repr

/-- The text of an error. -/
def PayloadError.text : PayloadError → String
  | .emptySsid => "ssid must not be empty"
  | .passphraseLength => "passphrase must be 8-63 characters (WPA2-PSK limit)"

/-- `_ESCAPE_CHARS`. -/
def escapeChars : List Char := ['\\', ';', ',', '"', ':']

/-- `_escape`. -/
def escape (value : Str) : Str := replacePasses '\\' escapeChars value

/-- `build_wifi_qr_payload`. -/
def buildWifiQrPayload (ssid passphrase : Str) (hidden : Bool := false) :
    Except PayloadError Str :=
  if ssid.isEmpty then .error .emptySsid
  else if 8 ≤ passphrase.length ∧ passphrase.length ≤ 63 then
    let parts := [
      "WIFI:".toList,
      "T:WPA;".toList,
      "S:".toList ++ escape ssid ++ [';'],
      "P:".toList ++ escape passphrase ++ [';']]
    let parts := if hidden then parts ++ ["H:true;".toList] else parts
    .ok (parts ++ [[';']]).flatten
  else .error .passphraseLength

/-! ## The scanner -/

/-- A field of a payload, with its value as it was before escaping. -/
def scanField (field : Str) : Option (Str × Str) :=
  match field.dropWhile (· ≠ ':') with
  | [] => none
  | _ :: value => some (field.takeWhile (· ≠ ':'), unescape '\\' value)

/-- What a scanner reads off a payload. Pieces with nothing in them are not fields. -/
def scanWifi (payload : Str) : Option (List (Str × Str)) :=
  if "WIFI:".toList <+: payload then
    ((splitUnescaped '\\' ';' false [] (payload.drop 5)).filter fun piece => !piece.isEmpty).mapM
      scanField
  else none

/-! ## The round trip -/

private theorem escape_eq_escapeOnce (value : Str) :
    escape value = escapeOnce '\\' escapeChars value :=
  replacePasses_eq_escapeOnce (by decide) value

private theorem unescape_escape (value : Str) : unescape '\\' (escape value) = value := by
  rw [escape_eq_escapeOnce]
  exact unescape_escapeOnce (by decide) value

private theorem escape_uncut (value : Str) : Uncut '\\' ';' (escape value) := by
  rw [escape_eq_escapeOnce]
  exact .escapeOnce (by decide) (by decide) (by decide) value

private theorem scanField_append {key : Str} (noColon : ':' ∉ key) (value : Str) :
    scanField (key ++ ':' :: value) = some (key, unescape '\\' value) := by
  have plain : ∀ c ∈ key, decide (c ≠ ':') = true := by
    intro c hc
    simp only [decide_eq_true_eq]
    rintro rfl
    exact noColon hc
  have dropped : (key ++ ':' :: value).dropWhile (· ≠ ':') = ':' :: value := by
    rw [List.dropWhile_append_of_pos plain]
    simp
  have taken : (key ++ ':' :: value).takeWhile (· ≠ ':') = key := by
    rw [List.takeWhile_append_of_pos plain]
    simp
  rw [scanField, dropped, taken]

/-- A field as it stands in a payload, without the semicolon. -/
def fieldText (field : Str × Str) : Str := field.1 ++ ':' :: field.2

/-- A key the scanner reads as it stands. -/
def PlainKey (key : Str) : Prop := ∀ c ∈ key, c ≠ ':' ∧ c ≠ '\\' ∧ c ≠ ';'

instance (key : Str) : Decidable (PlainKey key) :=
  List.decidableBAll (p := fun c => c ≠ ':' ∧ c ≠ '\\' ∧ c ≠ ';') key

/-- A plain text is not cut. -/
theorem PlainKey.uncut {key : Str} (h : PlainKey key) : Uncut '\\' ';' key :=
  .of_clear fun c hc => (h c hc).2

private theorem split_fields {fields : List (Str × Str)}
    (plain : ∀ field ∈ fields, PlainKey field.1 ∧ Uncut '\\' ';' field.2) :
    splitUnescaped '\\' ';' false [] (fields.flatMap (fun f => fieldText f ++ [';']) ++ [';']) =
      fields.map fieldText ++ [[], []] := by
  induction fields with
  | nil => rfl
  | cons field fields ih =>
    obtain ⟨key, value⟩ := plain field List.mem_cons_self
    have colon : Uncut '\\' ';' [':'] := .single (by decide) (by decide)
    have whole : Uncut '\\' ';' (fieldText field) :=
      key.uncut.append (colon.append value)
    have rest := ih fun f hf => plain f (List.mem_cons_of_mem field hf)
    rw [List.flatMap_cons, List.append_assoc, List.append_assoc]
    rw [List.singleton_append, whole.split, rest]
    rfl

private theorem mapM_scanField {fields : List (Str × Str)}
    (plain : ∀ field ∈ fields, PlainKey field.1) :
    (fields.map fieldText).mapM scanField =
      some (fields.map fun field => (field.1, unescape '\\' field.2)) := by
  induction fields with
  | nil => rfl
  | cons field fields ih =>
    have noColon : ':' ∉ field.1 := fun hc => (plain field List.mem_cons_self _ hc).1 rfl
    have rest := ih fun f hf => plain f (List.mem_cons_of_mem field hf)
    rw [List.map_cons, List.mapM_cons, fieldText, scanField_append noColon, rest]
    rfl

/-- The fields of a payload as they are escaped. -/
def escapedFields (ssid passphrase : Str) (hidden : Bool) : List (Str × Str) :=
  [("T".toList, "WPA".toList), ("S".toList, escape ssid), ("P".toList, escape passphrase)] ++
    if hidden then [("H".toList, "true".toList)] else []

/-- What a scanner is to read off a payload. -/
def wifiFields (ssid passphrase : Str) (hidden : Bool) : List (Str × Str) :=
  [("T".toList, "WPA".toList), ("S".toList, ssid), ("P".toList, passphrase)] ++
    if hidden then [("H".toList, "true".toList)] else []

private theorem buildWifiQrPayload_ok {ssid passphrase : Str} (hidden : Bool) (named : ssid ≠ [])
    (long : 8 ≤ passphrase.length) (short : passphrase.length ≤ 63) :
    buildWifiQrPayload ssid passphrase hidden = .ok ("WIFI:".toList ++
      ((escapedFields ssid passphrase hidden).flatMap (fun f => fieldText f ++ [';']) ++
        [';'])) := by
  have nonempty : ssid.isEmpty = false := by simpa using named
  unfold buildWifiQrPayload
  rw [nonempty, if_pos (⟨long, short⟩ : _ ∧ _)]
  cases hidden <;> simp [escapedFields, fieldText]

private theorem escapedFields_plain (ssid passphrase : Str) (hidden : Bool) :
    ∀ field ∈ escapedFields ssid passphrase hidden,
      PlainKey field.1 ∧ Uncut '\\' ';' field.2 := by
  have keyT : PlainKey "T".toList := by decide
  have keyS : PlainKey "S".toList := by decide
  have keyP : PlainKey "P".toList := by decide
  have keyH : PlainKey "H".toList := by decide
  have wpa : PlainKey "WPA".toList := by decide
  have set : PlainKey "true".toList := by decide
  intro field mem
  simp only [escapedFields, List.mem_append, List.mem_cons, List.not_mem_nil, or_false] at mem
  rcases mem with (rfl | rfl | rfl) | flag
  · exact ⟨keyT, wpa.uncut⟩
  · exact ⟨keyS, escape_uncut ssid⟩
  · exact ⟨keyP, escape_uncut passphrase⟩
  · cases hidden with
    | false => cases flag
    | true =>
      rw [List.mem_singleton.mp flag]
      exact ⟨keyH, set.uncut⟩

/-- A scanner reads off a payload what it was built from and nothing else, whatever characters the
values have; and the passes of `_escape` escape each special character once. -/
theorem scan_wifi_payload {ssid passphrase : Str} (hidden : Bool) (named : ssid ≠ [])
    (long : 8 ≤ passphrase.length) (short : passphrase.length ≤ 63) :
    (∃ payload, buildWifiQrPayload ssid passphrase hidden = .ok payload ∧
      scanWifi payload = some (wifiFields ssid passphrase hidden)) ∧
    ∀ value, escape value = escapeOnce '\\' escapeChars value := by
  refine ⟨⟨_, buildWifiQrPayload_ok hidden named long short, ?_⟩, escape_eq_escapeOnce⟩
  have plain := escapedFields_plain ssid passphrase hidden
  have dropped : ∀ text : Str, ("WIFI:".toList ++ text).drop 5 = text := fun _ => rfl
  have whole : ((escapedFields ssid passphrase hidden).map fieldText).filter
      (fun piece => !piece.isEmpty) = (escapedFields ssid passphrase hidden).map fieldText := by
    apply List.filter_eq_self.mpr
    intro piece mem
    obtain ⟨field, _, rfl⟩ := List.mem_map.mp mem
    simp [fieldText]
  have values : (escapedFields ssid passphrase hidden).map
      (fun field => (field.1, unescape '\\' field.2)) = wifiFields ssid passphrase hidden := by
    cases hidden <;> simp [escapedFields, wifiFields, unescape_escape, unescape]
  unfold scanWifi
  rw [if_pos (List.prefix_append _ _), dropped, split_fields plain, List.filter_append, whole]
  rw [show [[], []].filter (fun piece : Str => !piece.isEmpty) = [] from rfl, List.append_nil]
  rw [mapM_scanField fun field mem => (plain field mem).1, values]

/-- A name that ends with the escape character and a passphrase of separators. -/
theorem scan_wifi_payload_of_separators :
    (∃ payload, buildWifiQrPayload "a;\\".toList "\\;:,\";;\\".toList true = .ok payload ∧
      scanWifi payload = some (wifiFields "a;\\".toList "\\;:,\";;\\".toList true)) ∧
    ∀ value, escape value = escapeOnce '\\' escapeChars value :=
  scan_wifi_payload true (by decide) (by decide) (by decide)

end Castd.Airplay
