import Castd.Lib.Tlv
import Mathlib.Data.Int.Bitwise
import Mathlib.Tactic.IntervalCases

/-!
# The Wi-Fi Display subelements

`castd/p2p/wfd_ie.py`: the bytes of the Device Information, Associated BSSID and Coupled Sink
subelements, and of the MICE subelements. The ranges are checked in the functions, so the numbers
are any integers.

`Subelement` is what can be asked for, `Describes` what a record says about it, and
`subelements_decode_back` connects the two through the walker of `Lib.Tlv`.
-/

namespace Castd.P2p

open Lib

/-! ## The builders -/

/-- `WFD_PRIMARY_SINK`. -/
def wfdPrimarySink : Int := 0b01

/-- `WFD_AVAILABLE_FOR_SESSION`: the availability field, bits 5 and 4, is 01. -/
def wfdAvailableForSession : Nat := 1 <<< 4

/-- `ValueError`, with its text. -/
structure ValueError where
  text : Str
  deriving DecidableEq

/-- The text for a number that is out of range. -/
def outOfRange (name : String) (n : Int) : ValueError :=
  ⟨name.toList ++ " out of range: ".toList ++ (toString n).toList⟩

/-- The arguments of `build_wfd_ies`, with their defaults. -/
structure Advertised where
  controlPort : Int := 7236
  maxThroughputMbps : Int := 50
  availableForSession : Bool := true
  deriving DecidableEq

/-- The arguments of `build_device_info_subelement`, with their defaults. -/
structure DeviceInfo extends Advertised where
  deviceType : Int := wfdPrimarySink
  deriving DecidableEq

/-- The bitmap of `build_device_info_subelement`. -/
def DeviceInfo.bitmap (info : DeviceInfo) : Nat :=
  let bitmap := (Int.land info.deviceType 0b11).toNat
  if info.availableForSession then bitmap ||| wfdAvailableForSession else bitmap

/-- `build_device_info_subelement`. -/
def buildDeviceInfoSubelement (info : DeviceInfo) : Except ValueError Bytes :=
  if ¬(0 ≤ info.controlPort ∧ info.controlPort ≤ 0xFFFF) then
    .error (outOfRange "control_port" info.controlPort)
  else if ¬(0 ≤ info.maxThroughputMbps ∧ info.maxThroughputMbps ≤ 0xFFFF) then
    .error (outOfRange "max_throughput_mbps" info.maxThroughputMbps)
  else
    let payload := toBigEndian 2 info.bitmap ++ toBigEndian 2 info.controlPort.toNat ++
      toBigEndian 2 info.maxThroughputMbps.toNat
    .ok ([0] ++ toBigEndian 2 payload.length ++ payload)

/-- `build_associated_bssid_subelement`. -/
def buildAssociatedBssidSubelement (bssid : Bytes) : Except ValueError Bytes :=
  if bssid.length ≠ 6 then
    .error ⟨"bssid must be 6 bytes, got ".toList ++ Nat.toDigits 10 bssid.length⟩
  else .ok ([1] ++ toBigEndian 2 bssid.length ++ bssid)

/-- `build_coupled_sink_subelement`. -/
def buildCoupledSinkSubelement : Bytes :=
  let payload : Bytes := [0x00] ++ List.replicate 6 0
  [6] ++ toBigEndian 2 payload.length ++ payload

/-- `build_wfd_ies`. -/
def buildWfdIes (advertised : Advertised) : Except ValueError Bytes := do
  let deviceInfo ← buildDeviceInfoSubelement { advertised with }
  return deviceInfo ++ buildCoupledSinkSubelement

/-- `build_mice_hostname_subelement` and `build_mice_ip_subelement`: a text under an id, and the
name of the text for the error. -/
def buildMiceSubelement (id : Bytes) (name : String) (text : Str) : Except ValueError Bytes :=
  let data := encode text
  if data.length > 0xFFFF then .error ⟨name.toList ++ " too long".toList⟩
  else .ok (id ++ toBigEndian 2 data.length ++ data)

/-- `build_mice_hostname_subelement`. -/
def buildMiceHostnameSubelement (hostname : Str) : Except ValueError Bytes :=
  buildMiceSubelement [0x20, 0x02] "hostname" hostname

/-- `build_mice_ip_subelement`. -/
def buildMiceIpSubelement (ipAddress : Str) : Except ValueError Bytes :=
  buildMiceSubelement [0x20, 0x05] "ip_address" ipAddress

/-! ## What can be asked for -/

/-- The ranges that `build_device_info_subelement` checks. -/
structure Advertised.InRange (advertised : Advertised) : Prop where
  controlPort : 0 ≤ advertised.controlPort ∧ advertised.controlPort ≤ 0xFFFF
  maxThroughputMbps : 0 ≤ advertised.maxThroughputMbps ∧ advertised.maxThroughputMbps ≤ 0xFFFF

/-- A subelement that is asked for. -/
inductive Subelement
  | deviceInfo (info : DeviceInfo)
  | associatedBssid (bssid : Bytes)
  | coupledSink

/-- The builder of a subelement. -/
def Subelement.build : Subelement → Except ValueError Bytes
  | .deviceInfo info => buildDeviceInfoSubelement info
  | .associatedBssid bssid => buildAssociatedBssidSubelement bssid
  | .coupledSink => .ok buildCoupledSinkSubelement

/-- The arguments of a subelement are what its builder takes. -/
def Subelement.InRange : Subelement → Prop
  | .deviceInfo info => (0 ≤ info.deviceType ∧ info.deviceType ≤ 3) ∧ info.toAdvertised.InRange
  | .associatedBssid bssid => bssid.length = 6
  | .coupledSink => True

/-! ## What a record says -/

/-- The format of the WFD subelements: one byte for the id and two for the length. -/
def wfdSubelements : Tlv := ⟨1, 2, by decide⟩

/-- The format of the MICE subelements: two bytes for each. -/
def miceSubelements : Tlv := ⟨2, 2, by decide⟩

/-- What the payload of a device-info subelement says. The availability field is 01 or 00, and
the bits beside it and the device type are zero. -/
def decodeDeviceInfo (payload : Bytes) : Option DeviceInfo :=
  let bitmap := ofBigEndian (payload.take 2)
  let availability := bitmap >>> 4 &&& 0b11
  if payload.length = 6 ∧ bitmap &&& 0b1111111111001100 = 0 ∧
      (availability = 0b01 ∨ availability = 0b00) then
    some
      { deviceType := (bitmap &&& 0b11 : Nat)
        controlPort := ofBigEndian ((payload.drop 2).take 2)
        maxThroughputMbps := ofBigEndian (payload.drop 4)
        availableForSession := availability = 0b01 }
  else none

/-- A record says what was asked for. -/
def Subelement.Describes : Subelement → wfdSubelements.Record → Prop
  | .deviceInfo info, record => record.id = 0 ∧ decodeDeviceInfo record.payload = some info
  | .associatedBssid bssid, record => record.id = 1 ∧ record.payload = bssid
  | .coupledSink, record => record.id = 6 ∧ record.payload = List.replicate 7 0

/-- A bit of a blob, the lowest of each byte first. -/
def bitAt (data : Bytes) (i : Nat) : Bool := (data.getD (i / 8) 0).toNat.testBit (i % 8)

/-! ## The bitmap -/

private theorem DeviceInfo.bitmap_eq {info : DeviceInfo}
    (type : 0 ≤ info.deviceType ∧ info.deviceType ≤ 3) :
    info.bitmap = info.deviceType.toNat + if info.availableForSession then 16 else 0 := by
  unfold bitmap
  obtain ⟨nonneg, le⟩ := type
  generalize info.deviceType = deviceType at nonneg le ⊢
  generalize info.availableForSession = available
  interval_cases deviceType <;> cases available <;> rfl

private theorem DeviceInfo.bitmap_fields {info : DeviceInfo}
    (type : 0 ≤ info.deviceType ∧ info.deviceType ≤ 3) :
    info.bitmap &&& 0b11 = info.deviceType.toNat ∧
      info.bitmap >>> 4 &&& 0b11 = (if info.availableForSession then 0b01 else 0b00) ∧
      info.bitmap &&& 0b1111111111001100 = 0 := by
  rw [bitmap_eq type]
  obtain ⟨nonneg, le⟩ := type
  generalize info.deviceType = deviceType at nonneg le ⊢
  generalize info.availableForSession = available
  interval_cases deviceType <;> cases available <;> decide

private theorem DeviceInfo.bitmap_lt {info : DeviceInfo}
    (type : 0 ≤ info.deviceType ∧ info.deviceType ≤ 3) : info.bitmap < 256 ^ 2 := by
  rw [bitmap_eq type]
  split <;> omega

/-! ## The builders build records -/

/-- The payload of `build_device_info_subelement`. -/
def DeviceInfo.payload (info : DeviceInfo) : Bytes :=
  toBigEndian 2 info.bitmap ++ toBigEndian 2 info.controlPort.toNat ++
    toBigEndian 2 info.maxThroughputMbps.toNat

private theorem DeviceInfo.length_payload (info : DeviceInfo) : info.payload.length = 6 := by
  simp only [payload, List.length_append, length_toBigEndian]

private theorem decodeDeviceInfo_payload {info : DeviceInfo}
    (type : 0 ≤ info.deviceType ∧ info.deviceType ≤ 3) (range : info.toAdvertised.InRange) :
    decodeDeviceInfo info.payload = some info := by
  obtain ⟨typeField, availability, others⟩ := DeviceInfo.bitmap_fields type
  obtain ⟨⟨portNonneg, portLe⟩, mbpsNonneg, mbpsLe⟩ := range
  have port : info.controlPort.toNat < 256 ^ 2 := by omega
  have mbps : info.maxThroughputMbps.toNat < 256 ^ 2 := by omega
  have afterBitmap : info.payload.drop 2 =
      toBigEndian 2 info.controlPort.toNat ++ toBigEndian 2 info.maxThroughputMbps.toNat := by
    rw [DeviceInfo.payload, List.append_assoc, List.drop_left' (length_toBigEndian _ _)]
  have bitmapRead : ofBigEndian (info.payload.take 2) = info.bitmap := by
    rw [DeviceInfo.payload, List.append_assoc, List.take_left' (length_toBigEndian _ _),
      ofBigEndian_toBigEndian (DeviceInfo.bitmap_lt type)]
  have portRead : ofBigEndian ((info.payload.drop 2).take 2) = info.controlPort.toNat := by
    rw [afterBitmap, List.take_left' (length_toBigEndian _ _), ofBigEndian_toBigEndian port]
  have mbpsRead : ofBigEndian (info.payload.drop 4) = info.maxThroughputMbps.toNat := by
    rw [show 4 = 2 + 2 from rfl, ← List.drop_drop, afterBitmap,
      List.drop_left' (length_toBigEndian _ _), ofBigEndian_toBigEndian mbps]
  have typeBack : (info.deviceType.toNat : Int) = info.deviceType := Int.toNat_of_nonneg type.1
  have portBack : (info.controlPort.toNat : Int) = info.controlPort :=
    Int.toNat_of_nonneg portNonneg
  have mbpsBack : (info.maxThroughputMbps.toNat : Int) = info.maxThroughputMbps :=
    Int.toNat_of_nonneg mbpsNonneg
  unfold decodeDeviceInfo
  simp only [bitmapRead, portRead, mbpsRead, typeField, availability, others, typeBack, portBack,
    mbpsBack, info.length_payload]
  obtain ⟨⟨_, _, available⟩, _⟩ := info
  cases available <;> rfl

private theorem buildDeviceInfoSubelement_inRange {info : DeviceInfo}
    (range : info.toAdvertised.InRange) :
    buildDeviceInfoSubelement info = .ok ([0] ++ toBigEndian 2 info.payload.length ++
      info.payload) := by
  rw [buildDeviceInfoSubelement, if_neg (not_not_intro range.controlPort),
    if_neg (not_not_intro range.maxThroughputMbps)]
  rfl

private theorem buildDeviceInfoSubelement_outOfRange {info : DeviceInfo}
    (outside : ¬info.toAdvertised.InRange) :
    ∃ error, buildDeviceInfoSubelement info = .error error := by
  unfold buildDeviceInfoSubelement
  split
  next => exact ⟨_, rfl⟩
  next port =>
    split
    next => exact ⟨_, rfl⟩
    next mbps => exact absurd ⟨not_not.mp port, not_not.mp mbps⟩ outside

/-- What is built for a subelement is one record, and it says what was asked for. -/
theorem Subelement.build_describes {asked : Subelement} (range : asked.InRange) :
    ∃ record : wfdSubelements.Record,
      asked.build = .ok record.emit ∧ asked.Describes record := by
  cases asked with
  | deviceInfo info =>
    obtain ⟨type, range⟩ := range
    refine ⟨⟨0, info.payload, by decide, ?_⟩, buildDeviceInfoSubelement_inRange range, rfl,
      decodeDeviceInfo_payload type range⟩
    rw [info.length_payload]
    decide
  | associatedBssid bssid =>
    have sixBytes : bssid.length = 6 := range
    refine ⟨⟨1, bssid, by decide, ?_⟩, if_neg (not_not_intro sixBytes), rfl, rfl⟩
    rw [sixBytes]
    decide
  | coupledSink => exact ⟨⟨6, List.replicate 7 0, by decide, by decide⟩, rfl, rfl, rfl⟩

private theorem buildAll_describes {asked : List Subelement} (range : ∀ s ∈ asked, s.InRange) :
    ∃ records : List wfdSubelements.Record,
      asked.mapM Subelement.build = .ok (records.map Tlv.Record.emit) ∧
        List.Forall₂ Subelement.Describes asked records := by
  induction asked with
  | nil => exact ⟨[], rfl, .nil⟩
  | cons s asked ih =>
    obtain ⟨record, built, describes⟩ :=
      Subelement.build_describes (range s List.mem_cons_self)
    obtain ⟨records, builtLater, describesLater⟩ :=
      ih fun s hs => range s (List.mem_cons_of_mem _ hs)
    refine ⟨record :: records, ?_, .cons describes describesLater⟩
    rw [List.mapM_cons, built, builtLater]
    rfl

/-! ## Available and busy -/

private theorem bitAt_ne_iff {front back : Bytes} {b c : UInt8} {i : Nat} :
    bitAt (front ++ b :: back) i ≠ bitAt (front ++ c :: back) i ↔
      i / 8 = front.length ∧ b.toNat.testBit (i % 8) ≠ c.toNat.testBit (i % 8) := by
  unfold bitAt
  rcases Nat.lt_trichotomy (i / 8) front.length with before | here | after
  · rw [List.getD_append _ _ _ _ before, List.getD_append _ _ _ _ before]
    simp only [ne_eq, not_true, false_iff, not_and]
    exact fun here => absurd here (Nat.ne_of_lt before)
  · rw [List.getD_append_right _ _ _ _ here.ge, List.getD_append_right _ _ _ _ here.ge, here,
      Nat.sub_self]
    simp only [List.getD_cons_zero, true_and]
  · obtain ⟨k, hk⟩ := Nat.exists_eq_add_of_lt after
    rw [List.getD_append_right _ _ _ _ after.le, List.getD_append_right _ _ _ _ after.le, hk,
      Nat.add_assoc, Nat.add_sub_cancel_left]
    simp only [List.getD_cons_succ, ne_eq, not_true, false_iff, not_and]
    omega

private theorem buildWfdIes_inRange {advertised : Advertised} (range : advertised.InRange) :
    buildWfdIes advertised = .ok ([0, 0, 6, 0] ++
      (if advertised.availableForSession then 0x11 else 0x01) ::
        (toBigEndian 2 advertised.controlPort.toNat ++
          toBigEndian 2 advertised.maxThroughputMbps.toNat ++ buildCoupledSinkSubelement)) := by
  have bitmap : toBigEndian 2 (DeviceInfo.bitmap { advertised with }) =
      [0, if advertised.availableForSession then 0x11 else 0x01] := by
    unfold DeviceInfo.bitmap
    dsimp only
    generalize advertised.availableForSession = available
    cases available <;> decide
  unfold buildWfdIes
  rw [buildDeviceInfoSubelement_inRange range, DeviceInfo.length_payload, DeviceInfo.payload,
    bitmap]
  rfl

/-! ## The subelements decode back -/

/-- Any list of subelements reads back from its concatenation, record by record, with what was
asked for; a number out of range raises `ValueError`; and available and busy differ in one bit.

The reader is one of its own: it walks the records by their lengths, as a source does, and knows
nothing of how they were built. -/
theorem subelements_decode_back :
    (∀ asked : List Subelement, (∀ s ∈ asked, s.InRange) →
      ∃ records : List wfdSubelements.Record,
        asked.mapM Subelement.build = .ok (records.map Tlv.Record.emit) ∧
          wfdSubelements.walk (records.map Tlv.Record.emit).flatten = some records ∧
          List.Forall₂ Subelement.Describes asked records) ∧
      (∀ info : DeviceInfo,
        ¬(0 ≤ info.controlPort ∧ info.controlPort ≤ 65535) ∨
            ¬(0 ≤ info.maxThroughputMbps ∧ info.maxThroughputMbps ≤ 65535) →
          ∃ error, buildDeviceInfoSubelement info = .error error) ∧
      ∀ port mbps : Int, 0 ≤ port ∧ port ≤ 65535 → 0 ≤ mbps ∧ mbps ≤ 65535 →
        ∃ available busy,
          buildWfdIes ⟨port, mbps, true⟩ = .ok available ∧
            buildWfdIes ⟨port, mbps, false⟩ = .ok busy ∧ available.length = busy.length ∧
            ∃! i, bitAt available i ≠ bitAt busy i := by
  refine ⟨fun asked range => ?_, fun info outside => ?_, fun port mbps hport hmbps => ?_⟩
  · obtain ⟨records, built, describes⟩ := buildAll_describes range
    refine ⟨records, built, ?_, describes⟩
    exact Tlv.walk_eq_some_iff.mpr (List.flatMap_def).symm
  · refine buildDeviceInfoSubelement_outOfRange fun range => ?_
    exact outside.elim (· range.controlPort) (· range.maxThroughputMbps)
  · obtain ⟨back, available, busy⟩ : ∃ back,
        buildWfdIes ⟨port, mbps, true⟩ = .ok ([0, 0, 6, 0] ++ 0x11 :: back) ∧
          buildWfdIes ⟨port, mbps, false⟩ = .ok ([0, 0, 6, 0] ++ 0x01 :: back) :=
      ⟨_, buildWfdIes_inRange ⟨hport, hmbps⟩, buildWfdIes_inRange ⟨hport, hmbps⟩⟩
    refine ⟨_, _, available, busy, ?_, 36, ?_, fun i differ => ?_⟩
    · rfl
    · exact bitAt_ne_iff.mpr ⟨rfl, by decide⟩
    · obtain ⟨byte, bit⟩ := bitAt_ne_iff.mp differ
      have only : ∀ j < 8, (0x11 : UInt8).toNat.testBit j ≠ (0x01 : UInt8).toNat.testBit j →
          j = 4 := by decide
      have place := only (i % 8) (Nat.mod_lt _ (by decide)) bit
      have fourth : i / 8 = 4 := byte
      omega

/-- What the daemon asks for by default, with an address. -/
theorem subelements_decode_back_defaults :
    ∃ records : List wfdSubelements.Record,
      [.deviceInfo {}, .associatedBssid [2, 0, 0, 0, 0, 1], .coupledSink].mapM Subelement.build =
          .ok (records.map Tlv.Record.emit) ∧
        wfdSubelements.walk (records.map Tlv.Record.emit).flatten = some records ∧
        List.Forall₂ Subelement.Describes
          [.deviceInfo {}, .associatedBssid [2, 0, 0, 0, 0, 1], .coupledSink] records := by
  refine subelements_decode_back.1 _ fun s hs => ?_
  simp only [List.mem_cons, List.not_mem_nil, or_false] at hs
  rcases hs with rfl | rfl | rfl
  · exact ⟨⟨by decide, by decide⟩, ⟨by decide, by decide⟩, by decide, by decide⟩
  · rfl
  · trivial

/-! ## The MICE subelements -/

/-- A MICE subelement is one record with the text in UTF-8, and a text that does not fit raises
`ValueError`. -/
private theorem buildMiceSubelement_reads_back {id : Nat} {name : String} {text : Str}
    (id_lt : id < 256 ^ 2) :
    (∃ record : miceSubelements.Record,
        buildMiceSubelement (toBigEndian 2 id) name text = .ok record.emit ∧ record.id = id ∧
          record.payload = encode text ∧ miceSubelements.walk record.emit = some [record]) ∨
      0xFFFF < (encode text).length ∧
        buildMiceSubelement (toBigEndian 2 id) name text =
          .error ⟨name.toList ++ " too long".toList⟩ := by
  unfold buildMiceSubelement
  by_cases long : (encode text).length > 0xFFFF
  · exact .inr ⟨long, if_pos long⟩
  · have payload_lt : (encode text).length < 256 ^ 2 := by omega
    refine .inl ⟨⟨id, encode text, id_lt, payload_lt⟩, if_neg long, rfl, rfl, ?_⟩
    exact Tlv.walk_eq_some_iff.mpr (List.append_nil _).symm

end Castd.P2p
