import Castd.Lib.Action
import Castd.P2p.WfdIe

/-!
# The group owner

`P2PGroupOwner` of `castd/p2p/dbus_go.py`, as far as it publishes properties of the P2P device: its
name and type, and the WFD IEs that sources read. What it asks about groups is in
`Castd.P2p.Groups`.

A call over D-Bus may fail for any reason; which of the calls to come are answered is part of the
state.
-/

namespace Castd.P2p

open Lib

/-- What the methods raise. `ValueError` is that of `build_wfd_ies`. -/
inductive GroupError
  | dbusException
  | valueError (error : ValueError)
  /-- `GroupAdd` failed. -/
  | groupAddFailed (interfaceName : Str)
  /-- There is no interface to arm a registrar on. -/
  | noGroup
  deriving DecidableEq

/-- The text of an error, with that of the exception behind it. -/
def GroupError.text (exc : Str) : GroupError → Str
  | .dbusException => exc
  | .valueError error => error.text
  | .groupAddFailed interfaceName =>
    "GroupAdd failed on ".toList ++ interfaceName ++ ": ".toList ++ exc
  | .noGroup => "no P2P group interface exists to arm a WPS registrar on".toList

/-- `P2PGroupOwner`. A path is that of a D-Bus object. -/
structure P2PGroupOwner where
  interfaceName : Str
  deviceName : Str
  freqMhz : Nat
  groupIfacePath : Option Str := none
  groupCredentials : Option (Str × Str) := none
  deriving DecidableEq

/-- The properties that castd sets. -/
structure Supplicant where
  deviceName : Option Str := none
  primaryDeviceType : Option Bytes := none
  wfdIes : Option Bytes := none
  deriving DecidableEq

/-- What the methods work on, and which of the D-Bus calls to come are answered; the calls after
them are. -/
structure Owned where
  owner : P2PGroupOwner
  supplicant : Supplicant := {}
  answered : List Bool := []
  deriving DecidableEq

/-- A method of `P2PGroupOwner` that publishes. -/
abbrev Owning := EStateM GroupError Owned

/-- `Properties.Set`. It raises where it is not answered. -/
def setProperty (f : Supplicant → Supplicant) : Owning Unit := fun s =>
  if s.answered.headD true then
    .ok () { s with supplicant := f s.supplicant, answered := s.answered.tail }
  else .error .dbusException { s with answered := s.answered.tail }

namespace P2PGroupOwner

/-- `_publish_wfd_ies`. -/
def publishWfdIes (availableForSession : Bool) : Owning Unit := do
  match buildWfdIes { availableForSession := availableForSession } with
  | .ok ies => setProperty fun w => { w with wfdIes := some ies }
  | .error error => throw (.valueError error)

/-- The `PrimaryDeviceType` of a display. -/
def displayDevice : Bytes := [0x00, 0x07, 0x00, 0x50, 0xF2, 0x00, 0x00, 0x00]

/-- `configure`. -/
def configure : Owning Unit := do
  let s ← get
  setProperty fun w => { w with deviceName := some s.owner.deviceName }
  setProperty fun w => { w with primaryDeviceType := some displayDevice }
  publishWfdIes true

/-- `set_session_available`. -/
def setSessionAvailable (available : Bool) : Owning Unit :=
  tryCatch (publishWfdIes available) fun
    | .dbusException => return ()
    | e => throw e

end P2PGroupOwner

/-! ## Setting a property -/

variable {s : Owned} {f : Supplicant → Supplicant}

theorem setProperty_of_answered (answered : s.answered.headD true = true) :
    setProperty f s = .ok () { s with
      supplicant := f s.supplicant
      answered := s.answered.tail } :=
  if_pos answered

theorem setProperty_of_unanswered (unanswered : s.answered.headD true = false) :
    setProperty f s = .error .dbusException { s with answered := s.answered.tail } :=
  if_neg (Bool.not_eq_true _ ▸ unanswered)

/-- A property that was set is as it was set. -/
theorem setProperty_ends {returns : Unit → Owned → Prop} {raises : GroupError → Owned → Prop}
    (ok : ∀ answers, returns () { s with supplicant := f s.supplicant, answered := answers })
    (error : ∀ answers, raises .dbusException { s with answered := answers }) :
    Ends (setProperty f) returns raises s := by
  cases answer : s.answered.headD true with
  | true =>
    exact Ends.returned (setProperty_of_answered answer) (ok _)
  | false =>
    unfold Ends
    rw [setProperty_of_unanswered answer]
    exact error _

end Castd.P2p
