import Castd.Lib.System
import Castd.Lib.Utf8
import Castd.P2p.GroupOwner

/-!
# What the owner knows of its group

The group that sources join is also an ordinary network, whose name and passphrase the idle screen
shows, and its interface has the WPS registrar that a PIN arms. `wpa_supplicant` makes all three
anew with each group, so `P2PGroupOwner` must not keep them past a group. It keeps the path of the
interface and the network, and renews both when a `GroupStarted` is delivered.

`wpa_supplicant` is no part of the repository: it is a parameter (`Wpas`) over a world of its own,
in which groups come and go during any call and any call may raise. What castd relies on is that
there is one group at most, that an answer about a group is about that one, and that a group that is
made is announced (`Wpas.Documented`). Then what is kept is that group's as soon as no announcement
waits (`credentials_never_stale`, `pin_arms_live_group`).
-/

namespace Castd.P2p

open Lib

/-! ## wpa_supplicant -/

/-- The properties of a `GroupStarted`. -/
structure GroupStarted where
  groupObject : Str
  /-- `interface_object`, empty where it is missing. -/
  interfaceObject : Str := []
  deriving DecidableEq

/-- What castd calls: `wpa_supplicant`, and the kernel for the names of its interfaces. A call gives
its answer, or `none` where it raises, and the world in which that was. -/
structure Wpas (World : Type) where
  /-- `os.listdir("/sys/class/net")`. -/
  listdir : World → Option (List Str) × World
  /-- `GetInterface`. -/
  getInterface (ifname : Str) : World → Option Str × World
  /-- The property `Group` of an interface object. -/
  group (interface : Str) : World → Option Str × World
  /-- The property `SSID` of a group object. -/
  ssid (group : Str) : World → Option Bytes × World
  /-- The property `Passphrase` of a group object. -/
  passphrase (group : Str) : World → Option Str × World
  /-- `WPS.Start` of an interface object, as registrar with a PIN. -/
  wpsStart (interface pin : Str) : World → Option Unit × World
  /-- `GroupAdd`. -/
  groupAdd (frequency : Nat) : World → Option Unit × World
  /-- The main loop takes the oldest `GroupStarted`. -/
  groupStarted : World → Option (GroupStarted × World)
  /-- Time passes between the calls. -/
  wait : World → World

/-- A group: the name of its interface, the paths of its two objects, and its network. -/
structure Group where
  ifname : Str
  interface : Str
  object : Str
  ssid : Bytes
  passphrase : Str
  deriving DecidableEq

/-- The network of a group, as castd gives it. -/
def Group.credentials (g : Group) : Str × Str := (decode g.ssid, g.passphrase)

/-- The announcement is that of a group. -/
structure GroupStarted.Of (signal : GroupStarted) (g : Group) : Prop where
  object : signal.groupObject = g.object
  interface : signal.interfaceObject = [] ∨ signal.interfaceObject = g.interface

/-- What is to be known of a world: the group there is, and the announcements that are still to be
delivered, oldest first. -/
structure GroupsView where
  live : Option Group := none
  waiting : List GroupStarted := []
  deriving DecidableEq

/-- Groups are removed, and made with an announcement. -/
inductive Evolves (v : GroupsView) : GroupsView → Prop
  | refl : Evolves v v
  | removed {w : GroupsView} (before : Evolves v w) : Evolves v { w with live := none }
  | made {w : GroupsView} (before : Evolves v w) {g : Group} {signal : GroupStarted}
    (announces : signal.Of g) :
    Evolves v { live := some g, waiting := w.waiting ++ [signal] }

/-- What the name of a group's interface starts with. -/
def groupPrefix (interfaceName : Str) : Str := "p2p-".toList ++ interfaceName ++ "-".toList

/-- A call that was answered was answered about the group there is. -/
structure Answers {World α : Type} (view : World → GroupsView) (w : World)
    (call : Option α × World) (about : Group → α → Prop) : Prop where
  evolves : Evolves (view w) (view call.2)
  true_of : ∀ a, call.1 = some a → ∃ g, (view call.2).live = some g ∧ about g a

/-- What castd relies on. An interface that is named like a group's is that of the group there is,
and an object of a group answers only as long as the group is there. -/
structure Wpas.Documented {World : Type} (wpas : Wpas World) (interfaceName : Str)
    (view : World → GroupsView) : Prop where
  listdir : ∀ w, Evolves (view w) (view (wpas.listdir w).2)
  getInterface : ∀ ifname w, (groupPrefix interfaceName).isPrefixOf ifname = true →
    Answers view w (wpas.getInterface ifname w) fun g path => path = g.interface
  group : ∀ interface w, Answers view w (wpas.group interface w) fun g path =>
    interface = g.interface ∧ path = g.object
  ssid : ∀ object w, Answers view w (wpas.ssid object w) fun g ssid =>
    object = g.object ∧ ssid = g.ssid
  passphrase : ∀ object w, Answers view w (wpas.passphrase object w) fun g passphrase =>
    object = g.object ∧ passphrase = g.passphrase
  wpsStart : ∀ interface pin w, Evolves (view w) (view (wpas.wpsStart interface pin w).2)
  groupAdd : ∀ frequency w, Evolves (view w) (view (wpas.groupAdd frequency w).2)
  groupStarted : ∀ w signal w', wpas.groupStarted w = some (signal, w') →
    view w = { view w' with waiting := signal :: (view w').waiting }
  wait : ∀ w, Evolves (view w) (view (wpas.wait w))

/-- The group is there, and castd has heard of all there were. -/
structure Settled (v : GroupsView) (g : Group) : Prop where
  live : v.live = some g
  heard : v.waiting = []

/-- What is asked about the group there is is answered, and its interface is listed first of those
named like a group's. -/
structure Wpas.Prompt {World : Type} (wpas : Wpas World) (interfaceName : Str)
    (view : World → GroupsView) : Prop where
  listdir : ∀ w g, Settled (view (wpas.listdir w).2) g → ∃ names,
    (wpas.listdir w).1 = some names ∧
      (names.find? fun name => (groupPrefix interfaceName).isPrefixOf name) = some g.ifname
  getInterface : ∀ w g, Settled (view (wpas.getInterface g.ifname w).2) g →
    (wpas.getInterface g.ifname w).1 ≠ none
  group : ∀ w g, Settled (view (wpas.group g.interface w).2) g →
    (wpas.group g.interface w).1 ≠ none
  ssid : ∀ w g, Settled (view (wpas.ssid g.object w).2) g → (wpas.ssid g.object w).1 ≠ none
  passphrase : ∀ w g, Settled (view (wpas.passphrase g.object w).2) g →
    (wpas.passphrase g.object w).1 ≠ none

/-! ## The methods -/

/-- What the methods work on. -/
structure Asked (World : Type) where
  owner : P2PGroupOwner
  world : World
  /-- The calls of `WPS.Start`, the latest first: the interface object and the PIN. -/
  starts : List (Str × Str) := []
  deriving DecidableEq

/-- A method of `P2PGroupOwner` that asks about groups. -/
abbrev Asking (World : Type) := EStateM GroupError (Asked World)

/-- A D-Bus call. -/
def ask {World α : Type} (call : World → Option α × World) : Asking World α := fun s =>
  match call s.world with
  | (some a, w) => .ok a { s with world := w }
  | (none, w) => .error .dbusException { s with world := w }

/-- An assignment to fields of the object. -/
def assign {World : Type} (f : P2PGroupOwner → P2PGroupOwner) : Asking World Unit :=
  modify fun s => { s with owner := f s.owner }

/-- `except (dbus.DBusException, RuntimeError)`. -/
def orElse {World α : Type} (x : Asking World α) (a : α) : Asking World α :=
  tryCatch x fun
  | .valueError error => throw (.valueError error)
  | _ => return a

namespace P2PGroupOwner

variable {World : Type} (wpas : Wpas World)

/-- `_existing_group_interface`. -/
def existingGroupInterface : Asking World (Option Str) := fun s =>
  match wpas.listdir s.world with
  | (some names, w) =>
    .ok (names.find? fun name => (groupPrefix s.owner.interfaceName).isPrefixOf name)
      { s with world := w }
  | (none, w) => .ok none { s with world := w }

/-- `get_group_interface_name`. -/
def getGroupInterfaceName : Asking World (Option Str) := existingGroupInterface wpas

/-- `start_group`. -/
def startGroup : Asking World Unit := do
  match ← existingGroupInterface wpas with
  | some _ => return ()
  | none =>
    let s ← get
    tryCatch (ask (wpas.groupAdd s.owner.freqMhz)) fun _ =>
      throw (.groupAddFailed s.owner.interfaceName)

/-- `_group_interface_object`. -/
def groupInterfaceObject : Asking World Str := do
  let s ← get
  match s.owner.groupIfacePath with
  | some path => return path
  | none =>
    match ← existingGroupInterface wpas with
    | none => throw .noGroup
    | some ifname => ask (wpas.getInterface ifname)

/-- `authorize_display_pin`. -/
def authorizeDisplayPin (pin : Str) : Asking World Unit := do
  let path ← groupInterfaceObject wpas
  modify fun s => { s with starts := (path, pin) :: s.starts }
  ask (wpas.wpsStart path pin)

/-- `_read_group_credentials`. -/
def readGroupCredentials (path : Str) : Asking World (Option (Str × Str)) :=
  tryCatch (do
    let ssid ← ask (wpas.ssid path)
    let passphrase ← ask (wpas.passphrase path)
    return some (decode ssid, passphrase)) fun
  | .dbusException => return none
  | e => throw e

/-- The group object that `get_group_credentials` resolves. -/
def resolveGroup : Asking World (Option Str) :=
  orElse (do
    let path ← groupInterfaceObject wpas
    let group ← ask (wpas.group path)
    return some group) none

/-- `get_group_credentials`. -/
def getGroupCredentials : Asking World (Option (Str × Str)) := do
  let s ← get
  match s.owner.groupCredentials with
  | some credentials => return some credentials
  | none =>
    match ← resolveGroup wpas with
    | none => return none
    | some path =>
      let credentials ← readGroupCredentials wpas path
      assign fun o => { o with groupCredentials := credentials }
      return credentials

/-- `_handle_display_pin_request` up to its callback, which is called when this returns. -/
def handleDisplayPinRequest (pin : Str) : Asking World Unit :=
  orElse (authorizeDisplayPin wpas pin) ()

/-- `_handle_group_started` up to its callback. -/
def handleGroupStarted (signal : GroupStarted) : Asking World Unit := do
  assign fun o =>
    { o with
      groupIfacePath :=
        if signal.interfaceObject = [] then none else some signal.interfaceObject }
  let credentials ← readGroupCredentials wpas signal.groupObject
  assign fun o => { o with groupCredentials := credentials }

/-- A method that is called. They are called one at a time, by `start` and then by the main loop. -/
inductive Called
  | wait
  | getGroupInterfaceName
  | startGroup
  | getGroupCredentials
  | handleGroupStarted
  | handleDisplayPinRequest (pin : Str)
  deriving DecidableEq

/-- The step function. -/
def step (s : Asked World) : Called → Option (Asked World)
  | .wait => some { s with world := wpas.wait s.world }
  | .getGroupInterfaceName => some (stateAfter (getGroupInterfaceName wpas s))
  | .startGroup => some (stateAfter (startGroup wpas s))
  | .getGroupCredentials => some (stateAfter (getGroupCredentials wpas s))
  | .handleGroupStarted => (wpas.groupStarted s.world).map fun (signal, w) =>
      stateAfter (handleGroupStarted wpas signal { s with world := w })
  | .handleDisplayPinRequest pin => some (stateAfter (handleDisplayPinRequest wpas pin s))

/-- The runs of an owner in a world. -/
def system (owner : P2PGroupOwner) (w : World) : System (Asked World) Called where
  init := { owner := owner, world := w }
  step := step wpas

end P2PGroupOwner

/-! ## Settled worlds -/

section

variable {u v w : GroupsView} {g : Group}

private theorem Evolves.trans (first : Evolves u v) (rest : Evolves v w) : Evolves u w := by
  induction rest with
  | refl => exact first
  | removed _ ih => exact .removed ih
  | made _ announces ih => exact .made ih announces

/-- A group that castd has heard of was there all the time: another would have been announced. -/
private theorem Settled.before (settled : Settled w g) (evolves : Evolves v w) : Settled v g := by
  induction evolves with
  | refl => exact settled
  | removed _ _ => cases settled.live
  | made _ _ _ => exact absurd settled.heard (List.append_ne_nil_of_right_ne_nil _ (by simp))

/-- While announcements wait, the last is that of the group there is. -/
def AnnouncedLast (v : GroupsView) : Prop :=
  ∀ g, v.live = some g → ∀ signal, v.waiting.getLast? = some signal → signal.Of g

private theorem AnnouncedLast.later (last : AnnouncedLast v) (evolves : Evolves v w) :
    AnnouncedLast w := by
  induction evolves with
  | refl => exact last
  | removed _ _ => exact nofun
  | made _ announces _ =>
    intro g there signal waits
    cases there
    rw [List.getLast?_concat] at waits
    cases waits
    exact announces

end

/-! ## What is kept -/

/-- What is kept about a group is kept about this one. -/
structure P2PGroupOwner.KeepsOf (owner : P2PGroupOwner) (g : Group) : Prop where
  path : owner.groupIfacePath = none ∨ owner.groupIfacePath = some g.interface
  credentials : owner.groupCredentials = none ∨ owner.groupCredentials = some g.credentials

section

variable {World : Type} {wpas : Wpas World} {interfaceName : Str} {view : World → GroupsView}
  {s : Asked World} {α : Type}

/-- What every run keeps: what the owner keeps is kept of the group that is settled. -/
structure Asked.Kept (interfaceName : Str) (view : World → GroupsView) (s : Asked World) :
    Prop where
  name : s.owner.interfaceName = interfaceName
  last : AnnouncedLast (view s.world)
  kept : ∀ g, Settled (view s.world) g → s.owner.KeepsOf g

/-- With a `wpa_supplicant` that answers there is no group that is settled. -/
def Lost (wpas : Wpas World) (interfaceName : Str) (view : World → GroupsView) (w : World) : Prop :=
  wpas.Prompt interfaceName view → ∀ g, ¬ Settled (view w) g

private theorem Lost.later {w w' : World} (lost : Lost wpas interfaceName view w)
    (evolves : Evolves (view w) (view w')) : Lost wpas interfaceName view w' :=
  fun prompt g settled => lost prompt g (settled.before evolves)

private theorem Asked.Kept.later {w : World} (h : s.Kept interfaceName view)
    (evolves : Evolves (view s.world) (view w)) :
    ({ s with world := w } : Asked World).Kept interfaceName view :=
  ⟨h.name, h.last.later evolves, fun g settled => h.kept g (settled.before evolves)⟩

private theorem ask_ends {call : World → Option α × World} {about : Group → α → Prop}
    (answers : Answers view s.world (call s.world) about) {returns : α → Asked World → Prop}
    {raises : GroupError → Asked World → Prop}
    (ok : ∀ a w, Evolves (view s.world) (view w) → (∀ g, Settled (view w) g → about g a) →
      returns a { s with world := w })
    (error : (call s.world).1 = none → raises .dbusException { s with world := (call s.world).2 }) :
    Ends (ask call) returns raises s := by
  obtain ⟨evolves, true_of⟩ := answers
  unfold Ends ask
  cases done : call s.world with
  | mk answer w =>
    rw [done] at evolves true_of error
    cases answer with
    | some a =>
      refine ok a w evolves fun g settled => ?_
      obtain ⟨h, live, about⟩ := true_of a rfl
      cases settled.live.symm.trans live
      exact about
    | none => exact error rfl

variable (doc : wpas.Documented interfaceName view)

namespace P2PGroupOwner

include doc

private theorem existingGroupInterface_ends (name : s.owner.interfaceName = interfaceName)
    {returns : Option Str → Asked World → Prop} {raises : GroupError → Asked World → Prop}
    (found : ∀ ifname w, Evolves (view s.world) (view w) →
      (groupPrefix interfaceName).isPrefixOf ifname = true →
      (wpas.Prompt interfaceName view → ∀ g, Settled (view w) g → ifname = g.ifname) →
        returns (some ifname) { s with world := w })
    (missing : ∀ w, Evolves (view s.world) (view w) → Lost wpas interfaceName view w →
      returns none { s with world := w }) :
    Ends (existingGroupInterface wpas) returns raises s := by
  have evolves := doc.listdir s.world
  have listed : wpas.Prompt interfaceName view → ∀ g, Settled (view (wpas.listdir s.world).2) g →
      ((wpas.listdir s.world).1.bind fun names => names.find? fun name =>
        (groupPrefix interfaceName).isPrefixOf name) = some g.ifname := by
    intro prompt g settled
    obtain ⟨names, answered, first⟩ := prompt.listdir s.world g settled
    rw [answered]
    exact first
  unfold Ends existingGroupInterface
  rw [name]
  cases done : wpas.listdir s.world with
  | mk answer w =>
    rw [done] at evolves listed
    cases answer with
    | none =>
      exact missing w evolves fun prompt g settled => nomatch listed prompt g settled
    | some names =>
      dsimp only [Option.bind_some] at listed ⊢
      cases first : names.find? fun name => (groupPrefix interfaceName).isPrefixOf name with
      | none =>
        refine missing w evolves fun prompt g settled => ?_
        cases first.symm.trans (listed prompt g settled)
      | some ifname =>
        refine found ifname w evolves (List.find?_some first) fun prompt g settled => ?_
        exact Option.some.inj (first.symm.trans (listed prompt g settled))

private theorem groupInterfaceObject_ends (h : s.Kept interfaceName view)
    {returns : Str → Asked World → Prop} {raises : GroupError → Asked World → Prop}
    (ok : ∀ path w, Evolves (view s.world) (view w) →
      (∀ g, Settled (view w) g → path = g.interface) → returns path { s with world := w })
    (error : ∀ e w, (∀ v, e ≠ .valueError v) → Evolves (view s.world) (view w) →
      Lost wpas interfaceName view w → raises e { s with world := w }) :
    Ends (groupInterfaceObject wpas) returns raises s := by
  unfold groupInterfaceObject
  refine Ends.getBind ?_
  split
  next path kept =>
    refine Ends.pure (ok path s.world .refl fun g settled => ?_)
    have same := (h.kept g settled).path
    rw [kept] at same
    exact Option.some.inj (same.resolve_left (Option.some_ne_none path))
  next =>
    refine Ends.bind (existingGroupInterface_ends doc h.name (fun ifname w evolves like named => ?_)
      fun w evolves lost => Ends.throw (error _ w nofun evolves lost))
    refine ask_ends (doc.getInterface ifname w like) (fun path w' evolves' of => ?_)
      fun raised => ?_
    · exact ok path w' (evolves.trans evolves') of
    · have evolves' := (doc.getInterface ifname w like).evolves
      refine error _ _ nofun (evolves.trans evolves') fun prompt g settled => ?_
      have same := named prompt g (settled.before evolves')
      subst same
      exact prompt.getInterface w g settled raised

private theorem readGroupCredentials_ends {path : Str}
    (of : ∀ g, Settled (view s.world) g → path = g.object)
    {returns : Option (Str × Str) → Asked World → Prop} {raises : GroupError → Asked World → Prop}
    (ok : ∀ credentials w, Evolves (view s.world) (view w) →
      (∀ g, Settled (view w) g → credentials = none ∨ credentials = some g.credentials) →
      (credentials = none → Lost wpas interfaceName view w) →
        returns credentials { s with world := w }) :
    Ends (readGroupCredentials wpas path) returns raises s := by
  unfold readGroupCredentials
  refine Ends.tryCatch (Ends.bind (ask_ends (doc.ssid path s.world) (fun ssid w evolves its => ?_)
    fun raised => ?_))
  · refine Ends.bind (ask_ends (doc.passphrase path w) (fun passphrase w' evolves' its' => ?_)
      fun raised => ?_)
    · refine Ends.pure (ok _ w' (evolves.trans evolves') (fun g settled => .inr ?_) nofun)
      rw [(its g (settled.before evolves')).2, (its' g settled).2, Group.credentials]
    · have evolves' := (doc.passphrase path w).evolves
      refine Ends.pure (ok none _ (evolves.trans evolves') (fun _ _ => .inl rfl) fun _ => ?_)
      intro prompt g settled
      have same := of g (settled.before (evolves.trans evolves'))
      subst same
      exact prompt.passphrase w g settled raised
  · have evolves := (doc.ssid path s.world).evolves
    refine Ends.pure (ok none _ evolves (fun _ _ => .inl rfl) fun _ prompt g settled => ?_)
    have same := of g (settled.before evolves)
    subst same
    exact prompt.ssid s.world g settled raised

private theorem resolveGroup_ends (h : s.Kept interfaceName view)
    {returns : Option Str → Asked World → Prop} {raises : GroupError → Asked World → Prop}
    (ok : ∀ path w, Evolves (view s.world) (view w) →
      (∀ g, Settled (view w) g → path = g.object) → returns (some path) { s with world := w })
    (unresolved : ∀ w, Evolves (view s.world) (view w) → Lost wpas interfaceName view w →
      returns none { s with world := w }) :
    Ends (resolveGroup wpas) returns raises s := by
  unfold resolveGroup orElse
  refine Ends.tryCatch (Ends.bind (groupInterfaceObject_ends doc h (fun path w evolves of => ?_)
    fun e w caught evolves lost => ?_))
  · refine Ends.bind (ask_ends (doc.group path w) (fun object w' evolves' its => ?_)
      fun raised => ?_)
    · exact Ends.pure (ok object w' (evolves.trans evolves') fun g settled => (its g settled).2)
    · have evolves' := (doc.group path w).evolves
      refine Ends.pure (unresolved _ (evolves.trans evolves') fun prompt g settled => ?_)
      have same := of g (settled.before evolves')
      subst same
      exact prompt.group w g settled raised
  · have returned : Ends (pure none : Asking World (Option Str)) returns raises
        { s with world := w } := Ends.pure (unresolved w evolves lost)
    cases e with
    | valueError v => exact absurd rfl (caught v)
    | _ => exact returned

private theorem getGroupCredentials_ends (h : s.Kept interfaceName view) :
    Ends (getGroupCredentials wpas) (fun credentials t => t.Kept interfaceName view ∧
      (∀ g, Settled (view t.world) g → credentials = none ∨ credentials = some g.credentials) ∧
      (credentials = none → Lost wpas interfaceName view t.world)) (fun _ _ => False) s := by
  unfold getGroupCredentials
  refine Ends.getBind ?_
  split
  next credentials kept =>
    refine Ends.pure ⟨h, fun g settled => ?_, nofun⟩
    exact kept ▸ (h.kept g settled).credentials
  next none_kept =>
    refine Ends.bind (resolveGroup_ends doc h (fun path w evolves of => ?_)
      fun w evolves lost => ?_)
    · refine Ends.bind (readGroupCredentials_ends doc of
        fun credentials w' evolves' given lost => ?_)
      have h' := h.later (evolves.trans evolves')
      have keeps : ∀ g, Settled (view w') g →
          ({ s.owner with groupCredentials := credentials } : P2PGroupOwner).KeepsOf g :=
        fun g settled => ⟨(h'.kept g settled).path, given g settled⟩
      exact Ends.bind (Ends.modify (Ends.pure ⟨⟨h'.name, h'.last, keeps⟩, given, lost⟩))
    · exact Ends.pure ⟨h.later evolves, fun _ _ => .inl rfl, fun _ => lost⟩

private theorem handleGroupStarted_ends {signal : GroupStarted}
    (name : s.owner.interfaceName = interfaceName) (last : AnnouncedLast (view s.world))
    (of : ∀ g, Settled (view s.world) g → signal.Of g) :
    Ends (handleGroupStarted wpas signal) (fun _ t => t.Kept interfaceName view)
      (fun _ t => t.Kept interfaceName view) s := by
  refine Ends.bind (Ends.modify (Ends.bind ?_))
  refine readGroupCredentials_ends doc ?_ fun credentials w evolves given lost => ?_
  · exact fun g settled => (of g settled).object
  refine Ends.modify ⟨name, last.later evolves, fun g settled => ⟨?_, given g settled⟩⟩
  dsimp only
  split
  next => exact .inl rfl
  next named =>
    have its := (of g (settled.before evolves)).interface
    exact .inr (congrArg some (its.resolve_left named))

/-- A request for a PIN ends well. It starts the registrar of the group that is settled with it, or
none; with a `wpa_supplicant` that answers it does. -/
private theorem handleDisplayPinRequest_ends (h : s.Kept interfaceName view) (pin : Str) :
    Ends (handleDisplayPinRequest wpas pin) (fun _ t => t.Kept interfaceName view ∧
      ((t.starts = s.starts ∧ Lost wpas interfaceName view t.world) ∨
        ∃ path, t.starts = (path, pin) :: s.starts ∧
          ∀ g, Settled (view t.world) g → path = g.interface)) (fun _ _ => False) s := by
  unfold handleDisplayPinRequest orElse authorizeDisplayPin
  refine Ends.tryCatch (Ends.bind (groupInterfaceObject_ends doc h (fun path w evolves of => ?_)
    fun e w caught evolves lost => ?_))
  · refine Ends.bind (Ends.modify ?_)
    have evolves' := doc.wpsStart path pin w
    have armed : ∀ g, Settled (view (wpas.wpsStart path pin w).2) g → path = g.interface :=
      fun g settled => of g (settled.before evolves')
    have kept := h.later (evolves.trans evolves')
    unfold Ends ask
    cases done : wpas.wpsStart path pin w with
    | mk answer w' =>
      rw [done] at armed kept
      cases answer <;> exact ⟨⟨kept.name, kept.last, kept.kept⟩, .inr ⟨path, rfl, armed⟩⟩
  · have returned : Ends (pure () : Asking World Unit) (fun _ t => t.Kept interfaceName view ∧
        ((t.starts = s.starts ∧ Lost wpas interfaceName view t.world) ∨
          ∃ path, t.starts = (path, pin) :: s.starts ∧
            ∀ g, Settled (view t.world) g → path = g.interface)) (fun _ _ => False)
        { s with world := w } := Ends.pure ⟨h.later evolves, .inl ⟨rfl, lost⟩⟩
    cases e with
    | valueError v => exact absurd rfl (caught v)
    | _ => exact returned

private theorem startGroup_ends (h : s.Kept interfaceName view) :
    Ends (startGroup wpas) (fun _ t => t.Kept interfaceName view)
      (fun _ t => t.Kept interfaceName view) s := by
  unfold startGroup
  refine Ends.bind (existingGroupInterface_ends doc h.name (fun _ w evolves _ _ =>
    Ends.pure (h.later evolves)) fun w evolves _ => ?_)
  refine Ends.getBind (Ends.tryCatch ?_)
  have kept := h.later (evolves.trans (doc.groupAdd s.owner.freqMhz w))
  unfold Ends ask
  cases done : wpas.groupAdd s.owner.freqMhz w with
  | mk answer w' =>
    rw [done] at kept
    cases answer <;> exact kept

private theorem kept_step {called : Called} {t : Asked World} (h : s.Kept interfaceName view)
    (hstep : step wpas s called = some t) : t.Kept interfaceName view := by
  cases called with
  | wait =>
    cases hstep
    exact h.later (doc.wait s.world)
  | getGroupInterfaceName =>
    cases hstep
    have ends : Ends (getGroupInterfaceName wpas) (fun _ t => t.Kept interfaceName view)
        (fun _ t => t.Kept interfaceName view) s :=
      existingGroupInterface_ends doc h.name (fun _ w evolves _ _ => h.later evolves)
        fun w evolves _ => h.later evolves
    exact ends.left
  | startGroup =>
    cases hstep
    exact (startGroup_ends doc h).left
  | getGroupCredentials =>
    cases hstep
    exact ((getGroupCredentials_ends doc h).mono (fun _ _ => And.left) fun _ _ => False.elim).left
  | handleGroupStarted =>
    obtain ⟨⟨signal, w⟩, delivered, rfl⟩ := Option.map_eq_some_iff.mp hstep
    have taken := doc.groupStarted s.world signal w delivered
    have last := h.last
    rw [AnnouncedLast, taken] at last
    refine (handleGroupStarted_ends (s := { s with world := w }) doc h.name ?_ ?_).left
    · intro g live signal' waits
      refine last g live signal' ?_
      rw [List.getLast?_cons, waits]
      rfl
    · intro g settled
      refine last g settled.live signal ?_
      rw [List.getLast?_cons, settled.heard]
      rfl
  | handleDisplayPinRequest pin =>
    cases hstep
    exact ((handleDisplayPinRequest_ends doc h pin).mono (fun _ _ => And.left)
      fun _ _ => False.elim).left

/-- What every run keeps, from a new owner for which nothing waits. -/
private theorem kept_of_reachable {owner : P2PGroupOwner} {w : World}
    (name : owner.interfaceName = interfaceName) (noPath : owner.groupIfacePath = none)
    (noCredentials : owner.groupCredentials = none) (quiet : (view w).waiting = [])
    (reached : (system wpas owner w).Reachable s) : s.Kept interfaceName view := by
  refine reached.invariant (I := Asked.Kept interfaceName view) ⟨name, ?_, fun g _ => ?_⟩ ?_
  · intro g _ signal waits
    rw [show view (system wpas owner w).init.world = view w from rfl, quiet] at waits
    cases waits
  · exact ⟨.inl noPath, .inl noCredentials⟩
  · exact fun t l u _ kept _ hstep => kept_step doc kept hstep

end P2PGroupOwner

end

namespace P2PGroupOwner

variable {World : Type} {wpas : Wpas World} {view : World → GroupsView} {owner : P2PGroupOwner}
  {w : World} {s : Asked World}

end P2PGroupOwner

/-! ## A network that is replaced -/

/-- What happens before a call. -/
inductive Happening
  | nothing
  | removed
  | made (name : Char)
  deriving DecidableEq

/-- A world of groups that are known by a character each. -/
structure Scripted where
  live : Option Char := none
  waiting : List Char := []
  script : List Happening := []
  deriving DecidableEq

namespace Scripted

/-- A group of `wlan1`. -/
def direct (name : Char) : Group where
  ifname := groupPrefix "wlan1".toList ++ [name]
  interface := "/Interfaces/".toList ++ [name]
  object := "/Groups/".toList ++ [name]
  ssid := encode ("DIRECT-".toList ++ [name])
  passphrase := "12345678".toList

def view (w : Scripted) : GroupsView where
  live := w.live.map direct
  waiting := w.waiting.map fun name => ⟨(direct name).object, (direct name).interface⟩

/-- The world in which the next call is answered. -/
def next (w : Scripted) : Scripted :=
  match w.script with
  | [] => w
  | .nothing :: script => { w with script := script }
  | .removed :: script => { w with live := none, script := script }
  | .made name :: script => { live := some name, waiting := w.waiting ++ [name], script := script }

/-- An answer about the group there is, if that is the one that was asked about. -/
def about {α : Type} (asked : Group → Bool) (read : Group → α) (w : Scripted) :
    Option α × Scripted :=
  ((w.next.live.map direct).bind fun g => if asked g then some (read g) else none, w.next)

/-- A `wpa_supplicant` that answers about the group there is, and adds none. -/
def wpas : Wpas Scripted where
  listdir w :=
    (some ("lo".toList :: (w.next.live.map fun name => (direct name).ifname).toList), w.next)
  getInterface ifname := about (·.ifname = ifname) Group.interface
  group interface := about (·.interface = interface) Group.object
  ssid object := about (·.object = object) Group.ssid
  passphrase object := about (·.object = object) Group.passphrase
  wpsStart interface _ := about (·.interface = interface) fun _ => ()
  groupAdd _ w := (none, w.next)
  groupStarted w :=
    match w.waiting with
    | [] => none
    | name :: waiting =>
      some (⟨(direct name).object, (direct name).interface⟩, { w with waiting := waiting })
  wait := next

private theorem evolves_next (w : Scripted) : Evolves w.view w.next.view := by
  obtain ⟨live, waiting, script⟩ := w
  cases script with
  | nil => exact .refl
  | cons happening script =>
    cases happening with
    | nothing => exact .refl
    | removed => exact .removed .refl
    | made name =>
      have announced : (next ⟨live, waiting, .made name :: script⟩).view =
          { live := some (direct name)
            waiting := (view ⟨live, waiting, .made name :: script⟩).waiting ++
              [⟨(direct name).object, (direct name).interface⟩] } := by
        simp only [next, view, List.map_append, List.map_cons, List.map_nil, Option.map_some]
      rw [announced]
      exact .made .refl ⟨rfl, .inr rfl⟩

private theorem about_answers {α : Type} {asked : Group → Bool} {read : Group → α}
    {P : Group → α → Prop} (of : ∀ g, asked g = true → P g (read g)) (w : Scripted) :
    Answers view w (about asked read w) P := by
  refine ⟨w.evolves_next, fun a answered => ?_⟩
  obtain ⟨g, live, given⟩ := Option.bind_eq_some_iff.mp answered
  split at given
  next same =>
    cases given
    exact ⟨g, live, of g same⟩
  next => cases given

private theorem about_ne_none {α : Type} {asked : Group → Bool} {read : Group → α} {w : Scripted}
    {g : Group} (settled : Settled (about asked read w).2.view g) (same : asked g = true) :
    (about asked read w).1 ≠ none := by
  have live : w.next.live.map direct = some g := settled.live
  rw [about, live, Option.bind_some, if_pos same]
  exact Option.some_ne_none _

private theorem wpas_documented : wpas.Documented "wlan1".toList view where
  listdir := evolves_next
  getInterface ifname w _ := by
    refine ⟨w.evolves_next, fun a answered => ?_⟩
    obtain ⟨g, live, given⟩ := Option.bind_eq_some_iff.mp answered
    split at given
    next => exact ⟨g, live, (Option.some.inj given).symm⟩
    next => cases given
  group _ := about_answers fun _ same => ⟨(of_decide_eq_true same).symm, rfl⟩
  ssid _ := about_answers fun _ same => ⟨(of_decide_eq_true same).symm, rfl⟩
  passphrase _ := about_answers fun _ same => ⟨(of_decide_eq_true same).symm, rfl⟩
  wpsStart _ _ := evolves_next
  groupAdd _ := evolves_next
  groupStarted w signal w' taken := by
    obtain ⟨live, waiting, script⟩ := w
    cases waiting with
    | nil => cases taken
    | cons name waiting =>
      cases taken
      rfl
  wait := evolves_next

private theorem wpas_prompt : wpas.Prompt "wlan1".toList view where
  listdir w g settled := by
    refine ⟨_, rfl, ?_⟩
    have live : w.next.live.map direct = some g := settled.live
    obtain ⟨name, there, rfl⟩ := Option.map_eq_some_iff.mp live
    have like : (groupPrefix "wlan1".toList).isPrefixOf (direct name).ifname = true :=
      List.isPrefixOf_iff_prefix.mpr (List.prefix_append _ _)
    rw [there, Option.map_some, Option.toList_some, List.find?_cons_of_neg (by decide),
      List.find?_cons_of_pos like]
  getInterface _ _ settled := about_ne_none settled (decide_eq_true rfl)
  group _ _ settled := about_ne_none settled (decide_eq_true rfl)
  ssid _ _ settled := about_ne_none settled (decide_eq_true rfl)
  passphrase _ _ settled := about_ne_none settled (decide_eq_true rfl)

end Scripted

open Scripted

instance (v : GroupsView) (g : Group) : Decidable (Settled v g) :=
  decidable_of_iff (v.live = some g ∧ v.waiting = [])
    ⟨fun h => ⟨h.1, h.2⟩, fun h => ⟨h.live, h.heard⟩⟩

namespace P2PGroupOwner

/-- The owner of these runs. -/
def wlan1 : P2PGroupOwner :=
  { interfaceName := "wlan1".toList, deviceName := "Room".toList, freqMhz := 5180 }

/-- castd starts where there is a group, which is replaced later. -/
def replaced : Scripted :=
  { live := some 'a', script := List.replicate 6 .nothing ++ [.removed, .made 'b'] }

/-- The network of the first group is kept, and the replacement is heard of. -/
def hears : List Called :=
  [.startGroup, .getGroupCredentials, .wait, .wait, .getGroupCredentials, .handleGroupStarted]

end P2PGroupOwner

end Castd.P2p
