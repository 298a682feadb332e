import Castd.Lib.System
import Castd.Lib.Utf8

/-!
# The group network

`GroupNetwork` of `castd/p2p/group_network.py`, between the kernel's interfaces and the `dnsmasq`
children. An interface that is removed loses its addresses, and a `dnsmasq` survives that;
`ip addr replace` fails where there is no interface, and may fail where there is one.

`start` returns early when its child is alive and was started for an interface of the same name. It
does not look at the interface, and `start_right_iff` says when that is noticed.
-/

namespace Castd.P2p

open Lib

/-! ## Commands -/

/-- `SINK_IP`. -/
def sinkIp : Str := "192.168.173.1".toList

/-- `SINK_IP` with `PREFIX_LEN`, as `ip` takes it. -/
def sinkAddress : Str := sinkIp ++ "/24".toList

/-- `build_ip_assign_command`. -/
def buildIpAssignCommand (interfaceName : Str) : List Str :=
  ["ip".toList, "addr".toList, "replace".toList, sinkAddress, "dev".toList, interfaceName]

/-- `build_dnsmasq_command`. -/
def buildDnsmasqCommand (interfaceName : Str) : List Str :=
  ["dnsmasq".toList, "--keep-in-foreground".toList, "--conf-file=/dev/null".toList,
    "--port=0".toList, "--interface=".toList ++ interfaceName, "--bind-interfaces".toList,
    "--dhcp-range=192.168.173.50,192.168.173.150,12h".toList,
    "--dhcp-leasefile=/run/castd-dnsmasq.leases".toList, "--no-ping".toList]

/-! ## The world -/

/-- `GroupNetwork`, with `_dnsmasq` as the number of a child. -/
structure GroupNetwork where
  dnsmasq : Option Nat := none
  interfaceName : Option Str := none
  deriving DecidableEq

/-- The group network, the interfaces that exist with their addresses, and the children spawned so
far with what they were called with. -/
structure GroupWorld where
  network : GroupNetwork := {}
  addresses : Str → Option (List Str) := fun _ => none
  spawned : Nat := 0
  commands : Nat → List Str := fun _ => []
  alive : Nat → Bool := fun _ => false

namespace GroupWorld

/-- `ip addr replace ADDRESS dev DEVICE`, `none` where it exits with an error. -/
def ip (w : GroupWorld) (command : List Str) (succeeds : Bool) : Option GroupWorld :=
  match command with
  | [_, _, _, address, _, device] =>
    match w.addresses device with
    | some assigned =>
      if succeeds then
        some { w with
          addresses := Function.update w.addresses device
            (some (if address ∈ assigned then assigned else assigned ++ [address])) }
      else none
    | none => none
  | _ => none

/-- `GroupNetwork.stop`. -/
def stop (w : GroupWorld) : GroupWorld :=
  match w.network.dnsmasq with
  | some n => { w with network := {}, alive := Function.update w.alive n false }
  | none => { w with network := { w.network with interfaceName := none } }

/-- The test at the start of `GroupNetwork.start`. -/
def upOn (w : GroupWorld) (interfaceName : Str) : Bool :=
  match w.network.dnsmasq with
  | some n => w.alive n && w.network.interfaceName == some interfaceName
  | none => false

/-- A successful `Popen` in `GroupNetwork.start`, and the two assignments. -/
def launch (w : GroupWorld) (interfaceName : Str) : GroupWorld :=
  { w with
    network := { dnsmasq := some w.spawned, interfaceName := some interfaceName }
    spawned := w.spawned + 1
    commands := Function.update w.commands w.spawned (buildDnsmasqCommand interfaceName)
    alive := Function.update w.alive w.spawned true }

/-- `GroupNetwork.start`, and whether it raises. -/
def start (w : GroupWorld) (interfaceName : Str) (ipSucceeds popenSucceeds : Bool) :
    GroupWorld × Bool :=
  if w.upOn interfaceName then (w, false)
  else
    match w.stop.ip (buildIpAssignCommand interfaceName) ipSucceeds with
    | none => (w.stop, true)
    | some assigned =>
      if popenSucceeds then (assigned.launch interfaceName, false) else (assigned, true)

end GroupWorld

/-- A call, or something that happens to a child or an interface. -/
inductive GroupLabel
  | start (interfaceName : Str) (ipSucceeds popenSucceeds : Bool)
  | stop
  /-- A child exits by itself. -/
  | dnsmasqExits (number : Nat)
  | removed (interfaceName : Str)
  | created (interfaceName : Str)
  deriving DecidableEq

namespace GroupWorld

/-- The step function. -/
def step (w : GroupWorld) : GroupLabel → Option GroupWorld
  | .start interfaceName ipSucceeds popenSucceeds =>
    some (w.start interfaceName ipSucceeds popenSucceeds).1
  | .stop => some w.stop
  | .dnsmasqExits n =>
    if w.alive n then some { w with alive := Function.update w.alive n false } else none
  | .removed interfaceName =>
    some { w with addresses := Function.update w.addresses interfaceName none }
  | .created interfaceName =>
    if w.addresses interfaceName = none then
      some { w with addresses := Function.update w.addresses interfaceName (some []) }
    else none

/-- The system. -/
def system : System GroupWorld GroupLabel := { init := {}, step := step }

/-- The sink's address is assigned on an interface. -/
def HasAddress (w : GroupWorld) (interfaceName : Str) : Prop :=
  ∃ assigned, w.addresses interfaceName = some assigned ∧ sinkAddress ∈ assigned

/-- Exactly one child is alive, and it serves an interface: one with that number, not another of the
same name that came after it. -/
def OneServes (w : GroupWorld) (interfaceName : Str) : Prop :=
  ∃ n, w.alive n = true ∧ ("--interface=".toList ++ interfaceName) ∈ w.commands n ∧
    ∀ m, w.alive m = true → m = n

/-- A call of `start` that returns on an interface that exists leaves a usable network there, and
one that raises leaves no child and nothing that a later call takes for done. -/
structure StartRight (w : GroupWorld) (interfaceName : Str) (result : GroupWorld × Bool) :
    Prop where
  returns : result.2 = false → w.addresses interfaceName ≠ none →
    result.1.HasAddress interfaceName ∧ result.1.OneServes interfaceName
  raises : result.2 = true →
    (∀ n, result.1.alive n = false) ∧ ∀ other, result.1.upOn other = false

/-- What every run keeps: the only child that may be alive is the one in `_dnsmasq`, and it serves
`_interface_name`. -/
structure Tidy (w : GroupWorld) : Prop where
  only : ∀ n, w.alive n = true → w.network.dnsmasq = some n
  serves : ∀ n, w.network.dnsmasq = some n →
    ∃ interfaceName, w.network.interfaceName = some interfaceName ∧
      w.commands n = buildDnsmasqCommand interfaceName

/-! ## The calls -/

@[simp] theorem stop_network (w : GroupWorld) : w.stop.network = {} := by
  obtain ⟨⟨dnsmasq, interfaceName⟩, _, _, _, _⟩ := w
  cases dnsmasq <;> rfl

private theorem Tidy.stop_alive {w : GroupWorld} (h : w.Tidy) (n : Nat) :
    w.stop.alive n = false := by
  refine Bool.eq_false_iff.mpr fun alive => ?_
  unfold stop at alive
  split at alive
  next m hm =>
    by_cases same : n = m
    · dsimp only at alive
      rw [same, Function.update_self] at alive
      cases alive
    · dsimp only at alive
      rw [Function.update_of_ne same] at alive
      rw [h.only n alive] at hm
      cases hm
      exact same rfl
  next none =>
    rw [h.only n alive] at none
    cases none

private theorem interface_mem_command (interfaceName : Str) :
    ("--interface=".toList ++ interfaceName) ∈ buildDnsmasqCommand interfaceName := by
  unfold buildDnsmasqCommand
  simp

private theorem ip_assigns {w w' : GroupWorld} {interfaceName : Str} {succeeds : Bool}
    (assigned : w.ip (buildIpAssignCommand interfaceName) succeeds = some w') :
    w'.HasAddress interfaceName ∧ w' = { w with addresses := w'.addresses } := by
  dsimp only [ip, buildIpAssignCommand] at assigned
  split at assigned
  next before _ =>
    split at assigned
    next =>
      cases assigned
      refine ⟨⟨_, Function.update_self _ _ _, ?_⟩, rfl⟩
      split
      next there => exact there
      next => exact List.mem_concat_self
    next => cases assigned
  next => cases assigned

private theorem alive_launch {w : GroupWorld} (dead : ∀ n, w.alive n = false) {interfaceName : Str}
    {n : Nat} (alive : (w.launch interfaceName).alive n = true) : n = w.spawned := by
  by_contra other
  dsimp only [launch] at alive
  rw [Function.update_of_ne other, dead n] at alive
  cases alive

private theorem upOn_of_network {w : GroupWorld} (h : w.network = {}) (interfaceName : Str) :
    w.upOn interfaceName = false := by
  unfold upOn
  rw [h]

private theorem Tidy.oneServes {w : GroupWorld} (h : w.Tidy) {interfaceName : Str}
    (up : w.upOn interfaceName = true) : w.OneServes interfaceName := by
  unfold upOn at up
  split at up
  next n hn =>
    obtain ⟨alive, name⟩ := Bool.and_eq_true_iff.mp up
    obtain ⟨served, hserved, command⟩ := h.serves n hn
    rw [hserved, beq_iff_eq, Option.some.injEq] at name
    refine ⟨n, alive, ?_, fun m hm => ?_⟩
    · rw [command, name]
      exact interface_mem_command interfaceName
    · have both := (h.only m hm).symm.trans hn
      exact Option.some.inj both
  next => cases up

/-- A call that does not return early stops what there is; then it raises, or assigns the address
and launches a child. -/
private theorem start_cases {w : GroupWorld} {interfaceName : Str}
    (down : w.upOn interfaceName = false)
    (ipSucceeds popenSucceeds : Bool) :
    ∃ w', w' = { w.stop with addresses := w'.addresses } ∧
      (w.start interfaceName ipSucceeds popenSucceeds = (w', true) ∨
        w'.HasAddress interfaceName ∧
          w.start interfaceName ipSucceeds popenSucceeds = (w'.launch interfaceName, false)) := by
  unfold start
  rw [down, if_neg Bool.false_ne_true]
  cases ran : w.stop.ip (buildIpAssignCommand interfaceName) ipSucceeds with
  | none => exact ⟨w.stop, rfl, .inl rfl⟩
  | some assigned =>
    obtain ⟨address, kept⟩ := ip_assigns ran
    cases popenSucceeds with
    | true => exact ⟨assigned, kept, .inr ⟨address, rfl⟩⟩
    | false => exact ⟨assigned, kept, .inl rfl⟩

private theorem Tidy.startRight_of_down {w : GroupWorld} (h : w.Tidy) {interfaceName : Str}
    (down : w.upOn interfaceName = false) (ipSucceeds popenSucceeds : Bool) :
    StartRight w interfaceName (w.start interfaceName ipSucceeds popenSucceeds) := by
  obtain ⟨w', kept, raised | ⟨address, launched⟩⟩ :=
    start_cases down ipSucceeds popenSucceeds
  · rw [raised]
    refine ⟨fun returned => Bool.noConfusion returned, fun _ => ⟨fun n => ?_, fun other => ?_⟩⟩
    · rw [kept]
      exact h.stop_alive n
    · refine upOn_of_network ?_ other
      rw [kept]
      exact stop_network w
  · rw [launched]
    have dead : ∀ n, w'.alive n = false := by
      rw [kept]
      exact h.stop_alive
    refine ⟨fun _ _ => ⟨address, w'.spawned, Function.update_self _ _ _, ?_,
      fun m alive => alive_launch dead alive⟩, fun raised => Bool.noConfusion raised⟩
    dsimp only [launch]
    rw [Function.update_self]
    exact interface_mem_command interfaceName

theorem Tidy.step {w w' : GroupWorld} {l : GroupLabel} (h : w.Tidy)
    (hstep : w.step l = some w') : w'.Tidy := by
  have quiet : ∀ v : GroupWorld, v.network = {} → (∀ n, v.alive n = false) → v.Tidy := by
    intro v network dead
    refine ⟨fun n alive => ?_, fun n known => ?_⟩
    · rw [dead n] at alive
      cases alive
    · rw [network] at known
      cases known
  cases l with
  | start interfaceName ipSucceeds popenSucceeds =>
    cases hstep
    cases up : w.upOn interfaceName with
    | true =>
      unfold start
      rw [if_pos up]
      exact h
    | false =>
      obtain ⟨v, kept, raised | ⟨-, launched⟩⟩ := start_cases up ipSucceeds popenSucceeds
      · rw [raised]
        refine quiet v ?_ fun n => ?_
        · rw [kept]
          exact stop_network w
        · rw [kept]
          exact h.stop_alive n
      · rw [launched]
        have dead : ∀ n, v.alive n = false := by
          rw [kept]
          exact h.stop_alive
        refine ⟨fun n alive => ?_, ?_⟩
        · rw [alive_launch dead alive]
          rfl
        · rintro _ ⟨⟩
          exact ⟨interfaceName, rfl, Function.update_self _ _ _⟩
  | stop =>
    cases hstep
    exact quiet _ (stop_network w) h.stop_alive
  | dnsmasqExits n =>
    dsimp only [GroupWorld.step] at hstep
    split at hstep
    next =>
      cases hstep
      refine ⟨fun m alive => h.only m ?_, h.serves⟩
      exact eq_of_update alive Bool.false_ne_true
    next => cases hstep
  | removed interfaceName =>
    cases hstep
    exact ⟨h.only, h.serves⟩
  | created interfaceName =>
    dsimp only [GroupWorld.step] at hstep
    split at hstep
    next =>
      cases hstep
      exact ⟨h.only, h.serves⟩
    next => cases hstep

theorem tidy_of_reaches {w : GroupWorld} (reached : system.Reachable w) : w.Tidy := by
  refine reached.invariant ⟨fun n alive => ?_, fun n known => ?_⟩
    fun _ _ _ _ tidy _ hstep => tidy.step hstep
  · cases alive
  · cases known

/-! ## What a call leaves -/

/-- In every run, a call of `start` is right exactly when it does not find its child alive for an
interface of that name which exists, but without the address.

`start` returns early where its child is alive for the name. An interface that was made again under
the name has lost the address, and its `dnsmasq` serves the one that is gone. -/
theorem start_right_iff {w : GroupWorld} (reached : system.Reachable w) (interfaceName : Str)
    (ipSucceeds popenSucceeds : Bool) :
    StartRight w interfaceName (w.start interfaceName ipSucceeds popenSucceeds) ↔
      (w.upOn interfaceName = true → w.addresses interfaceName ≠ none →
        w.HasAddress interfaceName) := by
  have tidy := tidy_of_reaches reached
  cases up : w.upOn interfaceName with
  | true =>
    have early : w.start interfaceName ipSucceeds popenSucceeds = (w, false) := if_pos up
    rw [early]
    constructor
    · intro right _ present
      exact (right.returns rfl present).1
    · intro kept
      exact ⟨fun _ present => ⟨kept rfl present, tidy.oneServes up⟩,
        fun raised => Bool.noConfusion raised⟩
  | false =>
    refine iff_of_true (tidy.startRight_of_down up ipSucceeds popenSucceeds) fun found => ?_
    cases found

/-- The group comes up, goes and comes back under the same name. The interface has no address,
and the next call returns at once. -/
theorem recreated_interface_without_address :
    ∃ w, system.run [.created "p2p-wlan1-0".toList, .start "p2p-wlan1-0".toList true true,
        .removed "p2p-wlan1-0".toList, .created "p2p-wlan1-0".toList] = some w ∧
      ¬ StartRight w "p2p-wlan1-0".toList (w.start "p2p-wlan1-0".toList true true) := by
  obtain ⟨w, run, returned, before, bare⟩ : ∃ w, system.run
      [.created "p2p-wlan1-0".toList, .start "p2p-wlan1-0".toList true true,
        .removed "p2p-wlan1-0".toList, .created "p2p-wlan1-0".toList] = some w ∧
      (w.start "p2p-wlan1-0".toList true true).2 = false ∧
      w.addresses "p2p-wlan1-0".toList = some [] ∧
      (w.start "p2p-wlan1-0".toList true true).1.addresses "p2p-wlan1-0".toList = some [] :=
    System.exists_run (by decide +kernel)
  have present : w.addresses "p2p-wlan1-0".toList ≠ none := by
    rw [before]
    exact Option.some_ne_none _
  refine ⟨w, run, fun right => ?_⟩
  obtain ⟨⟨assigned, there, member⟩, -⟩ := right.returns returned present
  rw [bare] at there
  cases there
  cases member

/-- The first call of that run is right. -/
theorem first_start_right :
    ∃ w, system.run [.created "p2p-wlan1-0".toList] = some w ∧
      StartRight w "p2p-wlan1-0".toList (w.start "p2p-wlan1-0".toList true true) := by
  obtain ⟨w, run, down⟩ : ∃ w, system.run [.created "p2p-wlan1-0".toList] = some w ∧
      w.upOn "p2p-wlan1-0".toList = false := System.exists_run (by decide +kernel)
  refine ⟨w, run, (start_right_iff (System.runFrom_leads _ run) _ true true).2 fun up => ?_⟩
  rw [down] at up
  cases up

end GroupWorld

end Castd.P2p
