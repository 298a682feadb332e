import Castd.Main.Actions
import Castd.P2p.GroupOwner

/-!
# What sources see

A source that looks for sinks reads the Device Information in the IEs that `wpa_supplicant`
broadcasts. The pause and resume actions of the handlers publish the IEs again, over D-Bus, and
`set_session_available` swallows a call that fails.

`Broadcast` runs the handlers of `Castd.Main.Actions` against a `P2PGroupOwner`. The IEs always read
as those of a sink that can be dialled, and their availability is the one published last
(`Broadcast.Reads`).
-/

namespace Castd.Main

open Fsm Lib P2p

/-- The Device Information that a source reads. -/
def advertises (w : Supplicant) : Option DeviceInfo :=
  w.wfdIes.bind fun ies => (wfdSubelements.walk ies).bind fun records =>
    (records.find? (·.id = 0)).bind fun record => decodeDeviceInfo record.payload

/-- The handlers, with what they publish. -/
structure Broadcast where
  handlers : Handlers := {}
  p2p : Owned
  /-- The last call of `set_session_available` failed. -/
  stale : Bool := false

/-- A label of the handlers, with which D-Bus calls are answered. -/
structure BroadcastLabel where
  label : HandlerLabel
  answered : List Bool := []
  deriving DecidableEq

/-- What an action publishes. -/
def publishes : Action → Option Bool
  | .pauseMiracastDiscovery => some false
  | .resumeMiracastDiscovery => some true
  | _ => none

namespace Broadcast

/-- What the next statement of a handler publishes. -/
def publishing (s : Broadcast) : HandlerLabel → Option Bool
  | .handle _ => none
  | .run k => (s.handlers.handlers k).pending.head?.bind publishes

/-- The step function. -/
def step (s : Broadcast) (l : BroadcastLabel) : Option Broadcast :=
  (s.handlers.step l.label).map fun handlers =>
    match s.publishing l.label with
    | some available =>
      { handlers := handlers
        p2p := stateAfter (P2PGroupOwner.setSessionAvailable available
          { s.p2p with answered := l.answered })
        stale := !l.answered.headD true }
    | none => { s with handlers := handlers }

/-- The system, from an owner. -/
def system (p2p : Owned) : System Broadcast BroadcastLabel where
  init := { p2p := p2p }
  step := step

/-- The transitions are in order. -/
def InOrder (s : Broadcast) (l : BroadcastLabel) : Prop := Main.InOrder s.handlers l.label

instance (s : Broadcast) (l : BroadcastLabel) : Decidable (s.InOrder l) :=
  inferInstanceAs (Decidable (Main.InOrder _ _))

/-- A source reads the defaults, with an availability that is the one given last unless the call
failed. -/
def Reads (s : Broadcast) : Prop :=
  ∃ available, advertises s.p2p.supplicant = some { availableForSession := available } ∧
    (s.stale = false → available = s.handlers.daemon.sessionAvailable)

end Broadcast

/-! ## Publishing -/

private theorem advertises_of_built (available : Bool) :
    ∃ ies, buildWfdIes { availableForSession := available } = .ok ies ∧
      ∀ w : Supplicant, w.wfdIes = some ies →
        advertises w = some { availableForSession := available } := by
  let info : DeviceInfo := { availableForSession := available }
  obtain ⟨record, built, id, reads⟩ : ∃ record : wfdSubelements.Record,
      buildDeviceInfoSubelement info = .ok record.emit ∧ record.id = 0 ∧
        decodeDeviceInfo record.payload = some info := by
    have range : (Subelement.deviceInfo info).InRange :=
      ⟨⟨by decide +revert, by decide +revert⟩, ⟨by decide +revert, by decide +revert⟩,
        by decide +revert, by decide +revert⟩
    exact Subelement.build_describes range
  obtain ⟨coupled, builtCoupled, _⟩ :=
    @Subelement.build_describes .coupledSink trivial
  have emitted : buildCoupledSinkSubelement = coupled.emit := Except.ok.inj builtCoupled
  refine ⟨record.emit ++ coupled.emit, ?_, fun w published => ?_⟩
  · unfold buildWfdIes
    rw [← emitted]
    show (buildDeviceInfoSubelement info >>= _) = _
    rw [built]
    rfl
  · have walked : wfdSubelements.walk (record.emit ++ coupled.emit) = some [record, coupled] :=
      Tlv.walk_eq_some_iff.mpr (by simp)
    rw [advertises, published, Option.bind_some, walked, Option.bind_some,
      List.find?_cons_of_pos (by simp [id]), Option.bind_some, reads]

/-- A call of `set_session_available` that is answered publishes the availability, and one that is
not changes nothing. -/
private theorem setSessionAvailable_left (available : Bool) (p2p : Owned) :
    (p2p.answered.headD true = true →
        advertises (stateAfter (P2PGroupOwner.setSessionAvailable available p2p)).supplicant =
          some { availableForSession := available }) ∧
      (p2p.answered.headD true = false →
        (stateAfter (P2PGroupOwner.setSessionAvailable available p2p)).supplicant =
          p2p.supplicant) := by
  obtain ⟨ies, built, reads⟩ := advertises_of_built available
  unfold P2PGroupOwner.setSessionAvailable P2PGroupOwner.publishWfdIes
  rw [built]
  constructor
  · intro answered
    refine reads _ ?_
    rw [tryCatch_of_ok (setProperty_of_answered answered)]
    rfl
  · intro unanswered
    rw [tryCatch_of_error (setProperty_of_unanswered unanswered)]
    rfl

private theorem advertises_of_configured {p2p p2p' : Owned}
    (configured : P2PGroupOwner.configure p2p = .ok () p2p') :
    advertises p2p'.supplicant = some {} := by
  obtain ⟨ies, built, reads⟩ := advertises_of_built true
  unfold P2PGroupOwner.configure P2PGroupOwner.publishWfdIes at configured
  rw [get_bind] at configured
  obtain ⟨_, s, _, configured⟩ := bind_eq_ok_iff.mp configured
  obtain ⟨_, t, _, published⟩ := bind_eq_ok_iff.mp configured
  rw [built] at published
  refine reads _ ?_
  have ends : Ends (setProperty fun w => { w with wfdIes := some ies })
      (fun _ t => t.supplicant.wfdIes = some ies) (fun _ _ => True) t :=
    setProperty_ends (fun _ => rfl) fun _ => trivial
  exact ends.of_ok published

/-! ## Runs -/

namespace Broadcast

variable {s : Broadcast} {p2p : Owned}

private theorem publishing_eq {handlers : Handlers} {l : HandlerLabel}
    (hstep : s.handlers.step l = some handlers) :
    handlers.daemon.sessionAvailable =
      (s.publishing l).getD s.handlers.daemon.sessionAvailable := by
  cases l with
  | handle event =>
    simp only [Handlers.step] at hstep
    split at hstep <;> cases hstep
    rfl
  | run k =>
    obtain ⟨⟨pc, d⟩, next, rfl⟩ := Option.map_eq_some_iff.mp hstep
    dsimp only [publishing]
    generalize s.handlers.handlers k = before at next ⊢
    cases handlerNext_cases next with
    | action action actions =>
      have given := availableAfter_applyAction s.handlers.daemon action []
      dsimp only [availableAfter] at given
      rw [given]
      cases action <;> rfl
    | read | report => rfl

private theorem handlers_step {t : Broadcast} {l : BroadcastLabel} (hstep : s.step l = some t) :
    s.handlers.step l.label = some t.handlers := by
  obtain ⟨handlers, moved, rfl⟩ := Option.map_eq_some_iff.mp hstep
  rw [moved]
  split <;> rfl

/-- Whatever is published or fails to be, sources read the defaults with an availability. -/
theorem Reads.step {t : Broadcast} {l : BroadcastLabel} (h : s.Reads)
    (hstep : s.step l = some t) : t.Reads := by
  obtain ⟨handlers, moved, rfl⟩ := Option.map_eq_some_iff.mp hstep
  have given := publishing_eq moved
  obtain ⟨before, reads, current⟩ := h
  split
  next available publishing =>
    rw [publishing] at given
    obtain ⟨answered, unanswered⟩ := setSessionAvailable_left available
      { s.p2p with answered := l.answered }
    cases answer : l.answered.headD true with
    | true => exact ⟨available, answered answer, fun _ => given.symm⟩
    | false =>
      exact ⟨before, (congrArg advertises (unanswered answer)).trans reads, nofun⟩
  next silent =>
    rw [silent] at given
    exact ⟨before, reads, fun fresh => (current fresh).trans given.symm⟩

/-- Handlers that run in order are settling. -/
theorem settling_of_reaches {s : Handlers} (reached : Handlers.system.Reaches Main.InOrder s) :
    s.Settling := by
  have kept : s.Settling ∧ s.Reporting := by
    refine reached.invariant (I := fun s => s.Settling ∧ s.Reporting)
      ⟨⟨0, fun _ _ => rfl, rfl, rfl⟩, fun _ _ => rfl, nofun, .inl rfl⟩ ?_
    intro t l u _ ⟨settling, reporting⟩ inOrder hstep
    cases l with
    | handle event =>
      simp only [Handlers.system, Handlers.step] at hstep
      split at hstep <;> cases hstep
      exact ⟨settling.handle (reporting.fresh _ (Nat.le_refl _)) reporting.fresh inOrder,
        reporting.handle inOrder⟩
    | run k =>
      obtain ⟨⟨pc, d⟩, next, rfl⟩ := Option.map_eq_some_iff.mp hstep
      exact ⟨settling.run (handlerNext_cases next), reporting.run (handlerNext_cases next)⟩
  exact kept.1

/-- The handlers of a run of the broadcast run in order. -/
theorem handlers_reach (reached : (system p2p).Reaches InOrder s) :
    Handlers.system.Reaches Main.InOrder s.handlers := by
  refine reached.map Broadcast.handlers fun t l u inOrder hstep => ?_
  exact .step .refl inOrder (handlers_step hstep)

/-- The IEs that are published always read as those of a sink with the default port, throughput and
type. With the transitions in order and no handler running they say that the sink is available
exactly in IDLE, whatever calls failed before the last one. -/
theorem sources_see_availability {unconfigured : Owned}
    (configured : P2PGroupOwner.configure unconfigured = .ok () p2p) :
    (∀ s, (system p2p).Reachable s →
      ∃ available, advertises s.p2p.supplicant = some { availableForSession := available }) ∧
    ∀ s, (system p2p).Reaches InOrder s → s.handlers.Quiet → s.stale = false →
      advertises s.p2p.supplicant =
        some { availableForSession := decide (s.handlers.daemon.arbiter.state = .idle) } := by
  have reads : ∀ {C s}, (system p2p).Reaches C s → s.Reads := fun reached =>
    reached.invariant (I := Reads) ⟨true, advertises_of_configured configured, fun _ => rfl⟩
      fun _ _ _ _ h _ hstep => h.step hstep
  refine ⟨fun s reached => ?_, fun s reached quiet fresh => ?_⟩
  · obtain ⟨available, read, _⟩ := reads reached
    exact ⟨available, read⟩
  · obtain ⟨available, read, current⟩ := reads reached
    obtain ⟨k, _, follows, _⟩ := settling_of_reaches (handlers_reach reached)
    rw [quiet k] at follows
    rw [read, current fresh]
    exact congrArg (fun a => some ({ availableForSession := a } : DeviceInfo)) follows

/-- The owner of this run. -/
def newOwner : Owned :=
  { owner := { interfaceName := "wlan1".toList, deviceName := "Room".toList, freqMhz := 5180 } }

/-- It is configured. -/
def configuredOwner : Owned := stateAfter (P2PGroupOwner.configure newOwner)

/-- A Miracast session comes and goes, and the call that makes the sink busy fails. -/
theorem sources_see_availability_of_session :
    ∃ s, (system configuredOwner).Reaches InOrder s ∧ s.handlers.count = 2 ∧
      advertises s.p2p.supplicant = some { availableForSession := true } := by
  obtain ⟨s, run, count, quiet, fresh, idle⟩ : ∃ s, System.runUnder (system configuredOwner) InOrder
      (system configuredOwner).init
      ([⟨.handle .miracastConnected, []⟩, ⟨.run 0, []⟩, ⟨.run 0, [false]⟩, ⟨.run 0, []⟩,
        ⟨.run 0, []⟩, ⟨.handle .miracastDisconnected, []⟩] ++
        List.replicate 6 ⟨.run 1, []⟩) = some s ∧
      s.handlers.count = 2 ∧ s.handlers.Quiet ∧ s.stale = false ∧
      s.handlers.daemon.arbiter.state = .idle := by
    refine ⟨_, rfl, rfl, fun j => ?_, rfl, rfl⟩
    match j with
    | 0 => rfl
    | 1 => rfl
    | j + 2 => rfl
  have reached := System.runUnder_leads _ run
  have configured : P2PGroupOwner.configure newOwner = .ok () configuredOwner := rfl
  have seen := (sources_see_availability configured).2 s reached quiet fresh
  rw [idle] at seen
  exact ⟨s, reached, count, seen⟩

end Broadcast

end Castd.Main
