/-!
# The arbitration state machine

`castd/fsm/state_machine.py`: a table from the current state and an event to the next state and
the actions the caller must run. Events without a table entry keep the state and answer the one
action `logRejectedConnection`.

The table is read by later modules through two facts: an accepted event determines its
transition (`table`), and a rejected one changes nothing (`handle_of_not_accepts`).
-/

namespace Castd.Fsm

/-- What the receiver is doing. -/
inductive State
  | idle
  | miracast
  | airplay
  deriving DecidableEq, Repr

/-- The events the daemon feeds to the arbiter. -/
inductive Event
  | miracastConnected
  | miracastDisconnected
  | airplayConnected
  | airplayDisconnected
  | watchdogTimeout
  deriving DecidableEq, Repr

/-- The side effects a transition asks the daemon to run. -/
inductive Action
  | showIdleScreen
  | stopRenderPipeline
  | pauseAirplayAdvertising
  | resumeAirplayAdvertising
  | pauseMiracastDiscovery
  | resumeMiracastDiscovery
  | forceTeardownMiracast
  | forceTeardownAirplay
  | logRejectedConnection
  deriving DecidableEq, Repr

/-- The arbiter's answer to one event. -/
structure Transition where
  nextState : State
  actions : List Action
  deriving DecidableEq, Repr

/-- `_TABLE`. -/
def table : State → Event → Option Transition
  | .idle, .miracastConnected =>
    some ⟨.miracast, [.pauseAirplayAdvertising, .pauseMiracastDiscovery]⟩
  | .idle, .airplayConnected =>
    some ⟨.airplay, [.pauseMiracastDiscovery, .stopRenderPipeline]⟩
  | .miracast, .miracastDisconnected =>
    some ⟨.idle, [.stopRenderPipeline, .resumeAirplayAdvertising, .resumeMiracastDiscovery,
      .showIdleScreen]⟩
  | .miracast, .watchdogTimeout =>
    some ⟨.idle, [.forceTeardownMiracast, .stopRenderPipeline, .resumeAirplayAdvertising,
      .resumeMiracastDiscovery, .showIdleScreen]⟩
  | .airplay, .airplayDisconnected =>
    some ⟨.idle, [.stopRenderPipeline, .resumeMiracastDiscovery, .showIdleScreen]⟩
  | .airplay, .watchdogTimeout =>
    some ⟨.idle, [.forceTeardownAirplay, .stopRenderPipeline, .resumeMiracastDiscovery,
      .showIdleScreen]⟩
  | _, _ => none

/-- `CastArbiter`: the single state cell. -/
structure CastArbiter where
  state : State := .idle
  deriving DecidableEq, Repr

/-- The transition `CastArbiter.handle` answers. -/
def CastArbiter.transition (arbiter : CastArbiter) (event : Event) : Transition :=
  match table arbiter.state event with
  | some transition => transition
  | none => ⟨arbiter.state, [.logRejectedConnection]⟩

/-- `CastArbiter.handle`: answers the transition and moves to its next state. -/
def CastArbiter.handle (arbiter : CastArbiter) (event : Event) : Transition × CastArbiter :=
  (arbiter.transition event, { state := (arbiter.transition event).nextState })

/-- An event is accepted when the table has an entry for it. -/
def Accepts (state : State) (event : Event) : Prop := (table state event).isSome = true

instance (state : State) (event : Event) : Decidable (Accepts state event) :=
  inferInstanceAs (Decidable (_ = _))

/-- A rejected event keeps the state and asks only for the log line. -/
theorem CastArbiter.handle_of_not_accepts {arbiter : CastArbiter} {event : Event}
    (h : ¬ Accepts arbiter.state event) :
    arbiter.handle event = (⟨arbiter.state, [.logRejectedConnection]⟩, arbiter) := by
  have hnone : table arbiter.state event = none := by
    cases ht : table arbiter.state event with
    | none => rfl
    | some t => exact absurd (by simp [Accepts, ht]) h
  simp only [CastArbiter.handle, CastArbiter.transition, hnone]

/-- First connect wins: a Miracast source is accepted only while nothing is presenting. -/
theorem accepts_miracastConnected_iff {state : State} :
    Accepts state .miracastConnected ↔ state = .idle := by
  cases state <;> decide

/-- Only a Miracast session can be ended by a Miracast disconnect. -/
theorem accepts_miracastDisconnected_iff {state : State} :
    Accepts state .miracastDisconnected ↔ state = .miracast := by
  cases state <;> decide

/-- An AirPlay client is accepted only while nothing is presenting. -/
theorem accepts_airplayConnected_iff {state : State} :
    Accepts state .airplayConnected ↔ state = .idle := by
  cases state <;> decide

/-- Only an AirPlay session can be ended by an AirPlay disconnect. -/
theorem accepts_airplayDisconnected_iff {state : State} :
    Accepts state .airplayDisconnected ↔ state = .airplay := by
  cases state <;> decide

/-- A Miracast connect takes an idle arbiter to MIRACAST and leaves any other. -/
theorem CastArbiter.handle_miracastConnected_state (arbiter : CastArbiter) :
    (arbiter.handle .miracastConnected).2.state =
      if arbiter.state = .idle then .miracast else arbiter.state := by
  obtain ⟨state⟩ := arbiter
  cases state <;> rfl

/-- A Miracast disconnect takes MIRACAST to idle and leaves any other state. -/
theorem CastArbiter.handle_miracastDisconnected_state (arbiter : CastArbiter) :
    (arbiter.handle .miracastDisconnected).2.state =
      if arbiter.state = .miracast then .idle else arbiter.state := by
  obtain ⟨state⟩ := arbiter
  cases state <;> rfl

/-- No AirPlay event moves the arbiter into or out of a Miracast session. -/
theorem CastArbiter.handle_airplay_miracast_iff (arbiter : CastArbiter) {event : Event}
    (h : event = .airplayConnected ∨ event = .airplayDisconnected) :
    (arbiter.handle event).2.state = .miracast ↔ arbiter.state = .miracast := by
  obtain ⟨state⟩ := arbiter
  rcases h with rfl | rfl <;> cases state <;> decide

end Castd.Fsm
