import Castd.Lib.System
import Castd.Main.Daemon

/-!
# Side effects follow the arbiter

Four handlers feed an event to the arbiter under the lock and then run the actions of the
transition outside it: `_on_airplay_connected`, `_on_airplay_disconnected`,
`handle_miracast_disconnected` and the first two statements of `handle_miracast_connected`. Here
any number of them run at once, one action a step, and every action succeeds.

Two transitions' actions can be applied in the other order, so the side effects follow the arbiter
only when a transition waits for the switches of the one before (`InOrder`). Then at most one
handler has a switch left to run, and running what it has left gives the value the state asks for
(`Handlers.Settling`).
-/

namespace Castd.Main

open Fsm Airplay Lib

/-- Where a handler stands after its locked transition. -/
inductive HandlerPc
  /-- In `_apply_actions`, with the actions still to run. -/
  | actions (actions : List Action)
  /-- The arbiter's state is read for `health.set_state`. -/
  | setState (state : State)
  | done
  deriving DecidableEq

/-- The next statement of a handler. A resume on a running uxplay, where the code would raise,
leaves it running. -/
def handlerNext (d : Daemon) : HandlerPc → Option (HandlerPc × Daemon)
  | .actions (action :: actions) => some (.actions actions, (d.applyAction action).getD d)
  | .actions [] => some (.setState d.arbiter.state, d)
  | .setState state =>
    some (.done, { d with health := (d.health.setState state).heartbeat d.now })
  | .done => none

/-- The daemon and its handlers, numbered in the order of their transitions. -/
structure Handlers where
  daemon : Daemon := Daemon.started
  count : Nat := 0
  handlers : Nat → HandlerPc := fun _ => .done

/-- A handler takes its locked transition, or runs its next statement. -/
inductive HandlerLabel
  | handle (event : Event)
  | run (k : Nat)
  deriving DecidableEq

namespace Handlers

/-- The step function. No handler feeds `WATCHDOG_TIMEOUT`. -/
def step (s : Handlers) : HandlerLabel → Option Handlers
  | .handle event =>
    if event = .watchdogTimeout then none
    else some
      { daemon := { s.daemon with arbiter := (s.daemon.arbiter.handle event).2 }
        count := s.count + 1
        handlers := Function.update s.handlers s.count
          (.actions (s.daemon.arbiter.handle event).1.actions) }
  | .run k =>
    (handlerNext s.daemon (s.handlers k)).map fun next =>
      { s with daemon := next.2, handlers := Function.update s.handlers k next.1 }

/-- The system of handlers, from a started daemon. -/
def system : System Handlers HandlerLabel := { init := {}, step := step }

/-- No handler has anything left to run. -/
def Quiet (s : Handlers) : Prop := ∀ j, s.handlers j = .done

end Handlers

/-- The side effects are those the arbiter's state asks for: AirPlay is advertised outside MIRACAST
only, the sink is advertised as available in IDLE only, and `/health` reports the state. -/
structure FollowsArbiter (d : Daemon) : Prop where
  available : d.sessionAvailable = true ↔ d.arbiter.state = .idle
  airplay : d.uxplay.isRunning = true ↔ d.arbiter.state ≠ .miracast
  health : d.health.state = d.arbiter.state

/-- The actions that switch uxplay or the availability flag. -/
def switches : Action → Bool
  | .pauseAirplayAdvertising => true
  | .resumeAirplayAdvertising => true
  | .pauseMiracastDiscovery => true
  | .resumeMiracastDiscovery => true
  | _ => false

/-- The actions a handler has left. -/
def HandlerPc.pending : HandlerPc → List Action
  | .actions left => left
  | _ => []

/-- A handler with no switch left to run. -/
def HandlerPc.cold (pc : HandlerPc) : Bool := pc.pending.all fun action => !switches action

/-- A handler with no switch left to run and no state read but not yet reported. -/
def HandlerPc.settled : HandlerPc → Bool
  | .setState _ => false
  | pc => pc.cold

/-- The arbiter takes a transition only when every earlier handler is settled.

`_apply_actions` runs outside the lock under which the transition was made. So the switches of two
handlers can come in the other order than their transitions, and then those of the earlier one are
what stays. -/
def InOrder (s : Handlers) : HandlerLabel → Prop
  | .handle event => Accepts s.daemon.arbiter.state event →
    ∀ j < s.count, (s.handlers j).settled = true
  | .run _ => True

instance (s : Handlers) (l : HandlerLabel) : Decidable (InOrder s l) :=
  match l with
  | .handle _ => inferInstanceAs (Decidable (_ → ∀ j < _, _))
  | .run _ => instDecidableTrue

/-! ## What pending actions come to -/

/-- The availability flag after a list of actions. -/
def availableAfter : Bool → List Action → Bool
  | available, [] => available
  | _, .pauseMiracastDiscovery :: actions => availableAfter false actions
  | _, .resumeMiracastDiscovery :: actions => availableAfter true actions
  | available, _ :: actions => availableAfter available actions

/-- Whether uxplay runs after a list of actions. -/
def runningAfter : Bool → List Action → Bool
  | running, [] => running
  | _, .pauseAirplayAdvertising :: actions => runningAfter false actions
  | _, .resumeAirplayAdvertising :: actions => runningAfter true actions
  | running, _ :: actions => runningAfter running actions

private theorem availableAfter_of_cold {actions : List Action}
    (h : (actions.all fun action => !switches action) = true) (available : Bool) :
    availableAfter available actions = available := by
  induction actions with
  | nil => rfl
  | cons action actions ih =>
    rw [List.all_cons, Bool.and_eq_true] at h
    obtain ⟨calm, rest⟩ := h
    cases action <;> first | exact ih rest | exact Bool.noConfusion calm

private theorem runningAfter_of_cold {actions : List Action}
    (h : (actions.all fun action => !switches action) = true) (running : Bool) :
    runningAfter running actions = running := by
  induction actions with
  | nil => rfl
  | cons action actions ih =>
    rw [List.all_cons, Bool.and_eq_true] at h
    obtain ⟨calm, rest⟩ := h
    cases action <;> first | exact ih rest | exact Bool.noConfusion calm

/-- Applying the first action leaves what the list comes to. -/
theorem availableAfter_applyAction (d : Daemon) (action : Action) (actions : List Action) :
    availableAfter ((d.applyAction action).getD d).sessionAvailable actions =
      availableAfter d.sessionAvailable (action :: actions) := by
  cases action with
  | resumeAirplayAdvertising =>
    show availableAfter ((d.uxplay.start.map _).getD d).sessionAvailable actions =
      availableAfter d.sessionAvailable actions
    cases d.uxplay.start <;> rfl
  | _ => rfl

private theorem runningAfter_applyAction (d : Daemon) (action : Action) (actions : List Action) :
    runningAfter ((d.applyAction action).getD d).uxplay.isRunning actions =
      runningAfter d.uxplay.isRunning (action :: actions) := by
  cases action with
  | resumeAirplayAdvertising =>
    show runningAfter ((d.uxplay.start.map _).getD d).uxplay.isRunning actions =
      runningAfter true actions
    cases hstart : d.uxplay.start with
    | none =>
      show runningAfter d.uxplay.isRunning actions = _
      rw [UxPlayProcess.start_eq_none_iff.mp hstart]
    | some u =>
      show runningAfter u.isRunning actions = _
      rw [(UxPlayProcess.start_spec hstart).1]
  | pauseAirplayAdvertising =>
    show runningAfter d.uxplay.stop.isRunning actions = runningAfter false actions
    rw [UxPlayProcess.stop_isRunning]
  | _ => rfl

private theorem after_handle (arbiter : CastArbiter) (event : Event) :
    availableAfter (decide (arbiter.state = .idle)) (arbiter.handle event).1.actions =
        decide ((arbiter.handle event).2.state = .idle) ∧
      runningAfter (decide (arbiter.state ≠ .miracast)) (arbiter.handle event).1.actions =
        decide ((arbiter.handle event).2.state ≠ .miracast) := by
  obtain ⟨state⟩ := arbiter
  cases state <;> cases event <;> exact ⟨rfl, rfl⟩

/-! ## The invariant -/

/-- At most one handler has a switch left, and what it has left makes the side effects follow. -/
def Handlers.Settling (s : Handlers) : Prop :=
  ∃ k, (∀ j, j ≠ k → (s.handlers j).cold = true) ∧
    availableAfter s.daemon.sessionAvailable (s.handlers k).pending =
      decide (s.daemon.arbiter.state = .idle) ∧
    runningAfter s.daemon.uxplay.isRunning (s.handlers k).pending =
      decide (s.daemon.arbiter.state ≠ .miracast)

/-- The health report is right or still to come, and a state read for it is the current one. -/
structure Handlers.Reporting (s : Handlers) : Prop where
  fresh : ∀ j, s.count ≤ j → s.handlers j = .done
  reads : ∀ j state, s.handlers j = .setState state → state = s.daemon.arbiter.state
  reported : s.daemon.health.state = s.daemon.arbiter.state ∨ ∃ j, s.handlers j ≠ .done

/-- A statement of a handler. -/
inductive HandlerStep (d : Daemon) : HandlerPc → HandlerPc → Daemon → Prop
  | action (action : Action) (actions : List Action) :
    HandlerStep d (.actions (action :: actions)) (.actions actions)
      ((d.applyAction action).getD d)
  | read : HandlerStep d (.actions []) (.setState d.arbiter.state) d
  | report (state : State) :
    HandlerStep d (.setState state) .done
      { d with health := (d.health.setState state).heartbeat d.now }

theorem handlerNext_cases {d d' : Daemon} {pc pc' : HandlerPc}
    (h : handlerNext d pc = some (pc', d')) : HandlerStep d pc pc' d' := by
  cases pc with
  | actions actions =>
    cases actions with
    | nil =>
      cases h
      exact .read
    | cons action actions =>
      cases h
      exact .action action actions
  | setState state =>
    cases h
    exact .report state
  | done => cases h

private theorem applyAction_getD_frame (d : Daemon) (action : Action) :
    ((d.applyAction action).getD d).arbiter = d.arbiter ∧
      ((d.applyAction action).getD d).health = d.health := by
  cases h : d.applyAction action with
  | none => exact ⟨rfl, rfl⟩
  | some d' =>
    obtain ⟨arbiter, _, _, health, _⟩ := Daemon.applyAction_frame h
    exact ⟨arbiter, health⟩

/-- No statement of a handler moves the arbiter. -/
theorem HandlerStep.arbiter_eq {d d' : Daemon} {pc pc' : HandlerPc}
    (h : HandlerStep d pc pc' d') : d'.arbiter = d.arbiter := by
  cases h with
  | action action => exact (applyAction_getD_frame d action).1
  | read | report => rfl

private theorem HandlerStep.after_eq {d d' : Daemon} {pc pc' : HandlerPc}
    (h : HandlerStep d pc pc' d') :
    availableAfter d'.sessionAvailable pc'.pending =
        availableAfter d.sessionAvailable pc.pending ∧
      runningAfter d'.uxplay.isRunning pc'.pending =
        runningAfter d.uxplay.isRunning pc.pending := by
  cases h with
  | action action actions =>
    exact ⟨availableAfter_applyAction d action actions, runningAfter_applyAction d action actions⟩
  | read | report => exact ⟨rfl, rfl⟩

private theorem HandlerStep.cold {d d' : Daemon} {pc pc' : HandlerPc} (h : HandlerStep d pc pc' d')
    (hc : pc.cold = true) : pc'.cold = true := by
  cases h with
  | action action actions =>
    simp only [HandlerPc.cold, HandlerPc.pending, List.all_cons, Bool.and_eq_true] at hc ⊢
    exact hc.2
  | read | report => rfl

private theorem HandlerPc.cold_of_settled {pc : HandlerPc} (h : pc.settled = true) :
    pc.cold = true := by
  cases pc with
  | actions | done => exact h
  | setState => exact Bool.noConfusion h

private theorem HandlerPc.after_of_cold {pc : HandlerPc} (h : pc.cold = true)
    (available running : Bool) :
    availableAfter available pc.pending = available ∧ runningAfter running pc.pending = running :=
  ⟨availableAfter_of_cold h available, runningAfter_of_cold h running⟩

private theorem HandlerStep.switches_eq {d d' : Daemon} {pc pc' : HandlerPc}
    (h : HandlerStep d pc pc' d')
    (hc : pc.cold = true) :
    d'.sessionAvailable = d.sessionAvailable ∧ d'.uxplay.isRunning = d.uxplay.isRunning := by
  obtain ⟨available, running⟩ := h.after_eq
  obtain ⟨a, r⟩ := HandlerPc.after_of_cold hc d.sessionAvailable d.uxplay.isRunning
  obtain ⟨a', r'⟩ := HandlerPc.after_of_cold (h.cold hc) d'.sessionAvailable d'.uxplay.isRunning
  rw [a, a'] at available
  rw [r, r'] at running
  exact ⟨available, running⟩

/-- A locked transition keeps the side effects settling, when it waits for the others. -/
theorem Handlers.Settling.handle {s : Handlers} {event : Event} (fresh : s.handlers s.count = .done)
    (rest : ∀ j, s.count ≤ j → s.handlers j = .done) (inOrder : InOrder s (.handle event))
    (hs : s.Settling) :
    Handlers.Settling
      { daemon := { s.daemon with arbiter := (s.daemon.arbiter.handle event).2 }
        count := s.count + 1
        handlers := Function.update s.handlers s.count
          (.actions (s.daemon.arbiter.handle event).1.actions) } := by
  obtain ⟨k, others, available, running⟩ := hs
  by_cases accepted : Accepts s.daemon.arbiter.state event
  · have cold : ∀ j, (s.handlers j).cold = true := by
      intro j
      by_cases hj : j < s.count
      · exact HandlerPc.cold_of_settled (inOrder accepted j hj)
      · rw [rest j (Nat.le_of_not_lt hj)]
        rfl
    obtain ⟨a, r⟩ := HandlerPc.after_of_cold (cold k) s.daemon.sessionAvailable
      s.daemon.uxplay.isRunning
    obtain ⟨a', r'⟩ := after_handle s.daemon.arbiter event
    refine ⟨s.count, fun j hj => ?_, ?_, ?_⟩
    · simp only [Function.update_of_ne hj]
      exact cold j
    · simp only [Function.update_self]
      show availableAfter s.daemon.sessionAvailable (s.daemon.arbiter.handle event).1.actions = _
      rw [← a, available]
      exact a'
    · simp only [Function.update_self]
      show runningAfter s.daemon.uxplay.isRunning (s.daemon.arbiter.handle event).1.actions = _
      rw [← r, running]
      exact r'
  · rw [CastArbiter.handle_of_not_accepts accepted]
    have logged : (HandlerPc.actions [.logRejectedConnection]).cold = true := rfl
    refine ⟨k, fun j hj => ?_, ?_⟩
    · by_cases hjc : j = s.count
      · simp only [hjc, Function.update_self]
        exact logged
      · simp only [Function.update_of_ne hjc]
        exact others j hj
    · by_cases hkc : k = s.count
      · rw [hkc, fresh] at available running
        simp only [hkc, Function.update_self]
        exact ⟨available, running⟩
      · simp only [Function.update_of_ne hkc]
        exact ⟨available, running⟩

/-- A statement of a handler keeps the side effects settling. -/
theorem Handlers.Settling.run {s : Handlers} {i : Nat} {pc : HandlerPc} {d : Daemon}
    (next : HandlerStep s.daemon (s.handlers i) pc d) (hs : s.Settling) :
    Handlers.Settling { s with daemon := d, handlers := Function.update s.handlers i pc } := by
  obtain ⟨k, others, available, running⟩ := hs
  refine ⟨k, fun j hj => ?_, ?_⟩
  · by_cases hji : j = i
    · subst hji
      simp only [Function.update_self]
      exact next.cold (others j hj)
    · simp only [Function.update_of_ne hji]
      exact others j hj
  · show availableAfter d.sessionAvailable (Function.update s.handlers i pc k).pending =
        decide (d.arbiter.state = .idle) ∧
      runningAfter d.uxplay.isRunning (Function.update s.handlers i pc k).pending =
        decide (d.arbiter.state ≠ .miracast)
    rw [next.arbiter_eq]
    by_cases hki : k = i
    · subst hki
      rw [Function.update_self, next.after_eq.1, next.after_eq.2]
      exact ⟨available, running⟩
    · obtain ⟨sameAvailable, sameRunning⟩ := next.switches_eq (others i fun h => hki h.symm)
      rw [Function.update_of_ne hki, sameAvailable, sameRunning]
      exact ⟨available, running⟩

/-- A locked transition keeps the report right or to come. -/
theorem Handlers.Reporting.handle {s : Handlers} {event : Event}
    (inOrder : InOrder s (.handle event)) (hs : s.Reporting) :
    Handlers.Reporting
      { daemon := { s.daemon with arbiter := (s.daemon.arbiter.handle event).2 }
        count := s.count + 1
        handlers := Function.update s.handlers s.count
          (.actions (s.daemon.arbiter.handle event).1.actions) } := by
  obtain ⟨fresh, reads, _⟩ := hs
  refine ⟨fun j hj => ?_, fun j state hread => ?_, .inr ⟨s.count, ?_⟩⟩
  · have hne : j ≠ s.count := by
      have : s.count + 1 ≤ j := hj
      omega
    show Function.update s.handlers s.count _ j = .done
    rw [Function.update_of_ne hne]
    exact fresh j (Nat.le_of_succ_le hj)
  · have hne : j ≠ s.count := fun hj => by
      simp only [hj, Function.update_self] at hread
      exact HandlerPc.noConfusion hread
    simp only [Function.update_of_ne hne] at hread
    by_cases accepted : Accepts s.daemon.arbiter.state event
    · by_cases hj : j < s.count
      · have := inOrder accepted j hj
        rw [hread] at this
        exact Bool.noConfusion this
      · rw [fresh j (Nat.le_of_not_lt hj)] at hread
        exact HandlerPc.noConfusion hread
    · rw [CastArbiter.handle_of_not_accepts accepted]
      exact reads j state hread
  · simp only [Function.update_self]
    exact HandlerPc.noConfusion

/-- A statement of a handler keeps the report right or to come. -/
theorem Handlers.Reporting.run {s : Handlers} {i : Nat} {pc : HandlerPc} {d : Daemon}
    (next : HandlerStep s.daemon (s.handlers i) pc d) (hs : s.Reporting) :
    Handlers.Reporting { s with daemon := d, handlers := Function.update s.handlers i pc } := by
  obtain ⟨fresh, reads, reported⟩ := hs
  refine ⟨fun j hj => ?_, fun j state hread => ?_, ?_⟩
  · have hne : j ≠ i := fun hji => by
      rw [← hji, fresh j hj] at next
      cases next
    show Function.update s.handlers i pc j = .done
    rw [Function.update_of_ne hne]
    exact fresh j hj
  · show state = d.arbiter.state
    rw [next.arbiter_eq]
    by_cases hji : j = i
    · subst hji
      simp only [Function.update_self] at hread
      subst hread
      generalize s.handlers j = before at next
      cases next
      rfl
    · simp only [Function.update_of_ne hji] at hread
      exact reads j state hread
  · show d.health.state = d.arbiter.state ∨ ∃ j, Function.update s.handlers i pc j ≠ .done
    generalize hbefore : s.handlers i = before at next
    cases next with
    | action | read =>
      refine .inr ⟨i, ?_⟩
      rw [Function.update_self]
      exact HandlerPc.noConfusion
    | report state => exact .inl (reads i state hbefore)

/-- In every run in which each transition waits for the switches and reports of the ones before,
the side effects follow the arbiter whenever no handler has anything left to run.

The order is of transitions and handlers, of which there are any number on any threads; nothing is
asked of how the statements of a handler alternate with what else happens. -/
theorem side_effects_follow_arbiter {s : Handlers} (reached : Handlers.system.Reaches InOrder s)
    (quiet : s.Quiet) : FollowsArbiter s.daemon := by
  have inv : s.Settling ∧ s.Reporting := by
    refine System.Leads.invariant (I := fun s => s.Settling ∧ s.Reporting) reached
      ⟨⟨0, fun _ _ => rfl, rfl, rfl⟩, fun _ _ => rfl, fun _ _ hread => HandlerPc.noConfusion hread,
        .inl rfl⟩ ?_
    intro t l u _ ⟨settling, reporting⟩ inOrder hstep
    cases l with
    | handle event =>
      simp only [Handlers.system, Handlers.step] at hstep
      split at hstep <;> cases hstep
      exact ⟨settling.handle (reporting.fresh _ (Nat.le_refl _)) reporting.fresh inOrder,
        reporting.handle inOrder⟩
    | run k =>
      obtain ⟨⟨pc, d⟩, hn, rfl⟩ := Option.map_eq_some_iff.mp hstep
      have next := handlerNext_cases hn
      exact ⟨settling.run next, reporting.run next⟩
  obtain ⟨⟨k, _, available, running⟩, _, _, reported⟩ := inv
  rw [quiet k] at available running
  refine ⟨?_, ?_, ?_⟩
  · rw [show s.daemon.sessionAvailable = decide _ from available, decide_eq_true_iff]
  · rw [show s.daemon.uxplay.isRunning = decide _ from running, decide_eq_true_iff]
  · rcases reported with right | ⟨j, waits⟩
    · exact right
    · exact absurd (quiet j) waits

/-- The handlers of a Miracast session, and of an AirPlay client after it, one after the other. -/
def handlersInTurn : List HandlerLabel :=
  List.flatten [.handle .miracastConnected :: List.replicate 4 (.run 0),
    .handle .miracastDisconnected :: List.replicate 6 (.run 1),
    .handle .airplayConnected :: List.replicate 4 (.run 2)]

/-- A Miracast session, and an AirPlay session after it. -/
theorem side_effects_follow_arbiter_in_turn :
    ∃ s, Handlers.system.Reaches InOrder s ∧ s.daemon.arbiter.state = .airplay ∧
      FollowsArbiter s.daemon := by
  obtain ⟨s, run, state, quiet⟩ : ∃ s,
      System.runUnder Handlers.system InOrder Handlers.system.init handlersInTurn = some s ∧
      s.daemon.arbiter.state = .airplay ∧ s.Quiet := by
    refine ⟨_, rfl, rfl, fun j => ?_⟩
    match j with
    | 0 => rfl
    | 1 => rfl
    | 2 => rfl
    | j + 3 => rfl
  have reached := System.runUnder_leads _ run
  exact ⟨s, reached, state, side_effects_follow_arbiter reached quiet⟩

/-- A source connects, and its handler runs, before that of an AirPlay disconnect. -/
def resumeOvertaken : List HandlerLabel :=
  List.flatten [.handle .airplayConnected :: List.replicate 4 (.run 0),
    .handle .airplayDisconnected :: .handle .miracastConnected :: List.replicate 4 (.run 2),
    List.replicate 5 (.run 1)]

/-- A Miracast source connects before the handler of an AirPlay disconnect has published the
availability: the sink is in MIRACAST and advertised as available. -/
theorem resume_overtakes_pause :
    ∃ s, Handlers.system.Reachable s ∧ s.Quiet ∧ s.daemon.arbiter.state = .miracast ∧
      s.daemon.sessionAvailable = true ∧ ¬ FollowsArbiter s.daemon := by
  obtain ⟨s, run, quiet, state, available⟩ : ∃ s,
      Handlers.system.run resumeOvertaken = some s ∧
      s.Quiet ∧ s.daemon.arbiter.state = .miracast ∧ s.daemon.sessionAvailable = true := by
    refine ⟨_, rfl, fun j => ?_, rfl, rfl⟩
    match j with
    | 0 => rfl
    | 1 => rfl
    | 2 => rfl
    | j + 3 => rfl
  refine ⟨s, System.runFrom_leads _ run, quiet, state, available, fun follows => ?_⟩
  have idle := follows.available.mp available
  rw [state] at idle
  exact State.noConfusion idle

end Castd.Main
