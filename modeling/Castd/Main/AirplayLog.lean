import Castd.Airplay.ClientTracker
import Castd.Lib.Pieces
import Castd.Main.UxPlayRecovery

/-!
# The arbiter follows the log

The pump of every uxplay child feeds a tracker of its own, and the edges that the trackers report
are what drives the arbiter into AIRPLAY and out of it. Two pumps can read at once: that of a child
that was stopped still has lines in its pipe when the next child is started. Handlers run one at a
time here, each transition of the arbiter with its actions in one piece.

In every run AIRPLAY has a pump that counts a client (`AirplayRun.Attended`), whose end leads back
to IDLE. While clients come in IDLE and only their own child's end takes AIRPLAY away (`Own`), the
arbiter is in AIRPLAY exactly while a client is counted, and there is one (`AirplayRun.Follows`).
-/

namespace Castd.Main

open Fsm Airplay Lib

/-- The daemon with its uxplay children, and the tracker of each child's pump. -/
structure AirplayRun where
  run : UxPlayRun := {}
  trackers : Nat → UxPlayClientTracker := fun _ => {}

/-- A pump reads a line, or something else happens. -/
inductive AirplayLabel
  | line (number : Nat) (rawLine : Str)
  /-- A step of `UxPlayRun` that is not an AirPlay handler. -/
  | other (label : UxPlayLabel)
  deriving DecidableEq

/-- What `_pump_output` calls on what `feed` returns. -/
def UxPlayRun.notify (s : UxPlayRun) : Option ClientEvent → UxPlayRun
  | some .connected => s.after s.daemon.onAirplayConnected
  | some .disconnected => s.after s.daemon.onAirplayDisconnected
  | none => s

namespace AirplayRun

/-- What the arbiter is in. -/
abbrev state (s : AirplayRun) : State := s.run.daemon.arbiter.state

/-- What the tracker of a pump makes of a line, after `rstrip`. -/
def feed (s : AirplayRun) (number : Nat) (rawLine : Str) :
    Option ClientEvent × UxPlayClientTracker :=
  (s.trackers number).feed (rawLine.rdropWhile isSpace)

/-- The step function. -/
def step (s : AirplayRun) : AirplayLabel → Option AirplayRun
  | .line n rawLine =>
    if n < s.run.daemon.uxplay.spawned ∧ s.run.pumps n = .reading then
      some
        { run := s.run.notify (s.feed n rawLine).1
          trackers := Function.update s.trackers n (s.feed n rawLine).2 }
    else none
  | .other l =>
    if l = .airplayConnected ∨ l = .airplayDisconnected then none
    else (UxPlayRun.step s.run l).map fun run => { s with run := run }

/-- The system, from a started daemon. -/
def system : System AirplayRun AirplayLabel := { init := {}, step := step }

/-- A pump that reads counts a client. -/
def Counts (s : AirplayRun) (n : Nat) : Prop :=
  s.run.pumps n = .reading ∧ 0 < (s.trackers n).opened

instance (s : AirplayRun) (n : Nat) : Decidable (s.Counts n) :=
  inferInstanceAs (Decidable (_ ∧ _))

/-- A step back to IDLE, with all of its actions. -/
def Restores (s t : AirplayRun) : Prop :=
  t.state = .idle ∧ t.run.daemon.sessionAvailable = true ∧
    t.run.daemon.idleScreens = none :: s.run.daemon.idleScreens

/-- A client comes in IDLE, and a pump that ends unexpectedly in AIRPLAY is the one that counts.

A client that comes in MIRACAST is turned down by the arbiter and counted by its pump all the same,
and the end of any child in AIRPLAY is taken for that of the client's. -/
def Own (s : AirplayRun) : AirplayLabel → Prop
  | .line n rawLine => (s.feed n rawLine).1 = some .connected → s.state = .idle
  | .other (.pumpEnds n) => s.state = .airplay → s.Counts n
  | .other _ => True

instance (s : AirplayRun) (l : AirplayLabel) : Decidable (s.Own l) :=
  match l with
  | .line _ _ => inferInstanceAs (Decidable (_ → _))
  | .other (.pumpEnds _) => inferInstanceAs (Decidable (_ → _))
  | .other .miracastConnected | .other .miracastDisconnected | .other .airplayConnected
  | .other .airplayDisconnected | .other .exits | .other (.wakes _) => instDecidableTrue

/-- What holds in every run. -/
structure Attended (s : AirplayRun) : Prop where
  expected : s.run.daemon.uxplay.expectExit = true → s.state = .miracast
  running : s.run.daemon.uxplay.proc ≠ none → s.run.daemon.uxplay.expectExit = false
  counted : s.state = .airplay → ∃ n, s.Counts n
  spawned : ∀ n, 0 < (s.trackers n).opened → n < s.run.daemon.uxplay.spawned

/-- The arbiter is in AIRPLAY exactly while a pump counts a client, and no two do. This is what the
log edges are for: the arbiter has no other sign of a client. -/
structure Follows (s : AirplayRun) : Prop where
  counted : s.state = .airplay ↔ ∃ n, s.Counts n
  one : ∀ i j, s.Counts i → s.Counts j → i = j

end AirplayRun

/-! ## Edges -/

private theorem feed_cases (t : UxPlayClientTracker) (line : Str) :
    ((t.feed line).1 = some .connected ∧ t.opened = 0 ∧ 0 < (t.feed line).2.opened) ∨
      ((t.feed line).1 = some .disconnected ∧ 0 < t.opened ∧ (t.feed line).2.opened = 0) ∨
      ((t.feed line).1 = none ∧ (0 < (t.feed line).2.opened ↔ 0 < t.opened)) := by
  rw [t.feed_eq]
  cases kindOf line with
  | serverStop =>
    dsimp only
    split_ifs <;> simp_all
  | accept =>
    dsimp only
    split_ifs <;> simp_all [Nat.pos_iff_ne_zero]
  | close | mirrorStop =>
    dsimp only
    split_ifs <;> simp_all
    omega
  | other => exact .inr (.inr ⟨rfl, Iff.rfl⟩)

/-! ## What the handlers do to the arbiter -/

private theorem Daemon.onAirplayConnected_state (d : Daemon) :
    d.onAirplayConnected.1.arbiter.state =
      if d.arbiter.state = .idle then .airplay else d.arbiter.state := by
  unfold onAirplayConnected
  split
  next idle => rw [handleEvent_airplayConnected idle]; rfl
  next busy =>
    rw [handleEvent_of_not_accepts (mt accepts_airplayConnected_iff.mp busy)]
    rfl

private theorem Daemon.onAirplayDisconnected_state (d : Daemon) :
    d.onAirplayDisconnected.1.arbiter.state =
      if d.arbiter.state = .airplay then .idle else d.arbiter.state := by
  unfold onAirplayDisconnected
  split
  next airplay => rw [handleEvent_airplayDisconnected airplay]; rfl
  next other =>
    rw [handleEvent_of_not_accepts (mt accepts_airplayDisconnected_iff.mp other)]
    rfl

private theorem UxPlayRun.notify_frame (s : UxPlayRun) (event : Option ClientEvent) :
    (s.notify event).daemon.uxplay = s.daemon.uxplay ∧ (s.notify event).pumps = s.pumps ∧
      ((s.notify event).daemon.arbiter.state = .miracast ↔
        s.daemon.arbiter.state = .miracast) := by
  match event with
  | none => exact ⟨rfl, rfl, Iff.rfl⟩
  | some .connected =>
    obtain ⟨_, uxplay, state, _⟩ := s.daemon.handleEvent_airplay_frame (.inl rfl)
    exact ⟨uxplay, rfl, state⟩
  | some .disconnected =>
    obtain ⟨_, uxplay, state, _⟩ := s.daemon.handleEvent_airplay_frame (.inr rfl)
    exact ⟨uxplay, rfl, state⟩

private theorem Daemon.miracastConnected_state (d : Daemon) :
    (d.handleEvent .miracastConnected).1.arbiter.state =
        (if d.arbiter.state = .idle then .miracast else d.arbiter.state) ∧
      (d.handleEvent .miracastConnected).1.uxplay =
        if d.arbiter.state = .idle then d.uxplay.stop else d.uxplay := by
  split
  next idle => rw [handleEvent_miracastConnected idle]; exact ⟨rfl, rfl⟩
  next busy =>
    rw [handleEvent_of_not_accepts (mt accepts_miracastConnected_iff.mp busy)]
    exact ⟨rfl, rfl⟩

/-- A Miracast disconnect does nothing outside MIRACAST. In MIRACAST it leads to IDLE, and starts
uxplay unless that raises. -/
private theorem Daemon.miracastDisconnected_state (d : Daemon) :
    d.handleMiracastDisconnected.1.arbiter.state =
        (if d.arbiter.state = .miracast then .idle else d.arbiter.state) ∧
      (d.handleMiracastDisconnected.1.uxplay = d.uxplay ∧
          (d.arbiter.state = .miracast → d.uxplay.isRunning = true) ∨
        d.uxplay.start = some d.handleMiracastDisconnected.1.uxplay) := by
  unfold handleMiracastDisconnected
  split
  next miracast =>
    cases started : d.uxplay.start with
    | some uxplay =>
      rw [handleEvent_miracastDisconnected miracast started]
      exact ⟨rfl, .inr rfl⟩
    | none =>
      have raises : d.handleEvent .miracastDisconnected =
          ({ d with arbiter := { state := .idle }, render := d.render.stop }, true) := by
        simp only [handleEvent, CastArbiter.handle, CastArbiter.transition, miracast, table,
          applyActions, applyAction, started, Option.map_none]
      rw [raises]
      exact ⟨rfl, .inl ⟨rfl, fun _ => UxPlayProcess.start_eq_none_iff.mp started⟩⟩
  next other =>
    rw [handleEvent_of_not_accepts (mt accepts_miracastDisconnected_iff.mp other)]
    exact ⟨rfl, .inl ⟨rfl, fun miracast => absurd miracast other⟩⟩

/-! ## The other steps -/

private theorem reading_of_update {pumps : Nat → PumpPc} {n j : Nat} {pc : PumpPc}
    (other : pc ≠ .reading)
    (h : Function.update pumps n pc j = .reading) : pumps j = .reading ∧ j ≠ n := by
  refine ⟨eq_of_update h other, fun hj => ?_⟩
  rw [hj, Function.update_self] at h
  exact other h

/-- A step that is no AirPlay handler does not enter AIRPLAY. It leaves it only at the end of a
pump. -/
private theorem UxPlayRun.step_other {s t : UxPlayRun} {l : UxPlayLabel}
    (other : ¬(l = .airplayConnected ∨ l = .airplayDisconnected))
    (expected : s.daemon.uxplay.expectExit = true → s.daemon.arbiter.state = .miracast)
    (h : UxPlayRun.step s l = some t) :
    (∀ j, t.pumps j = .reading → s.pumps j = .reading) ∧
      (s.daemon.arbiter.state ≠ .airplay ∧ t.daemon.arbiter.state ≠ .airplay ∨
        s.daemon.arbiter.state = .airplay ∧ t.daemon.arbiter.state = .airplay ∧
          (∀ n, l ≠ .pumpEnds n) ∧ (∀ j, s.pumps j = .reading → t.pumps j = .reading) ∨
        s.daemon.arbiter.state = .airplay ∧ t.daemon.arbiter.state ≠ .airplay ∧
          ∃ n, l = .pumpEnds n ∧ s.pumps n = .reading ∧
            ∀ j, t.pumps j = .reading ↔ s.pumps j = .reading ∧ j ≠ n) := by
  cases l with
  | airplayConnected => exact absurd (.inl rfl) other
  | airplayDisconnected => exact absurd (.inr rfl) other
  | miracastConnected =>
    cases h
    obtain ⟨state, _⟩ := s.daemon.miracastConnected_state
    refine ⟨fun _ h => h, ?_⟩
    simp only [UxPlayRun.after, state]
    cases s.daemon.arbiter.state <;> simp
  | miracastDisconnected =>
    cases h
    obtain ⟨state, _⟩ := s.daemon.miracastDisconnected_state
    refine ⟨fun _ h => h, ?_⟩
    simp only [UxPlayRun.after, state]
    cases s.daemon.arbiter.state <;> simp
  | exits =>
    cases h
    refine ⟨fun _ h => h, ?_⟩
    by_cases airplay : s.daemon.arbiter.state = .airplay
    · exact .inr (.inl ⟨airplay, airplay, fun _ => UxPlayLabel.noConfusion, fun _ h => h⟩)
    · exact .inl ⟨airplay, airplay⟩
  | pumpEnds n =>
    simp only [UxPlayRun.step] at h
    split at h
    case isFalse => cases h
    rename_i guard
    split at h <;> cases h
    · rename_i expects
      have miracast := expected expects
      refine ⟨fun j (hj : Function.update s.pumps n .done j = _) =>
        (reading_of_update PumpPc.noConfusion hj).1, .inl ⟨?_, ?_⟩⟩ <;>
        exact fun airplay => State.noConfusion (miracast.symm.trans airplay)
    · have stops : (if s.daemon.onUxplayExited.2 = true then PumpPc.sleeping else .done) ≠
          .reading := by
        split <;> exact PumpPc.noConfusion
      refine ⟨fun j hj => (reading_of_update stops hj).1, ?_⟩
      by_cases airplay : s.daemon.arbiter.state = .airplay
      · refine .inr (.inr ⟨airplay, ?_, n, rfl, guard.2.1, fun j =>
          ⟨reading_of_update stops, fun kept => ?_⟩⟩)
        · simp only [Daemon.onUxplayExited, if_pos airplay, Daemon.onAirplayDisconnected_state]
          exact State.noConfusion
        · simp only [Function.update_of_ne kept.2]
          exact kept.1
      · refine .inl ⟨airplay, ?_⟩
        simp only [Daemon.onUxplayExited, if_neg airplay]
        exact airplay
  | wakes n =>
    simp only [UxPlayRun.step] at h
    split at h
    case isFalse => cases h
    rename_i sleeps
    have kept : ∀ j, s.pumps j = .reading → Function.update s.pumps n .done j = .reading :=
      fun j hj => update_eq_of hj (by rw [sleeps]; exact PumpPc.noConfusion)
    split at h <;> cases h
    all_goals
      refine ⟨fun j (hj : Function.update s.pumps n .done j = _) =>
        (reading_of_update PumpPc.noConfusion hj).1, ?_⟩
      by_cases airplay : s.daemon.arbiter.state = .airplay
      · exact .inr (.inl ⟨airplay, airplay, fun _ => UxPlayLabel.noConfusion, kept⟩)
      · exact .inl ⟨airplay, airplay⟩

/-- What a step does to uxplay keeps that an exit is expected in MIRACAST only, and only with no
child. -/
private theorem UxPlayRun.step_expected {s t : UxPlayRun} {l : UxPlayLabel}
    (expected : s.daemon.uxplay.expectExit = true → s.daemon.arbiter.state = .miracast)
    (running : s.daemon.uxplay.proc ≠ none → s.daemon.uxplay.expectExit = false)
    (h : UxPlayRun.step s l = some t) :
    (t.daemon.uxplay.expectExit = true → t.daemon.arbiter.state = .miracast) ∧
      (t.daemon.uxplay.proc ≠ none → t.daemon.uxplay.expectExit = false) ∧
      s.daemon.uxplay.spawned ≤ t.daemon.uxplay.spawned := by
  have started : ∀ {u}, s.daemon.uxplay.start = some u →
      u.expectExit = false ∧ s.daemon.uxplay.spawned ≤ u.spawned := fun h =>
    ⟨(UxPlayProcess.start_spec h).2.1, (UxPlayProcess.start_spec h).2.2 ▸ Nat.le_succ _⟩
  have airplay : ∀ event, event = .airplayConnected ∨ event = .airplayDisconnected →
      ((s.daemon.handleEvent event).1.uxplay.expectExit = true →
          (s.daemon.handleEvent event).1.arbiter.state = .miracast) ∧
        ((s.daemon.handleEvent event).1.uxplay.proc ≠ none →
          (s.daemon.handleEvent event).1.uxplay.expectExit = false) ∧
        s.daemon.uxplay.spawned ≤ (s.daemon.handleEvent event).1.uxplay.spawned := by
    intro event hevent
    obtain ⟨_, uxplay, state, _⟩ := s.daemon.handleEvent_airplay_frame hevent
    rw [uxplay, state]
    exact ⟨expected, running, Nat.le_refl _⟩
  cases l with
  | airplayConnected =>
    cases h
    exact airplay _ (.inl rfl)
  | airplayDisconnected =>
    cases h
    exact airplay _ (.inr rfl)
  | miracastConnected =>
    cases h
    obtain ⟨state, uxplay⟩ := s.daemon.miracastConnected_state
    simp only [UxPlayRun.after, state, uxplay]
    split
    · exact ⟨fun _ => rfl, fun child => absurd (UxPlayProcess.stop_proc _) child,
        Nat.le_of_eq (UxPlayProcess.stop_spawned _).symm⟩
    · exact ⟨expected, running, Nat.le_refl _⟩
  | miracastDisconnected =>
    cases h
    obtain ⟨state, same⟩ := s.daemon.miracastDisconnected_state
    simp only [UxPlayRun.after, state]
    rcases same with ⟨same, raises⟩ | starts
    · rw [same]
      refine ⟨fun expects => ?_, running, Nat.le_refl _⟩
      have miracast := expected expects
      have none_proc : s.daemon.uxplay.proc = none := by
        by_contra child
        rw [running child] at expects
        exact Bool.noConfusion expects
      have runs := raises miracast
      simp only [UxPlayProcess.isRunning, none_proc] at runs
      exact Bool.noConfusion runs
    · obtain ⟨unexpected, spawned⟩ := started starts
      rw [unexpected]
      exact ⟨fun h => Bool.noConfusion h, fun _ => rfl, spawned⟩
  | exits =>
    cases h
    exact ⟨expected, fun child => running (mt Option.map_eq_none_iff.mpr child), Nat.le_refl _⟩
  | pumpEnds n =>
    simp only [UxPlayRun.step] at h
    split at h
    case isFalse => cases h
    split at h <;> cases h
    · exact ⟨expected, running, Nat.le_refl _⟩
    · obtain ⟨uxplay, state, _⟩ := s.daemon.onUxplayExited_frame
      simp only [uxplay, state]
      exact ⟨expected, running, Nat.le_refl _⟩
  | wakes n =>
    simp only [UxPlayRun.step] at h
    split at h
    case isFalse => cases h
    split at h <;> cases h
    · rename_i starts
      obtain ⟨unexpected, spawned⟩ := started starts
      simp only [unexpected]
      exact ⟨fun h => Bool.noConfusion h, fun _ => trivial, spawned⟩
    · exact ⟨expected, running, Nat.le_refl _⟩

/-! ## Attended runs -/

namespace AirplayRun

variable {s t : AirplayRun} {l : AirplayLabel}

private theorem counts_of_ne {n j : Nat} (tracker : UxPlayClientTracker) {run : UxPlayRun}
    (pumps : run.pumps = s.run.pumps) (ne : j ≠ n) :
    Counts { run := run, trackers := Function.update s.trackers n tracker } j ↔ s.Counts j := by
  simp only [Counts, pumps, Function.update_of_ne ne]

private theorem counts_self {n : Nat} (tracker : UxPlayClientTracker) {run : UxPlayRun}
    (pumps : run.pumps = s.run.pumps) (reading : s.run.pumps n = .reading) :
    Counts { run := run, trackers := Function.update s.trackers n tracker } n ↔
      0 < tracker.opened := by
  simp only [Counts, pumps, reading, Function.update_self, true_and]

theorem Attended.line {n : Nat} {rawLine : Str} (hs : s.Attended)
    (number : n < s.run.daemon.uxplay.spawned) (reading : s.run.pumps n = .reading) :
    Attended
      { run := s.run.notify (s.feed n rawLine).1
        trackers := Function.update s.trackers n (s.feed n rawLine).2 } := by
  obtain ⟨expected, running, counted, spawned⟩ := hs
  obtain ⟨uxplay, pumps, miracast⟩ := s.run.notify_frame (s.feed n rawLine).1
  refine ⟨?_, ?_, fun airplay => ?_, fun j open_ => ?_⟩
  · simp only [state, uxplay, miracast]
    exact expected
  · simp only [uxplay]
    exact running
  · rcases feed_cases (s.trackers n) (rawLine.rdropWhile isSpace) with
      ⟨_, _, later⟩ | ⟨event, _, _⟩ | ⟨event, same⟩
    · exact ⟨n, (counts_self _ pumps reading).mpr later⟩
    · change (s.feed n rawLine).1 = some .disconnected at event
      simp only [state, event, UxPlayRun.notify, UxPlayRun.after,
        Daemon.onAirplayDisconnected_state] at airplay
      split at airplay
      · cases airplay
      · contradiction
    · change (s.feed n rawLine).1 = none at event
      simp only [state, event, UxPlayRun.notify] at airplay
      obtain ⟨j, counts⟩ := counted airplay
      by_cases hj : j = n
      · subst hj
        exact ⟨j, (counts_self _ pumps reading).mpr (same.mpr counts.2)⟩
      · exact ⟨j, (counts_of_ne _ pumps hj).mpr counts⟩
  · simp only [uxplay]
    by_cases hj : j = n
    · exact hj ▸ number
    · simp only [Function.update_of_ne hj] at open_
      exact spawned j open_

/-- Every step keeps AIRPLAY attended. -/
theorem Attended.step (hs : s.Attended) (h : s.step l = some t) : t.Attended := by
  cases l with
  | line n rawLine =>
    simp only [AirplayRun.step] at h
    split at h <;> cases h
    rename_i guard
    exact hs.line guard.1 guard.2
  | other l =>
    simp only [AirplayRun.step] at h
    split at h
    case isTrue => cases h
    rename_i other
    obtain ⟨run, moved, rfl⟩ := Option.map_eq_some_iff.mp h
    obtain ⟨expected, running, counted, spawned⟩ := hs
    obtain ⟨expected', running', later⟩ := UxPlayRun.step_expected expected running moved
    refine ⟨expected', running', fun airplay => ?_, fun n open_ =>
      Nat.lt_of_lt_of_le (spawned n open_) later⟩
    rcases (UxPlayRun.step_other other expected moved).2 with
      ⟨_, left⟩ | ⟨before, _, _, kept⟩ | ⟨_, left, _⟩
    · exact absurd airplay left
    · obtain ⟨n, reading, open_⟩ := counted before
      exact ⟨n, kept n reading, open_⟩
    · exact absurd airplay left

theorem attended_of_reaches {C : AirplayRun → AirplayLabel → Prop} (reached : system.Reaches C s) :
    s.Attended :=
  reached.invariant ⟨nofun, fun _ => rfl, nofun, nofun⟩ fun _ _ _ _ ht _ hstep => ht.step hstep

private theorem follows_iff_of_none (none : ∀ n, ¬ s.Counts n) :
    s.Follows ↔ s.state ≠ .airplay := by
  refine ⟨fun follows airplay => ?_, fun other =>
    ⟨iff_of_false other fun ⟨n, counts⟩ => none n counts, fun i _ counts => absurd counts (none i)⟩⟩
  obtain ⟨n, counts⟩ := follows.counted.mp airplay
  exact none n counts

private theorem follows_iff_of_one {n : Nat} (counts : s.Counts n) (one : ∀ j, s.Counts j → j = n) :
    s.Follows ↔ s.state = .airplay :=
  ⟨fun follows => follows.counted.mpr ⟨n, counts⟩, fun airplay =>
    ⟨iff_of_true airplay ⟨n, counts⟩, fun i j hi hj => (one i hi).trans (one j hj).symm⟩⟩

private theorem Follows.line_iff {n : Nat} {rawLine : Str} (hs : s.Follows)
    (reading : s.run.pumps n = .reading) :
    Follows
        { run := s.run.notify (s.feed n rawLine).1
          trackers := Function.update s.trackers n (s.feed n rawLine).2 } ↔
      s.Own (.line n rawLine) := by
  obtain ⟨_, pumps, _⟩ := s.run.notify_frame (s.feed n rawLine).1
  have self := counts_self (s.feed n rawLine).2 pumps reading
  have others : ∀ {j}, j ≠ n → _ := fun hj => counts_of_ne (s.feed n rawLine).2 pumps hj
  rcases feed_cases (s.trackers n) (rawLine.rdropWhile isSpace) with
    ⟨event, before, later⟩ | ⟨event, before, later⟩ | ⟨event, same⟩
  · have counts := self.mpr later
    change (s.feed n rawLine).1 = some .connected at event
    by_cases airplay : s.state = .airplay
    · -- another pump counts a client, so that now two do
      obtain ⟨j, other⟩ := hs.counted.mp airplay
      have ne : j ≠ n := fun hj => by
        subst hj
        exact absurd other.2 (before ▸ Nat.lt_irrefl 0)
      refine iff_of_false (fun follows => ?_) fun own => ?_
      · exact ne (follows.one j n ((others ne).mpr other) counts)
      · exact State.noConfusion (airplay.symm.trans (own event))
    · have alone : ∀ j, Counts _ j → j = n := fun j later => by
        by_contra ne
        exact airplay (hs.counted.mpr ⟨j, (others ne).mp later⟩)
      rw [follows_iff_of_one counts alone]
      simp only [state, event, UxPlayRun.notify, UxPlayRun.after,
        Daemon.onAirplayConnected_state, Own, true_imp_iff]
      split
      next idle => exact iff_of_true rfl idle
      next busy => exact iff_of_false airplay busy
  · have counts : s.Counts n := ⟨reading, before⟩
    have airplay : s.state = .airplay := hs.counted.mpr ⟨n, counts⟩
    have none : ∀ j, ¬ Counts _ j := fun j after => by
      by_cases hj : j = n
      · rw [hj, self] at after
        exact absurd after (later ▸ Nat.lt_irrefl 0)
      · exact hj (hs.one j n ((others hj).mp after) counts)
    change (s.feed n rawLine).1 = some .disconnected at event
    refine iff_of_true ((follows_iff_of_none none).mpr ?_) fun connected => ?_
    · simp only [state, event, UxPlayRun.notify, UxPlayRun.after,
        Daemon.onAirplayDisconnected_state]
      rw [if_pos airplay]
      exact State.noConfusion
    · rw [event] at connected
      cases connected
  · have counts : ∀ j, Counts _ j ↔ s.Counts j := fun j => by
      by_cases hj : j = n
      · rw [hj, self]
        exact ⟨fun after => ⟨reading, same.mp after⟩, fun h => same.mpr h.2⟩
      · exact others hj
    change (s.feed n rawLine).1 = none at event
    refine iff_of_true ⟨?_, fun i j hi hj => ?_⟩ fun connected => ?_
    · rw [exists_congr counts]
      simp only [state, event]
      exact hs.counted
    · exact hs.one i j ((counts i).mp hi) ((counts j).mp hj)
    · rw [event] at connected
      cases connected

/-- Any other step keeps the arbiter on the log exactly if it does not end, in AIRPLAY, a pump that
counts no client. -/
private theorem Follows.other_iff {l : UxPlayLabel} {run : UxPlayRun} (hs : s.Follows)
    (attended : s.Attended) (other : ¬(l = .airplayConnected ∨ l = .airplayDisconnected))
    (moved : UxPlayRun.step s.run l = some run) :
    Follows { s with run := run } ↔ s.Own (.other l) := by
  obtain ⟨read, rest⟩ := UxPlayRun.step_other other attended.expected moved
  have earlier : ∀ j, Counts { s with run := run } j → s.Counts j := fun j ⟨reading, opened⟩ =>
    ⟨read j reading, opened⟩
  rcases rest with ⟨before, after⟩ | ⟨before, after, noEnd, kept⟩ | ⟨before, after, n, rfl, _, ends⟩
  · refine iff_of_true ((follows_iff_of_none fun j counts => ?_).mpr after) ?_
    · exact before (hs.counted.mpr ⟨j, earlier j counts⟩)
    · cases l with
      | pumpEnds n => exact fun airplay => absurd airplay before
      | _ => exact trivial
  · obtain ⟨n, counts⟩ := hs.counted.mp before
    have later : Counts { s with run := run } n := ⟨kept n counts.1, counts.2⟩
    refine iff_of_true ((follows_iff_of_one later fun j hj => ?_).mpr after) ?_
    · exact hs.one j n (earlier j hj) counts
    · cases l with
      | pumpEnds n => exact absurd rfl (noEnd n)
      | _ => exact trivial
  · refine ⟨fun follows _ => ?_, fun own => (follows_iff_of_none fun j counts => ?_).mpr after⟩
    · obtain ⟨j, counts⟩ := hs.counted.mp before
      by_cases hj : j = n
      · exact hj ▸ counts
      · exact absurd (follows.counted.mpr ⟨j, (ends j).mpr ⟨counts.1, hj⟩, counts.2⟩) after
    · exact ((ends j).mp counts.1).2 (hs.one j n (earlier j counts) (own before))

end AirplayRun

end Castd.Main
