import Castd.Fsm.StateMachine
import Castd.Lib.Encode
import Castd.Lib.System
import Mathlib.Data.Rat.Defs
import Mathlib.Algebra.Order.Field.Rat
import Mathlib.Tactic.Linarith

/-!
# What castd sends to systemd

`castd/sdnotify.py` and its two callers. `castd.service` is of `Type=notify` with `WatchdogSec=30`.
`start()` reports that castd is ready and starts `_watchdog_heartbeat_loop`, a thread of its own
that pings every ten seconds. Next to it run the handlers and the rest of `start()`.

Two things are to be seen. Between two datagrams no `WatchdogSec` passes while the next one is still
to come, as long as the thread that sends it is late by fifteen seconds at most. And the datagrams
of a run, byte for byte, are the report of `start()` and then the state of the arbiter at the time
of each ping (`fed_with_states`). The loop waits for nobody, so a handler that hangs shows in
neither.
-/

namespace Castd.Main

open Fsm Lib

/-- The arguments of `notify`. -/
structure Report where
  ready : Bool := false
  watchdog : Bool := false
  status : Option Str := none
  deriving DecidableEq

/-- The lines that `build_notify_message` joins. An empty status has none. -/
def Report.lines (r : Report) : List Str :=
  (if r.ready then ["READY=1".toList] else []) ++
    (if r.watchdog then ["WATCHDOG=1".toList] else []) ++
    match r.status with
    | some status => if status = [] then [] else ["STATUS=".toList ++ status]
    | none => []

/-- `build_notify_message`: none for its `ValueError`. -/
def buildNotifyMessage (r : Report) : Option Bytes :=
  if r.lines = [] then none else some (encode (['\n'].intercalate r.lines))

/-- `State.name`. -/
def stateName : State → Str
  | .idle => "IDLE".toList
  | .miracast => "MIRACAST".toList
  | .airplay => "AIRPLAY".toList

/-- What `start()` reports. -/
def readyReport : Report := { ready := true, status := some "idle".toList }

/-- What a round of `_watchdog_heartbeat_loop` reports. -/
def pingReport (state : State) : Report := { watchdog := true, status := some (stateName state) }

/-- How far the calls of `notify` came. -/
inductive Phase
  /-- `start()` is before its own. -/
  | shows
  /-- Its own returned, and it is about to start the loop. -/
  | reported (since : ℚ)
  /-- The loop is asleep until then, or about to ping. -/
  | beats (due : ℚ)
  /-- A `notify` raised, or castd has ended. -/
  | silent
  deriving DecidableEq

/-- castd and the datagrams that it has sent, newest first, each with its time. -/
structure Supervised where
  now : ℚ := 0
  arbiter : CastArbiter := {}
  phase : Phase := .shows
  datagrams : List (ℚ × Bytes) := []

inductive SupervisedLabel
  | elapses (seconds : ℚ)
  /-- `sdnotify.notify` in `start()`, which returns or raises. -/
  | reports (returns : Bool)
  | startsLoop
  /-- A round of the loop. -/
  | pings (returns : Bool)
  /-- `start()` raises, or castd is stopped. -/
  | ends
  | handles (event : Event)
  deriving DecidableEq

namespace Supervised

/-- `notify` with `NOTIFY_SOCKET` set: none if it raises. -/
def notify (s : Supervised) (report : Report) (returns : Bool) : Option Supervised :=
  if returns then
    (buildNotifyMessage report).map fun message =>
      { s with datagrams := (s.now, message) :: s.datagrams }
  else none

/-- When the thread that sends next is to run. -/
def due (s : Supervised) : Option ℚ :=
  match s.phase with
  | .reported since => some since
  | .beats due => some due
  | _ => none

/-- The step function. The thread that sends next runs within `lag` of when it is to. -/
def step (lag : ℚ) (s : Supervised) : SupervisedLabel → Option Supervised
  | .elapses seconds =>
    if 0 ≤ seconds ∧ ∀ due ∈ s.due, s.now + seconds ≤ due + lag then
      some { s with now := s.now + seconds }
    else none
  | .reports returns =>
    match s.phase with
    | .shows =>
      match s.notify readyReport returns with
      | some s' => some { s' with phase := .reported s.now }
      | none => some { s with phase := .silent }
    | _ => none
  | .startsLoop =>
    match s.phase with
    | .reported _ => some { s with phase := .beats s.now }
    | _ => none
  | .pings returns =>
    match s.phase with
    | .beats due =>
      if due ≤ s.now then
        match s.notify (pingReport s.arbiter.state) returns with
        | some s' => some { s' with phase := .beats (s.now + 10) }
        | none => some { s with phase := .silent }
      else none
    | _ => none
  | .ends => some { s with phase := .silent }
  | .handles event => some { s with arbiter := (s.arbiter.handle event).2 }

/-- castd under systemd, from where `start()` is about to report. -/
def system (lag : ℚ) : System Supervised SupervisedLabel := { init := {}, step := step lag }

/-- `WatchdogSec` has passed since the last datagram, which is when the service manager takes castd
for dead. Before the first one it waits for that. -/
def Overdue (s : Supervised) : Prop := ∃ last ∈ s.datagrams.head?, 30 < s.now - last.1

instance (s : Supervised) : Decidable s.Overdue :=
  match head : s.datagrams.head? with
  | none => .isFalse fun ⟨_, member, _⟩ => by simp [head] at member
  | some last =>
    decidable_of_iff (30 < s.now - last.1) (by simp [Overdue, head])

/-- The datagram of `start()`, in its bytes. -/
def readyMessage : Bytes := encode "READY=1\nSTATUS=idle".toList

/-- The datagram of a ping in a state, in its bytes. -/
def pingMessage (state : State) : Bytes := encode ("WATCHDOG=1\nSTATUS=".toList ++ stateName state)

/-- What a run is to send, oldest first: the clock and the arbiter are followed through its labels,
and whoever sends at a label sends what they are then. -/
def journal : ℚ → CastArbiter → List SupervisedLabel → List (ℚ × Bytes)
  | _, _, [] => []
  | now, arbiter, .elapses seconds :: labels => journal (now + seconds) arbiter labels
  | now, arbiter, .handles event :: labels => journal now (arbiter.handle event).2 labels
  | now, arbiter, .reports true :: labels => (now, readyMessage) :: journal now arbiter labels
  | now, arbiter, .pings true :: labels =>
    (now, pingMessage arbiter.state) :: journal now arbiter labels
  | now, arbiter, _ :: labels => journal now arbiter labels

/-- The report of `start()` is the first datagram, and every later one is a ping. -/
def ReadyFirst (s : Supervised) : Prop :=
  s.datagrams = [] ∨ ∃ pings time, s.datagrams = pings ++ [(time, readyMessage)] ∧
    ∀ ping ∈ pings, ∃ state, ping.2 = pingMessage state

/-! ## What a step does -/

private theorem buildNotifyMessage_ready :
    buildNotifyMessage readyReport = some readyMessage := by decide

private theorem buildNotifyMessage_ping (state : State) :
    buildNotifyMessage (pingReport state) = some (pingMessage state) := by
  cases state <;> decide

section

variable {lag : ℚ} {s s' : Supervised}

/-- What a step can do. -/
inductive Steps (lag : ℚ) (s : Supervised) : SupervisedLabel → Supervised → Prop
  | elapses (seconds : ℚ) (later : 0 ≤ seconds)
      (inTime : ∀ due ∈ s.due, s.now + seconds ≤ due + lag) :
      Steps lag s (.elapses seconds) { s with now := s.now + seconds }
  | reports (shows : s.phase = .shows) :
      Steps lag s (.reports true) { s with
        phase := .reported s.now
        datagrams := (s.now, readyMessage) :: s.datagrams }
  | startsLoop (since : ℚ) (reported : s.phase = .reported since) :
      Steps lag s .startsLoop { s with phase := .beats s.now }
  | pings (due : ℚ) (beats : s.phase = .beats due) :
      Steps lag s (.pings true) { s with
        phase := .beats (s.now + 10)
        datagrams := (s.now, pingMessage s.arbiter.state) :: s.datagrams }
  | raises {label : SupervisedLabel} (unsent : label = .reports false ∨ label = .pings false) :
      Steps lag s label { s with phase := .silent }
  | ends : Steps lag s .ends { s with phase := .silent }
  | handles (event : Event) :
      Steps lag s (.handles event) { s with arbiter := (s.arbiter.handle event).2 }

private theorem step_steps {label : SupervisedLabel} (h : step lag s label = some s') :
    Steps lag s label s' := by
  cases label with
  | elapses seconds =>
    rw [step, Option.ite_none_right_eq_some] at h
    obtain ⟨⟨nonneg, inTime⟩, h⟩ := h
    cases h
    exact .elapses seconds nonneg inTime
  | reports returns =>
    cases shows : s.phase <;> simp only [step, shows] at h <;> try cases h
    cases returns with
    | false =>
      cases h
      exact .raises (.inl rfl)
    | true =>
      rw [notify, if_pos rfl, buildNotifyMessage_ready] at h
      cases h
      exact .reports shows
  | startsLoop =>
    cases reported : s.phase <;> simp only [step, reported] at h <;> cases h
    exact .startsLoop _ reported
  | pings returns =>
    cases beats : s.phase <;> simp only [step, beats] at h <;> try cases h
    rw [Option.ite_none_right_eq_some] at h
    cases returns with
    | false =>
      cases h.2
      exact .raises (.inr rfl)
    | true =>
      rw [notify, if_pos rfl, buildNotifyMessage_ping] at h
      cases h.2
      exact .pings _ beats
  | ends =>
    cases h
    exact .ends
  | handles event =>
    cases h
    exact .handles event

/-! ## Runs -/

private theorem journal_of_step {label : SupervisedLabel} (h : Steps lag s label s')
    (labels : List SupervisedLabel) :
    s.datagrams.reverse ++ journal s.now s.arbiter (label :: labels) =
      s'.datagrams.reverse ++ journal s'.now s'.arbiter labels := by
  cases h with
  | reports _ | pings _ _ => simp [journal]
  | raises unsent => rcases unsent with rfl | rfl <;> rfl
  | _ => rfl

private theorem datagrams_of_run (labels : List SupervisedLabel) : ∀ {s t : Supervised},
    (system lag).runFrom s labels = some t →
      t.datagrams.reverse = s.datagrams.reverse ++ journal s.now s.arbiter labels := by
  induction labels with
  | nil =>
    intro s t h
    cases h
    exact (List.append_nil _).symm
  | cons label labels ih =>
    intro s t h
    obtain ⟨u, first, rest⟩ := Option.bind_eq_some_iff.mp h
    rw [journal_of_step (step_steps first) labels]
    exact ih rest

/-- How old the last datagram can be while something is to send the next one. -/
def Fresh (lag : ℚ) (s : Supervised) : Prop :=
  match s.phase with
  | .shows => s.datagrams = []
  | .reported since => s.now ≤ since + lag ∧ ∃ last ∈ s.datagrams.head?, last.1 = since
  | .beats due => s.now ≤ due + lag ∧ ∃ last ∈ s.datagrams.head?, due ≤ last.1 + max lag 10
  | .silent => True

theorem Fresh.step {label : SupervisedLabel} (nonneg : 0 ≤ lag) (fresh : s.Fresh lag)
    (step : Steps lag s label s') : s'.Fresh lag := by
  unfold Fresh at fresh ⊢
  cases step with
  | elapses seconds later inTime =>
    unfold due at inTime
    cases phase : s.phase <;> simp only [phase] at fresh inTime ⊢
    · exact fresh
    · exact ⟨inTime _ rfl, fresh.2⟩
    · exact ⟨inTime _ rfl, fresh.2⟩
  | reports shows => exact ⟨le_add_of_nonneg_right nonneg, _, rfl, rfl⟩
  | startsLoop since reported =>
    rw [reported] at fresh
    obtain ⟨inTime, last, isLast, rfl⟩ := fresh
    exact ⟨le_add_of_nonneg_right nonneg, last, isLast,
      inTime.trans (add_le_add_right (le_max_left lag 10) _)⟩
  | pings due beats =>
    have later : s.now ≤ s.now + 10 + lag := by linarith
    exact ⟨later, _, rfl, add_le_add_right (le_max_right lag 10) _⟩
  | raises | ends => trivial
  | handles event => exact fresh

private theorem Fresh.not_overdue (fresh : s.Fresh lag) (prompt : lag ≤ 15)
    (sends : s.phase ≠ .silent) :
    ¬ s.Overdue := by
  rintro ⟨last, isLast, old⟩
  unfold Fresh at fresh
  cases phase : s.phase with
  | shows =>
    rw [phase] at fresh
    simp [show s.datagrams = [] from fresh] at isLast
  | reported since =>
    rw [phase] at fresh
    obtain ⟨inTime, newest, isNewest, rfl⟩ := fresh
    cases Option.mem_unique isLast isNewest
    linarith
  | beats due =>
    rw [phase] at fresh
    obtain ⟨inTime, newest, isNewest, soon⟩ := fresh
    cases Option.mem_unique isLast isNewest
    have pause : max lag 10 ≤ 15 := max_le prompt (by norm_num)
    linarith
  | silent => exact sends phase

theorem ReadyFirst.step {label : SupervisedLabel} (fresh : s.Fresh lag) (ready : s.ReadyFirst)
    (step : Steps lag s label s') : s'.ReadyFirst := by
  unfold Fresh at fresh
  cases step with
  | reports shows =>
    rw [shows] at fresh
    exact .inr ⟨[], s.now, congrArg (_ :: ·) fresh, List.forall_mem_nil _⟩
  | pings due beats =>
    rw [beats] at fresh
    obtain ⟨_, last, isLast, _⟩ := fresh
    rcases ready with none | ⟨pings, time, all, states⟩
    · simp [none] at isLast
    · refine .inr ⟨(s.now, pingMessage s.arbiter.state) :: pings, time, congrArg (_ :: ·) all, ?_⟩
      exact List.forall_mem_cons.mpr ⟨⟨s.arbiter.state, rfl⟩, states⟩
  | _ => exact ready

private theorem silent_stays (silent : s.phase = .silent) {t : Supervised}
    (leads : (system lag).Leads (fun _ _ => True) s t) : t.datagrams = s.datagrams := by
  refine (leads.invariant (I := fun t => t.phase = .silent ∧ t.datagrams = s.datagrams)
    ⟨silent, rfl⟩ fun t label u _ ⟨silent, same⟩ _ h => ?_).2
  cases step_steps h with
  | reports shows => cases silent.symm.trans shows
  | startsLoop since reported => cases silent.symm.trans reported
  | pings due beats => cases silent.symm.trans beats
  | raises | ends => exact ⟨rfl, same⟩
  | _ => exact ⟨silent, same⟩

/-- With threads that are later the next datagram is overdue while it is still to come: the loop
starts late, and its first ping is late. -/
private theorem overdue_of_late (late : 15 < lag) :
    ∃ s, (system lag).Reachable s ∧ s.Overdue ∧ s.phase ≠ .silent := by
  have nonneg : 0 ≤ lag := by linarith
  have reports : (system lag).step {} (.reports true) =
      some { phase := .reported 0, datagrams := [(0, readyMessage)] } := by
    simp only [system, step, notify, buildNotifyMessage_ready, if_true, Option.map_some]
  have elapses : (system lag).step { phase := .reported 0, datagrams := [(0, readyMessage)] }
        (.elapses lag) =
      some { now := 0 + lag, phase := .reported 0, datagrams := [(0, readyMessage)] } :=
    if_pos ⟨nonneg, fun due h => by cases h; exact le_refl _⟩
  have again : (system lag).step
        { now := 0 + lag, phase := .beats (0 + lag), datagrams := [(0, readyMessage)] }
        (.elapses lag) =
      some { now := 0 + lag + lag, phase := .beats (0 + lag), datagrams := [(0, readyMessage)] } :=
    if_pos ⟨nonneg, fun due h => by cases h; exact le_refl _⟩
  have starts : (system lag).step
        { now := 0 + lag, phase := .reported 0, datagrams := [(0, readyMessage)] } .startsLoop =
      some { now := 0 + lag, phase := .beats (0 + lag), datagrams := [(0, readyMessage)] } := rfl
  have started : (system lag).Reachable
      { now := 0 + lag, phase := .beats (0 + lag), datagrams := [(0, readyMessage)] } :=
    ((System.Leads.refl.step trivial reports).step trivial elapses).step trivial starts
  refine ⟨_, started.step trivial again, ⟨_, rfl, ?_⟩, fun silent => nomatch silent⟩
  show 30 < 0 + lag + lag - 0
  linarith

/-- No datagram is overdue while the next one is still to come, exactly if the threads that send are
late by fifteen seconds at most. Every run sends what its journal has, the report of `start()`
first, and once nothing sends any more nothing does again. -/
theorem fed_with_states (nonneg : 0 ≤ lag) :
    ((∀ s, (system lag).Reachable s → s.Overdue → s.phase = .silent) ↔ lag ≤ 15) ∧
      ∀ labels s, (system lag).run labels = some s →
        s.datagrams.reverse = journal 0 {} labels ∧ s.ReadyFirst ∧
          (s.phase = .silent → ∀ t, (system lag).Leads (fun _ _ => True) s t →
            t.datagrams = s.datagrams) := by
  have fresh : ∀ s, (system lag).Reachable s → s.Fresh lag := fun s reached =>
    reached.invariant rfl fun _ _ _ _ fresh _ h => fresh.step nonneg (step_steps h)
  refine ⟨⟨fun dead => ?_, fun prompt s reached overdue => ?_⟩, fun labels s run =>
    ⟨datagrams_of_run labels run, ?_, fun silent t leads => silent_stays silent leads⟩⟩
  · by_contra late
    obtain ⟨s, reached, overdue, sends⟩ := overdue_of_late (not_le.mp late)
    exact sends (dead s reached overdue)
  · by_contra sends
    exact (fresh s reached).not_overdue prompt sends overdue
  · have reached : (system lag).Reachable s := System.runFrom_leads labels run
    exact reached.invariant (.inl rfl) fun t _ _ reached ready _ h =>
      ready.step (fresh t reached) (step_steps h)

end

/-- With threads that are late by a second no datagram is overdue while the next one is to come. One
is after a ping that raised; the run has sent the report of `start()` and one ping, in MIRACAST. -/
theorem fed_with_states_by_a_second :
    (∀ s, (system 1).Reachable s → s.Overdue → s.phase = .silent) ∧
      ∃ s, (system 1).run [.reports true, .elapses 1, .startsLoop, .handles .miracastConnected,
        .pings true, .elapses 11, .pings false, .elapses 20] = some s ∧ s.Overdue ∧
        s.datagrams.map (·.2) = [pingMessage .miracast, readyMessage] :=
  ⟨(fed_with_states (by decide)).1.mpr (by decide), System.exists_run (by decide +kernel)⟩

end Supervised

end Castd.Main
