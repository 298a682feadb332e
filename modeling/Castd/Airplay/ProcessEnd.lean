import Castd.Airplay.UxPlay
import Castd.Lib.System

/-!
# The end of a uxplay process

`on_process_ended` is to fire for the exits that castd did not ask for. `start` gives every child a
pump thread of its own, which looks at `_expect_exit` when the child's output ends. That may be long
after the child is gone, and `_expect_exit` then speaks of the last call of `start` or `stop`.

`UxPlayEnds` has the children with how they ended, and the pumps. The callback is right as long as
the last call is the one that the child's end goes with (`Meant`), and the first pump that ends
otherwise breaks that (`onProcessEnded_right`). A `stop` and a `start` that wait for the pumps are
enough (`right_of_joined`).
-/

namespace Castd.Airplay

open Lib

/-- How a child ended. -/
inductive Fate
  | running
  /-- By itself, before a `stop` found it. -/
  | exited
  /-- A `stop` terminated it. -/
  | terminated
  deriving DecidableEq

/-- The process, and the children spawned so far: how each ended, whether its pump ended, and how
often that pump called `on_process_ended`. -/
structure UxPlayEnds where
  uxplay : UxPlayProcess := {}
  fate : Nat → Fate := fun _ => .running
  ended : Nat → Bool := fun _ => false
  callbacks : Nat → Nat := fun _ => 0

/-- A call of `start` or `stop`, or something that happens to a child. -/
inductive UxPlayEndsLabel
  /-- `start()`. `Popen` raises or spawns a child. -/
  | start (spawns : Bool)
  | stop
  /-- The child exits by itself. -/
  | exits
  /-- The pump of a child comes to the end of the output. -/
  | pumpEnds (number : Nat)
  deriving DecidableEq

namespace UxPlayEnds

/-- The step function. -/
def step (s : UxPlayEnds) : UxPlayEndsLabel → Option UxPlayEnds
  | .start spawns =>
    match s.uxplay.start with
    | some uxplay =>
      if spawns then some { s with uxplay := uxplay }
      -- `_expect_exit` is cleared before `Popen`
      else some { s with uxplay := { s.uxplay with expectExit := false } }
    | none => some s
  | .stop =>
    match s.uxplay.proc with
    | some child =>
      some { s with
        uxplay := s.uxplay.stop
        fate := if child.alive then Function.update s.fate child.number .terminated else s.fate }
    | none => some s
  | .exits =>
    match s.uxplay.proc with
    | some child =>
      if child.alive then
        some { s with
          uxplay := s.uxplay.childExits
          fate := Function.update s.fate child.number .exited }
      else none
    | none => none
  | .pumpEnds n =>
    if s.fate n ≠ .running ∧ s.ended n = false then
      some { s with
        ended := Function.update s.ended n true
        callbacks :=
          if s.uxplay.expectExit then s.callbacks
          else Function.update s.callbacks n (s.callbacks n + 1) }
    else none

/-- The system. -/
def system : System UxPlayEnds UxPlayEndsLabel := { init := {}, step := step }

/-- How often the callback is to have run for a child: once when it exited by itself and its pump
has ended, and else never. -/
def due (fate : Fate) (ended : Bool) : Nat := if fate = .exited ∧ ended = true then 1 else 0

/-- The callback ran as often as it was to, for every child: once where the child ended without a
`stop`, and not at all where castd stopped it. -/
def Right (s : UxPlayEnds) : Prop := ∀ n, s.callbacks n = due (s.fate n) (s.ended n)

/-- When a pump ends, the last call was a `stop` if a `stop` terminated its child, and a `start` if
the child exited by itself. -/
def Meant (s : UxPlayEnds) : UxPlayEndsLabel → Prop
  | .pumpEnds n => s.uxplay.expectExit = true ↔ s.fate n = .terminated
  | _ => True

instance (s : UxPlayEnds) (l : UxPlayEndsLabel) : Decidable (s.Meant l) :=
  match l with
  | .pumpEnds _ => inferInstanceAs (Decidable (_ ↔ _))
  | .start _ | .stop | .exits => instDecidableTrue

/-- What a step that is enabled does. -/
inductive Moves (s : UxPlayEnds) : UxPlayEndsLabel → UxPlayEnds → Prop
  /-- `start` raises on a running child. -/
  | refused {spawns : Bool} : Moves s (.start spawns) s
  | started {uxplay : UxPlayProcess} (started : s.uxplay.start = some uxplay) :
    Moves s (.start true) { s with uxplay := uxplay }
  /-- `Popen` raises. -/
  | failed : Moves s (.start false) { s with uxplay := { s.uxplay with expectExit := false } }
  | nothingToStop : Moves s .stop s
  /-- `stop` finds a child that is gone already. -/
  | reaped {child : Child} (proc : s.uxplay.proc = some child) :
    Moves s .stop { s with uxplay := s.uxplay.stop }
  | terminated {child : Child} (proc : s.uxplay.proc = some child) (alive : child.alive = true) :
    Moves s .stop { s with
      uxplay := s.uxplay.stop
      fate := Function.update s.fate child.number .terminated }
  | exited {child : Child} (proc : s.uxplay.proc = some child) (alive : child.alive = true) :
    Moves s .exits { s with
      uxplay := s.uxplay.childExits
      fate := Function.update s.fate child.number .exited }
  | pumpEnded {n : Nat} (gone : s.fate n ≠ .running) (pending : s.ended n = false) :
    Moves s (.pumpEnds n) { s with
      ended := Function.update s.ended n true
      callbacks :=
        if s.uxplay.expectExit then s.callbacks
        else Function.update s.callbacks n (s.callbacks n + 1) }

theorem moves_of_step {s t : UxPlayEnds} {l : UxPlayEndsLabel} (hstep : s.step l = some t) :
    Moves s l t := by
  cases l with
  | start spawns =>
    dsimp only [UxPlayEnds.step] at hstep
    split at hstep
    next uxplay started =>
      cases spawns <;> cases hstep
      · exact .failed
      · exact .started started
    next =>
      cases hstep
      exact .refused
  | stop =>
    dsimp only [UxPlayEnds.step] at hstep
    split at hstep
    next child proc =>
      cases hstep
      split
      next alive => exact .terminated proc alive
      next => exact .reaped proc
    next =>
      cases hstep
      exact .nothingToStop
  | exits =>
    dsimp only [UxPlayEnds.step] at hstep
    split at hstep
    next child proc =>
      split at hstep
      next alive =>
        cases hstep
        exact .exited proc alive
      next => cases hstep
    next => cases hstep
  | pumpEnds n =>
    dsimp only [UxPlayEnds.step] at hstep
    split at hstep
    next guard =>
      cases hstep
      exact .pumpEnded guard.1 guard.2
    next => cases hstep

/-- What every run keeps. -/
structure Tidy (s : UxPlayEnds) : Prop where
  fresh : ∀ n, s.uxplay.spawned ≤ n → s.fate n = .running
  known : ∀ child, s.uxplay.proc = some child → child.number < s.uxplay.spawned
  current : ∀ child, s.uxplay.proc = some child → child.alive = true →
    s.fate child.number = .running
  pumped : ∀ n, s.ended n = true → s.fate n ≠ .running

private theorem Tidy.set_fate {s : UxPlayEnds} (h : s.Tidy) {child : Child}
    (hproc : s.uxplay.proc = some child) (fate : Fate) (gone : fate ≠ .running) :
    (∀ n, s.uxplay.spawned ≤ n →
        Function.update s.fate child.number fate n = .running) ∧
      ∀ n, s.ended n = true → Function.update s.fate child.number fate n ≠ .running := by
  have known := h.known child hproc
  constructor
  · intro n hn
    rw [Function.update_of_ne (by omega)]
    exact h.fresh n hn
  · intro n ended
    by_cases same : n = child.number
    · rw [same, Function.update_self]
      exact gone
    · rw [Function.update_of_ne same]
      exact h.pumped n ended

/-- A stop leaves no child, and all that was said of the children spawned. -/
theorem Tidy.stopped {s : UxPlayEnds} {fate : Nat → Fate}
    (fresh : ∀ n, s.uxplay.spawned ≤ n → fate n = .running)
    (pumped : ∀ n, s.ended n = true → fate n ≠ .running) :
    Tidy { s with uxplay := s.uxplay.stop, fate := fate } where
  fresh := by
    intro n hn
    refine fresh n ?_
    rwa [← UxPlayProcess.stop_spawned]
  known := by
    intro child proc
    rw [UxPlayProcess.stop_proc] at proc
    cases proc
  current := by
    intro child proc
    rw [UxPlayProcess.stop_proc] at proc
    cases proc
  pumped := pumped

theorem Tidy.step {s t : UxPlayEnds} {l : UxPlayEndsLabel} (h : s.Tidy)
    (hstep : s.step l = some t) : t.Tidy := by
  cases moves_of_step hstep with
  | refused => exact h
  | nothingToStop => exact h
  | failed => exact ⟨h.fresh, h.known, h.current, h.pumped⟩
  | started started =>
    unfold UxPlayProcess.start at started
    split at started <;> cases started
    refine ⟨fun n hn => h.fresh n (Nat.le_of_succ_le hn), ?_, ?_, h.pumped⟩
    · rintro _ ⟨⟩
      exact Nat.lt_succ_self _
    · rintro _ ⟨⟩ -
      exact h.fresh _ (Nat.le_refl _)
  | reaped _ => exact .stopped h.fresh h.pumped
  | terminated proc _ =>
    obtain ⟨fresh, pumped⟩ := h.set_fate proc .terminated Fate.noConfusion
    exact .stopped fresh pumped
  | exited proc _ =>
    obtain ⟨fresh, pumped⟩ := h.set_fate proc .exited Fate.noConfusion
    refine ⟨fresh, fun after same => ?_, fun after same alive => ?_, pumped⟩
    · obtain ⟨before, hbefore, rfl⟩ := Option.map_eq_some_iff.mp same
      exact h.known before hbefore
    · obtain ⟨before, hbefore, rfl⟩ := Option.map_eq_some_iff.mp same
      cases alive
  | @pumpEnded n gone _ =>
    refine ⟨h.fresh, h.known, h.current, fun m ended => ?_⟩
    by_cases same : m = n
    · exact same ▸ gone
    · dsimp only at ended
      rw [Function.update_of_ne same] at ended
      exact h.pumped m ended

/-- The pump of a running child has not ended. -/
theorem Tidy.pending {s : UxPlayEnds} (h : s.Tidy) {child : Child}
    (hproc : s.uxplay.proc = some child) (alive : child.alive = true) :
    s.ended child.number = false :=
  Bool.eq_false_iff.mpr fun ended => h.pumped _ ended (h.current child hproc alive)

@[simp] theorem due_false (fate : Fate) : due fate false = 0 :=
  if_neg fun h => Bool.false_ne_true h.2

private theorem Right.set_fate {s : UxPlayEnds} (h : s.Right) {number : Nat} (fate : Fate)
    (pending : s.ended number = false) :
    ∀ n, s.callbacks n = due (Function.update s.fate number fate n) (s.ended n) := by
  intro n
  by_cases same : n = number
  · rw [h n, same, pending, due_false, due_false]
  · rw [Function.update_of_ne same]
    exact h n

private theorem Right.pumpEnds_iff {s t : UxPlayEnds} {n : Nat} (h : s.Right)
    (hstep : s.step (.pumpEnds n) = some t) : t.Right ↔ s.Meant (.pumpEnds n) := by
  cases moves_of_step hstep with
  | pumpEnded gone pending =>
    have zero : s.callbacks n = 0 := by rw [h n, pending, due_false]
    have others : ∀ m, m ≠ n → (if s.uxplay.expectExit = true then s.callbacks
        else Function.update s.callbacks n (s.callbacks n + 1)) m = s.callbacks m := by
      intro m other
      split
      · rfl
      · exact Function.update_of_ne other _ _
    have counted : (if s.uxplay.expectExit = true then s.callbacks
        else Function.update s.callbacks n (s.callbacks n + 1)) n =
        if s.uxplay.expectExit = true then 0 else 1 := by
      split
      · exact zero
      · rw [Function.update_self, zero]
    have here : (if s.uxplay.expectExit = true then 0 else 1) = due (s.fate n) true ↔
        (s.uxplay.expectExit = true ↔ s.fate n = .terminated) := by
      cases hfate : s.fate n with
      | running => exact absurd hfate gone
      | exited => cases s.uxplay.expectExit <;> decide
      | terminated => cases s.uxplay.expectExit <;> decide
    constructor
    · intro right
      have ofPump := right n
      dsimp only at ofPump
      rw [counted, Function.update_self] at ofPump
      exact here.mp ofPump
    · intro meant m
      dsimp only
      by_cases same : m = n
      · rw [same, counted, Function.update_self]
        exact here.mpr meant
      · rw [others m same, Function.update_of_ne same]
        exact h m

/-- A step that is meant keeps the callbacks right. -/
theorem Right.step {s t : UxPlayEnds} {l : UxPlayEndsLabel} (h : s.Right) (tidy : s.Tidy)
    (meant : s.Meant l) (hstep : s.step l = some t) : t.Right := by
  cases moves_of_step hstep with
  | refused => exact h
  | started => exact h
  | failed => exact h
  | nothingToStop => exact h
  | reaped => exact h
  | terminated proc alive => exact h.set_fate .terminated (tidy.pending proc alive)
  | exited proc alive => exact h.set_fate .exited (tidy.pending proc alive)
  | pumpEnded => exact (h.pumpEnds_iff hstep).mpr meant

/-! ## Runs -/

/-- What holds in every state of every run. -/
theorem tidy_of_reaches {C : UxPlayEnds → UxPlayEndsLabel → Prop} {s : UxPlayEnds}
    (reached : system.Reaches C s) : s.Tidy := by
  refine reached.invariant ⟨fun _ _ => rfl, ?_, ?_, ?_⟩ fun t l u _ tidy _ hstep =>
    tidy.step hstep
  · rintro _ ⟨⟩
  · rintro _ ⟨⟩
  · rintro _ ⟨⟩

/-- As long as every pump ends as meant, the callbacks are right in every state; the first one that
ends otherwise makes them wrong.

`_expect_exit` is one flag for all children: a `start` that comes before the pump of the child
before has ended takes back what `stop` has set for it. -/
theorem onProcessEnded_right {s : UxPlayEnds} (reached : system.Reaches Meant s) :
    s.Right ∧ ∀ l t, system.step s l = some t → (t.Right ↔ s.Meant l) := by
  have right : s.Right :=
    reached.invariant (fun _ => (due_false _).symm) fun t l u before right meant hstep =>
      right.step (tidy_of_reaches before) meant hstep
  refine ⟨right, fun l t hstep => ⟨fun later => ?_, fun meant => ?_⟩⟩
  · cases l with
    | pumpEnds n => exact (right.pumpEnds_iff hstep).mp later
    | start _ => trivial
    | stop => trivial
    | exits => trivial
  · exact right.step (tidy_of_reaches reached) meant hstep

/-- The pump of a child that was stopped ends after the next start, and the pump of a child that
crashed ends after a stop. -/
theorem pump_ends_late :
    (∃ s, system.run [.start true, .stop, .start true, .pumpEnds 0] = some s ∧
        s.fate 0 = .terminated ∧ s.callbacks 0 = 1 ∧ s.uxplay.isRunning = true) ∧
      ∃ s, system.run [.start true, .exits, .stop, .pumpEnds 0] = some s ∧
        s.fate 0 = .exited ∧ s.ended 0 = true ∧ s.callbacks 0 = 0 :=
  ⟨System.exists_run (by decide +kernel), System.exists_run (by decide +kernel)⟩

/-- A crash, a restart and a stop, each seen by its own pump. -/
theorem crash_restart_stop :
    ∃ s, System.runUnder system Meant system.init
        [.start true, .exits, .start true, .pumpEnds 0, .stop, .pumpEnds 1] = some s ∧
      s.callbacks 0 = due (s.fate 0) (s.ended 0) ∧ s.callbacks 1 = due (s.fate 1) (s.ended 1) ∧
      s.fate 0 = .exited ∧ s.fate 1 = .terminated := by
  obtain ⟨s, run, fates⟩ : ∃ s, System.runUnder system Meant system.init
      [.start true, .exits, .start true, .pumpEnds 0, .stop, .pumpEnds 1] = some s ∧
        s.fate 0 = .exited ∧ s.fate 1 = .terminated :=
    System.exists_runUnder (by decide +kernel)
  have right := (onProcessEnded_right (System.runUnder_leads _ run)).1
  exact ⟨s, run, right 0, right 1, fates⟩

/-! ## Waiting for the pumps -/

/-- `start` comes after the pumps of all children that were stopped, and `stop` after the pumps of
all that exited by themselves. -/
def Joined (s : UxPlayEnds) : UxPlayEndsLabel → Prop
  | .start _ => ∀ n, s.fate n = .terminated → s.ended n = true
  | .stop => ∀ n, s.fate n = .exited → s.ended n = true
  | _ => True

/-- The pumps that are still to end go with the last call. -/
structure Agrees (s : UxPlayEnds) : Prop where
  alive : s.uxplay.isRunning = true → s.uxplay.expectExit = false
  stopped : s.uxplay.expectExit = true → ∀ n, s.fate n = .exited → s.ended n = true
  started : s.uxplay.expectExit = false → ∀ n, s.fate n = .terminated → s.ended n = true

private theorem Agrees.meant {s t : UxPlayEnds} {l : UxPlayEndsLabel} (h : s.Agrees)
    (hstep : s.step l = some t) : s.Meant l := by
  cases moves_of_step hstep with
  | @pumpEnded n gone pending =>
    have stopped := fun flag fate => Bool.eq_false_iff.mp pending (h.stopped flag n fate)
    have started := fun flag fate => Bool.eq_false_iff.mp pending (h.started flag n fate)
    dsimp only [Meant]
    cases hflag : s.uxplay.expectExit with
    | true =>
      cases hfate : s.fate n with
      | running => exact absurd hfate gone
      | exited => exact (stopped hflag hfate).elim
      | terminated => exact iff_of_true rfl rfl
    | false => exact iff_of_false Bool.false_ne_true (started hflag)
  | _ => trivial

private theorem Agrees.afterStop {s : UxPlayEnds} {fate : Nat → Fate} {child : Child}
    (proc : s.uxplay.proc = some child) (ended : ∀ n, fate n = .exited → s.ended n = true) :
    Agrees { s with uxplay := s.uxplay.stop, fate := fate } := by
  have flag : s.uxplay.stop.expectExit = true := by
    unfold UxPlayProcess.stop
    rw [proc]
  refine ⟨fun running => ?_, fun _ => ended, fun started => ?_⟩
  · rw [UxPlayProcess.stop_isRunning] at running
    cases running
  · rw [flag] at started
    cases started

theorem Agrees.step {s t : UxPlayEnds} {l : UxPlayEndsLabel} (h : s.Agrees)
    (joined : s.Joined l) (hstep : s.step l = some t) : t.Agrees := by
  cases moves_of_step hstep with
  | refused => exact h
  | nothingToStop => exact h
  | started started =>
    obtain ⟨-, flag, -⟩ := UxPlayProcess.start_spec started
    refine ⟨fun _ => flag, fun stopped => ?_, fun _ => joined⟩
    rw [flag] at stopped
    cases stopped
  | failed => exact ⟨fun _ => rfl, fun stopped => Bool.noConfusion stopped, fun _ => joined⟩
  | reaped proc => exact .afterStop proc joined
  | terminated proc alive =>
    refine .afterStop proc fun n exited => joined n ?_
    exact eq_of_update exited Fate.noConfusion
  | exited proc alive =>
    have flag : s.uxplay.expectExit = false := h.alive (by
      unfold UxPlayProcess.isRunning
      rw [proc]
      exact alive)
    refine ⟨fun _ => flag, fun stopped => ?_, fun _ n terminated => ?_⟩
    · rw [UxPlayProcess.childExits, flag] at stopped
      cases stopped
    · exact h.started flag n (eq_of_update terminated Fate.noConfusion)
  | @pumpEnded n gone pending =>
    have grows : ∀ m, s.ended m = true → Function.update s.ended n true m = true := by
      intro m ended
      by_cases same : m = n
      · rw [same, Function.update_self]
      · rwa [Function.update_of_ne same]
    exact ⟨h.alive, fun flag m fate => grows m (h.stopped flag m fate),
      fun flag m fate => grows m (h.started flag m fate)⟩

/-- With calls that wait for the pumps the callbacks are right. -/
theorem right_of_joined {s : UxPlayEnds} (reached : system.Reaches Joined s) : s.Right := by
  have agrees : ∀ s, system.Reaches Joined s → s.Agrees := fun s reached =>
    reached.invariant
      ⟨fun _ => rfl, fun flag => Bool.noConfusion flag, fun _ _ fate => Fate.noConfusion fate⟩
      fun t l u _ agrees joined hstep => agrees.step joined hstep
  refine reached.invariant (fun _ => (due_false _).symm) fun t l u before right _ hstep => ?_
  exact right.step (tidy_of_reaches before) ((agrees t before).meant hstep) hstep

end UxPlayEnds

end Castd.Airplay
