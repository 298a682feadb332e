/-!
# The uxplay child process

`UxPlayProcess` of `castd/airplay/uxplay.py`. Every child gets a number, so that the pump thread
of one child can be told from the pump thread of the next. `start` answers `none` where the code
raises `RuntimeError`; the waits of `stop` succeed.
-/

namespace Castd.Airplay

/-- A `uxplay` child: its number, and whether `poll()` still answers `None`. -/
structure Child where
  number : Nat
  alive : Bool := true
  deriving DecidableEq, Repr

/-- `UxPlayProcess`: `_proc`, `_expect_exit`, and how many children were spawned so far. -/
structure UxPlayProcess where
  proc : Option Child := none
  expectExit : Bool := false
  spawned : Nat := 0
  deriving DecidableEq, Repr

namespace UxPlayProcess

/-- `UxPlayProcess.is_running`. -/
def isRunning (u : UxPlayProcess) : Bool :=
  match u.proc with
  | some child => child.alive
  | none => false

/-- `UxPlayProcess.start`. -/
def start (u : UxPlayProcess) : Option UxPlayProcess :=
  if u.isRunning then none
  else some
    { proc := some { number := u.spawned }, expectExit := false, spawned := u.spawned + 1 }

/-- `UxPlayProcess.stop`. -/
def stop (u : UxPlayProcess) : UxPlayProcess :=
  match u.proc with
  | none => u
  | some _ => { u with proc := none, expectExit := true }

/-- The child exits by itself. -/
def childExits (u : UxPlayProcess) : UxPlayProcess :=
  { u with proc := u.proc.map fun child => { child with alive := false } }

@[simp] theorem stop_proc (u : UxPlayProcess) : u.stop.proc = none := by
  unfold stop
  split
  · assumption
  · rfl

@[simp] theorem stop_spawned (u : UxPlayProcess) : u.stop.spawned = u.spawned := by
  unfold stop
  split <;> rfl

@[simp] theorem stop_isRunning (u : UxPlayProcess) : u.stop.isRunning = false := by
  simp only [isRunning, stop_proc]

/-- A start that does not raise leaves a live child and expects no exit. -/
theorem start_spec {u u' : UxPlayProcess} (h : u.start = some u') :
    u'.isRunning = true ∧ u'.expectExit = false ∧ u'.spawned = u.spawned + 1 := by
  unfold start at h
  split at h <;> cases h
  exact ⟨rfl, rfl, rfl⟩

/-- `start` raises exactly on a running child. -/
theorem start_eq_none_iff {u : UxPlayProcess} : u.start = none ↔ u.isRunning = true := by
  unfold start
  split <;> simp_all

@[simp] theorem childExits_isRunning (u : UxPlayProcess) : u.childExits.isRunning = false := by
  unfold childExits isRunning
  cases u.proc <;> rfl

end UxPlayProcess

end Castd.Airplay
