import Castd.Fsm.StateMachine
import Mathlib.Algebra.Order.Floor.Ring
import Mathlib.Data.Rat.Floor
import Mathlib.Algebra.Ring.Int.Parity
import Mathlib.Tactic.Linarith
import Mathlib.Tactic.NormNum

/-!
# The health endpoint

`castd/health.py`. `HealthState` holds the state last reported and the time of the last call of
`heartbeat`; the handler of `/health` answers 200 or 503 from the age of that call, rounded to a
tenth of a second first.
-/

namespace Castd

open Fsm (State)

/-- Python's `round(x, 1)`: the nearest tenth, a tie going to the even one. -/
def roundTenth (x : ℚ) : ℚ :=
  let lower := ⌊10 * x⌋
  let rest := 10 * x - lower
  if rest < 1 / 2 then lower / 10
  else if rest = 1 / 2 ∧ Even lower then lower / 10
  else (lower + 1) / 10

/-- A value rounds to at most an even number of tenths exactly when it is at most half a tenth
above it. -/
private theorem roundTenth_le_iff (x : ℚ) {n : ℤ} (even : Even n) :
    roundTenth x ≤ n / 10 ↔ x ≤ (n + 1 / 2) / 10 := by
  have lower : (⌊10 * x⌋ : ℚ) ≤ 10 * x := Int.floor_le _
  have upper : 10 * x < ⌊10 * x⌋ + 1 := Int.lt_floor_add_one _
  have scaled : x ≤ (n + 1 / 2) / 10 ↔ 10 * x ≤ n + 1 / 2 := by
    constructor <;> intro h <;> linarith
  -- the number of tenths `k` is an integer, so `k ≤ n` fails only from `n + 1` on
  have tenths : ∀ k : ℤ, (k : ℚ) / 10 ≤ n / 10 ↔ k ≤ n := by
    intro k
    rw [div_le_div_iff_of_pos_right (by norm_num)]
    exact Int.cast_le
  have floor_le : 10 * x ≤ n + 1 / 2 → ⌊10 * x⌋ ≤ n := by
    intro h
    have : (⌊10 * x⌋ : ℚ) < n + 1 := by linarith
    exact_mod_cast Int.lt_add_one_iff.mp (by exact_mod_cast this)
  rw [scaled]
  simp only [roundTenth]
  split
  · rename_i below
    rw [tenths]
    refine ⟨fun h => ?_, floor_le⟩
    have : (⌊10 * x⌋ : ℚ) ≤ n := by exact_mod_cast h
    linarith
  rename_i above
  split
  · rename_i tie
    rw [tenths]
    refine ⟨fun h => ?_, floor_le⟩
    have : (⌊10 * x⌋ : ℚ) ≤ n := by exact_mod_cast h
    linarith [tie.1]
  rename_i uneven
  have up : ((⌊10 * x⌋ : ℚ) + 1) / 10 = ((⌊10 * x⌋ + 1 : ℤ) : ℚ) / 10 := by push_cast; rfl
  rw [up, tenths]
  constructor
  · intro h
    have : (⌊10 * x⌋ : ℚ) + 1 ≤ n := by exact_mod_cast h
    linarith
  · intro h
    have le := floor_le h
    have ne : ⌊10 * x⌋ ≠ n := by
      intro eq
      have half : 10 * x - (⌊10 * x⌋ : ℚ) = 1 / 2 := by
        have : (⌊10 * x⌋ : ℚ) = n := by exact_mod_cast eq
        linarith
      exact uneven ⟨half, eq ▸ even⟩
    omega

/-- `HealthState`. -/
structure HealthState where
  state : State := .idle
  lastHeartbeat : ℚ := 0
  deriving DecidableEq

/-- The dictionary `HealthState.snapshot` answers. -/
structure HealthSnapshot where
  state : State
  secondsSinceHeartbeat : ℚ
  deriving DecidableEq

namespace HealthState

/-- `HealthState.set_state`. -/
def setState (h : HealthState) (state : State) : HealthState := { h with state := state }

/-- `HealthState.heartbeat`, called when `time.monotonic()` reads `now`. -/
def heartbeat (h : HealthState) (now : ℚ) : HealthState := { h with lastHeartbeat := now }

/-- `HealthState.snapshot`. Clock readings are exact here; those of `time.monotonic()` are floats,
whose difference may come out on the other side of 30.05 seconds where it is within a rounding of
it. -/
def snapshot (h : HealthState) (now : ℚ) : HealthSnapshot :=
  { state := h.state, secondsSinceHeartbeat := roundTenth (now - h.lastHeartbeat) }

/-- `HealthState.is_healthy`. -/
def isHealthy (h : HealthState) (now : ℚ) (maxHeartbeatAge : ℚ := 30) : Bool :=
  decide ((h.snapshot now).secondsSinceHeartbeat ≤ maxHeartbeatAge)

/-- The status `do_GET` answers on `path`. -/
def doGetStatus (h : HealthState) (now : ℚ) (path : String) : Nat :=
  if path ≠ "/health" then 404
  else if h.isHealthy now then 200 else 503

/-- With the default limit the daemon is healthy up to 30.05 seconds after the last call of
`heartbeat`. -/
theorem isHealthy_iff (h : HealthState) (now : ℚ) :
    h.isHealthy now = true ↔ now - h.lastHeartbeat ≤ 601 / 20 := by
  have limit : (30 : ℚ) = ((300 : ℤ) : ℚ) / 10 := by norm_num
  unfold isHealthy snapshot
  rw [decide_eq_true_iff, limit, roundTenth_le_iff _ (by decide)]
  norm_num

/-- `/health` answers 200 exactly when the daemon is healthy. -/
theorem doGetStatus_health_iff (h : HealthState) (now : ℚ) :
    h.doGetStatus now "/health" = 200 ↔ h.isHealthy now = true := by
  unfold doGetStatus
  rw [if_neg (not_not.mpr rfl)]
  split
  · exact iff_of_true rfl ‹_›
  · exact iff_of_false (by decide) ‹_›

end HealthState

end Castd
