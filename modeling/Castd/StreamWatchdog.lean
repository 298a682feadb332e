import Mathlib.Data.Rat.Defs
import Mathlib.Algebra.Order.Ring.Unbundled.Rat
import Mathlib.Order.Bounds.Basic
import Mathlib.Order.Monotone.Basic

/-!
# Stall detection

`castd/stream_watchdog.py`. Clock readings and windows are rationals in seconds, receive counters
are integers, since an interface that is re-created counts from zero again and a delta may be
negative. The two fields `_last_rx` and `_last_progress` are set and cleared together, so they
are one optional pair here.

`observe` subtracts one clock reading from another. The readings are floats, each a rational, and
their difference is rounded: `10.3 - 0.3` is the float 10, though the first reading is further than
ten seconds from the second. So the subtraction is a parameter, `minus`, of which the specification
needs no more than `ClockMinus`.
-/

namespace Castd

/-- What the watchdog remembers between two samples. -/
structure Progress where
  lastRx : Int
  lastProgress : ℚ
  deriving DecidableEq

/-- `StreamWatchdog`, with the constructor's defaults. -/
structure StreamWatchdog where
  stallWindow : ℚ := 10
  minBytes : Int := 5000
  seen : Option Progress := none
  deriving DecidableEq

namespace StreamWatchdog

/-- `StreamWatchdog.reset`. -/
def reset (w : StreamWatchdog) : StreamWatchdog := { w with seen := none }

/-- The time of last progress after a sample that follows `p`. -/
def progressAt (w : StreamWatchdog) (p : Progress) (rxBytes : Int) (now : ℚ) : ℚ :=
  if w.minBytes ≤ rxBytes - p.lastRx then now else p.lastProgress

/-- `StreamWatchdog.observe`: the verdict on one sample, and the watchdog after it. `minus` is the
subtraction of the clock's readings. -/
def observe (w : StreamWatchdog) (minus : ℚ → ℚ → ℚ) (rxBytes : Int) (now : ℚ) :
    Bool × StreamWatchdog :=
  match w.seen with
  | none => (false, { w with seen := some ⟨rxBytes, now⟩ })
  | some p =>
    let progress := w.progressAt p rxBytes now
    (decide (w.stallWindow < minus now progress), { w with seen := some ⟨rxBytes, progress⟩ })

variable {minus : ℚ → ℚ → ℚ}

/-- Observing a sample keeps the window. -/
@[simp] theorem observe_stallWindow (w : StreamWatchdog) (rx : Int) (now : ℚ) :
    (w.observe minus rx now).2.stallWindow = w.stallWindow := by
  unfold observe
  split <;> rfl

/-- Observing a sample keeps the threshold. -/
@[simp] theorem observe_minBytes (w : StreamWatchdog) (rx : Int) (now : ℚ) :
    (w.observe minus rx now).2.minBytes = w.minBytes := by
  unfold observe
  split <;> rfl

/-! ## The evidence behind a verdict -/

/-- In a list of samples, newest first, the newest one reads `lastRx`, and from the one taken at
`since` on no sample is `minBytes` ahead of the sample before it. -/
inductive FlatSince (minBytes : Int) : List (Int × ℚ) → Int → ℚ → Prop
  | start (rxBytes : Int) (now : ℚ) (older : List (Int × ℚ)) :
    FlatSince minBytes ((rxBytes, now) :: older) rxBytes now
  | flat {older : List (Int × ℚ)} {lastRx : Int} {since : ℚ} (rxBytes : Int) (now : ℚ)
    (before : FlatSince minBytes older lastRx since) (small : rxBytes - lastRx < minBytes) :
    FlatSince minBytes ((rxBytes, now) :: older) rxBytes since

/-- What the watchdog remembers is evidence from the samples it took. -/
def Remembers (w : StreamWatchdog) (samples : List (Int × ℚ)) : Prop :=
  ∀ p, w.seen = some p → FlatSince w.minBytes samples p.lastRx p.lastProgress

/-- A watchdog that was reset remembers nothing. -/
theorem remembers_of_seen_none {w : StreamWatchdog} (samples : List (Int × ℚ))
    (h : w.seen = none) : w.Remembers samples :=
  fun p hp => absurd (hp.symm.trans h) (Option.some_ne_none p)

private theorem flatSince_progressAt {w : StreamWatchdog} {samples : List (Int × ℚ)} {p : Progress}
    (h : FlatSince w.minBytes samples p.lastRx p.lastProgress) (rxBytes : Int) (now : ℚ) :
    FlatSince w.minBytes ((rxBytes, now) :: samples) rxBytes (w.progressAt p rxBytes now) := by
  unfold progressAt
  split
  · exact .start rxBytes now samples
  · exact .flat rxBytes now h (by omega)

/-- Observing a sample keeps the memory backed. -/
theorem Remembers.observe {w : StreamWatchdog} {samples : List (Int × ℚ)}
    (h : w.Remembers samples) (rxBytes : Int) (now : ℚ) :
    (w.observe minus rxBytes now).2.Remembers ((rxBytes, now) :: samples) := by
  intro p hp
  rw [observe_minBytes]
  unfold StreamWatchdog.observe at hp
  cases hseen : w.seen with
  | none =>
    rw [hseen] at hp
    cases hp
    exact .start rxBytes now samples
  | some q =>
    rw [hseen] at hp
    cases hp
    exact flatSince_progressAt (h q hseen) rxBytes now

/-- A stall verdict rests on samples that span more than the window without progress. -/
theorem Remembers.flatSince_of_stall {w : StreamWatchdog} {samples : List (Int × ℚ)}
    (h : w.Remembers samples) {rxBytes : Int} {now : ℚ}
    (stall : (w.observe minus rxBytes now).1 = true) :
    ∃ since, FlatSince w.minBytes ((rxBytes, now) :: samples) rxBytes since ∧
      w.stallWindow < minus now since := by
  unfold StreamWatchdog.observe at stall
  cases hseen : w.seen with
  | none =>
    rw [hseen] at stall
    exact Bool.noConfusion stall
  | some q =>
    rw [hseen] at stall
    exact ⟨_, flatSince_progressAt (h q hseen) rxBytes now, of_decide_eq_true stall⟩

/-! ## The verdict as a function of the samples

A sequence of samples since the constructor or the last `reset` is a counter `rx` and a clock `t`,
numbered from zero. -/

/-- What a subtraction of floats keeps of the exact one: equal readings differ by nothing, and a
later reading is not nearer to an earlier one. -/
structure ClockMinus (minus : ℚ → ℚ → ℚ) : Prop where
  self : ∀ now, minus now now = 0
  mono : ∀ since, Monotone fun now => minus now since

/-- The exact subtraction. -/
theorem ClockMinus.exact : ClockMinus (· - ·) where
  self := sub_self
  mono := fun since _ _ le => sub_le_sub_right le since

/-- The watchdog after the first `k` samples. -/
def after (w : StreamWatchdog) (minus : ℚ → ℚ → ℚ) (rx : ℕ → Int) (t : ℕ → ℚ) :
    ℕ → StreamWatchdog
  | 0 => w.reset
  | k + 1 => ((w.after minus rx t k).observe minus (rx k) (t k)).2

/-- What `observe` returns on sample `k`. -/
def verdict (w : StreamWatchdog) (minus : ℚ → ℚ → ℚ) (rx : ℕ → Int) (t : ℕ → ℚ) (k : ℕ) : Bool :=
  ((w.after minus rx t k).observe minus (rx k) (t k)).1

/-- Sample `j` shows progress: it is the first, or enough ahead of the sample before it. -/
def ShowsProgress (minBytes : Int) (rx : ℕ → Int) (j : ℕ) : Prop :=
  j = 0 ∨ minBytes ≤ rx j - rx (j - 1)

/-- The times of the samples up to `k` that show progress. -/
def progressTimes (minBytes : Int) (rx : ℕ → Int) (t : ℕ → ℚ) (k : ℕ) : Set ℚ :=
  {now | ∃ j ≤ k, ShowsProgress minBytes rx j ∧ now = t j}

variable {w : StreamWatchdog} {rx : ℕ → Int} {t : ℕ → ℚ}

@[simp] theorem after_stallWindow (k : ℕ) : (w.after minus rx t k).stallWindow = w.stallWindow := by
  induction k with
  | zero => rfl
  | succ k ih => rw [after, observe_stallWindow, ih]

@[simp] theorem after_minBytes (k : ℕ) : (w.after minus rx t k).minBytes = w.minBytes := by
  induction k with
  | zero => rfl
  | succ k ih => rw [after, observe_minBytes, ih]

private theorem isGreatest_zero (b : Int) : IsGreatest (progressTimes b rx t 0) (t 0) := by
  refine ⟨⟨0, le_rfl, .inl rfl, rfl⟩, ?_⟩
  rintro _ ⟨j, hj, -, rfl⟩
  rw [Nat.le_zero.mp hj]

private theorem isGreatest_of_progress {b : Int} {k : ℕ} (ordered : Monotone t)
    (progress : ShowsProgress b rx k) : IsGreatest (progressTimes b rx t k) (t k) := by
  refine ⟨⟨k, le_rfl, progress, rfl⟩, ?_⟩
  rintro _ ⟨j, hj, -, rfl⟩
  exact ordered hj

private theorem isGreatest_of_flat {b : Int} {k : ℕ} {p : ℚ}
    (before : IsGreatest (progressTimes b rx t k) p) (flat : ¬ShowsProgress b rx (k + 1)) :
    IsGreatest (progressTimes b rx t (k + 1)) p := by
  obtain ⟨⟨j, hj, progress, rfl⟩, latest⟩ := before
  refine ⟨⟨j, Nat.le_succ_of_le hj, progress, rfl⟩, ?_⟩
  rintro _ ⟨i, hi, other, rfl⟩
  rcases Nat.le_succ_iff.mp hi with earlier | rfl
  · exact latest ⟨i, earlier, other, rfl⟩
  · exact absurd other flat

private theorem seen_after (ordered : Monotone t) (k : ℕ) :
    ∃ p, (w.after minus rx t (k + 1)).seen = some ⟨rx k, p⟩ ∧
      IsGreatest (progressTimes w.minBytes rx t k) p := by
  induction k with
  | zero => exact ⟨t 0, rfl, isGreatest_zero _⟩
  | succ k ih =>
    obtain ⟨p, seen, latest⟩ := ih
    rw [after, observe, seen]
    refine ⟨_, rfl, ?_⟩
    unfold progressAt
    rw [after_minBytes]
    split
    next progress => exact isGreatest_of_progress ordered (.inr progress)
    next flat =>
      exact isGreatest_of_flat latest fun shows => shows.elim (Nat.succ_ne_zero k) flat

/-- On a sample that is not the first, the verdict compares the window with what the watchdog then
remembers. -/
private theorem observe_verdict {v : StreamWatchdog} {q p : Progress} {rxBytes : Int} {now : ℚ}
    (before : v.seen = some q) (later : (v.observe minus rxBytes now).2.seen = some p) :
    (v.observe minus rxBytes now).1 = true ↔ v.stallWindow < minus now p.lastProgress := by
  unfold observe at later ⊢
  rw [before] at later ⊢
  cases later
  exact decide_eq_true_iff

/-- The verdict on a sample after the first: the time since the latest progress against the
window. -/
private theorem verdict_succ (ordered : Monotone t) (k : ℕ) :
    ∃ p, IsGreatest (progressTimes w.minBytes rx t (k + 1)) p ∧
      (w.verdict minus rx t (k + 1) = true ↔ w.stallWindow < minus (t (k + 1)) p) := by
  obtain ⟨_, before, -⟩ : ∃ p, (w.after minus rx t (k + 1)).seen = some ⟨rx k, p⟩ ∧ _ :=
    seen_after ordered k
  obtain ⟨p, later, latest⟩ : ∃ p, (w.after minus rx t (k + 2)).seen = some ⟨rx (k + 1), p⟩ ∧ _ :=
    seen_after ordered (k + 1)
  refine ⟨p, latest, ?_⟩
  rw [verdict, observe_verdict before later, after_stallWindow]

private theorem isGreatest_of_flatTo {b : Int} {k m : ℕ} {p : ℚ} (le : k ≤ m)
    (before : IsGreatest (progressTimes b rx t k) p)
    (flat : ∀ j, k < j → j ≤ m → rx j - rx (j - 1) < b) :
    IsGreatest (progressTimes b rx t m) p := by
  induction m, le using Nat.le_induction with
  | base => exact before
  | succ m le ih =>
    refine isGreatest_of_flat (ih fun j hj hjm => flat j hj (Nat.le_succ_of_le hjm)) ?_
    rintro (zero | progress)
    · exact Nat.succ_ne_zero m zero
    · have := flat (m + 1) (Nat.lt_succ_of_le le) le_rfl
      omega

/-- The first sample never trips. Every later one trips exactly if the clock, as the code subtracts
its readings, has run for more than the window since the latest progress; for a window that is not
negative this is so for the first as well, and steady progress never trips. A stall that tripped
trips until there is progress.

The latest progress is the greatest of the times at which it showed, so the two fields stand for the
whole history. -/
theorem verdict_eq_spec (w : StreamWatchdog) (clock : ClockMinus minus) (rx : ℕ → Int) (t : ℕ → ℚ)
    (ordered : Monotone t) :
    w.verdict minus rx t 0 = false ∧
      (∀ k, k ≠ 0 ∨ 0 ≤ w.stallWindow → ∃ p, IsGreatest (progressTimes w.minBytes rx t k) p ∧
        (w.verdict minus rx t k = true ↔ w.stallWindow < minus (t k) p)) ∧
      (0 ≤ w.stallWindow → ∀ k, (∀ j, 0 < j → j ≤ k → w.minBytes ≤ rx j - rx (j - 1)) →
        w.verdict minus rx t k = false) ∧
      ∀ k m, k ≤ m → w.verdict minus rx t k = true →
        (∀ j, k < j → j ≤ m → rx j - rx (j - 1) < w.minBytes) → w.verdict minus rx t m = true := by
  have spec : ∀ k, k ≠ 0 ∨ 0 ≤ w.stallWindow →
      ∃ p, IsGreatest (progressTimes w.minBytes rx t k) p ∧
        (w.verdict minus rx t k = true ↔ w.stallWindow < minus (t k) p) := by
    intro k applies
    cases k with
    | zero =>
      refine ⟨t 0, isGreatest_zero _, ?_⟩
      have nonneg := applies.resolve_left (not_not_intro rfl)
      rw [clock.self]
      exact iff_of_false Bool.false_ne_true nonneg.not_gt
    | succ k => exact verdict_succ ordered k
  refine ⟨rfl, spec, ?_, ?_⟩
  · intro nonneg k steady
    obtain ⟨p, latest, trips⟩ := spec k (.inr nonneg)
    have shows : ShowsProgress w.minBytes rx k :=
      (Nat.eq_zero_or_pos k).imp id fun pos => steady k pos le_rfl
    have now : p = t k := latest.unique (isGreatest_of_progress ordered shows)
    rw [← Bool.not_eq_true, trips, now, clock.self]
    exact nonneg.not_gt
  · intro k m le tripped flat
    have later : k ≠ 0 := by
      rintro rfl
      exact Bool.false_ne_true tripped
    obtain ⟨p, latest, trips⟩ := spec k (.inl later)
    obtain ⟨q, latest', trips'⟩ := spec m (.inl (by omega))
    have same : q = p := latest'.unique (isGreatest_of_flatTo le latest flat)
    rw [trips', same]
    exact (trips.mp tripped).trans_le (clock.mono p (ordered le))

/-- With a negative window the first sample does not trip, though no time is more than the
window. -/
theorem negative_window_first :
    IsGreatest (progressTimes 1 (fun _ => 0) (fun _ => 0) 0) 0 ∧ (-1 : ℚ) < 0 - 0 ∧
      verdict { stallWindow := -1, minBytes := 1 } (· - ·) (fun _ => 0) (fun _ => 0) 0 = false :=
  ⟨isGreatest_zero 1, by decide +kernel, rfl⟩

/-- A counter that stands still at one sample a second, with a window of one second: floats that
are whole seconds subtract exactly. -/
theorem flat_keeps_tripping :
    verdict { stallWindow := 1 } (· - ·) (fun _ => 0) (fun k => k) 2 = true ∧
      verdict { stallWindow := 1 } (· - ·) (fun _ => 0) (fun k => k) 60 = true := by
  have ordered : Monotone fun k : ℕ => (k : ℚ) := fun _ _ le => Rat.natCast_le_natCast.mpr le
  have tripped : verdict { stallWindow := 1 } (· - ·) (fun _ => 0) (fun k => k) 2 = true := by
    decide +kernel
  exact ⟨tripped, (verdict_eq_spec { stallWindow := 1 } .exact _ _ ordered).2.2.2 2 60 (by decide)
    tripped fun _ _ _ => by decide⟩

end StreamWatchdog

end Castd
