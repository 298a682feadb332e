import Mathlib.Logic.Function.Basic

/-!
# Guarded transition systems

A system is an executable step function: `step s l` answers `some s'` when the label `l` is
enabled in `s`. The same function replays a concrete run (`runFrom`) and carries the proofs, so
the guards a proof uses are the guards a replay checks.

`Leads C` is reachability along steps that each meet a condition `C` on the state before the
step. It is what a conditional safety statement ranges over: "in every run whose steps all meet
`C`". The condition that is always true gives plain reachability. An invariant of all runs is
stated for an arbitrary condition, and so is available in the conditional ones.
-/

namespace Castd.Lib

/-- A transition system: an initial state and a guarded step function. -/
structure System (σ ℓ : Type) where
  init : σ
  step : σ → ℓ → Option σ

namespace System

variable {σ ℓ : Type} (sys : System σ ℓ)

/-- Replays the labels from `s`; `none` when one of them is not enabled. -/
def runFrom (s : σ) : List ℓ → Option σ
  | [] => some s
  | l :: ls => (sys.step s l).bind fun s' => runFrom s' ls

/-- Replays the labels from the initial state. -/
def run (ls : List ℓ) : Option σ := sys.runFrom sys.init ls

/-- The states a run from `s` reaches when every step meets `C` in the state before it. -/
inductive Leads (C : σ → ℓ → Prop) (s : σ) : σ → Prop
  | refl : Leads C s s
  | step {t u : σ} {l : ℓ} : Leads C s t → C t l → sys.step t l = some u → Leads C s u

/-- The states reached from the initial state by steps that all meet `C`. -/
abbrev Reaches (C : σ → ℓ → Prop) (s : σ) : Prop := sys.Leads C sys.init s

/-- The states reached from the initial state by any steps. -/
abbrev Reachable (s : σ) : Prop := sys.Reaches (fun _ _ => True) s

variable {sys}

/-- Runs compose. -/
theorem Leads.trans {C : σ → ℓ → Prop} {s t u : σ} (h : sys.Leads C s t)
    (h' : sys.Leads C t u) : sys.Leads C s u := by
  induction h' with
  | refl => exact h
  | step _ hc hs ih => exact .step ih hc hs

/-- A run under a condition is one under a weaker condition. -/
theorem Leads.mono {C C' : σ → ℓ → Prop} {s t : σ} (h : sys.Leads C s t)
    (weaker : ∀ s l, C s l → C' s l) : sys.Leads C' s t := by
  induction h with
  | refl => exact .refl
  | step _ hc hs ih => exact .step ih (weaker _ _ hc) hs

/-- The invariant rule: what holds at the start and is kept by every step that meets the
condition holds at every state of the run. The step may use that its source is on the run. -/
theorem Leads.invariant {C : σ → ℓ → Prop} {I : σ → Prop} {s t : σ} (h : sys.Leads C s t)
    (base : I s)
    (keep : ∀ t l u, sys.Leads C s t → I t → C t l → sys.step t l = some u → I u) : I t := by
  induction h with
  | refl => exact base
  | step ht hc hs ih => exact keep _ _ _ ht ih hc hs

/-- Runs of one system are runs of another, seen through a map of states, when that holds of every
step. A step may be none in the other system, or many. -/
theorem Leads.map {τ ℓ' : Type} {sys' : System τ ℓ'} {C : σ → ℓ → Prop} {C' : τ → ℓ' → Prop}
    {s t : σ} (f : σ → τ) (h : sys.Leads C s t)
    (simulates : ∀ t l u, C t l → sys.step t l = some u → sys'.Leads C' (f t) (f u)) :
    sys'.Leads C' (f s) (f t) := by
  induction h with
  | refl => exact .refl
  | step _ hc hs ih => exact ih.trans (simulates _ _ _ hc hs)

/-- Replays the labels from `s` while the condition holds before each step. -/
def runUnder (sys : System σ ℓ) (C : σ → ℓ → Prop) [∀ s l, Decidable (C s l)] (s : σ) :
    List ℓ → Option σ
  | [] => some s
  | l :: ls => if C s l then (sys.step s l).bind fun s' => runUnder sys C s' ls else none

/-- A replay whose end is checked by evaluation reaches a state with the property. -/
theorem exists_run {sys : System σ ℓ} {ls : List ℓ} {p : σ → Prop} [DecidablePred p]
    (h : ((sys.run ls).any fun s => decide (p s)) = true) : ∃ s, sys.run ls = some s ∧ p s := by
  obtain ⟨s, run, holds⟩ := (Option.any_eq_true _ _).mp h
  exact ⟨s, run, of_decide_eq_true holds⟩

/-- The same of a replay under a condition. -/
theorem exists_runUnder {C : σ → ℓ → Prop} [∀ s l, Decidable (C s l)] {s : σ} {ls : List ℓ}
    {p : σ → Prop} [DecidablePred p]
    (h : ((runUnder sys C s ls).any fun t => decide (p t)) = true) :
    ∃ t, runUnder sys C s ls = some t ∧ p t := by
  obtain ⟨t, run, holds⟩ := (Option.any_eq_true _ _).mp h
  exact ⟨t, run, of_decide_eq_true holds⟩

/-- A replay that succeeds under the condition is a run under the condition. -/
theorem runUnder_leads {C : σ → ℓ → Prop} [∀ s l, Decidable (C s l)] (ls : List ℓ) :
    ∀ {s t : σ}, runUnder sys C s ls = some t → sys.Leads C s t := by
  induction ls with
  | nil =>
    intro s t h
    cases h
    exact .refl
  | cons l ls ih =>
    intro s t h
    unfold runUnder at h
    split at h
    · rename_i hc
      obtain ⟨u, hu, ht⟩ := Option.bind_eq_some_iff.mp h
      exact (Leads.step .refl hc hu).trans (ih ht)
    · cases h

/-- A replay that succeeds ends in a state the run leads to. -/
theorem runFrom_leads (ls : List ℓ) :
    ∀ {s t : σ}, sys.runFrom s ls = some t → sys.Leads (fun _ _ => True) s t := by
  induction ls with
  | nil =>
    intro s t h
    cases h
    exact .refl
  | cons l ls ih =>
    intro s t h
    obtain ⟨u, hu, ht⟩ := Option.bind_eq_some_iff.mp h
    exact (Leads.step .refl trivial hu).trans (ih ht)

end System

/-! ## States with an entry for each component -/

section Update

variable {ι α : Type*} [DecidableEq ι] {f : ι → α} {i j : ι} {a : α} {P : α → Prop}

/-- What holds of an entry after an update, and not of the value written, held before. -/
theorem of_update (h : P (Function.update f i a j)) (written : ¬ P a) : P (f j) := by
  rw [Function.update_apply] at h
  split at h
  · exact absurd h written
  · exact h

/-- An entry that is something else than the value written was that before. -/
theorem eq_of_update {b : α} (h : Function.update f i a j = b) (written : a ≠ b) : f j = b :=
  of_update (P := (· = b)) h written

/-- What holds of an entry, and not of the one written over, holds after an update. -/
theorem update_of (h : P (f j)) (replaced : ¬ P (f i)) : P (Function.update f i a j) := by
  have hj : j ≠ i := fun hj => replaced (hj ▸ h)
  rw [Function.update_of_ne hj]
  exact h

/-- An entry that is something else than the one written over stays that. -/
theorem update_eq_of {b : α} (h : f j = b) (replaced : f i ≠ b) : Function.update f i a j = b :=
  update_of (P := (· = b)) h replaced

end Update

end Castd.Lib
