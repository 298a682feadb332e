import Mathlib.Logic.Basic

/-!
# Actions that may raise

`EStateM` keeps the state where an action raises, as a method of an object does that raises with
some of its assignments made. What a sequence of two actions does, in each direction, and an
action on a part of a state as an action on the whole.

Over these equations are two ways to reason about a program by its text: `Respects` for two runs of
it from related states, and `Ends` for what one run returns or raises with.
-/

namespace Castd.Lib

variable {ε σ α β : Type}

/-- A sequence goes on after an action that returns. -/
theorem bind_of_ok {x : EStateM ε σ α} {f : α → EStateM ε σ β} {s s' : σ} {a : α}
    (h : x s = .ok a s') : (x >>= f) s = f a s' := by
  show EStateM.bind x f s = _
  rw [EStateM.bind, h]

/-- A sequence ends with an action that raises. -/
theorem bind_of_error {x : EStateM ε σ α} {f : α → EStateM ε σ β} {s s' : σ} {e : ε}
    (h : x s = .error e s') : (x >>= f) s = .error e s' := by
  show EStateM.bind x f s = _
  rw [EStateM.bind, h]

/-- A sequence that starts by reading the state. -/
theorem get_bind {f : σ → EStateM ε σ β} {s : σ} : (get >>= f) s = f s s := rfl

/-- A sequence returns when both actions do. -/
theorem bind_eq_ok_iff {x : EStateM ε σ α} {f : α → EStateM ε σ β} {s t : σ} {b : β} :
    (x >>= f) s = .ok b t ↔ ∃ a s', x s = .ok a s' ∧ f a s' = .ok b t := by
  cases h : x s with
  | ok a s' =>
    rw [bind_of_ok h]
    constructor
    · intro hf
      exact ⟨a, s', rfl, hf⟩
    · rintro ⟨a', s'', same, hf⟩
      cases same
      exact hf
  | error e s' =>
    rw [bind_of_error h]
    constructor
    · intro hf
      cases hf
    · rintro ⟨a, s'', same, _⟩
      cases same

/-! ## Handlers -/

theorem tryCatch_of_ok {x : EStateM ε σ α} {handle : ε → EStateM ε σ α} {s s' : σ} {a : α}
    (h : x s = .ok a s') : tryCatch x handle s = .ok a s' := by
  show EStateM.tryCatch x handle s = _
  delta EStateM.tryCatch
  rw [h]

theorem tryCatch_of_error {x : EStateM ε σ α} {handle : ε → EStateM ε σ α} {s s' : σ} {e : ε}
    (h : x s = .error e s') : tryCatch x handle s = handle e s' := by
  show EStateM.tryCatch x handle s = _
  delta EStateM.tryCatch
  rw [h]
  rfl

/-- The state an action leaves, whether it returns or raises. -/
def stateAfter : EStateM.Result ε σ α → σ
  | .ok _ s => s
  | .error _ s => s

/-- The value an action returns. -/
def valueOf : EStateM.Result ε σ α → Option α
  | .ok a _ => some a
  | .error _ _ => none

theorem valueOf_eq_some_iff {result : EStateM.Result ε σ α} {a : α} :
    valueOf result = some a ↔ ∃ s, result = .ok a s := by
  cases result with
  | ok b s =>
    constructor
    · intro h
      cases h
      exact ⟨s, rfl⟩
    · rintro ⟨s', same⟩
      cases same
      rfl
  | error e s =>
    constructor
    · intro h
      cases h
    · rintro ⟨s', same⟩
      cases same

/-- A sequence that ends by returning a value leaves what its first action leaves. -/
theorem stateAfter_bind_pure {x : EStateM ε σ α} {b : β} {s : σ} :
    stateAfter ((x >>= fun _ => pure b) s) = stateAfter (x s) := by
  cases h : x s with
  | ok a s' =>
    rw [bind_of_ok h]
    rfl
  | error e s' =>
    rw [bind_of_error h]
    rfl

/-- What a `finally` does: it runs in the state left, and where it raises that counts. -/
theorem tryFinally_eq {x : EStateM ε σ α} {f : EStateM ε σ β} {s : σ} : tryFinally x f s =
    match f (stateAfter (x s)), x s with
    | .ok _ s', .ok a _ => .ok a s'
    | .ok _ s', .error e _ => .error e s'
    | .error e s', _ => .error e s' := by
  show EStateM.map Prod.fst (tryFinally' x fun _ => f) s = _
  cases hx : x s with
  | ok a s₁ =>
    cases hf : f s₁ with
    | ok b s₂ => simp only [EStateM.map, tryFinally', stateAfter, hx, hf]
    | error e s₂ => simp only [EStateM.map, tryFinally', stateAfter, hx, hf]
  | error e s₁ =>
    cases hf : f s₁ with
    | ok b s₂ => simp only [EStateM.map, tryFinally', stateAfter, hx, hf]
    | error e' s₂ => simp only [EStateM.map, tryFinally', stateAfter, hx, hf]

/-- A `finally` that does not raise leaves the state it makes of the one before it. -/
theorem stateAfter_finally {x : EStateM ε σ α} {f : EStateM ε σ β} {s s' : σ} {b : β}
    (h : f (stateAfter (x s)) = .ok b s') : stateAfter (tryFinally x f s) = s' := by
  rw [tryFinally_eq, h]
  cases x s <;> rfl

/-! ## Parts -/

variable {τ : Type}

/-- An action on the part of the state that `get` reads and `set` writes. -/
def focus (get : σ → τ) (set : σ → τ → σ) (x : EStateM ε τ α) : EStateM ε σ α := fun s =>
  match x (get s) with
  | .ok a t => .ok a (set s t)
  | .error e t => .error e (set s t)

theorem focus_of_ok {get : σ → τ} {set : σ → τ → σ} {x : EStateM ε τ α} {s : σ} {t : τ} {a : α}
    (h : x (get s) = .ok a t) : focus get set x s = .ok a (set s t) := by
  rw [focus, h]

theorem focus_of_error {get : σ → τ} {set : σ → τ → σ} {x : EStateM ε τ α} {s : σ} {t : τ} {e : ε}
    (h : x (get s) = .error e t) : focus get set x s = .error e (set s t) := by
  rw [focus, h]

/-- It leaves the part that the action leaves. -/
theorem stateAfter_focus {get : σ → τ} {set : σ → τ → σ} {x : EStateM ε τ α} {s : σ} :
    stateAfter (focus get set x s) = set s (stateAfter (x (get s))) := by
  unfold focus
  cases x (get s) <;> rfl

theorem focus_eq_ok_iff {get : σ → τ} {set : σ → τ → σ} {x : EStateM ε τ α} {s s' : σ} {a : α} :
    focus get set x s = .ok a s' ↔ ∃ t, x (get s) = .ok a t ∧ s' = set s t := by
  cases h : x (get s) with
  | ok b t =>
    rw [focus_of_ok h]
    constructor
    · intro same
      cases same
      exact ⟨t, rfl, rfl⟩
    · rintro ⟨t', same, rfl⟩
      cases same
      rfl
  | error e t =>
    rw [focus_of_error h]
    constructor
    · intro same
      cases same
    · rintro ⟨t', same, _⟩
      cases same

theorem focus_eq_error_iff {get : σ → τ} {set : σ → τ → σ} {x : EStateM ε τ α} {s s' : σ} {e : ε} :
    focus get set x s = .error e s' ↔ ∃ t, x (get s) = .error e t ∧ s' = set s t := by
  cases h : x (get s) with
  | ok b t =>
    rw [focus_of_ok h]
    constructor
    · intro same
      cases same
    · rintro ⟨t', same, _⟩
      cases same
  | error e' t =>
    rw [focus_of_error h]
    constructor
    · intro same
      cases same
      exact ⟨t, rfl, rfl⟩
    · rintro ⟨t', same, rfl⟩
      cases same
      rfl

/-! ## Actions that respect a relation of states -/

/-- From related states an action ends in the same way, in related states. -/
def Respects (R : σ → σ → Prop) (x : EStateM ε σ α) : Prop :=
  ∀ s t, R s t →
    (∃ a s' t', x s = .ok a s' ∧ x t = .ok a t' ∧ R s' t') ∨
      ∃ e s' t', x s = .error e s' ∧ x t = .error e t' ∧ R s' t'

namespace Respects

variable {R : σ → σ → Prop} {x : EStateM ε σ α}

theorem pure (a : α) : Respects R (pure a : EStateM ε σ α) :=
  fun s t h => .inl ⟨a, s, t, rfl, rfl, h⟩

theorem bind {f : α → EStateM ε σ β} (first : Respects R x) (rest : ∀ a, Respects R (f a)) :
    Respects R (x >>= f) := by
  intro s t h
  rcases first s t h with returned | raised
  · obtain ⟨a, s', t', hs, ht, h'⟩ := returned
    rw [bind_of_ok hs, bind_of_ok ht]
    exact rest a s' t' h'
  · obtain ⟨e, s', t', hs, ht, h'⟩ := raised
    exact .inr ⟨e, s', t', bind_of_error hs, bind_of_error ht, h'⟩

/-- An action on parts that are related. -/
theorem focus {Q : τ → τ → Prop} {get : σ → τ} {set : σ → τ → σ} {x : EStateM ε τ α}
    (part : Respects Q x) (read : ∀ s t, R s t → Q (get s) (get t))
    (write : ∀ s t u v, R s t → Q u v → R (set s u) (set t v)) :
    Respects R (Lib.focus get set x) := by
  intro s t h
  rcases part _ _ (read s t h) with returned | raised
  · obtain ⟨a, u, v, hu, hv, h'⟩ := returned
    exact .inl ⟨a, _, _, focus_of_ok hu, focus_of_ok hv, write s t u v h h'⟩
  · obtain ⟨e, u, v, hu, hv, h'⟩ := raised
    exact .inr ⟨e, _, _, focus_of_error hu, focus_of_error hv, write s t u v h h'⟩

/-- Any action respects equality. -/
theorem of_eq (x : EStateM ε τ α) : Respects Eq x := by
  rintro s _ rfl
  cases h : x s with
  | ok a s' => exact .inl ⟨a, s', s', rfl, rfl, rfl⟩
  | error e s' => exact .inr ⟨e, s', s', rfl, rfl, rfl⟩

/-- A `finally` runs in related states, whatever the action before it did. -/
theorem andFinally {f : EStateM ε σ β} (body : Respects R x) (last : Respects R f) :
    Respects R (tryFinally x f) := by
  intro s t related
  rw [tryFinally_eq, tryFinally_eq]
  rcases body s t related with returned | raised
  · obtain ⟨a, s₁, t₁, hs, ht, related₁⟩ := returned
    rw [hs, ht]
    rcases last s₁ t₁ related₁ with ended | failed
    · obtain ⟨b, s₂, t₂, hs₂, ht₂, related₂⟩ := ended
      simp only [stateAfter, hs₂, ht₂]
      exact .inl ⟨a, s₂, t₂, rfl, rfl, related₂⟩
    · obtain ⟨e, s₂, t₂, hs₂, ht₂, related₂⟩ := failed
      simp only [stateAfter, hs₂, ht₂]
      exact .inr ⟨e, s₂, t₂, rfl, rfl, related₂⟩
  · obtain ⟨e, s₁, t₁, hs, ht, related₁⟩ := raised
    rw [hs, ht]
    rcases last s₁ t₁ related₁ with ended | failed
    · obtain ⟨b, s₂, t₂, hs₂, ht₂, related₂⟩ := ended
      simp only [stateAfter, hs₂, ht₂]
      exact .inr ⟨e, s₂, t₂, rfl, rfl, related₂⟩
    · obtain ⟨e', s₂, t₂, hs₂, ht₂, related₂⟩ := failed
      simp only [stateAfter, hs₂, ht₂]
      exact .inr ⟨e', s₂, t₂, rfl, rfl, related₂⟩

/-- The states it leaves are related. -/
theorem stateAfter (h : Respects R x) {s t : σ} (related : R s t) :
    R (Lib.stateAfter (x s)) (Lib.stateAfter (x t)) := by
  rcases h s t related with returned | raised
  · obtain ⟨a, s', t', hs, ht, h'⟩ := returned
    rw [hs, ht]
    exact h'
  · obtain ⟨e, s', t', hs, ht, h'⟩ := raised
    rw [hs, ht]
    exact h'

end Respects

/-! ## How an action ends

A postcondition for an action that returns and one for an action that raises, with the rules that
follow the text of a program: one for each way to put actions together. A `try` moves what its block
raises to its handler, so nothing is left over where the handler catches everything. -/

/-- From a state an action returns as the one condition says, or raises as the other does. -/
def Ends (x : EStateM ε σ α) (returns : α → σ → Prop) (raises : ε → σ → Prop) (s : σ) : Prop :=
  match x s with
  | .ok a t => returns a t
  | .error e t => raises e t

namespace Ends

variable {x : EStateM ε σ α} {returns returns' : α → σ → Prop} {raises raises' : ε → σ → Prop}
  {s t : σ}

/-- What an action that returned satisfies. -/
theorem of_ok (h : Ends x returns raises s) {a : α} (returned : x s = .ok a t) : returns a t := by
  rw [Ends, returned] at h
  exact h

/-- What an action that raised satisfies. -/
theorem of_error (h : Ends x returns raises s) {e : ε} (raised : x s = .error e t) :
    raises e t := by
  rw [Ends, raised] at h
  exact h

/-- An action that is known to return. -/
theorem returned {a : α} (h : x s = .ok a t) (there : returns a t) : Ends x returns raises s := by
  rw [Ends, h]
  exact there

/-- What holds of the state an action leaves in both cases. -/
theorem left {P : σ → Prop} (h : Ends x (fun _ => P) (fun _ => P) s) : P (stateAfter (x s)) := by
  unfold Ends at h
  cases hx : x s with
  | ok a t =>
    rw [hx] at h
    exact h
  | error e t =>
    rw [hx] at h
    exact h

/-- Weaker conditions. -/
theorem mono (h : Ends x returns raises s) (ok : ∀ a t, returns a t → returns' a t)
    (error : ∀ e t, raises e t → raises' e t) : Ends x returns' raises' s := by
  unfold Ends at h ⊢
  split at h
  · exact ok _ _ h
  · exact error _ _ h

theorem pure {a : α} (h : returns a s) : Ends (pure a) returns raises s := h

theorem throw {e : ε} (h : raises e s) : Ends (throw e) returns raises s := h

theorem modify {f : σ → σ} {returns : PUnit → σ → Prop} (h : returns ⟨⟩ (f s)) :
    Ends (modify f) returns raises s := h

/-- Of a sequence, the first action ends in a state from which the rest does. -/
theorem bind {f : α → EStateM ε σ β} {returns : β → σ → Prop}
    (h : Ends x (fun a => Ends (f a) returns raises) raises s) :
    Ends (x >>= f) returns raises s := by
  unfold Ends at h
  unfold Ends
  cases hx : x s with
  | ok a t =>
    rw [bind_of_ok hx]
    rw [hx] at h
    exact h
  | error e t =>
    rw [bind_of_error hx]
    rw [hx] at h
    exact h

/-- A sequence that starts by reading the state. -/
theorem getBind {f : σ → EStateM ε σ β} {returns : β → σ → Prop}
    (h : Ends (f s) returns raises s) : Ends (get >>= f) returns raises s := h

/-- What the block of a `try` raises is what its handler starts from. -/
theorem tryCatch {handle : ε → EStateM ε σ α}
    (h : Ends x returns (fun e => Ends (handle e) returns raises) s) :
    Ends (tryCatch x handle) returns raises s := by
  unfold Ends at h
  unfold Ends
  cases hx : x s with
  | ok a t =>
    rw [tryCatch_of_ok hx]
    rw [hx] at h
    exact h
  | error e t =>
    rw [tryCatch_of_error hx]
    rw [hx] at h
    exact h

end Ends

end Castd.Lib
