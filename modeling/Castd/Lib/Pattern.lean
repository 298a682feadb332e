import Mathlib.Data.List.Infix

/-!
# Patterns for a field

A regular expression of the shape `literal`, any number of blanks, at least one character of a
class, searched from the left. Blanks and kept characters exclude each other, so the greedy match
is the only one and there is nothing to backtrack to.

`search` finds the leftmost field of a text (`search_eq_some_iff`). `Only` says that the literal
stands in a text exactly once and what the field holds there; it is what determines the answer of
`search` (`Only.search`, `Absent.search`), also when text follows that cannot continue the literal
(`Only.search_append`).
-/

namespace Castd.Lib

variable {α : Type}

/-- What is left of the text after the literal. -/
def afterLiteral (same : α → α → Bool) : List α → List α → Option (List α)
  | [], s => some s
  | _ :: _, [] => none
  | p :: ps, c :: s => if same p c then afterLiteral same ps s else none

/-- A pattern for a field. -/
structure FieldPattern (α : Type) where
  /-- Whether a character of the text stands for one of the literal. -/
  same : α → α → Bool
  literal : List α
  blank : α → Bool
  keep : α → Bool
  exclusive : ∀ c, blank c = true → keep c = false

namespace FieldPattern

/-- A match at the front: what the group holds. -/
def matchHere (p : FieldPattern α) (s : List α) : Option (List α) :=
  match afterLiteral p.same p.literal s with
  | some rest =>
    match (rest.dropWhile p.blank).takeWhile p.keep with
    | [] => none
    | kept => some kept
  | none => none

/-- The leftmost match: what its group holds. -/
def search (p : FieldPattern α) : List α → Option (List α)
  | [] => p.matchHere []
  | c :: s =>
    match p.matchHere (c :: s) with
    | some kept => some kept
    | none => search p s

/-- The literal stands at the front. -/
def Here (p : FieldPattern α) (s : List α) : Prop := (afterLiteral p.same p.literal s).isSome = true

instance (p : FieldPattern α) (s : List α) : Decidable (p.Here s) :=
  inferInstanceAs (Decidable (_ = true))

/-- The literal does not occur. -/
def Absent (p : FieldPattern α) (s : List α) : Prop := ∀ i, ¬ p.Here (s.drop i)

/-- The literal occurs once, and the field it starts holds `kept`. -/
structure Only (p : FieldPattern α) (s kept : List α) : Prop where
  shape : ∃ pre name blanks post, s = pre ++ (name ++ (blanks ++ (kept ++ post))) ∧
    afterLiteral p.same p.literal name = some [] ∧ (∀ c ∈ blanks, p.blank c = true) ∧
    (∀ c ∈ post.head?, p.keep c = false) ∧ ∀ i, p.Here (s.drop i) → i = pre.length
  nonempty : kept ≠ []
  kept : ∀ c ∈ kept, p.keep c = true

/-- A field stands at the front, and holds `kept`. -/
structure Starts (p : FieldPattern α) (s kept : List α) : Prop where
  shape : ∃ name blanks post, s = name ++ (blanks ++ (kept ++ post)) ∧
    afterLiteral p.same p.literal name = some [] ∧ (∀ c ∈ blanks, p.blank c = true) ∧
    ∀ c ∈ post.head?, p.keep c = false
  nonempty : kept ≠ []
  kept : ∀ c ∈ kept, p.keep c = true

/-- The leftmost field stands at `i`, and holds `kept`. -/
def Leftmost (p : FieldPattern α) (s : List α) (i : Nat) (kept : List α) : Prop :=
  p.Starts (s.drop i) kept ∧ ∀ j < i, ∀ other, ¬ p.Starts (s.drop j) other

/-- Nothing of the literal stands for `c`. -/
def Bars (p : FieldPattern α) (c : α) : Prop := ∀ l ∈ p.literal, p.same l c = false

instance (p : FieldPattern α) (c : α) : Decidable (p.Bars c) :=
  inferInstanceAs (Decidable (∀ l ∈ p.literal, p.same l c = false))

end FieldPattern

private theorem afterLiteral_append {same : α → α → Bool} : ∀ {ps s r : List α},
    afterLiteral same ps s = some r → ∀ t, afterLiteral same ps (s ++ t) = some (r ++ t) := by
  intro ps
  induction ps with
  | nil =>
    intro s r h t
    cases h
    cases s <;> rfl
  | cons p ps ih =>
    intro s r h t
    cases s with
    | nil => cases h
    | cons c s =>
      unfold afterLiteral at h
      split at h
      · rename_i hsame
        rw [List.cons_append]
        unfold afterLiteral
        rw [if_pos hsame]
        exact ih h t
      · cases h

private theorem afterLiteral_of_append {same : α → α → Bool} {c : α} {t : List α} :
    ∀ {ps s : List α},
    (∀ l ∈ ps, same l c = false) → (afterLiteral same ps (s ++ c :: t)).isSome = true →
      (afterLiteral same ps s).isSome = true := by
  intro ps
  induction ps with
  | nil =>
    intro s _ _
    cases s <;> rfl
  | cons p ps ih =>
    intro s bars h
    cases s with
    | nil =>
      rw [List.nil_append] at h
      unfold afterLiteral at h
      rw [bars p List.mem_cons_self] at h
      exact Bool.noConfusion h
    | cons d s =>
      rw [List.cons_append] at h
      unfold afterLiteral at h ⊢
      split at h
      · rename_i hsame
        rw [if_pos hsame]
        exact ih (fun l hl => bars l (List.mem_cons_of_mem p hl)) h
      · exact Bool.noConfusion h

/-- Up to equality a text is read off as the literal when it is the literal. -/
theorem afterLiteral_eq_nil_iff [DecidableEq α] : ∀ {ps s : List α},
    afterLiteral (· == ·) ps s = some [] ↔ s = ps := by
  intro ps
  induction ps with
  | nil =>
    intro s
    cases s <;> simp [afterLiteral]
  | cons p ps ih =>
    intro s
    cases s with
    | nil => simp [afterLiteral]
    | cons c s =>
      unfold afterLiteral
      by_cases same : p = c
      · rw [if_pos (beq_iff_eq.mpr same), ih, same, List.cons.injEq]
        exact (and_iff_right rfl).symm
      · rw [if_neg (mt beq_iff_eq.mp same), List.cons.injEq]
        exact iff_of_false nofun fun equal => same equal.1.symm

private theorem afterLiteral_split {same : α → α → Bool} : ∀ {ps s r : List α},
    afterLiteral same ps s = some r →
      ∃ name, s = name ++ r ∧ afterLiteral same ps name = some [] := by
  intro ps
  induction ps with
  | nil =>
    intro s r h
    cases s <;> cases h <;> exact ⟨[], rfl, rfl⟩
  | cons p ps ih =>
    intro s r h
    cases s with
    | nil => cases h
    | cons c s =>
      unfold afterLiteral at h
      split at h
      · rename_i hsame
        obtain ⟨name, rfl, hname⟩ := ih h
        refine ⟨c :: name, rfl, ?_⟩
        unfold afterLiteral
        rw [if_pos hsame, hname]
      · cases h

/-- One literal after the other. -/
theorem afterLiteral_append_literal {same : α → α → Bool} (qs t : List α) : ∀ {ps s : List α},
    afterLiteral same ps s = some [] →
      afterLiteral same (ps ++ qs) (s ++ t) = afterLiteral same qs t := by
  intro ps
  induction ps with
  | nil =>
    intro s h
    cases s <;> cases h
    rfl
  | cons p ps ih =>
    intro s h
    cases s with
    | nil => cases h
    | cons c s =>
      unfold afterLiteral at h
      split at h
      · rename_i hsame
        rw [List.cons_append, List.cons_append]
        conv =>
          lhs
          unfold afterLiteral
        rw [if_pos hsame, ih h]
      · cases h

private theorem suffix_of_afterLiteral {same : α → α → Bool} : ∀ {ps s r : List α},
    afterLiteral same ps s = some r → r <:+ s := by
  intro ps
  induction ps with
  | nil =>
    intro s r h
    cases s <;> cases h <;> exact List.suffix_refl _
  | cons p ps ih =>
    intro s r h
    cases s with
    | nil => cases h
    | cons c s =>
      unfold afterLiteral at h
      split at h
      · exact (ih h).trans (List.suffix_cons c s)
      · cases h

namespace FieldPattern

variable {p : FieldPattern α}

/-- What the group holds is part of the text. -/
theorem infix_of_search : ∀ {s kept : List α}, p.search s = some kept → kept <:+: s := by
  have here : ∀ {s kept : List α}, p.matchHere s = some kept → kept <:+: s := by
    intro s kept h
    unfold matchHere at h
    split at h
    · rename_i rest hrest
      split at h
      · cases h
      · cases h
        exact ((List.takeWhile_prefix _).isInfix.trans (List.dropWhile_suffix _).isInfix).trans
          (suffix_of_afterLiteral hrest).isInfix
    · cases h
  intro s
  induction s with
  | nil => exact here
  | cons c s ih =>
    intro kept h
    unfold FieldPattern.search at h
    split at h
    · rename_i found hfound
      cases h
      exact here hfound
    · exact (ih h).trans (List.suffix_cons c s).isInfix

/-- What the group holds is of its class. -/
theorem keep_of_search : ∀ {s kept : List α}, p.search s = some kept →
    ∀ c ∈ kept, p.keep c = true := by
  have here : ∀ {s kept : List α}, p.matchHere s = some kept → ∀ c ∈ kept, p.keep c = true := by
    intro s kept h c hc
    unfold matchHere at h
    split at h
    · split at h
      · cases h
      · cases h
        exact List.all_eq_true.mp List.all_takeWhile c hc
    · cases h
  intro s
  induction s with
  | nil => exact here
  | cons c s ih =>
    intro kept h
    unfold FieldPattern.search at h
    split at h
    · rename_i found hfound
      cases h
      exact here hfound
    · exact ih h

private theorem matchHere_of_not_here {s : List α} (h : ¬ p.Here s) : p.matchHere s = none := by
  unfold matchHere
  cases hrest : afterLiteral p.same p.literal s with
  | none => rfl
  | some rest => exact absurd (by rw [Here, hrest]; rfl) h

/-- A text without the literal has no match. -/
theorem Absent.search {s : List α} (h : p.Absent s) : p.search s = none := by
  induction s with
  | nil => exact matchHere_of_not_here (h 0)
  | cons c s ih =>
    have here : ¬ p.Here (c :: s) := h 0
    unfold FieldPattern.search
    rw [matchHere_of_not_here here]
    exact ih fun i => h (i + 1)

private theorem takeWhile_field {blanks kept post : List α}
    (hblank : ∀ c ∈ blanks, p.blank c = true)
    (hkept : ∀ c ∈ kept, p.keep c = true) (nonempty : kept ≠ [])
    (hpost : ∀ c ∈ post.head?, p.keep c = false) :
    ((blanks ++ (kept ++ post)).dropWhile p.blank).takeWhile p.keep = kept := by
  have field : (blanks ++ (kept ++ post)).dropWhile p.blank = kept ++ post := by
    rw [List.dropWhile_append_of_pos hblank]
    cases kept with
    | nil => exact absurd rfl nonempty
    | cons k ks =>
      rw [List.cons_append, List.dropWhile_cons_of_neg]
      intro isBlank
      have keeps := hkept k List.mem_cons_self
      rw [p.exclusive k isBlank] at keeps
      exact Bool.noConfusion keeps
  rw [field, List.takeWhile_append_of_pos hkept]
  cases post with
  | nil => rw [List.takeWhile_nil, List.append_nil]
  | cons c post =>
    have stops := hpost c rfl
    rw [List.takeWhile_cons_of_neg (by rw [stops]; exact Bool.false_ne_true), List.append_nil]

/-- A field at the front is matched there. -/
theorem matchHere_of_field {name blanks kept post : List α}
    (hname : afterLiteral p.same p.literal name = some [])
    (hblank : ∀ c ∈ blanks, p.blank c = true) (hkept : ∀ c ∈ kept, p.keep c = true)
    (nonempty : kept ≠ []) (hpost : ∀ c ∈ post.head?, p.keep c = false) :
    p.matchHere (name ++ (blanks ++ (kept ++ post))) = some kept := by
  unfold matchHere
  rw [afterLiteral_append hname]
  simp only [List.nil_append, takeWhile_field hblank hkept nonempty hpost]

private theorem matchHere_eq_some_iff {s kept : List α} :
    p.matchHere s = some kept ↔ p.Starts s kept := by
  constructor
  · intro h
    unfold matchHere at h
    split at h
    · rename_i rest hrest
      split at h
      · cases h
      · rename_i nonempty
        cases h
        obtain ⟨name, rfl, hname⟩ := afterLiteral_split hrest
        refine ⟨⟨name, rest.takeWhile p.blank, (rest.dropWhile p.blank).dropWhile p.keep, ?_,
          hname, ?_, ?_⟩, nonempty, ?_⟩
        · rw [List.takeWhile_append_dropWhile, List.takeWhile_append_dropWhile]
        · exact List.all_eq_true.mp List.all_takeWhile
        · intro c hc
          have stops := List.head?_dropWhile_not p.keep (rest.dropWhile p.blank)
          rwa [Option.mem_def.mp hc] at stops
        · exact List.all_eq_true.mp List.all_takeWhile
    · cases h
  · rintro ⟨⟨name, blanks, post, rfl, hname, hblank, hpost⟩, nonempty, hkept⟩
    exact matchHere_of_field hname hblank hkept nonempty hpost

/-- The search finds the leftmost field. -/
theorem search_eq_some_iff {s kept : List α} :
    p.search s = some kept ↔ ∃ i, p.Leftmost s i kept := by
  induction s with
  | nil =>
    unfold FieldPattern.search
    rw [matchHere_eq_some_iff]
    constructor
    · intro starts
      exact ⟨0, starts, fun j hj => absurd hj (Nat.not_lt_zero j)⟩
    · rintro ⟨i, starts, -⟩
      rwa [List.drop_nil] at starts
  | cons c s ih =>
    unfold FieldPattern.search
    cases here : p.matchHere (c :: s) with
    | some found =>
      constructor
      · intro same
        cases same
        exact ⟨0, matchHere_eq_some_iff.mp here, fun j hj => absurd hj (Nat.not_lt_zero j)⟩
      · rintro ⟨i, starts, first⟩
        cases i with
        | zero => exact here.symm.trans (matchHere_eq_some_iff.mpr starts)
        | succ i =>
          exact absurd (matchHere_eq_some_iff.mp here) (first 0 (Nat.zero_lt_succ i) found)
    | none =>
      have nothing : ∀ other, ¬ p.Starts (c :: s) other := by
        intro other starts
        rw [matchHere_eq_some_iff.mpr starts] at here
        cases here
      show p.search s = some kept ↔ _
      rw [ih]
      constructor
      · rintro ⟨i, starts, first⟩
        refine ⟨i + 1, starts, fun j hj => ?_⟩
        cases j with
        | zero => exact nothing
        | succ j => exact first j (Nat.lt_of_succ_lt_succ hj)
      · rintro ⟨i, starts, first⟩
        cases i with
        | zero => exact absurd starts (nothing kept)
        | succ i => exact ⟨i, starts, fun j hj => first (j + 1) (Nat.succ_lt_succ hj)⟩

/-- Where a field stands, the search finds one. -/
theorem search_ne_none_of_starts {i : Nat} {s kept : List α} (h : p.Starts (s.drop i) kept) :
    p.search s ≠ none := by
  induction s generalizing i with
  | nil =>
    rw [List.drop_nil] at h
    unfold FieldPattern.search
    rw [matchHere_eq_some_iff.mpr h]
    exact Option.some_ne_none _
  | cons c s ih =>
    unfold FieldPattern.search
    cases here : p.matchHere (c :: s) with
    | some found => exact Option.some_ne_none _
    | none =>
      cases i with
      | zero =>
        have found := matchHere_eq_some_iff.mpr h
        cases here.symm.trans found
      | succ i => exact ih h

/-- The search finds nothing exactly where no field stands. -/
theorem search_eq_none_iff {s : List α} :
    p.search s = none ↔ ∀ i kept, ¬ p.Starts (s.drop i) kept := by
  constructor
  · intro nothing i kept starts
    exact search_ne_none_of_starts starts nothing
  · intro nowhere
    cases found : p.search s with
    | none => rfl
    | some kept =>
      obtain ⟨i, leftmost⟩ := search_eq_some_iff.mp found
      exact absurd leftmost.1 (nowhere i kept)

private theorem search_append_of_not_here {pre s : List α}
    (clear : ∀ i < pre.length, ¬ p.Here ((pre ++ s).drop i)) :
    p.search (pre ++ s) = p.search s := by
  induction pre with
  | nil => rfl
  | cons c pre ih =>
    have here : ¬ p.Here (c :: (pre ++ s)) := clear 0 (Nat.zero_lt_succ _)
    rw [List.cons_append]
    conv =>
      lhs
      unfold FieldPattern.search
    rw [matchHere_of_not_here here]
    exact ih fun i hi => clear (i + 1) (Nat.succ_lt_succ hi)

/-- A match at the front is the leftmost. -/
theorem search_of_matchHere {s kept : List α} (h : p.matchHere s = some kept) :
    p.search s = some kept := by
  cases s with
  | nil => exact h
  | cons c s =>
    unfold FieldPattern.search
    rw [h]

/-- The search finds the one field, also when more text follows that starts with a character the
literal and the field cannot go on with. -/
theorem Only.search_append {s kept t : List α} (h : p.Only s kept)
    (bars : ∀ c ∈ t.head?, p.Bars c ∧ p.keep c = false) : p.search (s ++ t) = some kept := by
  obtain ⟨⟨pre, name, blanks, post, rfl, hname, hblank, hpost, once⟩, nonempty, hkept⟩ := h
  have clear : ∀ i < pre.length,
      ¬ p.Here ((pre ++ (name ++ (blanks ++ (kept ++ (post ++ t))))).drop i) := by
    intro i hi here
    have longer : pre ++ (name ++ (blanks ++ (kept ++ (post ++ t)))) =
        pre ++ (name ++ (blanks ++ (kept ++ post))) ++ t := by
      simp only [List.append_assoc]
    rw [longer, List.drop_append_of_le_length (by simp; omega)] at here
    refine absurd (once i ?_) (Nat.ne_of_lt hi)
    cases t with
    | nil => rwa [List.append_nil] at here
    | cons c t => exact afterLiteral_of_append (bars c rfl).1 here
  have stop : ∀ c ∈ (post ++ t).head?, p.keep c = false := by
    cases post with
    | nil => exact fun c hc => (bars c hc).2
    | cons d post => exact hpost
  simp only [List.append_assoc]
  rw [search_append_of_not_here clear]
  exact search_of_matchHere (matchHere_of_field hname hblank hkept nonempty stop)

/-- The search finds the one field. -/
theorem Only.search {s kept : List α} (h : p.Only s kept) : p.search s = some kept := by
  have := h.search_append (t := []) fun c hc => by cases hc
  rwa [List.append_nil] at this

private theorem here_drop_append {c : α} {cs s t : List α} (first : p.literal = c :: cs)
    (clear : ∀ d ∈ t, p.same c d = false) {i : Nat} (here : p.Here ((s ++ t).drop i)) :
    i < s.length := by
  by_contra past
  rw [List.drop_append, List.drop_of_length_le (Nat.le_of_not_lt past), List.nil_append, Here,
    first] at here
  cases hdrop : t.drop (i - s.length) with
  | nil =>
    rw [hdrop] at here
    exact Bool.noConfusion here
  | cons d rest =>
    have among : d ∈ t := List.mem_of_mem_drop (hdrop ▸ List.mem_cons_self)
    rw [hdrop, afterLiteral, clear d among] at here
    exact Bool.noConfusion here

/-- A field with its parts, in a text whose end cannot start the literal. -/
theorem Only.of_parts {c : α} {cs kept front t : List α} (pre name blanks post : List α)
    (first : p.literal = c :: cs) (hname : afterLiteral p.same p.literal name = some [])
    (hblank : ∀ d ∈ blanks, p.blank d = true) (hkept : ∀ d ∈ kept, p.keep d = true)
    (nonempty : kept ≠ []) (hpost : ∀ d ∈ post.head?, p.keep d = false)
    (parts : front ++ t = pre ++ (name ++ (blanks ++ (kept ++ post))))
    (clear : ∀ d ∈ t, p.same c d = false)
    (once : ∀ i < front.length, p.Here ((front ++ t).drop i) → i = pre.length) :
    p.Only (front ++ t) kept where
  shape := ⟨pre, name, blanks, post, parts, hname, hblank, hpost,
    fun i here => once i (here_drop_append first clear here) here⟩
  nonempty := nonempty
  kept := hkept

/-- A field with its parts, in a text that is looked at to its end. -/
theorem Only.of_text {c : α} {cs s kept : List α} (pre name blanks post : List α)
    (first : p.literal = c :: cs) (hname : afterLiteral p.same p.literal name = some [])
    (hblank : ∀ d ∈ blanks, p.blank d = true) (hkept : ∀ d ∈ kept, p.keep d = true)
    (nonempty : kept ≠ []) (hpost : ∀ d ∈ post.head?, p.keep d = false)
    (parts : s = pre ++ (name ++ (blanks ++ (kept ++ post))))
    (once : ∀ i < s.length, p.Here (s.drop i) → i = pre.length) : p.Only s kept := by
  rw [← List.append_nil s] at parts once ⊢
  rw [List.length_append] at once
  exact of_parts pre name blanks post first hname hblank hkept nonempty hpost parts nofun once

/-- Text that starts with a barred character adds no occurrence. -/
theorem Absent.append {s t : List α} (h : p.Absent s) (ht : p.Absent t)
    (bars : ∀ c ∈ t.head?, p.Bars c) : p.Absent (s ++ t) := by
  intro i here
  by_cases hi : i ≤ s.length
  · rw [List.drop_append_of_le_length hi] at here
    cases t with
    | nil =>
      rw [List.append_nil] at here
      exact h i here
    | cons c t => exact h i (afterLiteral_of_append (bars c rfl) here)
  · rw [List.drop_append, List.drop_of_length_le (by omega), List.nil_append] at here
    exact ht _ here

/-- Text without a character of the literal does not hold it. -/
theorem absent_of_not_mem {l : α} {s : List α} (among : l ∈ p.literal)
    (clear : ∀ c ∈ s, p.same l c = false) : p.Absent s := by
  have matched : ∀ {ps s : List α}, l ∈ ps → (afterLiteral p.same ps s).isSome = true →
      ∃ c ∈ s, p.same l c = true := by
    intro ps
    induction ps with
    | nil => exact fun none => absurd none List.not_mem_nil
    | cons q ps ih =>
      intro s hl h
      cases s with
      | nil => cases h
      | cons c s =>
        unfold afterLiteral at h
        split at h
        · rename_i hsame
          rcases List.mem_cons.mp hl with rfl | later
          · exact ⟨c, List.mem_cons_self, hsame⟩
          · obtain ⟨d, hd, same⟩ := ih later h
            exact ⟨d, List.mem_cons_of_mem c hd, same⟩
        · cases h
  intro i here
  obtain ⟨c, hc, same⟩ := matched among here
  rw [clear c (List.mem_of_mem_drop hc)] at same
  cases same

/-- A text that is looked at to its end. -/
theorem absent_of_tails {s : List α} (nonempty : p.literal ≠ [])
    (clear : ∀ i < s.length, ¬ p.Here (s.drop i)) : p.Absent s := by
  intro i here
  by_cases inside : i < s.length
  · exact clear i inside here
  · rw [List.drop_of_length_le (Nat.le_of_not_lt inside), Here] at here
    cases hp : p.literal with
    | nil => exact nonempty hp
    | cons l ls =>
      rw [hp] at here
      cases here

private theorem not_here_cons {c : α} {s : List α} (nonempty : p.literal ≠ []) (bars : p.Bars c) :
    ¬ p.Here (c :: s) := by
  intro here
  cases hp : p.literal with
  | nil => exact nonempty hp
  | cons l ls =>
    have other := bars l (by rw [hp]; exact List.mem_cons_self)
    rw [Here, hp, afterLiteral, other] at here
    cases here

/-- A barred character at the front adds no occurrence. -/
theorem Absent.cons {c : α} {s : List α} (nonempty : p.literal ≠ []) (bars : p.Bars c)
    (h : p.Absent s) : p.Absent (c :: s) := by
  intro i here
  cases i with
  | zero => exact not_here_cons nonempty bars here
  | succ i => exact h i here

/-- A barred character at the front is passed over. -/
theorem search_cons {c : α} {s : List α} (nonempty : p.literal ≠ []) (bars : p.Bars c) :
    p.search (c :: s) = p.search s := by
  conv =>
    lhs
    unfold FieldPattern.search
  rw [matchHere_of_not_here (not_here_cons nonempty bars)]

/-- A part without the literal is passed over when what follows starts with a barred character. -/
theorem Absent.search_append {s t : List α} (h : p.Absent s)
    (bars : ∀ c ∈ t.head?, p.Bars c) : p.search (s ++ t) = p.search t := by
  refine search_append_of_not_here fun i hi here => ?_
  rw [List.drop_append_of_le_length (Nat.le_of_lt hi)] at here
  cases t with
  | nil =>
    rw [List.append_nil] at here
    exact h i here
  | cons c t => exact h i (afterLiteral_of_append (bars c rfl) here)

/-- The field of a line, after lines without the literal. -/
theorem search_of_line {front lineEnd name blanks kept post : List α} (nonempty : p.literal ≠ [])
    (absent : p.Absent front) (bars : ∀ c ∈ lineEnd, p.Bars c) (ended : lineEnd ≠ [])
    (field : p.matchHere (name ++ (blanks ++ (kept ++ post))) = some kept) :
    p.search (front ++ (lineEnd ++ (name ++ (blanks ++ (kept ++ post))))) = some kept := by
  have passed : ∀ {cs : List α}, (∀ c ∈ cs, p.Bars c) → ∀ t, p.search (cs ++ t) = p.search t := by
    intro cs
    induction cs with
    | nil => exact fun _ _ => rfl
    | cons c cs ih =>
      intro bars t
      rw [List.forall_mem_cons] at bars
      rw [List.cons_append, search_cons nonempty bars.1, ih bars.2]
  rw [absent.search_append fun c hc => ?_, passed bars]
  · exact search_of_matchHere field
  · cases lineEnd with
    | nil => exact absurd rfl ended
    | cons d ds =>
      cases hc
      exact bars c List.mem_cons_self

end FieldPattern

end Castd.Lib
