import Mathlib.Data.Int.GCD
import Mathlib.Data.List.Nodup
import Mathlib.Data.Nat.ModEq

/-!
# Escapes and check digits

An encoder that escapes by one whole-text replace for each special character, and a decoder that
splits at separators and removes escapes. The passes come to the same as escaping once from left
to right when the escape character is replaced first and no character twice
(`replacePasses_eq_escapeOnce`). What is escaped is read back (`unescape_escapeOnce`) and is not
cut (`Uncut.escapeOnce`).

A word of values passes a check when its weighted sum is a multiple of `m`. Where a weight is prime
to `m` the sum tells the values there apart modulo `m` (`weightedSum_set`), and one value there
makes the word pass (`existsUnique_passes`).
-/

namespace Castd.Lib

/-! ## Escapes -/

section

variable {α : Type} [DecidableEq α]

/-- Every occurrence of a character is replaced. -/
def replaceEach (c : α) (new s : List α) : List α := s.flatMap fun d => if d = c then new else [d]

/-- One replace for each special character, in order. -/
def replacePasses (esc : α) (specials s : List α) : List α :=
  specials.foldl (fun out c => replaceEach c [esc, c] out) s

/-- Every special character is escaped, in one pass. -/
def escapeOnce (esc : α) (specials s : List α) : List α :=
  s.flatMap fun d => if d ∈ specials then [esc, d] else [d]

/-- Removes one level of escapes. An escape at the end stands for itself. -/
def unescape (esc : α) : List α → List α
  | [] => []
  | [c] => [c]
  | c :: d :: s => if c = esc then d :: unescape esc s else c :: unescape esc (d :: s)

/-- Splits at the separators that are not escaped. `escaped` says that the last character was an
escape, and `piece` is the piece so far, last first. -/
def splitUnescaped (esc sep : α) : Bool → List α → List α → List (List α)
  | _, piece, [] => [piece.reverse]
  | true, piece, c :: s => splitUnescaped esc sep false (c :: piece) s
  | false, piece, c :: s =>
    if c = sep then piece.reverse :: splitUnescaped esc sep false [] s
    else splitUnescaped esc sep (decide (c = esc)) (c :: piece) s

/-! ## The passes -/

private theorem replaceEach_escapeOnce {esc c : α} {done : List α} (new : c ∉ done)
    (plain : c ≠ esc)
    (s : List α) :
    replaceEach c [esc, c] (escapeOnce esc done s) = escapeOnce esc (done ++ [c]) s := by
  unfold replaceEach escapeOnce
  rw [List.flatMap_assoc]
  congr 1
  funext d
  by_cases old : d ∈ done
  · have other : d ≠ c := fun same => new (same ▸ old)
    simp [old, other, plain.symm]
  · by_cases same : d = c
    · simp [same, new]
    · simp [old, same]

/-- The passes escape once when the escape character comes first and none comes twice. -/
theorem replacePasses_eq_escapeOnce {esc : α} {others : List α} (distinct : (esc :: others).Nodup)
    (s : List α) : replacePasses esc (esc :: others) s = escapeOnce esc (esc :: others) s := by
  have later : ∀ (todo done : List α), esc ∈ done → (done ++ todo).Nodup →
      replacePasses esc todo (escapeOnce esc done s) = escapeOnce esc (done ++ todo) s := by
    intro todo
    induction todo with
    | nil =>
      intro done _ _
      rw [List.append_nil]
      rfl
    | cons c todo ih =>
      intro done first distinct
      have apart := List.nodup_append.mp distinct
      have new : c ∉ done := fun old => apart.2.2 c old c List.mem_cons_self rfl
      have plain : c ≠ esc := fun same => new (same ▸ first)
      have rest : (done ++ [c] ++ todo).Nodup := by simpa using distinct
      have onward := ih (done ++ [c]) (List.mem_append_left [c] first) rest
      show replacePasses esc todo (replaceEach c [esc, c] (escapeOnce esc done s)) = _
      rw [replaceEach_escapeOnce new plain, onward, List.append_assoc]
      rfl
  have firstPass : replaceEach esc [esc, esc] s = escapeOnce esc [esc] s := by
    unfold replaceEach escapeOnce
    congr 1
    funext d
    by_cases same : d = esc <;> simp [same]
  have rest := later others [esc] List.mem_cons_self distinct
  rw [← firstPass] at rest
  exact rest

/-! ## Reading back -/

/-- Removing escapes undoes escaping. -/
theorem unescape_escapeOnce {esc : α} {specials : List α} (special : esc ∈ specials)
    (s : List α) : unescape esc (escapeOnce esc specials s) = s := by
  induction s with
  | nil => rfl
  | cons d s ih =>
    unfold escapeOnce at ih ⊢
    rw [List.flatMap_cons]
    by_cases hd : d ∈ specials
    · simp [hd, unescape, ih]
    · have plain : d ≠ esc := fun same => hd (same ▸ special)
      cases hs : s.flatMap fun d => if d ∈ specials then [esc, d] else [d] with
      | nil =>
        rw [hs] at ih
        simp [hd, unescape, ← ih]
      | cons e t =>
        rw [hs] at ih
        simp [hd, unescape, plain, ih]

/-- The splitter reads over a part without a cut, and ends it between escapes. -/
def Uncut (esc sep : α) (s : List α) : Prop :=
  ∀ piece rest, splitUnescaped esc sep false piece (s ++ rest) =
    splitUnescaped esc sep false (s.reverse ++ piece) rest

namespace Uncut

variable {esc sep : α}

theorem nil : Uncut esc sep [] := fun _ _ => rfl

theorem append {s t : List α} (hs : Uncut esc sep s) (ht : Uncut esc sep t) :
    Uncut esc sep (s ++ t) := by
  intro piece rest
  rw [List.append_assoc, hs, ht, List.reverse_append, List.append_assoc]

/-- A character that is neither the escape nor the separator. -/
theorem single {c : α} (notEsc : c ≠ esc) (notSep : c ≠ sep) : Uncut esc sep [c] := by
  intro piece rest
  simp [splitUnescaped, notEsc, notSep]

private theorem escaped {c : α} (differ : esc ≠ sep) : Uncut esc sep [esc, c] := by
  intro piece rest
  simp [splitUnescaped, differ]

/-- A part without the two characters. -/
theorem of_clear {s : List α} (clear : ∀ c ∈ s, c ≠ esc ∧ c ≠ sep) : Uncut esc sep s := by
  induction s with
  | nil => exact nil
  | cons c s ih =>
    have first := clear c List.mem_cons_self
    exact (single first.1 first.2).append (ih fun d hd => clear d (List.mem_cons_of_mem c hd))

/-- What is escaped is not cut. -/
theorem escapeOnce {specials : List α} (special : esc ∈ specials) (cuts : sep ∈ specials)
    (differ : esc ≠ sep) (s : List α) : Uncut esc sep (escapeOnce esc specials s) := by
  induction s with
  | nil => exact nil
  | cons d s ih =>
    rw [Lib.escapeOnce, List.flatMap_cons]
    refine append ?_ ih
    split
    · exact escaped differ
    · rename_i plain
      apply single
      · rintro rfl
        exact plain special
      · rintro rfl
        exact plain cuts

/-- A separator after such a part ends the piece. -/
theorem split {s : List α} (h : Uncut esc sep s) (rest : List α) :
    splitUnescaped esc sep false [] (s ++ sep :: rest) =
      s :: splitUnescaped esc sep false [] rest := by
  rw [h]
  simp [splitUnescaped]

end Uncut

end

/-! ## Check digits -/

/-- The sum of the values, each times its weight. -/
def weightedSum : List Nat → List Nat → Nat
  | weight :: weights, value :: values => weight * value + weightedSum weights values
  | _, _ => 0

theorem weightedSum_append {weights weights' values values' : List Nat}
    (length : weights.length = values.length) :
    weightedSum (weights ++ weights') (values ++ values') =
      weightedSum weights values + weightedSum weights' values' := by
  induction weights generalizing values with
  | nil =>
    obtain rfl := List.eq_nil_of_length_eq_zero length.symm
    exact (Nat.zero_add _).symm
  | cons weight weights ih =>
    cases values with
    | nil => cases length
    | cons value values =>
      have rest := ih (Nat.succ_inj.mp length)
      rw [List.cons_append, List.cons_append, weightedSum, weightedSum, rest, Nat.add_assoc]

/-- The sum tells two values apart where the weight is prime to the modulus. -/
theorem weightedSum_set {m weight value : Nat} (coprime : Nat.Coprime m weight)
    {weights values : List Nat} {i : Nat} (hweight : weights[i]? = some weight)
    (hvalue : values[i]? = some value) (x : Nat) :
    weightedSum weights (values.set i x) ≡ weightedSum weights values [MOD m] ↔
      x ≡ value [MOD m] := by
  induction i generalizing weights values with
  | zero =>
    obtain ⟨weights, rfl⟩ := List.head?_eq_some_iff.mp (List.head?_eq_getElem? ▸ hweight)
    obtain ⟨values, rfl⟩ := List.head?_eq_some_iff.mp (List.head?_eq_getElem? ▸ hvalue)
    rw [List.set_cons_zero, weightedSum, weightedSum]
    constructor
    · exact fun same => (same.add_right_cancel' _).cancel_left_of_coprime coprime
    · exact fun same => (same.mul_left weight).add_right _
  | succ i ih =>
    cases weights with
    | nil => cases hweight
    | cons w weights =>
      cases values with
      | nil => cases hvalue
      | cons v values =>
        rw [List.set_cons_succ, weightedSum, weightedSum, ← ih hweight hvalue]
        exact ⟨Nat.ModEq.add_left_cancel' _, Nat.ModEq.add_left _⟩

/-- One value below the modulus makes a sum pass where its weight is prime to the modulus. -/
theorem existsUnique_passes {m weight : Nat} (pos : 0 < m) (coprime : Nat.Coprime m weight)
    (sum : Nat) : ∃! x, x < m ∧ (sum + weight * x) % m = 0 := by
  have toZero : ∀ {x}, (sum + weight * x) % m = 0 ↔ sum + weight * x ≡ 0 [MOD m] := by
    intro x
    rw [Nat.ModEq, Nat.zero_mod]
  obtain ⟨x, small, hx⟩ :=
    Nat.exists_mul_mod_eq_of_coprime (m - sum % m) coprime.symm (Nat.ne_of_gt pos)
  have completes : sum + weight * x ≡ 0 [MOD m] := calc
    sum + weight * x ≡ sum % m + (m - sum % m) [MOD m] := (Nat.mod_modEq sum m).symm.add hx
    _ = m := Nat.add_sub_cancel' (Nat.mod_lt sum pos).le
    _ ≡ 0 [MOD m] := Nat.modEq_zero_iff_dvd.mpr (Nat.dvd_refl m)
  refine ⟨x, ⟨small, toZero.mpr completes⟩, ?_⟩
  rintro y ⟨hy, passes⟩
  have same : sum + weight * y ≡ sum + weight * x [MOD m] :=
    (toZero.mp passes).trans completes.symm
  exact ((same.add_left_cancel' _).cancel_left_of_coprime coprime).eq_of_lt_of_lt hy small

end Castd.Lib
