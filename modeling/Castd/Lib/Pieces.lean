import Mathlib.Data.List.DropRight
import Mathlib.Data.List.Infix

/-!
# Lists in pieces

The first occurrence of a list in another, whether there is one, and the pieces between the
occurrences, counted from the left and without overlap. The pieces with the occurrences between them
are the list (`intercalate_split`).

A text of parameters has a line for each: a name, a separator, a value and the end of the line. It
reads back when no separator stands in a name and no end of a line in a line, nor across what
follows either (`ParameterFormat.read_write`), and what reads as a table is the text of that table
(`ParameterFormat.write_read`).

The words of a text are what stands between its blanks. A text that is cut off is cut off in its
first word or after it (`prefix_append_cons`), and so has the words before the cut. A list whose
ends are trimmed comes back from any padding (`trim_padded`).

Data that is stored row by row has rows of one length. An index is a row and a column
(`getElem?_flatMap_range`), and a slice from one row to the next is the row (`getElem?_slice`).
-/

namespace Castd.Lib

section

variable {α : Type} [DecidableEq α]

/-- The index of the first occurrence of `p`. -/
def find (p : List α) : List α → Option Nat
  | [] => if p = [] then some 0 else none
  | c :: s => if p.isPrefixOf (c :: s) then some 0 else (find p s).map (· + 1)

/-- Whether `p` occurs. -/
def contains (p s : List α) : Bool := (find p s).isSome

/-- The pieces between the occurrences of `p`, with `skip` elements of an occurrence still to
pass and the current piece read so far, reversed. -/
def splitFrom (p : List α) : List α → Nat → List α → List (List α)
  | [], _, piece => [piece.reverse]
  | _ :: s, skip + 1, piece => splitFrom p s skip piece
  | c :: s, 0, piece =>
    if p.isPrefixOf (c :: s) then piece.reverse :: splitFrom p s (p.length - 1) []
    else splitFrom p s 0 (c :: piece)

/-- The pieces between the occurrences of a nonempty `p`. -/
def split (p s : List α) : List (List α) := splitFrom p s 0 []

/-! ## Occurrences -/

/-- An occurrence found is one: `p` stands at the index. -/
theorem eq_append_of_find {p : List α} : ∀ {s : List α} {i : Nat}, find p s = some i →
    ∃ post, s = s.take i ++ p ++ post := by
  intro s
  induction s with
  | nil =>
    intro i h
    unfold find at h
    split at h <;> cases h
    rename_i hp
    exact ⟨[], by rw [hp]; rfl⟩
  | cons c s ih =>
    intro i h
    unfold find at h
    split at h
    · rename_i here
      cases h
      obtain ⟨post, hpost⟩ := List.isPrefixOf_iff_prefix.mp here
      exact ⟨post, hpost.symm⟩
    · obtain ⟨j, hj, rfl⟩ := Option.map_eq_some_iff.mp h
      obtain ⟨post, hpost⟩ := ih hj
      exact ⟨post, congrArg (c :: ·) hpost⟩

/-- An occurrence starts within the list. -/
theorem le_length_of_find {p : List α} : ∀ {s : List α} {i : Nat}, find p s = some i →
    i ≤ s.length := by
  intro s
  induction s with
  | nil =>
    intro i h
    unfold find at h
    split at h <;> cases h
    exact Nat.le_refl 0
  | cons c s ih =>
    intro i h
    unfold find at h
    split at h
    · cases h
      exact Nat.zero_le _
    · obtain ⟨j, hj, rfl⟩ := Option.map_eq_some_iff.mp h
      exact Nat.succ_le_succ (ih hj)

private theorem add_length_le_of_find {p s : List α} {i : Nat} (h : find p s = some i) :
    i + p.length ≤ s.length := by
  obtain ⟨post, hpost⟩ := eq_append_of_find h
  have inside := le_length_of_find h
  have sizes := congrArg List.length hpost
  simp only [List.length_append, List.length_take] at sizes
  omega

/-- What occurs is found. -/
theorem contains_iff_isInfix {p s : List α} : contains p s = true ↔ p <:+: s := by
  unfold contains
  constructor
  · intro h
    obtain ⟨i, hi⟩ := Option.isSome_iff_exists.mp h
    obtain ⟨post, hpost⟩ := eq_append_of_find hi
    exact ⟨_, post, hpost.symm⟩
  · intro h
    induction s with
    | nil =>
      have := List.eq_nil_of_infix_nil h
      simp [find, this]
    | cons c s ih =>
      unfold find
      split
      · rfl
      · rename_i notHere
        rw [Option.isSome_map]
        rcases List.infix_cons_iff.mp h with here | later
        · exact absurd (List.isPrefixOf_iff_prefix.mpr here) notHere
        · exact ih later

/-- What occurs in a part occurs in the whole. -/
theorem contains_of_isInfix {p s t : List α} (h : contains p s = true) (hs : s <:+: t) :
    contains p t = true :=
  contains_iff_isInfix.mpr ((contains_iff_isInfix.mp h).trans hs)

private theorem find_append {p : List α} : ∀ {s : List α} {i : Nat}, find p s = some i →
    ∀ t, find p (s ++ t) = some i := by
  intro s
  induction s with
  | nil =>
    intro i h t
    unfold find at h
    split at h <;> cases h
    rename_i hp
    subst hp
    cases t <;> rfl
  | cons c s ih =>
    intro i h t
    have fits := add_length_le_of_find h
    unfold find at h
    show (if p.isPrefixOf (c :: s ++ t) then some 0 else (find p (s ++ t)).map (· + 1)) = some i
    split at h
    · rename_i here
      cases h
      have here := List.isPrefixOf_iff_prefix.mp here
      rw [if_pos (List.isPrefixOf_iff_prefix.mpr (here.trans (List.prefix_append (c :: s) t)))]
    · rename_i notHere
      obtain ⟨j, hj, rfl⟩ := Option.map_eq_some_iff.mp h
      rw [if_neg, ih hj t]
      · rfl
      · intro here
        refine notHere (List.isPrefixOf_iff_prefix.mpr ?_)
        exact List.prefix_of_prefix_length_le (List.isPrefixOf_iff_prefix.mp here)
          (List.prefix_append (c :: s) t) (by omega)

/-- An injective renaming moves no occurrence. -/
theorem find_map {β : Type} [DecidableEq β] {f : α → β} (hf : Function.Injective f)
    (p : List α) : ∀ s : List α, find (p.map f) (s.map f) = find p s := by
  intro s
  induction s with
  | nil =>
    unfold find
    simp
  | cons c s ih =>
    have same : (p.map f).isPrefixOf (f c :: s.map f) = p.isPrefixOf (c :: s) := by
      rw [Bool.eq_iff_iff, List.isPrefixOf_iff_prefix, List.isPrefixOf_iff_prefix, ← List.map_cons,
        List.prefix_map_iff_of_injective hf]
    rw [List.map_cons]
    unfold find
    rw [same, ih]

/-- A part at which no occurrence starts is passed over. -/
theorem find_append_of_clear {p t : List α} : ∀ {s : List α},
    (∀ i < s.length, ¬ p <+: (s ++ t).drop i) →
      find p (s ++ t) = (find p t).map (· + s.length) := by
  intro s
  induction s with
  | nil =>
    intro _
    simp
  | cons c s ih =>
    intro clear
    have notHere : ¬ p.isPrefixOf (c :: (s ++ t)) = true := fun here =>
      clear 0 (Nat.zero_lt_succ _) (List.isPrefixOf_iff_prefix.mp here)
    rw [List.cons_append, find, if_neg notHere, ih fun i hi => clear (i + 1) (Nat.succ_lt_succ hi),
      Option.map_map]
    rfl

/-- An occurrence is the first when there is none in the text up to its last element. -/
theorem find_append_self_iff {p pre : List α} (hp : p ≠ []) (post : List α) :
    find p (pre ++ p ++ post) = some pre.length ↔ ¬ p <:+: pre ++ p.dropLast := by
  have size := List.length_pos_iff.mpr hp
  constructor
  · intro h earlier
    obtain ⟨j, hj⟩ := Option.isSome_iff_exists.mp (contains_iff_isInfix.mpr earlier)
    have fits := add_length_le_of_find hj
    have whole : pre ++ p ++ post = pre ++ p.dropLast ++ ([p.getLast hp] ++ post) := by
      rw [List.append_assoc pre p.dropLast, ← List.append_assoc p.dropLast,
        List.dropLast_append_getLast hp, List.append_assoc]
    rw [whole, find_append hj] at h
    have same := Option.some.inj h
    rw [List.length_append, List.length_dropLast] at fits
    omega
  · intro none_earlier
    obtain ⟨i, hi⟩ := Option.isSome_iff_exists.mp
      (contains_iff_isInfix.mpr (List.suffix_append pre p).isInfix)
    have fits := add_length_le_of_find hi
    rw [List.length_append] at fits
    rw [find_append hi]
    by_contra hne
    have before : i < pre.length := by
      have : i ≠ pre.length := fun same => hne (congrArg some same)
      omega
    obtain ⟨rest, hrest⟩ := eq_append_of_find hi
    refine none_earlier ⟨(pre ++ p).take i, rest.dropLast, ?_⟩
    have nonempty : rest ≠ [] := by
      rintro rfl
      have sizes := congrArg List.length hrest
      simp only [List.length_append, List.length_take, List.length_nil] at sizes
      omega
    calc (pre ++ p).take i ++ p ++ rest.dropLast
        = ((pre ++ p).take i ++ p ++ rest).dropLast :=
          (List.dropLast_append_of_ne_nil nonempty).symm
      _ = (pre ++ p).dropLast := congrArg List.dropLast hrest.symm
      _ = pre ++ p.dropLast := List.dropLast_append_of_ne_nil hp

/-! ## Pieces -/

private theorem splitFrom_skip (p : List α) : ∀ (s : List α) (skip : Nat) (piece : List α),
    splitFrom p s skip piece = splitFrom p (s.drop skip) 0 piece := by
  intro s
  induction s with
  | nil =>
    intro skip piece
    rw [List.drop_nil]
    rfl
  | cons c s ih =>
    intro skip piece
    cases skip with
    | zero => rfl
    | succ skip => exact ih skip piece

private theorem splitFrom_of_find {p : List α} (hp : p ≠ []) : ∀ {s : List α} {i : Nat},
    find p s = some i → ∀ piece : List α, splitFrom p s 0 piece =
      (piece.reverse ++ s.take i) :: splitFrom p (s.drop (i + p.length)) 0 [] := by
  have size : p.length = p.length - 1 + 1 := by
    have := List.length_pos_iff.mpr hp
    omega
  intro s
  induction s with
  | nil =>
    intro i h
    unfold find at h
    rw [if_neg hp] at h
    cases h
  | cons c s ih =>
    intro i h piece
    unfold find at h
    have here_or_later : splitFrom p (c :: s) 0 piece =
        if p.isPrefixOf (c :: s) then piece.reverse :: splitFrom p s (p.length - 1) []
        else splitFrom p s 0 (c :: piece) := rfl
    rw [here_or_later]
    split at h
    · rename_i here
      cases h
      rw [if_pos here, splitFrom_skip, Nat.zero_add, List.take_zero, List.append_nil]
      conv =>
        rhs
        rw [size, List.drop_succ_cons]
    · rename_i notHere
      obtain ⟨j, hj, rfl⟩ := Option.map_eq_some_iff.mp h
      rw [if_neg notHere, ih hj]
      have shift : j + 1 + p.length = j + p.length + 1 := by omega
      rw [shift, List.reverse_cons, List.append_assoc, List.take_succ_cons, List.drop_succ_cons]
      rfl

/-- The first piece ends at the first occurrence, and the others are those of the rest. -/
theorem split_of_find {p s : List α} {i : Nat} (hp : p ≠ []) (h : find p s = some i) :
    split p s = s.take i :: split p (s.drop (i + p.length)) :=
  splitFrom_of_find hp h []

private theorem infix_of_mem_splitFrom {p : List α} {e : List α} : ∀ {s : List α} {skip : Nat}
    {piece : List α}, skip = 0 ∨ piece = [] → e ∈ splitFrom p s skip piece →
      e <:+: piece.reverse ++ s := by
  intro s
  induction s with
  | nil =>
    intro skip piece _ h
    rw [splitFrom, List.mem_singleton] at h
    rw [h, List.append_nil]
  | cons c s ih =>
    intro skip piece idle h
    cases skip with
    | succ skip =>
      rcases idle with hskip | rfl
      · cases hskip
      · exact (ih (.inr rfl) h).trans (List.suffix_cons c s).isInfix
    | zero =>
      unfold splitFrom at h
      split at h
      · rcases List.mem_cons.mp h with rfl | later
        · exact (List.prefix_append _ _).isInfix
        · have rest := ih (.inr rfl) later
          exact rest.trans ((List.suffix_cons c s).trans (List.suffix_append _ _)).isInfix
      · have rest := ih (.inl rfl) h
        rwa [List.reverse_cons, List.append_assoc] at rest

/-- Every piece is part of the list. -/
theorem infix_of_mem_split {p s e : List α} (h : e ∈ split p s) : e <:+: s :=
  infix_of_mem_splitFrom (.inl rfl) h

private theorem intercalate_splitFrom {p : List α} (hp : p ≠ []) : ∀ {s : List α} {skip : Nat}
    {piece : List α}, skip = 0 ∨ piece = [] →
      p.intercalate (splitFrom p s skip piece) = piece.reverse ++ s.drop skip := by
  have more : ∀ (s : List α) (skip : Nat) (piece : List α), splitFrom p s skip piece ≠ [] := by
    intro s
    induction s with
    | nil => exact fun _ _ => List.cons_ne_nil _ _
    | cons c s ih =>
      intro skip piece
      cases skip with
      | succ skip => exact ih skip piece
      | zero =>
        unfold splitFrom
        split
        · exact List.cons_ne_nil _ _
        · exact ih 0 _
  intro s
  induction s with
  | nil =>
    intro skip piece _
    rw [List.drop_nil, List.append_nil]
    exact List.intercalate_singleton
  | cons c s ih =>
    intro skip piece idle
    cases skip with
    | succ skip =>
      obtain rfl := idle.resolve_left (Nat.succ_ne_zero skip)
      exact ih (.inr rfl)
    | zero =>
      unfold splitFrom
      split
      next here =>
        obtain ⟨post, occurs⟩ := List.isPrefixOf_iff_prefix.mp here
        obtain ⟨d, p', rfl⟩ := List.exists_cons_of_ne_nil hp
        have later : p' ++ post = s := (List.cons.inj occurs).2
        rw [List.intercalate_cons_of_ne_nil (more _ _ _), ih (.inr rfl), List.length_cons,
          Nat.add_sub_cancel, ← later, List.drop_left, List.drop_zero, later, ← occurs,
          List.append_assoc]
        rfl
      next =>
        rw [ih (.inl rfl), List.reverse_cons, List.append_assoc]
        rfl

/-- A list is its pieces with the occurrences between them. -/
theorem intercalate_split {p : List α} (hp : p ≠ []) (s : List α) :
    p.intercalate (split p s) = s :=
  intercalate_splitFrom hp (.inl rfl)

private theorem intercalate_concat_nil {β : Type} (p : List β) (pieces : List (List β)) :
    p.intercalate (pieces ++ [[]]) = pieces.flatMap (· ++ p) := by
  induction pieces with
  | nil => exact List.intercalate_singleton
  | cons piece pieces ih =>
    rw [List.cons_append, List.intercalate_cons_of_ne_nil (by simp), ih, List.flatMap_cons,
      List.append_assoc]

/-! ## Parameters -/

/-- What stands between a name and its value, and at the end of a line. -/
structure ParameterFormat (α : Type) where
  separator : List α
  ending : List α
  separator_ne_nil : separator ≠ []
  ending_ne_nil : ending ≠ []

/-- What comes before the first occurrence of `p`, and what after. -/
def partition (p s : List α) : Option (List α × List α) :=
  (find p s).map fun i => (s.take i, s.drop (i + p.length))

namespace ParameterFormat

variable (f : ParameterFormat α)

/-- The line of a parameter, without its end. -/
def line (parameter : List α × List α) : List α := parameter.1 ++ f.separator ++ parameter.2

/-- The text of parameters. -/
def write (parameters : List (List α × List α)) : List α :=
  parameters.flatMap fun parameter => f.line parameter ++ f.ending

/-- The parameters of a text. -/
def read (text : List α) : Option (List (List α × List α)) :=
  let pieces := split f.ending text
  if pieces.getLast? = some [] then pieces.dropLast.mapM (partition f.separator) else none

/-- A parameter whose name and line end where they are meant to. -/
structure Clear (parameter : List α × List α) : Prop where
  name : ¬f.separator <:+: parameter.1 ++ f.separator.dropLast
  line : ¬f.ending <:+: f.line parameter ++ f.ending.dropLast

variable {f}

private theorem Clear.partition_line {parameter : List α × List α} (clear : f.Clear parameter) :
    partition f.separator (f.line parameter) = some parameter := by
  have found : find f.separator (f.line parameter) = some parameter.1.length :=
    (find_append_self_iff f.separator_ne_nil parameter.2).mpr clear.name
  rw [partition, found, Option.map_some, ParameterFormat.line, List.append_assoc, List.take_left,
    ← List.append_assoc, ← List.length_append, List.drop_left]

private theorem split_write {parameters : List (List α × List α)}
    (clear : ∀ parameter ∈ parameters, f.Clear parameter) :
    split f.ending (f.write parameters) = parameters.map f.line ++ [[]] := by
  induction parameters with
  | nil => rfl
  | cons parameter parameters ih =>
    rw [List.forall_mem_cons] at clear
    have found : find f.ending (f.line parameter ++ f.ending ++ f.write parameters) =
        some (f.line parameter).length :=
      (find_append_self_iff f.ending_ne_nil _).mpr clear.1.line
    rw [write, List.flatMap_cons, ← write, split_of_find f.ending_ne_nil found, List.append_assoc,
      List.take_left, ← List.append_assoc, ← List.length_append, List.drop_left, ih clear.2]
    rfl

/-- Parameters come back from their text. -/
theorem read_write {parameters : List (List α × List α)}
    (clear : ∀ parameter ∈ parameters, f.Clear parameter) :
    f.read (f.write parameters) = some parameters := by
  have lines : (parameters.map f.line).mapM (partition f.separator) = some parameters := by
    induction parameters with
    | nil => rfl
    | cons parameter parameters ih =>
      rw [List.forall_mem_cons] at clear
      rw [List.map_cons, List.mapM_cons, clear.1.partition_line, ih clear.2]
      rfl
  rw [read, split_write clear]
  simp only [List.getLast?_append, List.getLast?_singleton, Option.some_or, if_true,
    List.dropLast_concat, lines]

private theorem line_of_partition {piece : List α} {parameter : List α × List α}
    (cut : partition f.separator piece = some parameter) : f.line parameter = piece := by
  obtain ⟨i, found, rfl⟩ := Option.map_eq_some_iff.mp cut
  obtain ⟨post, occurs⟩ := eq_append_of_find found
  have fits := add_length_le_of_find found
  have before : (piece.take i ++ f.separator).length = i + f.separator.length := by
    rw [List.length_append, List.length_take, Nat.min_eq_left (by omega)]
  have after : piece.drop (i + f.separator.length) = post := by
    conv_lhs => rw [occurs, ← before]
    exact List.drop_left
  rw [line, after]
  exact occurs.symm

/-- A text that reads as a table is the text of the table. -/
theorem write_read {text : List α} {parameters : List (List α × List α)}
    (reads : f.read text = some parameters) : f.write parameters = text := by
  unfold read at reads
  dsimp only at reads
  split at reads
  next ends =>
    have pieces := List.dropLast_append_getLast? [] ends
    have lines : ∀ {pieces : List (List α)} {parameters : List (List α × List α)},
        pieces.mapM (partition f.separator) = some parameters →
          parameters.map f.line = pieces := by
      intro pieces
      induction pieces with
      | nil =>
        rintro parameters cut
        cases cut
        rfl
      | cons piece pieces ih =>
        intro parameters cut
        rw [List.mapM_cons] at cut
        obtain ⟨parameter, first, cut⟩ := Option.bind_eq_some_iff.mp cut
        obtain ⟨others, rest, cut⟩ := Option.bind_eq_some_iff.mp cut
        cases cut
        rw [List.map_cons, line_of_partition first, ih rest]
    rw [← intercalate_split f.ending_ne_nil text, ← pieces, intercalate_concat_nil, ← lines reads,
      List.flatMap_map]
    rfl
  next => cases reads

end ParameterFormat

end

/-! ## Words -/

section

variable {α : Type} {blank : α → Bool}

/-- The words of a text, between runs of blanks. -/
def words (blank : α → Bool) (text : List α) : List (List α) :=
  (text.splitOnP blank).filter fun word => !word.isEmpty

/-- A text without blanks is a word, or there is none. -/
theorem words_unbroken {word : List α} (unbroken : ∀ c ∈ word, blank c = false) :
    words blank word = if word = [] then [] else [word] := by
  rw [words, List.splitOnP_eq_singleton unbroken]
  cases word <;> rfl

/-- A word ends at the blank after it. -/
theorem words_append_cons {word : List α} {c : α} (unbroken : ∀ c ∈ word, blank c = false)
    (nonempty : word ≠ []) (ends : blank c = true) (rest : List α) :
    words blank (word ++ c :: rest) = word :: words blank rest := by
  rw [words, List.splitOnP_append_cons_of_forall_mem unbroken c ends, List.filter_cons_of_pos]
  · rfl
  · simp [nonempty]

/-- A text that is cut off is cut off before a character of it, or after. -/
theorem prefix_append_cons {before rest part : List α} {c : α}
    (cut : part <+: before ++ c :: rest) :
    part <+: before ∨ ∃ part', part = before ++ c :: part' ∧ part' <+: rest := by
  rcases List.prefix_or_prefix_of_prefix cut (List.prefix_append before _) with short | long
  · exact .inl short
  · obtain ⟨part', rfl⟩ := long
    rw [List.prefix_append_right_inj] at cut
    cases part' with
    | nil => simp
    | cons d part' =>
      obtain ⟨rfl, inRest⟩ := List.cons_prefix_cons.mp cut
      exact .inr ⟨part', rfl, inRest⟩

end

/-! ## Ends -/

section

variable {α : Type} {p : α → Bool}

private theorem rdropWhile_append_of_all {l m : List α} (all : ∀ x ∈ m, p x = true) :
    (l ++ m).rdropWhile p = l.rdropWhile p := by
  induction m using List.reverseRecOn with
  | nil => rw [List.append_nil]
  | append_singleton m x ih =>
    rw [← List.append_assoc, List.rdropWhile_concat_pos _ _ _ (all x (List.mem_concat_self))]
    exact ih fun y hy => all y (List.mem_append_left _ hy)

/-- Dropping at the end stops at an element that is kept. -/
theorem rdropWhile_append_cons {l m : List α} {x : α} (kept : p x = false) :
    (l ++ x :: m).rdropWhile p = l ++ x :: m.rdropWhile p := by
  induction m using List.reverseRecOn with
  | nil => exact List.rdropWhile_concat_neg _ _ _ (Bool.not_eq_true _ ▸ kept)
  | append_singleton m y ih =>
    rw [← List.cons_append, ← List.append_assoc]
    cases hy : p y with
    | true => rw [List.rdropWhile_concat_pos _ _ _ hy, List.rdropWhile_concat_pos _ _ _ hy, ih]
    | false =>
      have kept' : ¬p y = true := Bool.not_eq_true _ ▸ hy
      rw [List.rdropWhile_concat_neg _ _ _ kept', List.rdropWhile_concat_neg _ _ _ kept',
        List.append_assoc, List.cons_append]

/-- Neither end of a list satisfies `p`. -/
structure Trimmed (p : α → Bool) (l : List α) : Prop where
  head : ∀ x ∈ l.head?, p x = false
  last : ∀ x ∈ l.getLast?, p x = false

private theorem trimmed_iff {l : List α} :
    Trimmed p l ↔ l.head?.any p = false ∧ l.getLast?.any p = false := by
  simp only [Option.any_eq_false]
  exact ⟨fun h => ⟨h.head, h.last⟩, fun h => ⟨h.1, h.2⟩⟩

instance (l : List α) : Decidable (Trimmed p l) := decidable_of_iff _ trimmed_iff.symm

/-- A list without such elements is trimmed. -/
theorem Trimmed.of_forall {l : List α} (none : ∀ x ∈ l, p x = false) : Trimmed p l :=
  ⟨fun x hx => none x (List.mem_of_mem_head? hx), fun x hx => none x (List.mem_of_getLast? hx)⟩

private theorem Trimmed.rdropWhile_eq {l : List α} (h : Trimmed p l) : l.rdropWhile p = l := by
  rw [List.rdropWhile_eq_self_iff]
  intro nonempty
  rw [h.last _ (List.getLast?_eq_getLast_of_ne_nil nonempty ▸ Option.mem_some_self _)]
  exact Bool.false_ne_true

theorem Trimmed.dropWhile_eq {l : List α} (h : Trimmed p l) (rest : List α) (nonempty : l ≠ []) :
    (l ++ rest).dropWhile p = l ++ rest := by
  cases l with
  | nil => exact absurd rfl nonempty
  | cons x l => exact List.dropWhile_cons_of_neg (Bool.not_eq_true _ ▸ h.head x rfl)

/-- A trimmed list comes back from any padding. -/
theorem trim_padded {before l after : List α} (h : Trimmed p l) (front : ∀ x ∈ before, p x = true)
    (back : ∀ x ∈ after, p x = true) :
    ((before ++ l ++ after).dropWhile p).rdropWhile p = l := by
  rw [List.append_assoc, List.dropWhile_append_of_pos front]
  by_cases nonempty : l = []
  · subst nonempty
    rw [List.nil_append, List.dropWhile_eq_nil_iff.mpr back, List.rdropWhile_nil]
  · rw [h.dropWhile_eq after nonempty, rdropWhile_append_of_all back, h.rdropWhile_eq]

/-- It comes back as well when the end was dropped before. -/
theorem trim_rdropWhile_padded {before l after : List α} (h : Trimmed p l)
    (front : ∀ x ∈ before, p x = true) (back : ∀ x ∈ after, p x = true) :
    (((before ++ l ++ after).rdropWhile p).dropWhile p).rdropWhile p = l := by
  by_cases nonempty : l = []
  · subst nonempty
    rw [List.append_nil, rdropWhile_append_of_all back, List.rdropWhile_eq_nil_iff.mpr front]
    rfl
  · have kept : (before ++ l).rdropWhile p = before ++ l := by
      rw [List.rdropWhile_eq_self_iff]
      intro _
      rw [List.getLast_append_of_ne_nil _ nonempty,
        h.last _ (List.getLast?_eq_getLast_of_ne_nil nonempty ▸ Option.mem_some_self _)]
      exact Bool.false_ne_true
    rw [rdropWhile_append_of_all back, kept]
    have padded := trim_padded h front (List.forall_mem_nil (p · = true))
    rwa [List.append_nil] at padded

end

/-! ## Rows -/

section

variable {α : Type} {rows stride x y : Nat} {row : Nat → List α}

theorem length_flatMap_range (length : ∀ y < rows, (row y).length = stride) :
    ((List.range rows).flatMap row).length = stride * rows := by
  induction rows with
  | zero => simp
  | succ rows ih =>
    have before := ih fun y hy => length y (Nat.lt_succ_of_lt hy)
    rw [List.range_succ, List.flatMap_append, List.length_append, before, List.flatMap_singleton,
      length rows (Nat.lt_succ_self rows), Nat.mul_succ]

/-- An entry of the data is one of a row. -/
theorem getElem?_flatMap_range (length : ∀ y < rows, (row y).length = stride) (hy : y < rows)
    (hx : x < stride) : ((List.range rows).flatMap row)[y * stride + x]? = (row y)[x]? := by
  induction rows with
  | zero => exact absurd hy (Nat.not_lt_zero y)
  | succ rows ih =>
    have earlier : ∀ y < rows, (row y).length = stride :=
      fun y hy => length y (Nat.lt_succ_of_lt hy)
    have before := length_flatMap_range earlier
    rw [List.range_succ, List.flatMap_append, List.flatMap_singleton]
    rcases Nat.lt_succ_iff_lt_or_eq.mp hy with hy | rfl
    · have inside : y * stride + x < stride * rows := calc
        y * stride + x < (y + 1) * stride := by rw [Nat.succ_mul]; omega
        _ ≤ rows * stride := Nat.mul_le_mul_right stride hy
        _ = stride * rows := Nat.mul_comm _ _
      rw [List.getElem?_append_left (before ▸ inside), ih earlier hy]
    · have past : y * stride = stride * y := Nat.mul_comm _ _
      rw [List.getElem?_append_right (by omega), before, past, Nat.add_sub_cancel_left]

/-- A slice from the start of a row to the start of the next. -/
theorem getElem?_slice (data : List α) (hx : x < stride) :
    (data.extract (y * stride) ((y + 1) * stride))[x]? = data[y * stride + x]? := by
  have width : (y + 1) * stride - y * stride = stride := by
    rw [Nat.succ_mul, Nat.add_sub_cancel_left]
  rw [List.extract_eq_take_drop, width, List.getElem?_take_of_lt hx, List.getElem?_drop]

theorem length_slice {data : List α} (length : data.length = stride * rows) (hy : y < rows) :
    (data.extract (y * stride) ((y + 1) * stride)).length = stride := by
  have width : (y + 1) * stride - y * stride = stride := by
    rw [Nat.succ_mul, Nat.add_sub_cancel_left]
  have inside : (y + 1) * stride ≤ data.length := by
    rw [length, Nat.mul_comm stride]
    exact Nat.mul_le_mul_right stride hy
  rw [List.extract_eq_take_drop, List.length_take, List.length_drop]
  omega

end

end Castd.Lib
