import Castd.Lib.System
import Mathlib.Data.List.Infix

/-!
# Two parties that follow a script

A script is a conversation of two: who says what, in order. A party that follows it says its lines
up to the next line of the other, and waits until the whole of that has arrived. What is said goes
through two channels that keep the order and deliver in pieces of any size, at any time.

A party is what it has sent, given the pieces that have reached it. Where both follow the script, a
side has at any time heard a part of what the other has sent, from its front (`InScript`), and the
channels are empty only when everything was heard (`over_iff`): there is no deadlock, whatever the
order and the pieces of the deliveries. A run has at most as many deliveries as the script has
characters (`length_le_of_run`), and from every state of it deliveries lead to one that is over
(`exists_over`).
-/

namespace Castd.Lib

/-- A party of a conversation. -/
inductive Side
  | left
  | right
  deriving DecidableEq

/-- The one it talks to. -/
def Side.other : Side → Side
  | .left => .right
  | .right => .left

@[simp] theorem Side.other_other (side : Side) : side.other.other = side := by cases side <;> rfl

theorem Side.forall_iff {P : Side → Prop} : (∀ side, P side) ↔ P .left ∧ P .right :=
  ⟨fun all => ⟨all .left, all .right⟩, fun both side => by
    cases side
    · exact both.1
    · exact both.2⟩

private theorem Side.ne_iff {who side : Side} : who ≠ side ↔ who = side.other := by
  cases who <;> cases side <;> decide

theorem Side.other_ne (side : Side) : side.other ≠ side := Side.ne_iff.mpr rfl

/-- The lines of a conversation, and who says them. -/
abbrev Script (α : Type) := List (Side × List α)

namespace Script

variable {α : Type}

/-- The lines of a side. -/
def of (side : Side) : Script α → List (List α)
  | [] => []
  | (who, line) :: script => if who = side then line :: of side script else of side script

/-- The lines a side has said once `n` characters of the other side have arrived. -/
def saidBy (side : Side) : Script α → Nat → List (List α)
  | [], _ => []
  | (who, line) :: script, n =>
    if who = side then line :: saidBy side script n
    else if line.length ≤ n then saidBy side script (n - line.length)
    else []

variable {script : Script α} {who side : Side} {line : List α}

@[simp] theorem of_own : of side ((side, line) :: script) = line :: of side script := if_pos rfl

theorem of_others (other : who ≠ side) : of side ((who, line) :: script) = of side script :=
  if_neg other

@[simp] theorem saidBy_own (n : Nat) :
    saidBy side ((side, line) :: script) n = line :: saidBy side script n := if_pos rfl

theorem saidBy_arrived (other : who ≠ side) {n : Nat} (arrived : line.length ≤ n) :
    saidBy side ((who, line) :: script) n = saidBy side script (n - line.length) := by
  rw [saidBy, if_neg other, if_pos arrived]

theorem saidBy_waiting (other : who ≠ side) {n : Nat} (waits : n < line.length) :
    saidBy side ((who, line) :: script) n = [] := by
  rw [saidBy, if_neg other, if_neg (Nat.not_le.mpr waits)]

private theorem saidBy_isPrefix (script : Script α) (side : Side) :
    ∀ n, script.saidBy side n <+: script.of side := by
  induction script with
  | nil => exact fun _ => List.prefix_rfl
  | cons turn script ih =>
    obtain ⟨who, line⟩ := turn
    intro n
    by_cases own : who = side
    · subst own
      rw [saidBy_own, of_own, List.cons_prefix_cons]
      exact ⟨rfl, ih n⟩
    · rw [of_others own]
      rcases Nat.lt_or_ge n line.length with waits | arrived
      · rw [saidBy_waiting own waits]
        exact List.nil_prefix
      · rw [saidBy_arrived own arrived]
        exact ih _

private theorem saidBy_mono (script : Script α) (side : Side) :
    ∀ {m n : Nat}, m ≤ n → script.saidBy side m <+: script.saidBy side n := by
  induction script with
  | nil => exact fun _ => List.prefix_rfl
  | cons turn script ih =>
    obtain ⟨who, line⟩ := turn
    intro m n le
    by_cases own : who = side
    · subst own
      rw [saidBy_own, saidBy_own, List.cons_prefix_cons]
      exact ⟨rfl, ih le⟩
    · rcases Nat.lt_or_ge m line.length with waits | arrived
      · rw [saidBy_waiting own waits]
        exact List.nil_prefix
      · rw [saidBy_arrived own arrived, saidBy_arrived own (Nat.le_trans arrived le)]
        exact ih (Nat.sub_le_sub_right le _)

private theorem complete_of_heard (script : Script α) : ∀ {m n : Nat},
    (script.saidBy .right n).flatten.length ≤ m → (script.saidBy .left m).flatten.length ≤ n →
      (script.of .right).flatten.length ≤ m ∧ (script.of .left).flatten.length ≤ n := by
  induction script with
  | nil => exact fun _ _ => ⟨Nat.zero_le _, Nat.zero_le _⟩
  | cons turn script ih =>
    obtain ⟨who, line⟩ := turn
    intro m n heardRight heardLeft
    -- the first line was said, so it was heard, and the rest is a script of its own
    cases who with
    | left =>
      have other : Side.left ≠ .right := Side.noConfusion
      rw [saidBy_own, List.flatten_cons, List.length_append] at heardLeft
      rw [saidBy_arrived other (by omega)] at heardRight
      obtain ⟨right, left⟩ := ih heardRight (by omega)
      rw [of_own, of_others other, List.flatten_cons, List.length_append]
      omega
    | right =>
      have other : Side.right ≠ .left := Side.noConfusion
      rw [saidBy_own, List.flatten_cons, List.length_append] at heardRight
      rw [saidBy_arrived other (by omega)] at heardLeft
      obtain ⟨right, left⟩ := ih (by omega) heardLeft
      rw [of_own, of_others other, List.flatten_cons, List.length_append]
      omega

end Script

/-! ## Two channels -/

/-- The pieces that have reached the two sides, oldest first. -/
structure Talk (α : Type) where
  received : Side → List (List α) := fun _ => []

/-- So many characters reach a side. -/
structure Delivery where
  side : Side
  size : Nat
  deriving DecidableEq

section

variable {α : Type}

/-- What the sides have sent, given what reached them. -/
abbrev Parties (α : Type) := Side → List (List α) → List (List α)

variable (parties : Parties α)

namespace Talk

/-- All that has reached a side. -/
def heard (s : Talk α) (side : Side) : List α := (s.received side).flatten

/-- All that a side has sent. -/
def sent (s : Talk α) (side : Side) : List α := (parties side (s.received side)).flatten

/-- What was sent to a side and has not reached it. -/
def inFlight (s : Talk α) (side : Side) : List α :=
  (s.sent parties side.other).drop (s.heard side).length

/-- A piece reaches a side. -/
def deliver (s : Talk α) (side : Side) (piece : List α) : Talk α :=
  { received := Function.update s.received side (s.received side ++ [piece]) }

/-- The next characters in flight reach a side. -/
def step (s : Talk α) (d : Delivery) : Option (Talk α) :=
  if 0 < d.size ∧ d.size ≤ (s.inFlight parties d.side).length then
    some (s.deliver d.side ((s.inFlight parties d.side).take d.size))
  else none

private theorem received_deliver (s : Talk α) (side : Side) (piece : List α) :
    (s.deliver side piece).received side = s.received side ++ [piece] :=
  Function.update_self _ _ _

private theorem received_deliver_other (s : Talk α) (side : Side) (piece : List α) :
    (s.deliver side piece).received side.other = s.received side.other :=
  Function.update_of_ne side.other_ne _ _

private theorem heard_deliver (s : Talk α) (side : Side) (piece : List α) :
    (s.deliver side piece).heard side = s.heard side ++ piece := by
  rw [heard, received_deliver, List.flatten_append, List.flatten_singleton, heard]

private theorem heard_deliver_other (s : Talk α) (side : Side) (piece : List α) :
    (s.deliver side piece).heard side.other = s.heard side.other :=
  congrArg List.flatten (received_deliver_other s side piece)

private theorem sent_deliver_other (s : Talk α) (side : Side) (piece : List α) :
    (s.deliver side piece).sent parties side.other = s.sent parties side.other := by
  rw [sent, received_deliver_other, sent]

end Talk

/-- The system, from where nothing has arrived. -/
def talk : System (Talk α) Delivery := { init := {}, step := Talk.step parties }

/-- Given a front of what the other side says in the script, in any pieces, a party has said what
the script has it say. -/
def FollowsScript (script : Script α) (side : Side)
    (party : List (List α) → List (List α)) : Prop :=
  ∀ pieces : List (List α), (∀ piece ∈ pieces, piece ≠ []) →
    pieces.flatten <+: (script.of side.other).flatten →
      party pieces = script.saidBy side pieces.flatten.length

namespace Talk

/-- Each side has heard a part of what the other has sent, and that is a part of its lines. -/
structure InScript (script : Script α) (s : Talk α) : Prop where
  nonempty : ∀ side, ∀ piece ∈ s.received side, piece ≠ []
  heard : ∀ side, s.heard side <+: (script.of side.other).flatten
  sent : ∀ side, s.heard side <+: s.sent parties side.other

variable {parties} {script : Script α} {s t : Talk α}

private theorem sent_eq (follow : ∀ side, FollowsScript script side (parties side)) {side : Side}
    (nonempty : ∀ piece ∈ s.received side, piece ≠ [])
    (heard : s.heard side <+: (script.of side.other).flatten) :
    s.sent parties side = (script.saidBy side (s.heard side).length).flatten :=
  congrArg List.flatten (follow side _ nonempty heard)

/-- At the start nothing has arrived. -/
theorem InScript.init : InScript parties script {} where
  nonempty := fun _ _ h => absurd h List.not_mem_nil
  heard := fun _ => List.nil_prefix
  sent := fun _ => List.nil_prefix

private theorem InScript.heard_append_inFlight (h : InScript parties script s) (side : Side) :
    s.heard side ++ s.inFlight parties side = s.sent parties side.other := by
  obtain ⟨rest, whole⟩ := h.sent side
  rw [Talk.inFlight, ← whole, List.drop_left]

private theorem InScript.deliver (h : InScript parties script s)
    (follow : ∀ side, FollowsScript script side (parties side)) {side : Side} {piece : List α}
    (nonempty : piece ≠ []) (front : piece <+: s.inFlight parties side) :
    InScript parties script (s.deliver side piece) := by
  have sent : s.heard side ++ piece <+: s.sent parties side.other := by
    rw [← h.heard_append_inFlight, List.prefix_append_right_inj]
    exact front
  have said : s.sent parties side.other <+: (script.of side.other).flatten := by
    rw [sent_eq follow (h.nonempty _) (h.heard _)]
    exact (script.saidBy_isPrefix _ _).flatten
  have pieces : ∀ p ∈ (s.deliver side piece).received side, p ≠ [] := by
    rw [received_deliver, List.forall_mem_append, List.forall_mem_singleton]
    exact ⟨h.nonempty side, nonempty⟩
  have heard : (s.deliver side piece).heard side <+: (script.of side.other).flatten := by
    rw [heard_deliver]
    exact sent.trans said
  -- the side that has heard more has said more, and the other has heard a front of it still
  have more : s.sent parties side <+: (s.deliver side piece).sent parties side := by
    rw [sent_eq follow pieces heard, sent_eq follow (h.nonempty _) (h.heard _), heard_deliver,
      List.length_append]
    exact (script.saidBy_mono side (Nat.le_add_right _ _)).flatten
  refine ⟨fun who => ?_, fun who => ?_, fun who => ?_⟩ <;> by_cases own : who = side
  · subst own
    exact pieces
  · obtain rfl := Side.ne_iff.mp own
    rw [received_deliver_other]
    exact h.nonempty _
  · subst own
    exact heard
  · obtain rfl := Side.ne_iff.mp own
    rw [heard_deliver_other]
    exact h.heard _
  · subst own
    rw [heard_deliver, sent_deliver_other]
    exact sent
  · obtain rfl := Side.ne_iff.mp own
    have heard := h.sent side.other
    rw [Side.other_other] at heard
    rw [heard_deliver_other, Side.other_other]
    exact heard.trans more

/-- One delivery. -/
theorem InScript.step (h : InScript parties script s)
    (follow : ∀ side, FollowsScript script side (parties side)) {d : Delivery}
    (delivered : Talk.step parties s d = some t) :
    InScript parties script t ∧
      (s.heard .left).length + (s.heard .right).length + 1 ≤
        (t.heard .left).length + (t.heard .right).length := by
  unfold Talk.step at delivered
  split at delivered <;> cases delivered
  rename_i guard
  have size : ((s.inFlight parties d.side).take d.size).length = d.size := by
    rw [List.length_take, Nat.min_eq_left guard.2]
  have nonempty : (s.inFlight parties d.side).take d.size ≠ [] :=
    List.ne_nil_of_length_pos (by omega)
  refine ⟨h.deliver follow nonempty (List.take_prefix _ _), ?_⟩
  obtain ⟨side, n⟩ := d
  have heard := congrArg List.length (s.heard_deliver side ((s.inFlight parties side).take n))
  have other := congrArg List.length (s.heard_deliver_other side ((s.inFlight parties side).take n))
  rw [List.length_append] at heard
  dsimp only at guard size ⊢
  cases side <;> dsimp only [Side.other] at other <;> omega

/-- In every run the sides stay in the script. -/
theorem inScript_of_reachable (follow : ∀ side, FollowsScript script side (parties side))
    (reached : (talk parties).Reachable s) : InScript parties script s :=
  reached.invariant .init fun _ _ _ _ h _ delivered => (h.step follow delivered).1

/-- Nothing can be delivered exactly when each side has heard all that the script has the other
say. -/
theorem over_iff (h : InScript parties script s)
    (follow : ∀ side, FollowsScript script side (parties side)) :
    (∀ d, Talk.step parties s d = none) ↔
      ∀ side, s.heard side = (script.of side.other).flatten := by
  constructor
  · intro stuck
    have empty : ∀ side, s.inFlight parties side = [] := by
      intro side
      by_contra nonempty
      have possible := stuck ⟨side, 1⟩
      rw [Talk.step, if_pos ⟨Nat.one_pos, List.length_pos_of_ne_nil nonempty⟩] at possible
      cases possible
    have all : ∀ side,
        s.heard side = (script.saidBy side.other (s.heard side.other).length).flatten :=
      fun side => by
        rw [← sent_eq follow (h.nonempty _) (h.heard _), ← h.heard_append_inFlight, empty,
          List.append_nil]
    obtain ⟨right, left⟩ := script.complete_of_heard
      (congrArg List.length (all .left)).ge (congrArg List.length (all .right)).ge
    intro side
    refine (h.heard side).eq_of_length_le ?_
    cases side
    · exact right
    · exact left
  · intro all d
    refine if_neg fun guard => ?_
    have whole := congrArg List.length (h.heard_append_inFlight d.side)
    rw [List.length_append, sent_eq follow (h.nonempty _) (h.heard _)] at whole
    have said :=
      (script.saidBy_isPrefix d.side.other (s.heard d.side.other).length).flatten.length_le
    rw [← all d.side] at said
    omega

/-- A run delivers at most the characters of the script. -/
theorem length_le_of_run (follow : ∀ side, FollowsScript script side (parties side))
    {ds : List Delivery} (ran : (talk parties).run ds = some s) :
    ds.length ≤ (script.of .left).flatten.length + (script.of .right).flatten.length := by
  have counted : ∀ {ds : List Delivery} {s t : Talk α}, InScript parties script s →
      (talk parties).runFrom s ds = some t → InScript parties script t ∧
        (s.heard .left).length + (s.heard .right).length + ds.length ≤
          (t.heard .left).length + (t.heard .right).length := by
    intro ds
    induction ds with
    | nil =>
      intro s t h ran
      cases ran
      exact ⟨h, Nat.le_refl _⟩
    | cons d ds ih =>
      intro s t h ran
      obtain ⟨u, delivered, rest⟩ := Option.bind_eq_some_iff.mp ran
      obtain ⟨hu, one⟩ := h.step follow delivered
      obtain ⟨ht, others⟩ := ih hu rest
      rw [List.length_cons]
      exact ⟨ht, by omega⟩
  obtain ⟨h, count⟩ := counted InScript.init ran
  have left := (h.heard .left).length_le
  have right := (h.heard .right).length_le
  dsimp only [Side.other] at left right
  omega

/-- From every state of a run deliveries lead to one where nothing can be delivered. -/
theorem exists_over (follow : ∀ side, FollowsScript script side (parties side))
    (h : InScript parties script s) : ∃ ds t, (talk parties).runFrom s ds = some t ∧
      InScript parties script t ∧ ∀ d, Talk.step parties t d = none := by
  generalize left : (script.of .left).flatten.length + (script.of .right).flatten.length -
    ((s.heard .left).length + (s.heard .right).length) = k
  induction k using Nat.strongRecOn generalizing s with
  | ind k ih =>
    by_cases ended : ∀ d, Talk.step parties s d = none
    · exact ⟨[], s, rfl, h, ended⟩
    · obtain ⟨d, possible⟩ := not_forall.mp ended
      obtain ⟨u, delivered⟩ := Option.ne_none_iff_exists'.mp possible
      obtain ⟨hu, more⟩ := h.step follow delivered
      have leftHeard := (hu.heard .left).length_le
      have rightHeard := (hu.heard .right).length_le
      dsimp only [Side.other] at leftHeard rightHeard
      obtain ⟨ds, t, ran, rest⟩ := ih _ (by omega) hu rfl
      exact ⟨d :: ds, t, Option.bind_eq_some_iff.mpr ⟨u, delivered, ran⟩, rest⟩

end Talk

end

end Castd.Lib
