import Mathlib.Data.List.Flatten

/-!
# Framing a stream that arrives in chunks

A framer looks at the front of a stream and says where the first frame ends, that it needs more,
or that the front is malformed. What makes it independent of how the stream is cut into chunks is
that more data does not change an answer once given (`frame_append`, `fails_append`).

`read` is the loop of a buffered reader: scan the buffer, and receive the next chunk while the
answer is "more". `read_of_frame`, `read_of_fails` and `read_of_more` say what it returns in terms
of the stream alone, and `readN` what any number of reads returns.
-/

namespace Castd.Lib

/-- What the front of a stream shows. -/
inductive Scan (α ε : Type)
  | more
  | frame (message rest : List α)
  | fails (error : ε)
  deriving DecidableEq

/-- A scan whose answers stand when more data arrives. -/
structure Framer (α ε : Type) where
  scan : List α → Scan α ε
  frame_eq : ∀ {s m r : List α}, scan s = .frame m r → s = m ++ r ∧ m ≠ []
  frame_append : ∀ {s m r : List α}, scan s = .frame m r → ∀ t, scan (s ++ t) = .frame m (r ++ t)
  fails_append : ∀ {s : List α} {e : ε}, scan s = .fails e → ∀ t, scan (s ++ t) = .fails e

/-- How a read ends, with the buffer and the chunks it leaves. -/
inductive Read (α ε : Type)
  | message (message : List α) (buf : List α) (unread : List (List α))
  | fails (error : ε) (buf : List α) (unread : List (List α))

namespace Framer

variable {α ε : Type} (F : Framer α ε)

/-- One read. The end of the chunks, and an empty chunk, are the end of the stream: it flushes the
buffer. -/
def read : List α → List (List α) → Read α ε
  | buf, [] =>
    match F.scan buf with
    | .frame m r => .message m r []
    | .fails e => .fails e buf []
    | .more => .message buf [] []
  | buf, c :: cs =>
    match F.scan buf with
    | .frame m r => .message m r (c :: cs)
    | .fails e => .fails e buf (c :: cs)
    | .more =>
      match c with
      | [] => .message buf [] cs
      | b :: bs => read (buf ++ b :: bs) cs

/-- The loop of a read that starts with `buf` and `cs` comes to its head with `buf'` and
`cs'`. -/
inductive Passes : List α → List (List α) → List α → List (List α) → Prop
  | here {buf : List α} {cs : List (List α)} : Passes buf cs buf cs
  | receive {buf c buf' : List α} {cs cs' : List (List α)} (more : F.scan buf = .more)
    (nonempty : c ≠ []) (later : Passes (buf ++ c) cs buf' cs') : Passes buf (c :: cs) buf' cs'

/-- `k` reads in a row: the messages, and what is left. -/
def readN : Nat → List α → List (List α) → Option (List (List α) × List α × List (List α))
  | 0, buf, cs => some ([], buf, cs)
  | k + 1, buf, cs =>
    match F.read buf cs with
    | .message m buf' cs' =>
      (readN k buf' cs').map fun result => (m :: result.1, result.2.1, result.2.2)
    | .fails _ _ _ => none

/-- The stream after its first `k` frames. -/
def after : Nat → List α → Option (List α)
  | 0, s => some s
  | k + 1, s =>
    match F.scan s with
    | .frame _ r => after k r
    | _ => none

/-- The `k`th frame of a stream, counted from zero. -/
def nthFrame (k : Nat) (s : List α) : Option (List α) :=
  match F.after k s with
  | some r =>
    match F.scan r with
    | .frame m _ => some m
    | _ => none
  | none => none

/-- No frame of the stream fails. -/
def Clean (s : List α) : Prop := ∀ k r e, F.after k s = some r → F.scan r ≠ .fails e

variable {F}

/-- Where a stream begins with a frame, its front needs more or begins with that frame. -/
theorem scan_front_of_frame {s t m r : List α} (whole : F.scan (s ++ t) = .frame m r) :
    F.scan s = .more ∨ ∃ r', F.scan s = .frame m r' ∧ r' ++ t = r := by
  cases hscan : F.scan s with
  | more => exact .inl rfl
  | frame m' r' =>
    rw [F.frame_append hscan t] at whole
    cases whole
    exact .inr ⟨r', rfl, rfl⟩
  | fails e =>
    rw [F.fails_append hscan t] at whole
    cases whole

private theorem scan_front_of_fails {s t : List α} {e : ε} (whole : F.scan (s ++ t) = .fails e) :
    F.scan s = .more ∨ F.scan s = .fails e := by
  cases hscan : F.scan s with
  | more => exact .inl rfl
  | frame m r =>
    rw [F.frame_append hscan t] at whole
    cases whole
  | fails e' =>
    rw [F.fails_append hscan t] at whole
    cases whole
    exact .inr rfl

/-- Where a stream needs more, so does its front. -/
theorem scan_front_of_more {s t : List α} (whole : F.scan (s ++ t) = .more) :
    F.scan s = .more := by
  cases hscan : F.scan s with
  | more => rfl
  | frame m r =>
    rw [F.frame_append hscan t] at whole
    cases whole
  | fails e =>
    rw [F.fails_append hscan t] at whole
    cases whole

private theorem read_cons_of_more {buf c : List α} {cs : List (List α)} (h : F.scan buf = .more)
    (hc : c ≠ []) : F.read buf (c :: cs) = F.read (buf ++ c) cs := by
  cases c with
  | nil => exact absurd rfl hc
  | cons b bs =>
    conv =>
      lhs
      unfold read
    rw [h]

/-- Nothing is lost at a loop head, and the read goes on from there. -/
theorem Passes.kept {buf buf' : List α} {cs cs' : List (List α)}
    (h : F.Passes buf cs buf' cs') :
    buf' ++ cs'.flatten = buf ++ cs.flatten ∧ F.read buf cs = F.read buf' cs' := by
  induction h with
  | here => exact ⟨rfl, rfl⟩
  | receive more nonempty _ ih =>
    obtain ⟨kept, same⟩ := ih
    refine ⟨?_, (read_cons_of_more more nonempty).trans same⟩
    rw [kept, List.append_assoc, List.flatten_cons]

/-- A read returns the first frame of the stream, however it is cut. -/
theorem read_of_frame {cs : List (List α)} (nonempty : ∀ c ∈ cs, c ≠ []) :
    ∀ {buf m r : List α}, F.scan (buf ++ cs.flatten) = .frame m r →
      ∃ buf' cs', F.read buf cs = .message m buf' cs' ∧ buf' ++ cs'.flatten = r ∧
        ∀ c ∈ cs', c ≠ [] := by
  induction cs with
  | nil =>
    intro buf m r h
    rw [List.flatten_nil, List.append_nil] at h
    refine ⟨r, [], ?_, List.append_nil r, nonempty⟩
    unfold read
    rw [h]
  | cons c cs ih =>
    intro buf m r h
    rcases scan_front_of_frame h with more | ⟨r', found, left⟩
    · rw [read_cons_of_more more (nonempty c List.mem_cons_self)]
      refine ih (fun d hd => nonempty d (List.mem_cons_of_mem c hd)) ?_
      rwa [List.append_assoc, ← List.flatten_cons]
    · refine ⟨r', c :: cs, ?_, left, nonempty⟩
      unfold read
      rw [found]

/-- A read fails where the stream does, however it is cut, and drops nothing. -/
theorem read_of_fails {cs : List (List α)} (nonempty : ∀ c ∈ cs, c ≠ []) :
    ∀ {buf : List α} {e : ε}, F.scan (buf ++ cs.flatten) = .fails e →
      ∃ buf' cs', F.read buf cs = .fails e buf' cs' ∧
        buf' ++ cs'.flatten = buf ++ cs.flatten ∧ ∀ c ∈ cs', c ≠ [] := by
  induction cs with
  | nil =>
    intro buf e h
    rw [List.flatten_nil, List.append_nil] at h
    refine ⟨buf, [], ?_, rfl, nonempty⟩
    unfold read
    rw [h]
  | cons c cs ih =>
    intro buf e h
    rcases scan_front_of_fails h with more | fails
    · rw [read_cons_of_more more (nonempty c List.mem_cons_self)]
      have whole : F.scan ((buf ++ c) ++ cs.flatten) = .fails e := by
        rwa [List.append_assoc, ← List.flatten_cons]
      obtain ⟨buf', cs', hread, kept, nonempty'⟩ :=
        ih (fun d hd => nonempty d (List.mem_cons_of_mem c hd)) whole
      refine ⟨buf', cs', hread, ?_, nonempty'⟩
      rw [kept, List.append_assoc, ← List.flatten_cons]
    · refine ⟨buf, c :: cs, ?_, rfl, nonempty⟩
      unfold read
      rw [fails]

/-- With no frame left, a read runs to the end of the stream and returns what there is. -/
theorem read_of_more {cs : List (List α)} (nonempty : ∀ c ∈ cs, c ≠ []) :
    ∀ {buf : List α}, F.scan (buf ++ cs.flatten) = .more →
      F.read buf cs = .message (buf ++ cs.flatten) [] [] := by
  induction cs with
  | nil =>
    intro buf h
    rw [List.flatten_nil, List.append_nil] at h ⊢
    unfold read
    rw [h]
  | cons c cs ih =>
    intro buf h
    rw [read_cons_of_more (scan_front_of_more h) (nonempty c List.mem_cons_self),
      List.flatten_cons, ← List.append_assoc]
    refine ih (fun d hd => nonempty d (List.mem_cons_of_mem c hd)) ?_
    rwa [List.append_assoc, ← List.flatten_cons]

/-- A read of a stream that does not fail returns a message and drops nothing. It is the first
frame, or the end of the stream. -/
private theorem read_lossless {cs : List (List α)} (nonempty : ∀ c ∈ cs, c ≠ []) {buf : List α}
    (clean : ∀ e, F.scan (buf ++ cs.flatten) ≠ .fails e) :
    ∃ m buf' cs', F.read buf cs = .message m buf' cs' ∧
      m ++ (buf' ++ cs'.flatten) = buf ++ cs.flatten ∧ (∀ c ∈ cs', c ≠ []) ∧
      (F.scan (buf ++ cs.flatten) = .frame m (buf' ++ cs'.flatten) ∨
        F.scan (buf ++ cs.flatten) = .more ∧ buf' = [] ∧ cs' = []) := by
  cases hscan : F.scan (buf ++ cs.flatten) with
  | frame m r =>
    obtain ⟨buf', cs', hread, rest, nonempty'⟩ := read_of_frame nonempty hscan
    refine ⟨m, buf', cs', hread, ?_, nonempty', .inl (by rw [rest])⟩
    rw [rest]
    exact (F.frame_eq hscan).1.symm
  | fails e => exact absurd hscan (clean e)
  | more =>
    refine ⟨_, [], [], read_of_more nonempty hscan, List.append_nil _, ?_, .inr ⟨rfl, rfl, rfl⟩⟩
    intro c hc
    cases hc

/-- The rest of a clean stream is clean. -/
theorem Clean.of_frame {s m r : List α} (h : F.Clean s) (hscan : F.scan s = .frame m r) :
    F.Clean r := by
  intro k r' e hafter
  refine h (k + 1) r' e ?_
  unfold after
  rw [hscan]
  exact hafter

private theorem scan_nil_of_more {s : List α} (h : F.scan s = .more) : F.scan [] = .more :=
  scan_front_of_more h

private theorem readN_nil (empty : F.scan [] = .more) (n : Nat) :
    F.readN n [] [] = some (List.replicate n [], [], []) := by
  induction n with
  | zero => rfl
  | succ n ih =>
    unfold readN read
    rw [empty]
    show (F.readN n [] []).map _ = _
    rw [ih]
    rfl

private theorem readN_succ {n : Nat} {buf m buf₁ buf' : List α} {cs cs₁ cs' ms : List (List α)}
    (first : F.read buf cs = .message m buf₁ cs₁)
    (others : F.readN n buf₁ cs₁ = some (ms, buf', cs')) :
    F.readN (n + 1) buf cs = some (m :: ms, buf', cs') := by
  unfold readN
  rw [first]
  show (F.readN n buf₁ cs₁).map _ = _
  rw [others]
  rfl

/-- Any number of reads of a clean stream: the messages are the frames of the stream in order, as
far as there are any, nothing is lost, and a read that finds no frame has reached the end. -/
theorem readN_of_clean (n : Nat) : ∀ {buf : List α} {cs : List (List α)},
    (∀ c ∈ cs, c ≠ []) → F.Clean (buf ++ cs.flatten) →
    ∃ ms buf' cs', F.readN n buf cs = some (ms, buf', cs') ∧ ms.length = n ∧
      ms.flatten ++ (buf' ++ cs'.flatten) = buf ++ cs.flatten ∧
      ∀ k < n, F.nthFrame k (buf ++ cs.flatten) = ms[k]? ∨
        F.nthFrame k (buf ++ cs.flatten) = none ∧ buf' = [] ∧ cs' = [] := by
  induction n with
  | zero =>
    intro buf cs _ _
    exact ⟨[], buf, cs, rfl, rfl, rfl, fun k hk => absurd hk (Nat.not_lt_zero k)⟩
  | succ n ih =>
    intro buf cs nonempty clean
    obtain ⟨m, buf₁, cs₁, hread, kept, nonempty₁, outcome⟩ :=
      read_lossless nonempty (fun e => clean 0 _ e rfl)
    rcases outcome with frame | ⟨more, rfl, rfl⟩
    · obtain ⟨ms, buf', cs', hreads, length, kept', frames⟩ :=
        ih nonempty₁ (clean.of_frame frame)
      refine ⟨m :: ms, buf', cs', readN_succ hread hreads, by rw [List.length_cons, length], ?_,
        ?_⟩
      · rw [List.flatten_cons, List.append_assoc, kept', kept]
      · intro k hk
        cases k with
        | zero =>
          left
          simp only [nthFrame, after, frame, List.getElem?_cons_zero]
        | succ k =>
          have next : F.nthFrame (k + 1) (buf ++ cs.flatten) =
              F.nthFrame k (buf₁ ++ cs₁.flatten) := by
            simp only [nthFrame, after, frame]
          rw [next, List.getElem?_cons_succ]
          exact frames k (Nat.lt_of_succ_lt_succ hk)
    · -- the end of the stream: every later read returns the empty message
      refine ⟨m :: List.replicate n [], [], [],
        readN_succ hread (readN_nil (scan_nil_of_more more) n), ?_, ?_, fun k _ => ?_⟩
      · rw [List.length_cons, List.length_replicate]
      · rw [← kept]
        simp
      · right
        refine ⟨?_, rfl, rfl⟩
        cases k with
        | zero => simp only [nthFrame, after, more]
        | succ k => simp only [nthFrame, after, more]

end Framer

end Castd.Lib
