import Castd.Lib.System

/-!
# The callers of the render process

`RenderProcess.start` and `RenderProcess.stop` of `castd/render/gstreamer.py`, called by any number
of threads. One step is one read or write of `_proc`, one `poll`, `Popen`, `terminate`, `kill` or
`wait` of one thread, or a child that exits. Children are numbered as they are started.

A signal ends no child in the step that sends it: a child exits in a step of its own, as it may
without one. An exception ends the thread; what its handlers still call is the call of another one.
-/

namespace Castd.Render

open Lib

/-! ## The two calls, step by step -/

/-- A call of the render process. -/
inductive Call
  | start
  | stop
  deriving DecidableEq

/-- Where a thread stands in its calls. A step that has read `_proc` for a method holds the child
it found. -/
inductive CallPc
  /-- Between two calls. -/
  | idle
  /-- `self._proc is not None`, of `is_running`. -/
  | readRunning
  /-- The read of `self._proc.poll()`. -/
  | readPoll
  | poll (child : Nat)
  | popen
  /-- `self._proc = ` the child. -/
  | store (child : Nat)
  | clearFrameStarted
  /-- The read of `args=(self._proc, ...)`. -/
  | readReader
  /-- `if self._proc is None`. -/
  | readStopped
  /-- The read of `self._proc.terminate()`. -/
  | readTerminate
  | terminate (child : Nat)
  /-- The read of `self._proc.wait(timeout=timeout)`. -/
  | readWait
  | wait (child : Nat)
  /-- The read of `self._proc.kill()`. -/
  | readKill
  | kill (child : Nat)
  /-- The read of the `self._proc.wait(timeout=timeout)` after it. -/
  | readWaitKilled
  | waitKilled (child : Nat)
  /-- `self._proc = None`. -/
  | clear
  | clearFrameStopped
  /-- The thread has ended. -/
  | done
  deriving DecidableEq

namespace CallPc

/-- Inside `start`. -/
def inStart : CallPc → Bool
  | .readRunning | .readPoll | .poll _ | .popen | .store _ | .clearFrameStarted | .readReader =>
    true
  | _ => false

/-- Inside `stop`. -/
def inStop : CallPc → Bool
  | .readStopped | .readTerminate | .terminate _ | .readWait | .wait _ | .readKill | .kill _
  | .readWaitKilled | .waitKilled _ | .clear | .clearFrameStopped => true
  | _ => false

/-- Inside a call. -/
def inCall (pc : CallPc) : Bool := pc.inStart || pc.inStop

end CallPc

/-- What the threads share: `_proc`, `_first_frame` and the children. -/
structure Rendering where
  proc : Option Nat := none
  firstFrame : Bool := false
  /-- How many children have been started. -/
  started : Nat := 0
  alive : Nat → Bool := fun _ => false

namespace Rendering

/-- A method of `self._proc`: an `AttributeError` where that is `None`. -/
def readProc (r : Rendering) (method : Nat → CallPc) : CallPc :=
  match r.proc with
  | some child => method child
  | none => .done

/-- The next step of a thread in a call. -/
def next (r : Rendering) : CallPc → Option (CallPc × Rendering)
  | .readRunning => some (if r.proc.isSome then .readPoll else .popen, r)
  | .readPoll => some (r.readProc .poll, r)
  -- `RuntimeError` where the child runs
  | .poll child => some (if r.alive child then .done else .popen, r)
  | .popen => some (.store r.started, { r with
      started := r.started + 1
      alive := Function.update r.alive r.started true })
  | .store child => some (.clearFrameStarted, { r with proc := some child })
  | .clearFrameStarted => some (.readReader, { r with firstFrame := false })
  | .readReader => some (.idle, r)
  | .readStopped => some (if r.proc.isSome then .readTerminate else .idle, r)
  | .readTerminate => some (r.readProc .terminate, r)
  | .terminate _ => some (.readWait, r)
  | .readWait => some (r.readProc .wait, r)
  -- `TimeoutExpired` where the child still runs
  | .wait child => some (if r.alive child then .readKill else .clear, r)
  | .readKill => some (r.readProc .kill, r)
  | .kill _ => some (.readWaitKilled, r)
  | .readWaitKilled => some (r.readProc .waitKilled, r)
  | .waitKilled child => some (if r.alive child then .done else .clear, r)
  | .clear => some (.clearFrameStopped, { r with proc := none })
  | .clearFrameStopped => some (.idle, { r with firstFrame := false })
  | .idle => none
  | .done => none

end Rendering

/-- The render process with the threads that call it, and the calls each has still to make. -/
structure Callers (ι : Type) where
  render : Rendering := {}
  pc : ι → CallPc := fun _ => .idle
  left : ι → List Call

/-- A step. -/
inductive CallLabel (ι : Type)
  | begins (i : ι)
  | runs (i : ι)
  /-- `Popen` raises. -/
  | popenRaises (i : ι)
  /-- The thread ends between two calls. -/
  | returns (i : ι)
  | exits (child : Nat)
  /-- A reader thread comes to the first frame. -/
  | frameSeen

/-- Where a call begins. -/
def Call.entry : Call → CallPc
  | .start => .readRunning
  | .stop => .readStopped

section

variable {ι : Type} [DecidableEq ι]

/-- A thread moves. -/
def Callers.move (s : Callers ι) (i : ι) (pc : CallPc) (render : Rendering) : Callers ι :=
  { s with render := render, pc := Function.update s.pc i pc }

/-- One step of the threads. -/
def Callers.step (s : Callers ι) : CallLabel ι → Option (Callers ι)
  | .begins i =>
    match s.pc i, s.left i with
    | .idle, call :: calls =>
      some { s.move i call.entry s.render with left := Function.update s.left i calls }
    | _, _ => none
  | .runs i => (s.render.next (s.pc i)).map fun (pc, render) => s.move i pc render
  | .popenRaises i => if s.pc i = .popen then some (s.move i .done s.render) else none
  | .returns i => if s.pc i = .idle then some (s.move i .done s.render) else none
  | .exits child =>
    if s.render.alive child then
      some { s with render := { s.render with
        alive := Function.update s.render.alive child false } }
    else none
  | .frameSeen => some { s with render := { s.render with firstFrame := true } }

/-- The threads with these calls to make. -/
def callers (calls : ι → List Call) : System (Callers ι) (CallLabel ι) where
  init := { left := calls }
  step := Callers.step

end

/-! ## What one step does -/

/-- What a step that changes neither `_proc` nor the children has found where it goes. -/
def Enters (r : Rendering) (pc : CallPc) : CallPc → Prop
  | .popen => r.proc = none ∨ ∃ child, pc = .poll child ∧ r.alive child = false
  | .store _ => False
  | .poll child | .wait child | .waitKilled child => r.proc = some child
  | .clear => ∃ child, (pc = .wait child ∨ pc = .waitKilled child) ∧ r.alive child = false
  | _ => True

/-- A step of a thread in a call starts a child, stores it, clears `_proc`, or leaves `_proc` and
the children as they are. -/
inductive Moves (r : Rendering) : CallPc → CallPc → Rendering → Prop
  | popen : Moves r .popen (.store r.started) { r with
      started := r.started + 1
      alive := Function.update r.alive r.started true }
  | store {child : Nat} : Moves r (.store child) .clearFrameStarted { r with proc := some child }
  | clear : Moves r .clear .clearFrameStopped { r with proc := none }
  | quiet {pc pc' : CallPc} (firstFrame : Bool) (other : ∀ child, pc ≠ .store child)
      (inStart : pc'.inStart = true → pc.inStart = true)
      (inStop : pc'.inStop = true → pc.inStop = true) (enters : Enters r pc pc') :
      Moves r pc pc' { r with firstFrame := firstFrame }

private theorem Rendering.next_moves {r r' : Rendering} {pc pc' : CallPc}
    (h : r.next pc = some (pc', r')) : Moves r pc pc' r' := by
  have quiet : ∀ {pc pc'}, (∀ child, pc ≠ .store child) → (pc'.inStart = true →
      pc.inStart = true) → (pc'.inStop = true → pc.inStop = true) → Enters r pc pc' →
      Moves r pc pc' r :=
    fun other inStart inStop enters => .quiet r.firstFrame other inStart inStop enters
  have read : ∀ {pc} {method : Nat → CallPc}, (∀ child, pc ≠ .store child) →
      (∀ child, (method child).inStart = true → pc.inStart = true) →
      (∀ child, (method child).inStop = true → pc.inStop = true) →
      (∀ child, r.proc = some child → Enters r pc (method child)) →
      Moves r pc (r.readProc method) r := by
    intro pc method other inStart inStop enters
    unfold readProc
    split
    · rename_i child found
      exact quiet other (inStart child) (inStop child) (enters child found)
    · exact quiet other nofun nofun trivial
  cases pc with
  | idle => cases h
  | done => cases h
  | popen => cases h; exact .popen
  | store child => cases h; exact .store
  | clear => cases h; exact .clear
  | clearFrameStarted => cases h; exact .quiet false nofun (fun h => h) nofun trivial
  | clearFrameStopped => cases h; exact .quiet false nofun nofun nofun trivial
  | readReader => cases h; exact quiet nofun nofun nofun trivial
  | terminate child => cases h; exact quiet nofun nofun (fun h => h) trivial
  | kill child => cases h; exact quiet nofun nofun (fun h => h) trivial
  | readPoll => cases h; exact read nofun (fun _ h => h) nofun fun _ found => found
  | readTerminate => cases h; exact read nofun nofun (fun _ h => h) fun _ _ => trivial
  | readWait => cases h; exact read nofun nofun (fun _ h => h) fun _ found => found
  | readKill => cases h; exact read nofun nofun (fun _ h => h) fun _ _ => trivial
  | readWaitKilled => cases h; exact read nofun nofun (fun _ h => h) fun _ found => found
  | readRunning =>
    cases h
    split
    · exact quiet nofun (fun h => h) nofun trivial
    · rename_i empty
      exact quiet nofun (fun h => h) nofun (.inl (Option.not_isSome_iff_eq_none.mp empty))
  | readStopped =>
    cases h
    split
    · exact quiet nofun nofun (fun h => h) trivial
    · exact quiet nofun nofun nofun trivial
  | poll child =>
    cases h
    split
    · exact quiet nofun nofun nofun trivial
    · rename_i exited
      exact quiet nofun (fun h => h) nofun (.inr ⟨child, rfl, Bool.of_not_eq_true exited⟩)
  | wait child =>
    cases h
    split
    · exact quiet nofun nofun (fun h => h) trivial
    · rename_i exited
      exact quiet nofun nofun (fun h => h) ⟨child, .inl rfl, Bool.of_not_eq_true exited⟩
  | waitKilled child =>
    cases h
    split
    · exact quiet nofun nofun nofun trivial
    · rename_i exited
      exact quiet nofun nofun (fun h => h) ⟨child, .inr rfl, Bool.of_not_eq_true exited⟩

/-! ## Calls that keep apart -/

section

variable {ι : Type}

/-- No call begins while a start is under way, and no start while a stop is. Stops may overlap.

`start` looks at `_proc` before it calls `Popen`, and `stop` clears it after it has waited for the
child; neither holds a lock in between. -/
def Apart (s : Callers ι) : CallLabel ι → Prop
  | .begins i => (∀ j, (s.pc j).inStart = false) ∧
      ((s.left i).head? = some .start → ∀ j, (s.pc j).inStop = false)
  | _ => True

/-- What a place in a call says of `_proc` and the children, where calls keep apart. -/
def Fits (r : Rendering) : CallPc → Prop
  | .popen => ∀ child, r.alive child = false
  | .store child => child < r.started ∧ r.proc ≠ some child ∧
      ∀ other, r.alive other = true → other = child
  | .poll child | .wait child | .waitKilled child => ∀ other, r.proc = some other → other = child
  | .clear => ∀ child, r.proc = some child → r.alive child = false
  | _ => True

/-- Where calls keep apart. -/
structure Coherent (s : Callers ι) : Prop where
  numbered : ∀ child, s.render.alive child = true → child < s.render.started
  procNumbered : ∀ child, s.render.proc = some child → child < s.render.started
  alone : ∀ i j, (s.pc i).inStart = true → (s.pc j).inCall = true → j = i
  /-- A child that is alive is the one of `_proc`, or about to be. -/
  referenced : ∀ child, s.render.alive child = true →
    s.render.proc = some child ∨ ∃ i, s.pc i = .store child
  fits : ∀ i, Fits s.render (s.pc i)

private theorem fits_of_not_inCall {r : Rendering} {pc : CallPc} (h : pc.inCall = false) :
    Fits r pc := by
  cases pc <;> trivial

/-- Children that exit and a `_proc` that is cleared leave the places as they fit. -/
theorem Fits.mono {r r' : Rendering} {pc : CallPc} (h : Fits r pc)
    (proc : r'.proc = r.proc ∨ r'.proc = none) (started : r'.started = r.started)
    (alive : ∀ child, r'.alive child = true → r.alive child = true) : Fits r' pc := by
  have kept : ∀ child, r'.proc = some child → r.proc = some child := by
    intro child found
    rcases proc with same | none
    · rwa [same] at found
    · rw [none] at found
      cases found
  have dead : ∀ child, r.alive child = false → r'.alive child = false := by
    intro child exited
    by_contra live
    rw [alive child (Bool.of_not_eq_false live)] at exited
    cases exited
  cases pc with
  | popen => exact fun child => dead child (h child)
  | store child =>
    obtain ⟨known, unstored, only⟩ := h
    exact ⟨started ▸ known, fun found => unstored (kept child found),
      fun other live => only other (alive other live)⟩
  | poll child => exact fun other found => h other (kept other found)
  | wait child => exact fun other found => h other (kept other found)
  | waitKilled child => exact fun other found => h other (kept other found)
  | clear => exact fun child found => dead child (h child (kept child found))
  | _ => trivial

namespace Coherent

variable {s : Callers ι}

private theorem atMostOne (h : Coherent s) {child other : Nat} (live : s.render.alive child = true)
    (live' : s.render.alive other = true) : child = other := by
  rcases h.referenced child live with found | stored
  · rcases h.referenced other live' with found' | stored'
    · exact Option.some.inj (found.symm.trans found')
    · obtain ⟨i, hi⟩ := stored'
      have fits := h.fits i
      rw [hi] at fits
      exact fits.2.2 child live
  · obtain ⟨i, hi⟩ := stored
    have fits := h.fits i
    rw [hi] at fits
    exact (fits.2.2 other live').symm

private theorem referenced_elsewhere (h : Coherent s) {i : ι}
    (other : ∀ child, s.pc i ≠ .store child)
    {child : Nat} (live : s.render.alive child = true) :
    s.render.proc = some child ∨ ∃ j, j ≠ i ∧ s.pc j = .store child := by
  rcases h.referenced child live with found | stored
  · exact .inl found
  · obtain ⟨j, hj⟩ := stored
    have elsewhere : j ≠ i := by
      rintro rfl
      exact other child hj
    exact .inr ⟨j, elsewhere, hj⟩

private theorem referenced_of_inStart (h : Coherent s) {i : ι} (inStart : (s.pc i).inStart = true)
    (other : ∀ child, s.pc i ≠ .store child) {child : Nat}
    (live : s.render.alive child = true) : s.render.proc = some child := by
  rcases h.referenced_elsewhere other live with found | stored
  · exact found
  · obtain ⟨j, elsewhere, hj⟩ := stored
    have inCall : (s.pc j).inCall = true := by
      rw [hj]
      rfl
    exact absurd (h.alone i j inStart inCall) elsewhere

private theorem fits_of_enters (h : Coherent s) {i : ι} {pc : CallPc}
    (inStart : pc.inStart = true → (s.pc i).inStart = true)
    (other : ∀ child, s.pc i ≠ .store child) (enters : Enters s.render (s.pc i) pc) :
    Fits s.render pc := by
  have fits := h.fits i
  cases pc with
  | popen =>
    intro child
    by_contra live
    have found := h.referenced_of_inStart (inStart rfl) other (Bool.of_not_eq_false live)
    rcases enters with none | polled
    · rw [none] at found
      cases found
    · obtain ⟨held, hheld, exited⟩ := polled
      rw [hheld] at fits
      rw [fits child found, exited] at live
      exact live rfl
  | store child => exact absurd enters id
  | poll child => exact fun other found => Option.some.inj (found.symm.trans enters)
  | wait child => exact fun other found => Option.some.inj (found.symm.trans enters)
  | waitKilled child => exact fun other found => Option.some.inj (found.symm.trans enters)
  | clear =>
    obtain ⟨held, hheld, exited⟩ := enters
    intro child found
    have same : child = held := by
      rcases hheld with waited | waited <;> rw [waited] at fits <;> exact fits child found
    rw [same]
    exact exited
  | _ => trivial

private theorem not_inCall (h : Coherent s) {i j : ι} (inStart : (s.pc i).inStart = true)
    (other : j ≠ i) : (s.pc j).inCall = false :=
  Bool.of_not_eq_true fun inCall => other (h.alone i j inStart inCall)

/-- A child that exits. -/
theorem exits (h : Coherent s) (child : Nat) :
    Coherent { s with render := { s.render with
      alive := Function.update s.render.alive child false } } := by
  have before : ∀ other, Function.update s.render.alive child false other = true →
      s.render.alive other = true :=
    fun other live => eq_of_update live Bool.false_ne_true
  exact ⟨fun other live => h.numbered other (before other live), h.procNumbered, h.alone,
    fun other live => h.referenced other (before other live),
    fun i => (h.fits i).mono (.inl rfl) rfl before⟩

variable [DecidableEq ι] {s' : Callers ι}

private theorem move (h : Coherent s) {i : ι} {pc : CallPc} {r : Rendering}
    (inStart : pc.inStart = true → (s.pc i).inStart = true)
    (inStop : pc.inStop = true → (s.pc i).inStop = true)
    (numbered : ∀ child, r.alive child = true → child < r.started)
    (procNumbered : ∀ child, r.proc = some child → child < r.started)
    (referenced : ∀ child, r.alive child = true → r.proc = some child ∨ pc = .store child ∨
      ∃ j, j ≠ i ∧ s.pc j = .store child)
    (own : Fits r pc) (others : ∀ j, j ≠ i → Fits r (s.pc j)) : Coherent (s.move i pc r) where
  numbered := numbered
  procNumbered := procNumbered
  alone := by
    have inCall : pc.inCall = true → (s.pc i).inCall = true := by
      unfold CallPc.inCall
      rw [Bool.or_eq_true, Bool.or_eq_true]
      exact Or.imp inStart inStop
    have before : ∀ j, ((s.move i pc r).pc j).inStart = true → (s.pc j).inStart = true := by
      intro j hj
      by_cases same : j = i
      · subst same
        exact inStart (by simpa [Callers.move] using hj)
      · simpa [Callers.move, same] using hj
    have before' : ∀ j, ((s.move i pc r).pc j).inCall = true → (s.pc j).inCall = true := by
      intro j hj
      by_cases same : j = i
      · subst same
        exact inCall (by simpa [Callers.move] using hj)
      · simpa [Callers.move, same] using hj
    exact fun j k hj hk => h.alone j k (before j hj) (before' k hk)
  referenced := by
    intro child live
    rcases referenced child live with found | stored | elsewhere
    · exact .inl found
    · exact .inr ⟨i, by simp [Callers.move, stored]⟩
    · obtain ⟨j, other, hj⟩ := elsewhere
      exact .inr ⟨j, by simp [Callers.move, other, hj]⟩
  fits := by
    intro j
    by_cases same : j = i
    · subst same
      simpa [Callers.move] using own
    · simpa [Callers.move, same] using others j same

/-- A step of a thread in a call. -/
theorem runs (h : Coherent s) {i : ι} {pc : CallPc} {r : Rendering}
    (moves : Moves s.render (s.pc i) pc r) : Coherent (s.move i pc r) := by
  generalize before : s.pc i = pc₀ at moves
  have fits := h.fits i
  rw [before] at fits
  cases moves with
  | popen =>
    have inStart : (s.pc i).inStart = true := by
      rw [before]
      rfl
    -- nothing was alive, and the child has a number of its own
    have only : ∀ child, Function.update s.render.alive s.render.started true child = true →
        child = s.render.started := by
      intro child live
      by_contra other
      rw [Function.update_of_ne other, fits child] at live
      cases live
    refine h.move (fun _ => inStart) nofun ?_ ?_ ?_ ?_ ?_
    · intro child live
      rw [only child live]
      exact Nat.lt_succ_self _
    · exact fun child found => Nat.lt_succ_of_lt (h.procNumbered child found)
    · exact fun child live => .inr (.inl (by rw [only child live]))
    · exact ⟨Nat.lt_succ_self _, fun found => Nat.lt_irrefl _ (h.procNumbered _ found), only⟩
    · exact fun j other => fits_of_not_inCall (h.not_inCall inStart other)
  | @store child =>
    have inStart : (s.pc i).inStart = true := by
      rw [before]
      rfl
    refine h.move (fun _ => inStart) nofun h.numbered ?_ ?_ trivial ?_
    · intro other found
      cases found
      exact fits.1
    · exact fun other live => .inl (by rw [fits.2.2 other live])
    · exact fun j other => fits_of_not_inCall (h.not_inCall inStart other)
  | clear =>
    have inCall : (s.pc i).inCall = true := by
      rw [before]
      rfl
    refine h.move nofun (fun _ => by rw [before]; rfl) h.numbered nofun ?_ trivial ?_
    · intro child live
      rcases h.referenced_elsewhere (i := i) (by rw [before]; exact nofun) live with found | stored
      · rw [fits child found] at live
        cases live
      · exact .inr (.inr stored)
    · exact fun j _ => (h.fits j).mono (.inr rfl) rfl fun _ live => live
  | quiet firstFrame other inStart inStop enters =>
    subst before
    refine h.move inStart inStop h.numbered h.procNumbered ?_ ?_ ?_
    · exact fun child live => (h.referenced_elsewhere other live).imp_right .inr
    · exact (h.fits_of_enters inStart other enters).mono (.inl rfl) rfl fun _ live => live
    · exact fun j _ => (h.fits j).mono (.inl rfl) rfl fun _ live => live

private theorem leaves (h : Coherent s) {i : ι} {pc : CallPc} (out : pc.inCall = false)
    (other : ∀ child, s.pc i ≠ .store child) : Coherent (s.move i pc s.render) := by
  have notIn : pc.inStart = false ∧ pc.inStop = false := Bool.or_eq_false_iff.mp out
  refine h.move (fun inStart => ?_) (fun inStop => ?_) h.numbered h.procNumbered ?_
    (fits_of_not_inCall out) fun j _ => h.fits j
  · rw [notIn.1] at inStart
    cases inStart
  · rw [notIn.2] at inStop
    cases inStop
  · exact fun child live => (h.referenced_elsewhere other live).imp_right .inr

/-- A call that begins apart from the others. -/
theorem begins (h : Coherent s) {i : ι} {call : Call} {left : ι → List Call}
    (idle : s.pc i = .idle) (noStart : ∀ j, (s.pc j).inStart = false)
    (apart : call = .start → ∀ j, (s.pc j).inStop = false) :
    Coherent { s.move i call.entry s.render with left := left } where
  numbered := h.numbered
  procNumbered := h.procNumbered
  alone := by
    intro j k hj hk
    -- only the thread that begins can be in `start`
    have started : j = i ∧ call = .start := by
      by_cases same : j = i
      · subst same
        cases call with
        | start => exact ⟨rfl, rfl⟩
        | stop => simp [Callers.move, Call.entry, CallPc.inStart] at hj
      · simp [Callers.move, same, noStart j] at hj
    obtain ⟨rfl, starts⟩ := started
    by_contra other
    simp [Callers.move, other, CallPc.inCall, noStart k, apart starts k] at hk
  referenced := by
    intro child live
    rcases h.referenced_elsewhere (i := i) (by rw [idle]; exact nofun) live with found | stored
    · exact .inl found
    · obtain ⟨j, elsewhere, hj⟩ := stored
      exact .inr ⟨j, by simp [Callers.move, elsewhere, hj]⟩
  fits := by
    intro j
    by_cases same : j = i
    · subst same
      cases call <;> simp [Callers.move, Call.entry, Fits]
    · simpa [Callers.move, same] using h.fits j

/-- What a step does where calls keep apart. -/
theorem step (h : Coherent s) {l : CallLabel ι} (apart : Apart s l)
    (hstep : s.step l = some s') : Coherent s' := by
  cases l with
  | begins i =>
    simp only [Callers.step] at hstep
    split at hstep
    · rename_i call calls idle left
      cases hstep
      refine h.begins idle apart.1 fun starts => apart.2 ?_
      rw [left, starts]
      rfl
    · cases hstep
  | runs i =>
    obtain ⟨⟨pc, r⟩, moved, rfl⟩ := Option.map_eq_some_iff.mp hstep
    exact h.runs (Rendering.next_moves moved)
  | popenRaises i =>
    simp only [Callers.step] at hstep
    split at hstep <;> cases hstep
    rename_i standing
    exact h.leaves rfl fun child => by rw [standing]; exact nofun
  | returns i =>
    simp only [Callers.step] at hstep
    split at hstep <;> cases hstep
    rename_i standing
    exact h.leaves rfl fun child => by rw [standing]; exact nofun
  | exits child =>
    simp only [Callers.step] at hstep
    split at hstep <;> cases hstep
    exact h.exits child
  | frameSeen =>
    cases hstep
    exact ⟨h.numbered, h.procNumbered, h.alone, h.referenced,
      fun i => (h.fits i).mono (.inl rfl) rfl fun _ live => live⟩

end Coherent

/-- Where calls keep apart, each live child is the one of `_proc` exactly if no thread stands
between the `Popen` of a live child and the write that stores it. -/
private theorem Coherent.proc_iff {s : Callers ι} (h : Coherent s) :
    (∀ child, s.render.alive child = true → s.render.proc = some child) ↔
      ∀ i child, s.pc i = .store child → s.render.alive child = false := by
  constructor
  · intro stored i child stands
    have fits := h.fits i
    rw [stands] at fits
    by_contra live
    exact fits.2.1 (stored child (Bool.of_not_eq_false live))
  · intro between child live
    rcases h.referenced child live with found | ⟨i, stands⟩
    · exact found
    · rw [between i child stands] at live
      cases live

/-- In every run whose calls keep apart, whatever calls the threads make, at most one child is
alive. It is the one of `_proc`, exactly outside of `self._proc = subprocess.Popen(...)` between the
call and the assignment, where it is the one that is about to be assigned. -/
theorem one_child_of_apart [DecidableEq ι] {calls : ι → List Call} {s : Callers ι}
    (run : (callers calls).Reaches Apart s) :
    (∀ child other, s.render.alive child = true → s.render.alive other = true → child = other) ∧
      ((∀ child, s.render.alive child = true → s.render.proc = some child) ↔
        ∀ i child, s.pc i = .store child → s.render.alive child = false) ∧
      ∀ child, s.render.alive child = true →
        s.render.proc = some child ∨ ∃ i, s.pc i = .store child := by
  have coherent : Coherent s := by
    refine run.invariant (I := Coherent) ?_ fun t l u _ ht apart hstep => ht.step apart hstep
    exact ⟨nofun, nofun, nofun, nofun, fun _ => trivial⟩
  exact ⟨fun child other => coherent.atMostOne, coherent.proc_iff, coherent.referenced⟩

end

/-! ## The threads of the daemon -/

/-- A thread of `castd/main.py` that calls the render process. -/
inductive Role
  /-- `handle_miracast_connected`. -/
  | session
  /-- `_apply_actions` on STOP_RENDER_PIPELINE. -/
  | teardown
  /-- `_recover_render_cold_start`, with so many re-rolls. -/
  | recovery (rerolls : Nat)
  deriving DecidableEq

/-- The calls of a thread, where nothing ends it before. -/
def Role.calls : Role → List Call
  | .session => [.stop, .start]
  | .teardown => [.stop]
  | .recovery rerolls => (List.replicate rerolls [.stop, .start]).flatten

instance {n : Nat} (s : Callers (Fin n)) : ∀ l, Decidable (Apart s l)
  | .begins _ => inferInstanceAs (Decidable (_ ∧ _))
  | .runs _ => instDecidableTrue
  | .popenRaises _ => instDecidableTrue
  | .returns _ => instDecidableTrue
  | .exits _ => instDecidableTrue
  | .frameSeen => instDecidableTrue

/-- A call of one thread, from its beginning, with so many steps. -/
def callOf {n : Nat} (i : Fin n) (steps : Nat) : List (CallLabel (Fin n)) :=
  .begins i :: List.replicate steps (.runs i)

/-- A session, and the teardown after it. -/
def sessionAndTeardown (i : Fin 2) : List Call :=
  (if i = 0 then Role.session else Role.teardown).calls

theorem one_child_of_session_and_teardown : ∃ s,
    (callers sessionAndTeardown).Reaches Apart s ∧ s.render.started = 1 ∧
      s.render.alive 0 = true ∧ s.pc 1 = .readKill ∧
      (∀ child other, s.render.alive child = true → s.render.alive other = true →
        child = other) ∧
      ∀ child, s.render.alive child = true → s.render.proc = some child := by
  have run : ∃ s, System.runUnder (callers sessionAndTeardown) Apart
      (callers sessionAndTeardown).init (callOf 0 1 ++ callOf 0 5 ++ callOf 1 5) = some s ∧
      s.render.started = 1 ∧ s.render.alive 0 = true ∧ s.pc 0 = .idle ∧ s.pc 1 = .readKill :=
    System.exists_runUnder (by decide +kernel)
  obtain ⟨s, run, started, alive, session, stands⟩ := run
  have reached := System.runUnder_leads _ run
  obtain ⟨one, stored, _⟩ := one_child_of_apart reached
  refine ⟨s, reached, started, alive, stands, one, stored.mpr fun i child between => ?_⟩
  match i with
  | 0 => cases between.symm.trans session
  | 1 => cases between.symm.trans stands

/-- Three sessions, and the teardown of the first as thread 1. -/
def lateTeardown (i : Fin 4) : List Call :=
  (if i = 1 then Role.teardown else Role.session).calls

/-- The first session and its start, its teardown up to the wait, the second session in between,
the rest of the teardown, and the third session. -/
def lateTeardownRun : List (CallLabel (Fin 4)) :=
  List.flatten [callOf 0 1, callOf 0 5, callOf 1 4, [.exits 0, .runs 1], callOf 2 7, callOf 2 5,
    [.runs 1, .runs 1], callOf 3 1, callOf 3 5]

/-- The teardown of the first session has waited for its child, and clears `_proc` after the second
session has stored its own: nothing refers to that one any more, and the third session starts
another beside it. -/
theorem late_teardown_leaks_child : ∃ s, (callers lateTeardown).Reachable s ∧
    (∀ i, (s.pc i).inCall = false) ∧ s.render.alive 1 = true ∧ s.render.alive 2 = true ∧
      s.render.proc = some 2 := by
  have run : ∃ s, (callers lateTeardown).run lateTeardownRun = some s ∧
      (∀ i, (s.pc i).inCall = false) ∧ s.render.alive 1 = true ∧ s.render.alive 2 = true ∧
        s.render.proc = some 2 :=
    System.exists_run (by decide +kernel)
  obtain ⟨s, run, rest⟩ := run
  exact ⟨s, System.runFrom_leads _ run, rest⟩

end Castd.Render
