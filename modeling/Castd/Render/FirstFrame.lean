import Castd.Lib.Pieces
import Castd.Lib.System
import Castd.Lib.Utf8
import Castd.Render.Process

/-!
# The first-frame signal

`start` gives every child a drain thread of its own, and all of them share the event
`_first_frame`. A drain thread is never joined: it may have lines of a child that is gone still to
read, after `stop` and after the next `start`.

`Pipelines` has the children with what they printed and how far their drain threads are. The
signal belongs to the pipeline as long as no drain thread comes late with a first-frame line
(`InTime`), and the first one that does breaks that (`firstFrame_owned`).

Here a child's number stands where `Render.Process` has the session that started it.
-/

namespace Castd.Render

open Lib

/-- `_FIRST_FRAME_MARKERS`. -/
def firstFrameMarkers : List Str :=
  ["kmssink".toList, "GstPad:sink:".toList, "caps = video/x-raw".toList]

/-- A line with all of the markers. -/
def isFirstFrame (line : Str) : Bool := firstFrameMarkers.all fun marker => contains marker line

/-- The loop body of `_drain_output`. -/
def RenderProcess.drainLine (r : RenderProcess) (line : Str) : RenderProcess :=
  if !r.firstFrame && isFirstFrame line then r.frameSeen else r

@[simp] theorem RenderProcess.drainLine_proc (r : RenderProcess) (line : Str) :
    (r.drainLine line).proc = r.proc := by
  unfold drainLine
  split <;> rfl

private theorem RenderProcess.drainLine_firstFrame (r : RenderProcess) (line : Str) :
    (r.drainLine line).firstFrame = (r.firstFrame || isFirstFrame line) := by
  unfold drainLine
  cases hflag : r.firstFrame <;> cases hline : isFirstFrame line <;>
    simp [hflag, RenderProcess.frameSeen]

/-- The process, and the children spawned so far: what each printed, and how many lines of it its
drain thread has read. -/
structure Pipelines where
  render : RenderProcess := {}
  spawned : Nat := 0
  printed : Nat → List Str := fun _ => []
  drained : Nat → Nat := fun _ => 0

/-- A call of `start` or `stop`, or something that a child or a drain thread does. -/
inductive PipelineLabel
  /-- `start()`. `Popen` raises or spawns a child. -/
  | start (spawns : Bool)
  | stop
  /-- The child exits by itself. -/
  | exits
  /-- The child prints a line. -/
  | prints (line : Str)
  /-- The drain thread of a child reads its next line. -/
  | drains (number : Nat)
  deriving DecidableEq

namespace Pipelines

/-- The step function. A call that raises leaves the process as it was. -/
def step (s : Pipelines) : PipelineLabel → Option Pipelines
  | .start spawns =>
    match s.render.start s.spawned with
    | some render =>
      if spawns then some { s with render := render, spawned := s.spawned + 1 } else some s
    | none => some s
  | .stop => some { s with render := s.render.stop }
  | .exits => some { s with render := s.render.childExits }
  | .prints line =>
    match s.render.proc with
    | some child =>
      if child.alive then
        some { s with
          printed := Function.update s.printed child.session (s.printed child.session ++ [line]) }
      else none
    | none => none
  | .drains n =>
    match (s.printed n)[s.drained n]? with
    | some line =>
      some { s with
        render := s.render.drainLine line
        drained := Function.update s.drained n (s.drained n + 1) }
    | none => none

/-- The system. -/
def system : System Pipelines PipelineLabel := { init := {}, step := step }

/-- The child in `_proc` has printed a first-frame line. -/
def shownFrame (s : Pipelines) : Bool :=
  match s.render.proc with
  | some child => (s.printed child.session).any isFirstFrame
  | none => false

/-- `first_frame_seen`, which is what `wait_for_first_frame` waits for, speaks of the current
pipeline. -/
def Owned (s : Pipelines) : Prop := s.render.firstFrame = true → s.shownFrame = true

/-- A first-frame line is read while its child is in `_proc`, or when the child that is there has
printed one as well. -/
def InTime (s : Pipelines) : PipelineLabel → Prop
  | .drains n => ∀ line ∈ (s.printed n)[s.drained n]?, isFirstFrame line = true →
    s.render.proc.map Child.session = some n ∨ s.shownFrame = true
  | _ => True

private theorem shownFrame_of_drained {s : Pipelines} {n k : Nat} {line : Str}
    (read : (s.printed n)[k]? = some line) (marked : isFirstFrame line = true)
    (current : s.render.proc.map Child.session = some n) : s.shownFrame = true := by
  obtain ⟨child, hchild, rfl⟩ := Option.map_eq_some_iff.mp current
  unfold shownFrame
  rw [hchild]
  exact List.any_eq_true.mpr ⟨line, List.mem_of_getElem? read, marked⟩

private theorem firstFrame_of_start {r r' : RenderProcess} {session : Nat}
    (started : r.start session = some r') : r'.firstFrame = false := by
  unfold RenderProcess.start at started
  split at started
  next => cases started
  next =>
    cases started
    rfl

private theorem stop_eq_or (r : RenderProcess) : r.stop = r ∨ r.stop.firstFrame = false := by
  unfold RenderProcess.stop
  split
  · exact .inl rfl
  · exact .inr rfl

private theorem shownFrame_childExits (s : Pipelines) :
    shownFrame { s with render := s.render.childExits } = s.shownFrame := by
  unfold shownFrame RenderProcess.childExits
  cases s.render.proc <;> rfl

private theorem shownFrame_drainLine (s : Pipelines) (line : Str) (drained : Nat → Nat) :
    shownFrame { s with render := s.render.drainLine line, drained := drained } =
      s.shownFrame := by
  unfold shownFrame
  rw [RenderProcess.drainLine_proc]

/-- A step in time keeps the signal with its pipeline. -/
theorem Owned.step {s t : Pipelines} {l : PipelineLabel} (h : s.Owned) (inTime : s.InTime l)
    (hstep : s.step l = some t) : t.Owned := by
  cases l with
  | start spawns =>
    dsimp only [Pipelines.step] at hstep
    split at hstep
    next render started =>
      cases spawns with
      | true =>
        cases hstep
        intro flag
        rw [firstFrame_of_start started] at flag
        cases flag
      | false =>
        cases hstep
        exact h
    next =>
      cases hstep
      exact h
  | stop =>
    cases hstep
    rcases stop_eq_or s.render with same | cleared
    · rw [same]
      exact h
    · intro flag
      rw [cleared] at flag
      cases flag
  | exits =>
    cases hstep
    intro flag
    rw [shownFrame_childExits]
    exact h flag
  | prints line =>
    dsimp only [Pipelines.step] at hstep
    split at hstep
    next child hchild =>
      split at hstep
      next =>
        cases hstep
        intro flag
        have shown : (s.printed child.session).any isFirstFrame = true := by
          have before := h flag
          unfold shownFrame at before
          rwa [hchild] at before
        unfold shownFrame
        simp only [hchild, Function.update_self]
        rw [List.any_append, shown, Bool.true_or]
      next => cases hstep
    next => cases hstep
  | drains n =>
    dsimp only [Pipelines.step] at hstep
    split at hstep
    next line read =>
      cases hstep
      intro flag
      rw [RenderProcess.drainLine_firstFrame, Bool.or_eq_true] at flag
      rw [shownFrame_drainLine]
      rcases flag with flag | marked
      · exact h flag
      · exact (inTime line read marked).elim (shownFrame_of_drained read marked) id
    next => cases hstep

private theorem not_owned_of_late {s t : Pipelines} {l : PipelineLabel} (late : ¬s.InTime l)
    (hstep : s.step l = some t) : ¬t.Owned := by
  cases l with
  | drains n =>
    dsimp only [Pipelines.step] at hstep
    split at hstep
    next line read =>
      cases hstep
      intro owned
      refine late fun line' isLine marked => .inr ?_
      rw [read] at isLine
      cases isLine
      rw [← shownFrame_drainLine s line]
      refine owned ?_
      rw [RenderProcess.drainLine_firstFrame, marked, Bool.or_true]
    next => cases hstep
  | start _ => exact absurd trivial late
  | stop => exact absurd trivial late
  | exits => exact absurd trivial late
  | prints _ => exact absurd trivial late

/-- As long as no drain thread comes late with a first-frame line, the signal belongs to the
current pipeline in every state; the first one that does sets it for another.

The event is one for the life of the object: `start` clears it, and the drain thread of a pipeline
that was stopped can still have a line to read. -/
theorem firstFrame_owned {s : Pipelines} (reached : system.Reaches InTime s) :
    s.Owned ∧ ∀ l t, system.step s l = some t → (t.Owned ↔ s.InTime l) := by
  have owned : s.Owned := by
    refine reached.invariant (fun flag => ?_) fun t l u _ owned inTime hstep =>
      owned.step inTime hstep
    cases flag
  refine ⟨owned, fun l t hstep => ⟨fun owned' => ?_, fun inTime => owned.step inTime hstep⟩⟩
  by_contra late
  exact not_owned_of_late late hstep owned'

/-- The line of `gst-launch-1.0 -v` with the caps of the first frame. -/
def capsLine : Str :=
  "/GstPipeline:pipeline0/GstKMSSink:kmssink0.GstPad:sink: caps = video/x-raw".toList

instance (s : Pipelines) : Decidable s.Owned := inferInstanceAs (Decidable (_ → _))

instance (s : Pipelines) (l : PipelineLabel) : Decidable (s.InTime l) :=
  match l with
  | .drains _ => inferInstanceAs (Decidable (∀ line ∈ _, _ → _))
  | .start _ | .stop | .exits | .prints _ => instDecidableTrue

/-- The first frame of a pipeline that is stopped is read after the start of the next. -/
theorem late_first_frame :
    ∃ s, system.run [.start true, .prints capsLine, .stop, .start true, .drains 0] = some s ∧
      s.render.firstFrame = true ∧ s.render.proc = some { session := 1 } ∧ s.printed 1 = [] ∧
      ¬s.Owned :=
  System.exists_run (by decide +kernel)

/-- A second pipeline shows its first frame, and the line of the first one is read after that. -/
theorem rerolled_first_frame :
    ∃ s, System.runUnder system InTime system.init
        [.start true, .prints capsLine, .stop, .start true, .prints capsLine, .drains 1,
          .drains 0] = some s ∧
      s.render.firstFrame = true ∧ s.shownFrame = true := by
  obtain ⟨s, run, flag⟩ : ∃ s, System.runUnder system InTime system.init
      [.start true, .prints capsLine, .stop, .start true, .prints capsLine, .drains 1,
        .drains 0] = some s ∧ s.render.firstFrame = true :=
    System.exists_runUnder (by decide +kernel)
  exact ⟨s, run, flag, (firstFrame_owned (System.runUnder_leads _ run)).1 flag⟩

end Pipelines

end Castd.Render
