/-!
# The render child process

`RenderProcess` of `castd/render/gstreamer.py`. A child carries the number of the source session
whose thread started it; the code does not store that, the statements about whose pipeline is
running read it.

`start` answers `none` where the code raises `RuntimeError`. `terminate`, `kill` and the waits of
`stop` succeed.
-/

namespace Castd.Render

/-- A `gst-launch-1.0` child: who started it, and whether `poll()` still answers `None`. -/
structure Child where
  session : Nat
  alive : Bool := true
  deriving DecidableEq, Repr

/-- `RenderProcess`: `_proc` and the event `_first_frame`. -/
structure RenderProcess where
  proc : Option Child := none
  firstFrame : Bool := false
  deriving DecidableEq, Repr

namespace RenderProcess

/-- `RenderProcess.is_running`. -/
def isRunning (r : RenderProcess) : Bool :=
  match r.proc with
  | some child => child.alive
  | none => false

/-- `RenderProcess.start`, called by the thread of `session`. -/
def start (r : RenderProcess) (session : Nat) : Option RenderProcess :=
  if r.isRunning then none
  else some { proc := some { session := session }, firstFrame := false }

/-- `RenderProcess.stop`. -/
def stop (r : RenderProcess) : RenderProcess :=
  match r.proc with
  | none => r
  | some _ => { proc := none, firstFrame := false }

/-- The child exits by itself. -/
def childExits (r : RenderProcess) : RenderProcess :=
  { r with proc := r.proc.map fun child => { child with alive := false } }

/-- A drain thread reads a line with the first-frame markers. -/
def frameSeen (r : RenderProcess) : RenderProcess := { r with firstFrame := true }

@[simp] theorem stop_proc (r : RenderProcess) : r.stop.proc = none := by
  unfold stop
  split
  · assumption
  · rfl

@[simp] theorem stop_isRunning (r : RenderProcess) : r.stop.isRunning = false := by
  simp only [isRunning, stop_proc]

@[simp] theorem childExits_isRunning (r : RenderProcess) : r.childExits.isRunning = false := by
  unfold childExits isRunning
  cases r.proc <;> rfl

/-- A start after a stop does not raise. -/
theorem start_stop (r : RenderProcess) (session : Nat) :
    r.stop.start session = some { proc := some { session := session } } := by
  rw [start, stop_isRunning]
  rfl

/-- A start that does not raise leaves the caller's own live child. -/
theorem start_proc {r r' : RenderProcess} {session : Nat} (h : r.start session = some r') :
    r'.proc = some { session := session } := by
  unfold start at h
  split at h <;> cases h
  rfl

/-- A child that exits stays the child of the session that started it. -/
theorem childExits_session {r : RenderProcess} {child : Child}
    (h : r.childExits.proc = some child) :
    ∃ before, r.proc = some before ∧ before.session = child.session := by
  obtain ⟨before, hb, rfl⟩ := Option.map_eq_some_iff.mp h
  exact ⟨before, hb, rfl⟩

end RenderProcess

end Castd.Render
