import Castd.Lib.FileSystem
import Castd.Lib.System

/-!
# Replacing the idle screen

The end of `render_idle_screen` in `castd/render/idle_screen.py`: `img.save(tmp)`, which opens the
temporary file, writes the image in pieces and closes it, and `tmp.replace(out)`. Every call uses
the same temporary file, and no lock is held.

`IdleSaves` has any number of calls, step by step. The output is replaced as it was meant to be as
long as no call opens the temporary file while another is between its open and its rename
(`Alone`). The first one that does is enough for a rename to fail (`idleScreen_replaced`).
-/

namespace Castd.Render

open Lib

/-- The temporary file, `out.with_suffix(".tmp")`, and the output. -/
inductive IdlePath
  | tmp
  | out
  deriving DecidableEq

/-- Where a call of `render_idle_screen` stands. -/
inductive SavePc
  /-- Before `img.save` has opened the temporary file. -/
  | drawing
  /-- It has the file open, and has written so much of its image. -/
  | writing (file written : Nat)
  /-- `img.save` has returned. -/
  | saved
  | replaced
  /-- `tmp.replace` raised `FileNotFoundError`. -/
  | raised
  deriving DecidableEq

/-- Between the open and the rename. -/
def SavePc.Saving : SavePc → Prop
  | .writing _ _ | .saved => True
  | .drawing | .replaced | .raised => False

/-- The files, and the calls by number. -/
structure IdleSaves where
  files : FileSystem IdlePath
  pc : Nat → SavePc

/-- A step of a call. -/
inductive SaveLabel
  | opens (call : Nat)
  /-- Writes the next bytes of the image. -/
  | writes (call size : Nat)
  | closes (call : Nat)
  | replaces (call : Nat)
  deriving DecidableEq

namespace IdleSaves

variable (image : Nat → Bytes)

/-- The step function. -/
def step (s : IdleSaves) : SaveLabel → Option IdleSaves
  | .opens c =>
    match s.pc c with
    | .drawing =>
      some {
        files := s.files.openTruncate .tmp
        pc := Function.update s.pc c (.writing (s.files.opened .tmp) 0) }
    | _ => none
  | .writes c size =>
    match s.pc c with
    | .writing file written =>
      if 0 < size ∧ written + size ≤ (image c).length then
        some {
          files := s.files.write file written (((image c).drop written).take size)
          pc := Function.update s.pc c (.writing file (written + size)) }
      else none
    | _ => none
  | .closes c =>
    match s.pc c with
    | .writing _ written =>
      if written = (image c).length then some { s with pc := Function.update s.pc c .saved }
      else none
    | _ => none
  | .replaces c =>
    match s.pc c with
    | .saved =>
      match s.files.rename .tmp .out with
      | some files => some { files := files, pc := Function.update s.pc c .replaced }
      | none => some { s with pc := Function.update s.pc c .raised }
    | _ => none

/-- The calls that draw `image`, from some files on. -/
def system (initial : FileSystem IdlePath) : System IdleSaves SaveLabel where
  init := { files := initial, pc := fun _ => .drawing }
  step := step image

/-- No call raises, and the output is what it was before, or the whole image of one call. The rename
is atomic; what it moves is whatever stands under the temporary name by then. -/
structure Replaces (initial : FileSystem IdlePath) (s : IdleSaves) : Prop where
  noRaise : ∀ c, s.pc c ≠ .raised
  shown : ((∀ c, s.pc c ≠ .replaced) ∧ s.files.read .out = initial.read .out) ∨
    ∃ c, s.pc c = .replaced ∧ s.files.read .out = some (image c)

/-- A call opens the temporary file when no call is between its open and its rename. All calls write
to one temporary file, and their threads hold no common lock. -/
def Alone (s : IdleSaves) : SaveLabel → Prop
  | .opens _ => ∀ c, ¬(s.pc c).Saving
  | _ => True

/-- One call at most is saving, and the temporary file holds what it has written so far. -/
structure OneWriter (s : IdleSaves) : Prop where
  single : ∀ c d, (s.pc c).Saving → (s.pc d).Saving → c = d
  writing : ∀ c file written, s.pc c = .writing file written →
    s.files.entry .tmp = some file ∧ s.files.content file = (image c).take written
  saved : ∀ c, s.pc c = .saved → s.files.read .tmp = some (image c)

/-- What a step that is enabled does. -/
inductive Moves (s : IdleSaves) : SaveLabel → IdleSaves → Prop
  | opened {c : Nat} (drawing : s.pc c = .drawing) :
    Moves s (.opens c) {
      files := s.files.openTruncate .tmp
      pc := Function.update s.pc c (.writing (s.files.opened .tmp) 0) }
  | written {c size file written : Nat} (writing : s.pc c = .writing file written)
      (inside : written + size ≤ (image c).length) :
    Moves s (.writes c size) {
      files := s.files.write file written (((image c).drop written).take size)
      pc := Function.update s.pc c (.writing file (written + size)) }
  | closed {c file : Nat} (writing : s.pc c = .writing file (image c).length) :
    Moves s (.closes c) { s with pc := Function.update s.pc c .saved }
  | replaced {c : Nat} {files : FileSystem IdlePath} (saved : s.pc c = .saved)
      (renames : s.files.rename .tmp .out = some files) :
    Moves s (.replaces c) { files := files, pc := Function.update s.pc c .replaced }
  /-- The temporary file is gone. -/
  | missed {c : Nat} (saved : s.pc c = .saved) (renames : s.files.rename .tmp .out = none) :
    Moves s (.replaces c) { s with pc := Function.update s.pc c .raised }

variable {image} {initial : FileSystem IdlePath}

theorem moves_of_step {s t : IdleSaves} {l : SaveLabel} (hstep : step image s l = some t) :
    Moves image s l t := by
  cases l with
  | opens c =>
    dsimp only [step] at hstep
    split at hstep
    next drawing =>
      cases hstep
      exact .opened drawing
    next => cases hstep
  | writes c size =>
    dsimp only [step] at hstep
    split at hstep
    next writing =>
      split at hstep
      next guard =>
        cases hstep
        exact .written writing guard.2
      next => cases hstep
    next => cases hstep
  | closes c =>
    dsimp only [step] at hstep
    split at hstep
    next writing =>
      split at hstep
      next whole =>
        cases hstep
        exact .closed (whole ▸ writing)
      next => cases hstep
    next => cases hstep
  | replaces c =>
    dsimp only [step] at hstep
    split at hstep
    next saved =>
      split at hstep
      next renames =>
        cases hstep
        exact .replaced saved renames
      next renames =>
        cases hstep
        exact .missed saved renames
    next => cases hstep

/-! ## One writer at a time -/

/-- The calls after a step of the only one that saves, by what the files say of it. -/
theorem OneWriter.of_others {s : IdleSaves} {c : Nat} {pc : SavePc} {files : FileSystem IdlePath}
    (others : ∀ d, d ≠ c → ¬(s.pc d).Saving)
    (writing : ∀ file written, pc = .writing file written →
      files.entry .tmp = some file ∧ files.content file = (image c).take written)
    (saved : pc = .saved → files.read .tmp = some (image c)) :
    OneWriter image { files := files, pc := Function.update s.pc c pc } := by
  have only : ∀ {d stands}, Function.update s.pc c pc d = stands → stands.Saving →
      d = c ∧ pc = stands := by
    intro d stands hd saves
    by_cases same : d = c
    · rw [same, Function.update_self] at hd
      exact ⟨same, hd⟩
    · rw [Function.update_of_ne same] at hd
      exact absurd (hd ▸ saves) (others d same)
  refine ⟨fun d e hd he => ?_, fun d file written hd => ?_, fun d hd => ?_⟩
  · exact (only rfl hd).1.trans (only rfl he).1.symm
  · obtain ⟨rfl, stands⟩ := only hd trivial
    exact writing file written stands
  · obtain ⟨rfl, stands⟩ := only hd trivial
    exact saved stands

/-- While one call is saving no other is. -/
theorem OneWriter.others {s : IdleSaves} (h : OneWriter image s) {c : Nat} {stands : SavePc}
    (hc : s.pc c = stands) (saves : stands.Saving) : ∀ d, d ≠ c → ¬(s.pc d).Saving :=
  fun d other saving => other (h.single d c saving (hc ▸ saves))

/-- A step that is taken alone leaves one writer. -/
theorem OneWriter.step {s t : IdleSaves} {l : SaveLabel} (h : OneWriter image s)
    (alone : s.Alone l) (hstep : step image s l = some t) : OneWriter image t := by
  cases moves_of_step hstep with
  | opened drawing =>
    refine .of_others (fun d _ => alone d) (fun file written stands => ?_) SavePc.noConfusion
    cases stands
    exact ⟨FileSystem.entry_openTruncate, FileSystem.content_openTruncate⟩
  | @written c size file written writing inside =>
    obtain ⟨entry, content⟩ := h.writing c file written writing
    refine .of_others (h.others writing trivial) (fun file' written' stands => ?_)
      SavePc.noConfusion
    cases stands
    refine ⟨entry, ?_⟩
    have length : ((image c).take written).length = written := by
      rw [List.length_take]
      omega
    have whole := overwrite_end ((image c).take written) (((image c).drop written).take size)
    rw [length] at whole
    rw [FileSystem.content_write, content, whole, List.take_add]
  | @closed c file writing =>
    obtain ⟨entry, content⟩ := h.writing c file _ writing
    refine .of_others (h.others writing trivial) (fun _ _ stands => by cases stands) fun _ => ?_
    rw [FileSystem.read, entry, Option.map_some, content, List.take_length]
  | replaced saved renames =>
    exact .of_others (h.others saved trivial) (fun _ _ stands => by cases stands)
      SavePc.noConfusion
  | missed saved renames =>
    exact .of_others (h.others saved trivial) (fun _ _ stands => by cases stands)
      SavePc.noConfusion

/-- With one writer at a time the output is replaced by a whole image, and the rename finds it. -/
theorem Replaces.step {s t : IdleSaves} {l : SaveLabel} (h : Replaces image initial s)
    (one : OneWriter image s) (hstep : step image s l = some t) : Replaces image initial t := by
  -- a step of a call that stays short of its rename, and does not touch the output
  have keeps : ∀ {c : Nat} {pc : SavePc} {files : FileSystem IdlePath},
      s.pc c ≠ .replaced → pc ≠ .replaced → pc ≠ .raised → files.read .out = s.files.read .out →
      Replaces image initial { files := files, pc := Function.update s.pc c pc } := by
    intro c pc files before after noRaise same
    refine ⟨fun d hd => h.noRaise d (eq_of_update hd noRaise), ?_⟩
    dsimp only
    rw [same]
    rcases h.shown with ⟨none, shown⟩ | ⟨d, replaced, shown⟩
    · exact .inl ⟨fun d hd => none d (eq_of_update hd after), shown⟩
    · exact .inr ⟨d, update_eq_of replaced before, shown⟩
  cases moves_of_step hstep with
  | opened drawing =>
    refine keeps (drawing.trans_ne SavePc.noConfusion) SavePc.noConfusion SavePc.noConfusion ?_
    exact FileSystem.read_openTruncate_of_ne IdlePath.noConfusion
  | written writing inside =>
    refine keeps (writing.trans_ne SavePc.noConfusion) SavePc.noConfusion SavePc.noConfusion ?_
    exact FileSystem.read_write_of_ne (one.writing _ _ _ writing).1 IdlePath.noConfusion _ _
  | closed writing =>
    exact keeps (writing.trans_ne SavePc.noConfusion) SavePc.noConfusion SavePc.noConfusion rfl
  | @replaced c files saved renames =>
    have read := (FileSystem.rename_eq_some renames IdlePath.noConfusion).1
    refine ⟨fun d hd => h.noRaise d (eq_of_update hd SavePc.noConfusion), ?_⟩
    exact .inr ⟨c, Function.update_self _ _ _, read.trans (one.saved c saved)⟩
  | missed saved renames =>
    have there := one.saved _ saved
    rw [FileSystem.read, FileSystem.rename_eq_none_iff.mp renames] at there
    cases there

/-! ## Two writers -/

/-- A rename is bound to fail: there are more calls to rename the temporary file than there will be
temporary files. -/
def Doomed (s : IdleSaves) : Prop :=
  (∃ c, s.pc c = .raised) ∨ (s.files.entry .tmp = none ∧ ∃ c, (s.pc c).Saving) ∨
    ∃ c d, c ≠ d ∧ (s.pc c).Saving ∧ (s.pc d).Saving

private theorem update_saving {s : IdleSaves} {c d : Nat} (pc : SavePc) (saving : (s.pc d).Saving)
    (other : d ≠ c) : (Function.update s.pc c pc d).Saving := by
  rwa [Function.update_of_ne other]

private theorem saving_ne_drawing {s : IdleSaves} {c d : Nat} (saving : (s.pc d).Saving)
    (drawing : s.pc c = .drawing) : d ≠ c := by
  rintro rfl
  rw [drawing] at saving
  exact saving

private theorem two_of_opens {s t : IdleSaves} {l : SaveLabel} (hstep : step image s l = some t)
    (shared : ¬s.Alone l) : ∃ c d, c ≠ d ∧ (t.pc c).Saving ∧ (t.pc d).Saving := by
  cases moves_of_step hstep with
  | @opened c drawing =>
    simp only [Alone, not_forall, not_not] at shared
    obtain ⟨d, saving⟩ := shared
    have other := saving_ne_drawing saving drawing
    refine ⟨d, c, other, update_saving _ saving other, ?_⟩
    dsimp only
    rw [Function.update_self]
    trivial
  | written => exact absurd trivial shared
  | closed => exact absurd trivial shared
  | replaced => exact absurd trivial shared
  | missed => exact absurd trivial shared

private theorem update_saving_of {s : IdleSaves} {c d : Nat} {pc : SavePc} (saves : pc.Saving)
    (saving : (s.pc d).Saving) : (Function.update s.pc c pc d).Saving := by
  by_cases same : d = c
  · rwa [same, Function.update_self]
  · exact update_saving pc saving same

/-- A call that goes on saving frees no other from its rename. -/
theorem Doomed.goesOn {s : IdleSaves} (h : s.Doomed) {c : Nat} {pc : SavePc}
    {files : FileSystem IdlePath} (before : s.pc c ≠ .raised) (saves : pc.Saving)
    (entry : files.entry .tmp = s.files.entry .tmp) :
    Doomed { files := files, pc := Function.update s.pc c pc } := by
  rcases h with ⟨d, raised⟩ | ⟨gone, d, saving⟩ | ⟨d, e, other, hd, he⟩
  · exact .inl ⟨d, update_eq_of raised before⟩
  · exact .inr (.inl ⟨entry.trans gone, d, update_saving_of saves saving⟩)
  · exact .inr (.inr ⟨d, e, other, update_saving_of saves hd, update_saving_of saves he⟩)

theorem Doomed.step {s t : IdleSaves} {l : SaveLabel} (h : s.Doomed)
    (hstep : step image s l = some t) : t.Doomed := by
  cases moves_of_step hstep with
  | @opened c drawing =>
    rcases h with ⟨d, raised⟩ | ⟨-, d, saving⟩ | ⟨d, e, other, hd, he⟩
    · exact .inl ⟨d, update_eq_of raised (drawing.trans_ne SavePc.noConfusion)⟩
    · refine .inr (.inr ⟨d, c, saving_ne_drawing saving drawing, ?_, ?_⟩)
      · exact update_saving_of trivial saving
      · dsimp only
        rw [Function.update_self]
        trivial
    · exact .inr (.inr ⟨d, e, other, update_saving_of trivial hd, update_saving_of trivial he⟩)
  | written writing _ => exact h.goesOn (writing.trans_ne SavePc.noConfusion) trivial rfl
  | closed writing => exact h.goesOn (writing.trans_ne SavePc.noConfusion) trivial rfl
  | @replaced c files saved renames =>
    have gone := (FileSystem.rename_eq_some renames IdlePath.noConfusion).2
    rcases h with ⟨d, raised⟩ | ⟨none, -⟩ | ⟨d, e, other, hd, he⟩
    · exact .inl ⟨d, update_eq_of raised (saved.trans_ne SavePc.noConfusion)⟩
    · rw [FileSystem.rename_eq_none_iff.mpr none] at renames
      cases renames
    · -- of two calls that were saving one is not the call that is through now
      by_cases same : d = c
      · exact .inr (.inl ⟨gone, e, update_saving _ he fun h => other (same.trans h.symm)⟩)
      · exact .inr (.inl ⟨gone, d, update_saving _ hd same⟩)
  | missed _ _ => exact .inl ⟨_, Function.update_self _ _ _⟩

/-- When every call is through, one has raised. -/
theorem Doomed.raised {s : IdleSaves} (h : s.Doomed) (through : ∀ c, ¬(s.pc c).Saving) :
    ∃ c, s.pc c = .raised := by
  rcases h with raised | ⟨-, c, saving⟩ | ⟨c, -, -, saving, -⟩
  · exact raised
  · exact absurd saving (through c)
  · exact absurd saving (through c)

/-! ## A call by itself -/

/-- No call has written more than its image. -/
def Within (image : Nat → Bytes) (s : IdleSaves) : Prop :=
  ∀ c file written, s.pc c = .writing file written → written ≤ (image c).length

theorem Within.step {s t : IdleSaves} {l : SaveLabel} (h : Within image s)
    (hstep : step image s l = some t) : Within image t := by
  have keeps : ∀ {c : Nat} {pc : SavePc} {files : FileSystem IdlePath},
      (∀ file written, pc = .writing file written → written ≤ (image c).length) →
      Within image { files := files, pc := Function.update s.pc c pc } := by
    intro c pc files inside d file written hd
    dsimp only at hd
    by_cases same : d = c
    · rw [same, Function.update_self] at hd
      exact same ▸ inside file written hd
    · rw [Function.update_of_ne same] at hd
      exact h d file written hd
  cases moves_of_step hstep with
  | opened =>
    refine keeps fun _ _ hpc => ?_
    cases hpc
    exact Nat.zero_le _
  | written _ inside =>
    refine keeps fun _ _ hpc => ?_
    cases hpc
    exact inside
  | closed => exact keeps fun _ _ hpc => by cases hpc
  | replaced => exact keeps fun _ _ hpc => by cases hpc
  | missed => exact keeps fun _ _ hpc => by cases hpc

private theorem leads_saved (initial : FileSystem IdlePath) {s : IdleSaves}
    (within : Within image s)
    {c : Nat} (saving : (s.pc c).Saving) :
    ∃ t, (system image initial).Leads (fun _ _ => True) s t ∧ t.pc c = .saved ∧
      ∀ d, d ≠ c → t.pc d = s.pc d := by
  have close : ∀ {u : IdleSaves} {file : Nat}, u.pc c = .writing file (image c).length →
      (∀ d, d ≠ c → u.pc d = s.pc d) → ∃ t, (system image initial).Leads (fun _ _ => True) u t ∧
        t.pc c = .saved ∧ ∀ d, d ≠ c → t.pc d = s.pc d := by
    intro u file hc others
    have closes : (system image initial).step u (.closes c) =
        some { u with pc := Function.update u.pc c .saved } := by
      simp [system, step, hc]
    refine ⟨_, .step .refl trivial closes, Function.update_self _ _ _, fun d other => ?_⟩
    exact (Function.update_of_ne other _ _).trans (others d other)
  cases stands : s.pc c with
  | writing file written =>
    have bound := within c file written stands
    rcases Nat.eq_or_lt_of_le bound with whole | more
    · exact close (whole ▸ stands) fun _ _ => rfl
    · have writes : (system image initial).step s (.writes c ((image c).length - written)) = some {
          files := s.files.write file written
            (((image c).drop written).take ((image c).length - written))
          pc := Function.update s.pc c
            (.writing file (written + ((image c).length - written))) } := by
        simp only [system, step, stands]
        rw [if_pos (by omega)]
      rw [Nat.add_sub_cancel' bound] at writes
      obtain ⟨t, leads, saved, others⟩ := close
        (u := { files := s.files.write file written
                  (((image c).drop written).take ((image c).length - written))
                pc := Function.update s.pc c (.writing file (image c).length) })
        (Function.update_self _ _ _) fun d other => Function.update_of_ne other _ _
      exact ⟨t, (System.Leads.step .refl trivial writes).trans leads, saved, others⟩
  | saved => exact ⟨s, .refl, stands, fun _ _ => rfl⟩
  | drawing =>
    rw [stands] at saving
    cases saving
  | replaced =>
    rw [stands] at saving
    cases saving
  | raised =>
    rw [stands] at saving
    cases saving

/-! ## Runs -/

theorem within_of_reaches {C : IdleSaves → SaveLabel → Prop} {s : IdleSaves}
    (reached : (system image initial).Reaches C s) : Within image s :=
  reached.invariant (fun _ _ _ h => by cases h) fun _ _ _ _ within _ hstep => within.step hstep

private theorem doomed_of_leads {C : IdleSaves → SaveLabel → Prop} {s t : IdleSaves} (h : s.Doomed)
    (leads : (system image initial).Leads C s t) : t.Doomed :=
  leads.invariant h fun _ _ _ _ doomed _ hstep => doomed.step hstep

private theorem leads_raised {s : IdleSaves} (within : Within image s) {c d : Nat} (other : c ≠ d)
    (hc : (s.pc c).Saving) (hd : (s.pc d).Saving) :
    ∃ t, (system image initial).Leads (fun _ _ => True) s t ∧ ∃ e, t.pc e = .raised := by
  obtain ⟨t, leads, savedC, others⟩ := leads_saved initial within hc
  have within' : Within image t :=
    leads.invariant within fun _ _ _ _ within _ hstep => within.step hstep
  obtain ⟨u, leads', savedD, others'⟩ := leads_saved initial within'
    (show (t.pc d).Saving by rwa [others d other.symm])
  rw [← others' c other] at savedC
  have run := leads.trans leads'
  cases renames : u.files.rename .tmp .out with
  | none =>
    have raises : (system image initial).step u (.replaces c) =
        some { u with pc := Function.update u.pc c .raised } := by
      simp [system, step, savedC, renames]
    exact ⟨_, .step run trivial raises, c, Function.update_self _ _ _⟩
  | some files =>
    have replaces : (system image initial).step u (.replaces c) =
        some { files := files, pc := Function.update u.pc c .replaced } := by
      simp [system, step, savedC, renames]
    have gone := (FileSystem.rename_eq_some renames IdlePath.noConfusion).2
    have missed : files.rename .tmp .out = none := FileSystem.rename_eq_none_iff.mpr gone
    have raises : (system image initial).step
        { files := files, pc := Function.update u.pc c .replaced } (.replaces d) =
        some {
          files := files
          pc := Function.update (Function.update u.pc c .replaced) d .raised } := by
      simp [system, step, Function.update_of_ne other.symm, savedD, missed]
    exact ⟨_, .step (.step run trivial replaces) trivial raises, d, Function.update_self _ _ _⟩

/-- As long as every call opens the temporary file alone, no call raises and the output is always
the whole image of one call, or what it was before the first. A call that does not open it alone
can make a rename fail, and makes one fail in every run that goes on until all calls are through. -/
theorem idleScreen_replaced {s : IdleSaves} (reached : (system image initial).Reaches Alone s) :
    Replaces image initial s ∧ ∀ l t, (system image initial).step s l = some t → ¬s.Alone l →
      (∃ u, (system image initial).Leads (fun _ _ => True) t u ∧ ∃ c, u.pc c = .raised) ∧
      ∀ u, (system image initial).Leads (fun _ _ => True) t u → (∀ c, ¬(u.pc c).Saving) →
        ∃ c, u.pc c = .raised := by
  have run : OneWriter image s ∧ Replaces image initial s := by
    refine reached.invariant (I := fun s => OneWriter image s ∧ Replaces image initial s)
      ⟨⟨?_, ?_, ?_⟩, ⟨?_, ?_⟩⟩ ?_
    · exact fun _ _ saving => saving.elim
    · exact fun _ _ _ h => by cases h
    · exact fun _ h => by cases h
    · exact fun _ h => by cases h
    · exact .inl ⟨fun _ h => (by cases h), rfl⟩
    · exact fun t l u _ inv alone hstep => ⟨inv.1.step alone hstep, inv.2.step inv.1 hstep⟩
  refine ⟨run.2, fun l t hstep shared => ?_⟩
  obtain ⟨c, d, other, hc, hd⟩ := two_of_opens hstep shared
  refine ⟨leads_raised ((within_of_reaches reached).step hstep) other hc hd, ?_⟩
  intro u leads through
  exact (doomed_of_leads (.inr (.inr ⟨c, d, other, hc, hd⟩)) leads).raised through

/-- Two calls at once. The second empties the file that the first has written and is about to
rename, so that the output is an empty file; the second then has no file to rename. -/
theorem shared_tmp :
    ∃ image : Nat → Bytes, (∀ c, image c ≠ []) ∧
      (∃ s, (system image .empty).Reachable s ∧ s.files.read .out = some [] ∧
        ¬Replaces image .empty s) ∧
      ∃ s, (system image .empty).Reachable s ∧ s.pc 1 = .raised ∧ ¬Replaces image .empty s := by
  refine ⟨fun _ => [0x89, 0x50], fun _ => List.cons_ne_nil _ _, ?_, ?_⟩
  · obtain ⟨s, run, shown⟩ : ∃ s, (system (fun _ => [0x89, 0x50]) .empty).run
        [.opens 0, .writes 0 2, .closes 0, .opens 1, .replaces 0] = some s ∧
        s.files.read .out = some [] :=
      System.exists_run (by decide +kernel)
    refine ⟨s, System.runFrom_leads _ run, shown, fun replaces => ?_⟩
    rcases replaces.shown with ⟨-, before⟩ | ⟨c, -, whole⟩
    · rw [shown] at before
      cases before
    · rw [shown] at whole
      cases whole
  · obtain ⟨s, run, raised⟩ : ∃ s, (system (fun _ => [0x89, 0x50]) .empty).run
        [.opens 0, .writes 0 2, .closes 0, .opens 1, .replaces 0, .writes 1 2, .closes 1,
          .replaces 1] = some s ∧ s.pc 1 = .raised :=
      System.exists_run (by decide +kernel)
    exact ⟨s, System.runFrom_leads _ run, raised, fun replaces => replaces.noRaise 1 raised⟩

/-- Two calls, one after the other. -/
theorem idleScreen_replaced_twice :
    ∃ s, (system (fun c => [UInt8.ofNat c]) .empty).run [.opens 0, .writes 0 1, .closes 0,
        .replaces 0, .opens 1, .writes 1 1, .closes 1, .replaces 1] = some s ∧
      Replaces (fun c => [UInt8.ofNat c]) .empty s ∧ s.files.read .out = some [1] := by
  refine ⟨_, rfl, (idleScreen_replaced ?_).1, rfl⟩
  refine .step (l := .replaces 1) (.step (l := .closes 1) (.step (l := .writes 1 1)
    (.step (l := .opens 1) (.step (l := .replaces 0) (.step (l := .closes 0)
      (.step (l := .writes 0 1) (.step (l := .opens 0) .refl ?_ rfl) trivial rfl) trivial rfl)
      trivial rfl) ?_ rfl) trivial rfl) trivial rfl) trivial rfl
  · exact fun _ saving => saving.elim
  · intro c saving
    by_cases first : c = 0
    · subst first
      exact saving
    · simp only [ne_eq, first, not_false_eq_true, Function.update_of_ne] at saving
      exact saving

end IdleSaves

end Castd.Render
