import Castd.Main.Arbitration

/-!
# Cold-start recovery

`_recover_render_cold_start` looks at shared fields and then acts on them, and it carries no
session. A disconnect between its look and its act, or a later session that puts the fields back
to what it hopes to see, makes it act for a session that is over.

`RecoversInTime` names the steps at which that happens. In runs without them (and without
rejected sources, `ConnectsIdle`) a recovery thread that stands before an act belongs to a session
that has not ended (`Threads.ActsAlive`), so every pipeline belongs to a session that still has
its teardown to run (`Threads.PipelineOwned`).
-/

namespace Castd.Main

open Fsm Render Lib

/-- A recovery thread whose next statement stops or starts the pipeline or writes the gate. -/
def RecoveryPc.acting : RecoveryPc → Bool
  | .dropExpected _ => true
  | .stopRender _ => true
  | .startRender _ => true
  | .raiseExpected _ => true
  | _ => false

/-- A recovery thread about to look whether the pipeline runs. -/
def RecoveryPc.checkingRunning : RecoveryPc → Bool
  | .checkRunning _ => true
  | _ => false

/-- With a pipeline of its own up, before its disconnect. -/
def SessionPc.holdsPipeline : SessionPc → Bool
  | .expectRender => true
  | .spawnRecovery => true
  | .pump => true
  | .closeSock => true
  | .disconnect => true
  | _ => false

/-- What recovery owes to the end of a session: once the arbiter has left MIRACAST no recovery
thread touches the pipeline, and none runs that a recovery thread started. -/
structure RecoveryContained (s : Threads) : Prop where
  /-- The recovery thread of an ended session has no act left to run. -/
  ended_not_acting : ∀ i, (s.sessions i).ended = true → (s.recoveries i).acting = false
  /-- Outside MIRACAST, and with no disconnect amid its actions, no pipeline runs. -/
  stopped : s.daemon.arbiter.state ≠ .miracast →
    (∀ i actions, s.sessions i ≠ .disconnectActions actions) → s.daemon.render.isRunning = false

/-- No session is disconnected while its recovery thread stands before an act, and a recovery
thread that outlived its session finds the pipeline down at its look at the process, and the
arbiter outside MIRACAST at its second look at the state. -/
def RecoversInTime (s : Threads) : Label → Prop
  | .session i _ => s.sessions i = .disconnect → (s.recoveries i).acting = false
  | .recovery i _ => (s.sessions i).ended = true →
    ((s.recoveries i).checkingRunning = true → s.daemon.render.isRunning = false) ∧
      ((s.recoveries i).rechecking = true → s.daemon.arbiter.state ≠ .miracast)
  | _ => True

instance (s : Threads) (l : Label) : Decidable (RecoversInTime s l) :=
  match l with
  | .session _ _ => inferInstanceAs (Decidable (_ → _))
  | .recovery _ _ => inferInstanceAs (Decidable (_ → (_ → _) ∧ (_ → _)))
  | .inbound _ | .authorized _ | .airplay _ _ | .airplayAction _ | .tick _ | .childExits
  | .frameSeen | .elapse _ => instDecidableTrue

private theorem RecoveryPc.acting_of_starting {pc : RecoveryPc} (h : pc.starting = true) :
    pc.acting = true := by
  cases pc <;> first | rfl | exact Bool.noConfusion h

private theorem RecoversInTime.restartsOwn {s : Threads} {l : Label} (h : RecoversInTime s l) :
    RestartsOwn s l := by
  cases l with
  | session i o =>
    intro stands
    by_contra starts
    have acts := RecoveryPc.acting_of_starting (Bool.eq_true_of_not_eq_false starts)
    rw [h stands] at acts
    exact Bool.noConfusion acts
  | recovery i o => exact fun rechecks gone => (h gone).2 rechecks
  | _ => trivial

/-! ## Acts -/

/-- A recovery thread that stands before an act belongs to a session that has not ended. -/
def Threads.ActsAlive (s : Threads) : Prop :=
  ∀ i, (s.recoveries i).acting = true → (s.sessions i).ended = false

private theorem RecoveryStep.acting_from {i : Nat} {d d' : Daemon} {pc pc' : RecoveryPc}
    (h : RecoveryStep i d pc pc' d') (acts : pc'.acting = true) :
    pc.acting = true ∨ (pc.checkingRunning = true ∧ d.render.isRunning = true) ∨
      (pc.rechecking = true ∧ d.arbiter.state = .miracast) := by
  cases h with
  | running runs => exact .inr (.inl ⟨rfl, runs⟩)
  | recheckHolds holds => exact .inr (.inr ⟨rfl, holds⟩)
  | dropped | started => exact .inl rfl
  | _ => exact Bool.noConfusion acts

private theorem Threads.Step.actsAlive {s s' : Threads} {l : Label} (h : s.Step l s')
    (inTime : RecoversInTime s l) (spawned : s.RecoverySpawned) (hs : s.ActsAlive) :
    s'.ActsAlive := by
  refine h.marked_alive spawned rfl rfl ?_ ?_ hs
  · rintro i o rfl stands
    exact inTime stands
  · rintro i o pc' d rfl gone next acts
    obtain ⟨stopped, left⟩ := inTime gone
    rcases next.acting_from acts with before | ⟨checks, runs⟩ | ⟨rechecks, miracast⟩
    · exact before
    · rw [stopped checks] at runs
      exact Bool.noConfusion runs
    · exact absurd miracast (left rechecks)

private theorem Threads.actsAlive_of_leads {C : Threads → Label → Prop} {s : Threads}
    (h : Threads.system.Reaches C s) (inTime : ∀ s l, C s l → RecoversInTime s l) :
    s.ActsAlive :=
  h.invariant (fun _ acts => absurd acts Bool.false_ne_true)
    fun _ _ _ reached hs hc hstep => (Threads.step_cases hstep).actsAlive (inTime _ _ hc)
      (Threads.recoverySpawned_of_leads reached) hs

/-! ## Pipelines -/

/-- Every pipeline belongs to a session that still has to stop it. -/
def Threads.PipelineOwned (s : Threads) : Prop :=
  ∀ child, s.daemon.render.proc = some child →
    (s.sessions child.session).holdsPipeline = true ∨
      ∃ actions, s.sessions child.session = .disconnectActions (.stopRenderPipeline :: actions)

private theorem SessionStep.holdsPipeline {i : Nat} {d d' : Daemon} {pc pc' : SessionPc}
    (h : SessionStep i d pc pc' d') (hs : pc.holdsPipeline = true) (hd : pc ≠ .disconnect) :
    pc'.holdsPipeline = true := by
  cases h with
  | renderExpected | recoverySpawned | pumpEnded | sockClosed => rfl
  | disconnected => exact absurd rfl hd
  | _ => exact Bool.noConfusion hs

private theorem SessionStep.render_cases {i : Nat} {d d' : Daemon} {pc pc' : SessionPc}
    (h : SessionStep i d pc pc' d') :
    d'.render.proc = none ∨ d'.render = d.render ∨
      (pc' = .expectRender ∧ d'.render.proc = some { session := i }) := by
  cases h with
  | renderStopped => exact .inl (RenderProcess.stop_proc _)
  | renderStarted started => exact .inr (.inr ⟨rfl, RenderProcess.start_proc started⟩)
  | connectAction applied | disconnectAction applied =>
    rcases Daemon.applyAction_render applied with same | ⟨_, stopped⟩
    · exact .inr (.inl same)
    · exact .inl (by rw [stopped, RenderProcess.stop_proc])
  | _ => exact .inr (.inl rfl)

private theorem SessionStep.stops_first {i : Nat} {d d' : Daemon} {pc' : SessionPc}
    {actions : List Action}
    (h : SessionStep i d (.disconnectActions (.stopRenderPipeline :: actions)) pc' d') :
    d'.render.proc = none := by
  cases h with
  | disconnectAction applied =>
    cases applied
    exact RenderProcess.stop_proc _
  | disconnectRaised raised => cases raised

private theorem SessionPc.holdsPipeline_of_spawned {pc : SessionPc} (h : pc.spawned = true)
    (running : pc.ended = false) : pc.holdsPipeline = true := by
  cases pc with
  | pump | closeSock | disconnect => rfl
  | disconnectActions | clearSock | done => exact Bool.noConfusion running
  | _ => exact absurd h Bool.false_ne_true

/-- The step of a session keeps it: a disconnect is accepted, and stops the pipeline first. -/
theorem Threads.PipelineOwned.session {s : Threads} {i : Nat} {pc pc' : SessionPc} {d : Daemon}
    {child : Child} (hs : s.PipelineOwned) (owned : s.Owned) (single : s.SingleSession)
    (stands : s.sessions i = pc) (next : SessionStep i s.daemon pc pc' d)
    (hproc : d.render.proc = some child) :
    (Function.update s.sessions i pc' child.session).holdsPipeline = true ∨
      ∃ actions, Function.update s.sessions i pc' child.session =
        .disconnectActions (.stopRenderPipeline :: actions) := by
  rcases next.render_cases with stopped | same | ⟨rfl, started⟩
  · rw [stopped] at hproc
    cases hproc
  · have before := same ▸ hproc
    rcases hs child before with holds | ⟨actions, ending⟩
    · by_cases hi : child.session = i
      · rw [hi, stands] at holds
        rw [hi, Function.update_self]
        by_cases hd : pc = .disconnect
        · subst hd
          cases next
          have own := single.owner_of_inSession i (by rw [stands]; rfl)
          have miracast := owned.mpr (own ▸ Option.some_ne_none i)
          right
          simp only [CastArbiter.handle, CastArbiter.transition, miracast, table]
          exact ⟨_, rfl⟩
        · exact .inl (next.holdsPipeline holds hd)
      · rw [Function.update_of_ne hi]
        exact .inl holds
    · by_cases hi : child.session = i
      · rw [hi, stands] at ending
        subst ending
        rw [next.stops_first] at hproc
        cases hproc
      · rw [Function.update_of_ne hi]
        exact .inr ⟨actions, ending⟩
  · rw [started] at hproc
    cases hproc
    rw [Function.update_self]
    exact .inl rfl

private theorem Threads.Step.pipelineOwned {s s' : Threads} {l : Label} (h : s.Step l s')
    (owned : s.Owned) (single : s.SingleSession) (spawned : s.RecoverySpawned)
    (alive : s.StartsAlive) (hs : s.PipelineOwned) : s'.PipelineOwned := by
  intro child hproc
  cases h with
  | @inbound i fresh | @authorized i fresh =>
    refine update_of (P := fun pc : SessionPc => pc.holdsPipeline = true ∨
      ∃ actions, pc = .disconnectActions (.stopRenderPipeline :: actions)) (hs child hproc) ?_
    rw [fresh]
    rintro (holds | ⟨_, stands⟩)
    · exact Bool.noConfusion holds
    · exact SessionPc.noConfusion stands
  | frameSeen | elapse | airplay => exact hs child hproc
  | childExits =>
    obtain ⟨before, hbefore, same⟩ := RenderProcess.childExits_session hproc
    exact same ▸ hs before hbefore
  | airplayAction stands next =>
    cases next with
    | action applied =>
      rcases Daemon.applyAction_render applied with same | ⟨_, stopped⟩
      · exact hs child (same ▸ hproc)
      · rw [stopped, RenderProcess.stop_proc] at hproc
        cases hproc
    | _ => exact hs child hproc
  | @tick rx =>
    obtain ⟨_, _, frame⟩ := s.daemon.streamWatchTick_frame s.watchdog rx
    simp only [frame] at hproc
    exact hs child hproc
  | @recovery i o pc pc' d stands next =>
    cases next with
    | stopped =>
      simp only [RenderProcess.stop_proc] at hproc
      cases hproc
    | started started =>
      rw [RenderProcess.start_proc started] at hproc
      cases hproc
      have running := alive i (by rw [stands]; rfl)
      have up := spawned i (by rw [stands]; exact RecoveryPc.noConfusion)
      exact .inl (SessionPc.holdsPipeline_of_spawned up running)
    | _ => exact hs child hproc
  | @session i o pc pc' d stands next =>
    exact hs.session owned single stands next hproc

private theorem Threads.pipelineOwned_of_leads {C : Threads → Label → Prop} {s : Threads}
    (h : Threads.system.Reaches C s) (idle : ∀ s l, C s l → ConnectsIdle s l)
    (own : ∀ s l, C s l → RestartsOwn s l) : s.PipelineOwned :=
  h.invariant (fun _ hproc => by cases hproc)
    fun _ _ _ reached hs _ hstep => (Threads.step_cases hstep).pipelineOwned
      (Threads.owned_of_leads reached) (Threads.singleSession_of_leads reached idle)
      (Threads.recoverySpawned_of_leads reached) (Threads.startsAlive_of_leads reached own) hs

private theorem SessionPc.inSession_of_holdsPipeline {pc : SessionPc}
    (h : pc.holdsPipeline = true) :
    pc.inSession = true := by
  cases pc <;> first | rfl | exact Bool.noConfusion h

private theorem Threads.PipelineOwned.recoveryContained {s : Threads} (pipeline : s.PipelineOwned)
    (acts : s.ActsAlive) (owned : s.Owned) (single : s.SingleSession) :
    RecoveryContained s := by
  refine ⟨fun i gone => ?_, fun calm settled => ?_⟩
  · by_contra acting
    have alive := acts i (Bool.eq_true_of_not_eq_false acting)
    rw [gone] at alive
    exact Bool.noConfusion alive
  · cases hproc : s.daemon.render.proc with
    | none => simp only [RenderProcess.isRunning, hproc]
    | some child =>
      rcases pipeline child hproc with holds | ⟨actions, ending⟩
      · have own := single.owner_of_inSession _ (SessionPc.inSession_of_holdsPipeline holds)
        exact absurd (owned.mpr (own ▸ Option.some_ne_none _)) calm
      · exact absurd ending (settled _ _)

private theorem acts_for_ended {s s' : Threads} {l : Label} (late : ¬ RecoversInTime s l)
    (h : Threads.step s l = some s') :
    ∃ i, (s'.sessions i).ended = true ∧ (s'.recoveries i).acting = true := by
  cases Threads.step_cases h with
  | @session i o pc pc' d stands next =>
    simp only [RecoversInTime, Classical.not_imp, Bool.not_eq_false] at late
    obtain ⟨disc, acts⟩ := late
    rw [disc] at stands
    subst stands
    cases next
    refine ⟨i, ?_, ?_⟩
    · simp only [Function.update_self]
      rfl
    · exact acts
  | @recovery i o pc pc' d stands next =>
    simp only [RecoversInTime, Classical.not_imp, not_and_or, Bool.not_eq_false, not_not] at late
    rcases late with ⟨gone, ⟨checks, runs⟩ | ⟨rechecks, miracast⟩⟩
    all_goals
      refine ⟨i, gone, ?_⟩
      simp only [Function.update_self]
      subst stands
    · generalize s.recoveries i = pc at next checks
      cases next with
      | running => rfl
      | notRunning stopped =>
        rw [runs] at stopped
        exact Bool.noConfusion stopped
      | _ => exact Bool.noConfusion checks
    · generalize s.recoveries i = pc at next rechecks
      cases next with
      | recheckHolds => rfl
      | recheckOver left => exact absurd miracast left
      | _ => exact Bool.noConfusion rechecks
  | _ => exact absurd trivial late

/-- Cold-start recovery stays with its session in every run without rejected sources in which it
is in time. The first step of a run that is not in time breaks it.

A recovery thread looks at the state twice, without the lock, and acts some time after each look.
In time is a disconnect that does not come between a look and its act. -/
theorem recovery_contained_iff_in_time (s : Threads) :
    (Threads.system.Reaches (fun s l => ConnectsIdle s l ∧ RecoversInTime s l) s →
      RecoveryContained s) ∧
    (∀ l s', Threads.system.Reaches ConnectsIdle s → ¬ RecoversInTime s l →
      Threads.step s l = some s' → ¬ RecoveryContained s') := by
  refine ⟨fun reached => ?_, fun l s' _ late h contained => ?_⟩
  · have pipeline := Threads.pipelineOwned_of_leads reached (fun _ _ hc => hc.1)
      fun _ _ hc => hc.2.restartsOwn
    exact pipeline.recoveryContained (Threads.actsAlive_of_leads reached fun _ _ hc => hc.2)
      (Threads.owned_of_leads reached) (Threads.singleSession_of_leads reached fun _ _ hc => hc.1)
  · obtain ⟨i, gone, acts⟩ := acts_for_ended late h
    rw [contained.ended_not_acting i gone] at acts
    exact Bool.noConfusion acts

/-- A session whose recovery thread restarts the pipeline, its end, a second session, and the end
of the thread in it. -/
def sessionsInTurn : List Label :=
  List.flatten [.inbound 0 :: List.replicate 10 (.session 0 .ok),
    List.replicate 9 (.recovery 0 .ok), List.replicate 9 (.session 0 .ok), [.tick none],
    .inbound 1 :: List.replicate 5 (.session 1 .ok), List.replicate 3 (.recovery 0 .ok)]

/-- Two sessions in turn: the first one's recovery thread re-rolls its pipeline once, the session
ends, and the thread bows out in the second session. -/
theorem recovery_contained_in_turn :
    ∃ s, Threads.system.Reaches (fun s l => ConnectsIdle s l ∧ RecoversInTime s l) s ∧
      s.sessions 0 = .done ∧ s.recoveries 0 = .done ∧ s.sessions 1 = .negotiate ∧
      RecoveryContained s := by
  obtain ⟨s, run, done, gone, shakes⟩ : ∃ s,
      System.runUnder Threads.system (fun s l => ConnectsIdle s l ∧ RecoversInTime s l)
        Threads.system.init sessionsInTurn = some s ∧
      s.sessions 0 = .done ∧ s.recoveries 0 = .done ∧ s.sessions 1 = .negotiate :=
    System.exists_runUnder (by decide +kernel)
  have reached := System.runUnder_leads _ run
  exact ⟨s, reached, done, gone, shakes, (recovery_contained_iff_in_time s).1 reached⟩

/-- A session that ends after its recovery thread's second look at the state. -/
def restartOvertaken : List Label :=
  List.flatten [.inbound 0 :: List.replicate 10 (.session 0 .ok),
    List.replicate 7 (.recovery 0 .ok), List.replicate 9 (.session 0 .ok), [.recovery 0 .ok]]

/-- A single session whose disconnect falls between the recovery thread's second look at the
state and its start: the session is over and the arbiter idle, and the thread starts the pipeline
and raises the gate. -/
theorem recovery_resurrects_render :
    ∃ s t, Threads.system.Reaches ConnectsIdle s ∧ ¬ RecoveryContained s ∧
      Threads.step s (.recovery 0 .ok) = some t ∧ t.sessions 0 = .done ∧
      t.recoveries 0 = .waitFrame 2 ∧ t.daemon.arbiter.state = .idle ∧
      t.daemon.render.isRunning = true ∧ t.daemon.renderPipelineExpected = true := by
  obtain ⟨s, run, done, acts, restarts⟩ : ∃ s,
      System.runUnder Threads.system ConnectsIdle Threads.system.init restartOvertaken = some s ∧
      s.sessions 0 = .done ∧ s.recoveries 0 = .raiseExpected 1 ∧
      ((Threads.step s (.recovery 0 .ok)).any fun t => decide (t.sessions 0 = .done ∧
        t.recoveries 0 = .waitFrame 2 ∧ t.daemon.arbiter.state = .idle ∧
        t.daemon.render.isRunning = true ∧ t.daemon.renderPipelineExpected = true)) = true :=
    System.exists_runUnder (by decide +kernel)
  obtain ⟨t, step, rest⟩ := (Option.any_eq_true _ _).mp restarts
  refine ⟨s, t, System.runUnder_leads _ run, fun contained => ?_, step, of_decide_eq_true rest⟩
  have calm := contained.ended_not_acting 0 (by rw [done]; rfl)
  rw [acts] at calm
  exact Bool.noConfusion calm

end Castd.Main
