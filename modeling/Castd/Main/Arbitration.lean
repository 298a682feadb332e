import Castd.Main.Threads

/-!
# First connect wins, at the daemon

The table rejects a second source, but `handle_miracast_connected` does not look at the
transition it gets back: the rejected source goes through the same handshake, stops the running
pipeline and starts its own. So the arbitration guarantee is a guarantee about runs in which no
source is rejected at all (`ConnectsIdle`).

In those runs the trail's `owner` names the one session between its connect and its disconnect
(`owner_of_inSession`). A recovery thread starts a pipeline too, and it does so for the owner as
long as its session is not torn down between its second look at the state and the start
(`RestartsOwn`).
-/

namespace Castd.Main

open Fsm Render Lib

/-- Between the arbiter's answer to a session's connect and the transition of its disconnect. -/
def SessionPc.inSession : SessionPc → Bool
  | .connectActions _ => true
  | .negotiate => true
  | .stopRender => true
  | .startRender => true
  | .expectRender => true
  | .spawnRecovery => true
  | .pump => true
  | .closeSock => true
  | .disconnect => true
  | _ => false

/-- In the handshake or past it, with a pipeline to stop, start or keep. -/
def SessionPc.presenting : SessionPc → Bool
  | .negotiate => true
  | .stopRender => true
  | .startRender => true
  | .expectRender => true
  | .spawnRecovery => true
  | .pump => true
  | _ => false

/-- Past the transition of the session's disconnect, or out of its handler by an exception. -/
def SessionPc.ended : SessionPc → Bool
  | .disconnectActions _ => true
  | .clearSock => true
  | .done => true
  | _ => false

/-- A recovery thread past its second look at the state, before its `render.start`. -/
def RecoveryPc.starting : RecoveryPc → Bool
  | .startRender _ => true
  | _ => false

/-- A recovery thread about to look at the state a second time. -/
def RecoveryPc.rechecking : RecoveryPc → Bool
  | .recheckState _ => true
  | _ => false

/-- What the arbitration guarantee says of one reachable state. -/
structure FirstConnectWins (s : Threads) : Prop where
  /-- A rejected source is not served. -/
  rejected_not_presenting : ∀ i, s.trail.rejected i = true → (s.sessions i).presenting = false
  /-- A rejected source does not sit in the control socket slot. -/
  rejected_not_in_slot : ∀ i, s.trail.rejected i = true → s.daemon.activeControlSock ≠ some i
  /-- The thread of a rejected source leaves the state, the pipeline, the slot and the gate. -/
  rejected_frame : ∀ i o s', s.trail.rejected i = true →
    Threads.step s (.session i o) = some s' →
    s'.daemon.arbiter.state = s.daemon.arbiter.state ∧ s'.daemon.render = s.daemon.render ∧
      s'.daemon.activeControlSock = s.daemon.activeControlSock ∧
      s'.daemon.renderPipelineExpected = s.daemon.renderPipelineExpected
  /-- At most one source is between arbitration and its end. -/
  single : ∀ i j, (s.sessions i).inSession = true → (s.sessions j).inSession = true → i = j
  /-- A pipeline is started in MIRACAST only, for the session that took the arbiter there. -/
  starts_own : ∀ i, (s.sessions i = .startRender ∨ (s.recoveries i).starting = true) →
    s.daemon.arbiter.state = .miracast ∧ s.trail.owner = some i

/-- Every connect is handled while the arbiter is idle: no source is rejected.

The arbiter does reject a source that connects in MIRACAST, but `handle_miracast_connected` drops
the transition it is given and goes on with the handshake and the pipeline. -/
def ConnectsIdle (s : Threads) : Label → Prop
  | .session i _ => s.sessions i = .connect → s.daemon.arbiter.state = .idle
  | _ => True

/-- No session is disconnected while its recovery thread is about to start the pipeline, and no
recovery thread whose session has ended finds the state back in MIRACAST at its second look. -/
def RestartsOwn (s : Threads) : Label → Prop
  | .session i _ => s.sessions i = .disconnect → (s.recoveries i).starting = false
  | .recovery i _ => (s.recoveries i).rechecking = true → (s.sessions i).ended = true →
    s.daemon.arbiter.state ≠ .miracast
  | _ => True

instance (s : Threads) (l : Label) : Decidable (ConnectsIdle s l) :=
  match l with
  | .session _ _ => inferInstanceAs (Decidable (_ → _))
  | .inbound _ | .authorized _ | .recovery _ _ | .airplay _ _ | .airplayAction _ | .tick _
  | .childExits | .frameSeen | .elapse _ => instDecidableTrue

instance (s : Threads) (l : Label) : Decidable (RestartsOwn s l) :=
  match l with
  | .session _ _ => inferInstanceAs (Decidable (_ → _))
  | .recovery _ _ => inferInstanceAs (Decidable (_ → _ → _))
  | .inbound _ | .authorized _ | .airplay _ _ | .airplayAction _ | .tick _ | .childExits
  | .frameSeen | .elapse _ => instDecidableTrue

/-! ## The owner -/

/-- The arbiter is in MIRACAST exactly while some session owns the display. -/
def Threads.Owned (s : Threads) : Prop :=
  s.daemon.arbiter.state = .miracast ↔ s.trail.owner ≠ none

/-- One step keeps it: a step that moves the arbiter moves the owner with it. -/
theorem Threads.Step.owned {s s' : Threads} {l : Label} (h : s.Step l s') (hs : s.Owned) :
    s'.Owned := by
  unfold Threads.Owned at hs ⊢
  cases h with
  | inbound | authorized | childExits | frameSeen | elapse => exact hs
  | @session i o pc pc' d stands next =>
    by_cases hc : pc = .connect
    · subst hc
      cases next
      simp only [CastArbiter.handle_miracastConnected_state, Trail.afterSession_connect_owner]
      split
      · exact iff_of_true rfl (Option.some_ne_none i)
      · exact hs
    by_cases hd : pc = .disconnect
    · subst hd
      cases next
      simp only [CastArbiter.handle_miracastDisconnected_state,
        Trail.afterSession_disconnect_owner]
      split
      · exact iff_of_false State.noConfusion (fun h => h rfl)
      · exact hs
    · show d.arbiter.state = .miracast ↔ _
      rw [next.arbiter_eq hc hd, Trail.afterSession_owner_eq _ _ _ _ hc hd]
      exact hs
  | recovery stands next =>
    show _ ↔ s.trail.owner ≠ none
    rw [next.arbiter_eq]
    exact hs
  | airplay fresh event_eq =>
    exact (CastArbiter.handle_airplay_miracast_iff _ event_eq).trans hs
  | airplayAction stands next =>
    show _ ↔ s.trail.owner ≠ none
    rw [next.arbiter_eq]
    exact hs
  | @tick rx =>
    obtain ⟨_, _, frame⟩ := s.daemon.streamWatchTick_frame s.watchdog rx
    simp only [frame, Trail.afterTick_owner]
    exact hs

/-- Every state a run reaches has it, whatever the steps. -/
theorem Threads.owned_of_leads {C : Threads → Label → Prop} {s : Threads}
    (h : Threads.system.Reaches C s) : s.Owned :=
  h.invariant (iff_of_false State.noConfusion (fun h => h rfl))
    fun _ _ _ _ hs _ hstep => (Threads.step_cases hstep).owned hs

private theorem SessionStep.inSession_from {i : Nat} {d d' : Daemon} {pc pc' : SessionPc}
    (h : SessionStep i d pc pc' d') (inside : pc'.inSession = true) :
    pc = .connect ∨ (pc.inSession = true ∧ pc ≠ .disconnect) := by
  cases h with
  | connected => exact .inl rfl
  | _ => first
    | exact .inr ⟨rfl, SessionPc.noConfusion⟩
    | exact absurd inside Bool.false_ne_true

private theorem Trail.afterSession_rejected_eq (t : Trail) (d : Daemon) (i : Nat) {pc : SessionPc}
    (pc' : SessionPc) (h : pc = .connect → d.arbiter.state = .idle) :
    (t.afterSession d i pc pc').rejected = t.rejected := by
  unfold afterSession
  split
  · rw [if_pos (accepts_miracastConnected_iff.mpr (h rfl))]
  · split <;> rfl
  · rfl
  · rfl

/-- Without rejected sources, the owner is the one session between its connect and its
disconnect. -/
structure Threads.SingleSession (s : Threads) : Prop where
  owner_of_inSession : ∀ j, (s.sessions j).inSession = true → s.trail.owner = some j
  not_rejected : ∀ j, s.trail.rejected j = false

private theorem Threads.Step.singleSession {s s' : Threads} {l : Label} (h : s.Step l s')
    (hc : ConnectsIdle s l) (owned : s.Owned) (hs : s.SingleSession) : s'.SingleSession := by
  obtain ⟨owns, free⟩ := hs
  cases h with
  | @inbound i fresh | @authorized i fresh =>
    refine ⟨fun j inside => owns j ?_, free⟩
    exact of_update (P := fun pc : SessionPc => pc.inSession = true) inside Bool.false_ne_true
  | childExits | frameSeen | elapse | airplay | airplayAction | recovery => exact ⟨owns, free⟩
  | tick =>
    exact ⟨fun j inside => by rw [Trail.afterTick_owner]; exact owns j inside,
      fun j => by rw [Trail.afterTick_rejected]; exact free j⟩
  | @session i o pc pc' d stands next =>
    have idle : pc = .connect → s.daemon.arbiter.state = .idle :=
      fun hpc => hc (stands.trans hpc)
    refine ⟨fun j inside => ?_, fun j => by
      rw [Trail.afterSession_rejected_eq _ _ _ _ idle]
      exact free j⟩
    show (s.trail.afterSession s.daemon i pc pc').owner = some j
    by_cases hj : j = i
    · subst hj
      simp only [Function.update_self] at inside
      rcases next.inSession_from inside with rfl | ⟨before, hd⟩
      · rw [Trail.afterSession_connect_owner, if_pos (idle rfl)]
      · have hne : pc ≠ .connect := fun hpc => by
          subst hpc
          exact absurd before Bool.false_ne_true
        rw [Trail.afterSession_owner_eq _ _ _ _ hne hd]
        exact owns j (stands ▸ before)
    · simp only [Function.update_of_ne hj] at inside
      have hown := owns j inside
      by_cases hconn : pc = .connect
      · -- the arbiter is idle, so no session can own the display
        have none_owner : s.trail.owner = none := by
          by_contra some_owner
          have := owned.mpr some_owner
          rw [idle hconn] at this
          exact State.noConfusion this
        rw [none_owner] at hown
        exact absurd hown (Option.some_ne_none j).symm
      by_cases hdis : pc = .disconnect
      · have inside_i : (s.sessions i).inSession = true := by rw [stands, hdis]; rfl
        have := owns i inside_i
        rw [hown] at this
        exact absurd (Option.some.inj this) hj
      · rw [Trail.afterSession_owner_eq _ _ _ _ hconn hdis]
        exact hown

/-- In a run without rejected sources every state has a single session. -/
theorem Threads.singleSession_of_leads {C : Threads → Label → Prop} {s : Threads}
    (h : Threads.system.Reaches C s) (idle : ∀ s l, C s l → ConnectsIdle s l) :
    s.SingleSession :=
  h.invariant
    ⟨fun _ inside => absurd inside Bool.false_ne_true, fun _ => rfl⟩
    fun _ _ _ reached hs hc hstep => (Threads.step_cases hstep).singleSession (idle _ _ hc)
      (Threads.owned_of_leads reached) hs

/-! ## Recovery threads -/

/-- Where a session stands once it has spawned its recovery thread. -/
def SessionPc.spawned : SessionPc → Bool
  | .pump => true
  | .closeSock => true
  | .disconnect => true
  | .disconnectActions _ => true
  | .clearSock => true
  | .done => true
  | _ => false

private theorem SessionPc.inSession_of_spawned {pc : SessionPc} (h : pc.spawned = true)
    (running : pc.ended = false) : pc.inSession = true := by
  cases pc with
  | pump | closeSock | disconnect => rfl
  | disconnectActions | clearSock | done => exact Bool.noConfusion running
  | _ => exact absurd h Bool.false_ne_true

/-- A session does not go back before the spawn. -/
theorem SessionStep.spawned {i : Nat} {d d' : Daemon} {pc pc' : SessionPc}
    (h : SessionStep i d pc pc' d') (hs : pc.spawned = true) : pc'.spawned = true := by
  cases h <;> first | rfl | exact absurd hs Bool.false_ne_true

private theorem recoveries_afterSession (recoveries : Nat → RecoveryPc) (i : Nat) (pc : SessionPc)
    (j : Nat) :
    (if pc = .spawnRecovery then Function.update recoveries i (.waitFrame 1) else recoveries) j =
        recoveries j ∨
      j = i ∧ (if pc = .spawnRecovery then Function.update recoveries i (.waitFrame 1)
        else recoveries) j = .waitFrame 1 := by
  split
  · by_cases hj : j = i
    · exact .inr ⟨hj, by rw [hj, Function.update_self]⟩
    · exact .inl (Function.update_of_ne hj _ _)
  · exact .inl rfl

/-- A recovery thread belongs to a session that has spawned it. -/
def Threads.RecoverySpawned (s : Threads) : Prop :=
  ∀ i, s.recoveries i ≠ .absent → (s.sessions i).spawned = true

/-- One step keeps it. -/
theorem Threads.Step.recoverySpawned {s s' : Threads} {l : Label} (h : s.Step l s')
    (hs : s.RecoverySpawned) : s'.RecoverySpawned := by
  intro j present
  cases h with
  | @inbound i fresh | @authorized i fresh =>
    refine update_of (P := fun pc : SessionPc => pc.spawned = true) (hs j present) ?_
    rw [fresh]
    exact Bool.false_ne_true
  | childExits | frameSeen | elapse | airplay | airplayAction | tick => exact hs j present
  | @recovery i o pc pc' d stands next =>
    by_cases hj : j = i
    · subst hj
      refine hs j fun habsent => ?_
      rw [habsent] at stands
      subst stands
      cases next
    · simp only [Function.update_of_ne hj] at present
      exact hs j present
  | @session i o pc pc' d stands next =>
    by_cases hj : j = i
    · subst hj
      simp only [Function.update_self] at present ⊢
      split at present
      · rename_i hspawn
        subst hspawn
        cases next
        rfl
      · exact next.spawned (stands ▸ hs j present)
    · simp only [Function.update_of_ne hj]
      rcases recoveries_afterSession s.recoveries i pc j with same | ⟨rfl, _⟩
      · exact hs j (same ▸ present)
      · exact absurd rfl hj

/-- Every state a run reaches has it. -/
theorem Threads.recoverySpawned_of_leads {C : Threads → Label → Prop} {s : Threads}
    (h : Threads.system.Reaches C s) : s.RecoverySpawned :=
  h.invariant (fun _ present => absurd rfl present)
    fun _ _ _ _ hs _ hstep => (Threads.step_cases hstep).recoverySpawned hs

/-- A step that ends a session is its disconnect, or an exception before it has spawned its
recovery thread. -/
private theorem SessionStep.ended_from {i : Nat} {d d' : Daemon} {pc pc' : SessionPc}
    (h : SessionStep i d pc pc' d') (gone : pc'.ended = true) :
    pc.ended = true ∨ pc = .disconnect ∨ pc.spawned = false := by
  cases h with
  | disconnected => exact .inr (.inl rfl)
  | _ => first
    | exact .inl rfl
    | exact .inr (.inr rfl)
    | exact absurd gone Bool.false_ne_true

/-- The recovery thread of a session whose own thread has not spawned it is absent. -/
theorem Threads.RecoverySpawned.absent {s : Threads} (hs : s.RecoverySpawned) {i : Nat}
    (h : (s.sessions i).spawned = false) : s.recoveries i = .absent := by
  by_contra present
  rw [hs i present] at h
  exact Bool.noConfusion h

/-- A session that owns the display and has spawned its recovery thread has not ended. -/
def Threads.OwnerAlive (s : Threads) : Prop :=
  ∀ i, s.trail.owner = some i → s.recoveries i ≠ .absent → (s.sessions i).ended = false

/-- A step of a session that owns the display, other than a disconnect, does not end it while its
recovery thread is there. -/
private theorem Threads.OwnerAlive.ownSession {s : Threads} (hs : s.OwnerAlive)
    (spawned : s.RecoverySpawned) {i : Nat} {pc pc' : SessionPc} {d : Daemon}
    (stands : s.sessions i = pc) (next : SessionStep i s.daemon pc pc' d) (hd : pc ≠ .disconnect)
    (owns : (s.trail.afterSession s.daemon i pc pc').owner = some i)
    (present : (if pc = .spawnRecovery then Function.update s.recoveries i (.waitFrame 1)
      else s.recoveries) i ≠ .absent) : pc'.ended = false := by
  by_contra gone
  have gone : pc'.ended = true := Bool.eq_true_of_not_eq_false gone
  rcases next.ended_from gone with before | rfl | early
  · have hc : pc ≠ .connect := fun hc => by
      rw [hc] at before
      exact Bool.noConfusion before
    have hspawn : pc ≠ .spawnRecovery := fun hspawn => by
      rw [hspawn] at before
      exact Bool.noConfusion before
    rw [if_neg hspawn] at present
    rw [Trail.afterSession_owner_eq _ _ _ _ hc hd] at owns
    have := hs i owns present
    rw [stands, before] at this
    exact Bool.noConfusion this
  · exact hd rfl
  · have hspawn : pc ≠ .spawnRecovery := fun hspawn => by
      subst hspawn
      cases next
      exact Bool.noConfusion gone
    rw [if_neg hspawn] at present
    exact present (spawned.absent (stands ▸ early))

/-- One step keeps it: a session with a recovery thread ends by a disconnect, which the arbiter
accepts while the session owns the display. -/
private theorem Threads.Step.ownerAlive {s s' : Threads} {l : Label} (h : s.Step l s')
    (owned : s.Owned)
    (spawned : s.RecoverySpawned) (hs : s.OwnerAlive) : s'.OwnerAlive := by
  intro j owns present
  cases h with
  | @inbound i fresh | @authorized i fresh =>
    by_cases hj : j = i
    · subst hj
      simp only [Function.update_self]
      rfl
    · simp only [Function.update_of_ne hj]
      exact hs j owns present
  | childExits | frameSeen | elapse | airplay | airplayAction => exact hs j owns present
  | tick => exact hs j (by rw [← Trail.afterTick_owner]; exact owns) present
  | @recovery i o pc pc' d stands next =>
    by_cases hj : j = i
    · subst hj
      refine hs j owns fun habsent => ?_
      rw [habsent] at stands
      subst stands
      cases next
    · simp only [Function.update_of_ne hj] at present
      exact hs j owns present
  | @session i o pc pc' d stands next =>
    change (s.trail.afterSession s.daemon i pc pc').owner = some j at owns
    have hd : pc ≠ .disconnect := by
      -- no session owns the display after a disconnect
      rintro rfl
      rw [Trail.afterSession_disconnect_owner] at owns
      split at owns
      · cases owns
      · rename_i calm
        exact absurd (owned.mpr (owns ▸ Option.some_ne_none j)) calm
    by_cases hj : j = i
    · subst hj
      simp only [Function.update_self] at present ⊢
      exact hs.ownSession spawned stands next hd owns present
    · simp only [Function.update_of_ne hj] at present ⊢
      rcases recoveries_afterSession s.recoveries i pc j with same | ⟨rfl, _⟩
      swap
      · exact absurd rfl hj
      rw [same] at present
      by_cases hc : pc = .connect
      · subst hc
        rw [Trail.afterSession_connect_owner] at owns
        split at owns
        · exact absurd (Option.some.inj owns).symm hj
        · exact hs j owns present
      · rw [Trail.afterSession_owner_eq _ _ _ _ hc hd] at owns
        exact hs j owns present

private theorem Threads.ownerAlive_of_leads {C : Threads → Label → Prop} {s : Threads}
    (h : Threads.system.Reaches C s) : s.OwnerAlive :=
  h.invariant (fun _ owns => absurd owns.symm (Option.some_ne_none _))
    fun _ _ _ reached hs _ hstep => (Threads.step_cases hstep).ownerAlive
      (Threads.owned_of_leads reached) (Threads.recoverySpawned_of_leads reached) hs

/-- Recovery threads with a mark belong to sessions that have not ended. One step keeps it, when
no session is disconnected under the mark and no recovery thread of an ended session comes to
it. -/
theorem Threads.Step.marked_alive {mark : RecoveryPc → Bool} {s s' : Threads} {l : Label}
    (h : s.Step l s') (spawned : s.RecoverySpawned) (absent : mark .absent = false)
    (fresh : mark (.waitFrame 1) = false)
    (calm : ∀ i o, l = .session i o → s.sessions i = .disconnect → mark (s.recoveries i) = false)
    (comes : ∀ i o pc' d, l = .recovery i o → (s.sessions i).ended = true →
      RecoveryStep i s.daemon (s.recoveries i) pc' d → mark pc' = true →
      mark (s.recoveries i) = true)
    (hs : ∀ i, mark (s.recoveries i) = true → (s.sessions i).ended = false) :
    ∀ i, mark (s'.recoveries i) = true → (s'.sessions i).ended = false := by
  intro j marked
  cases h with
  | @inbound i _ | @authorized i _ =>
    by_cases hj : j = i
    · subst hj
      simp only [Function.update_self]
      rfl
    · simp only [Function.update_of_ne hj]
      exact hs j marked
  | childExits | frameSeen | elapse | airplay | airplayAction | tick => exact hs j marked
  | @recovery i o pc pc' d stands next =>
    by_cases hj : j = i
    · subst hj
      simp only [Function.update_self] at marked
      by_contra gone
      have gone : (s.sessions j).ended = true := Bool.eq_true_of_not_eq_false gone
      have alive := hs j (comes j o pc' d rfl gone (stands ▸ next) marked)
      rw [gone] at alive
      exact Bool.noConfusion alive
    · simp only [Function.update_of_ne hj] at marked
      exact hs j marked
  | @session i o pc pc' d stands next =>
    have before : mark (s.recoveries j) = true := by
      rcases recoveries_afterSession s.recoveries i pc j with same | ⟨_, waits⟩
      · exact same ▸ marked
      · simp only [waits, fresh] at marked
        exact Bool.noConfusion marked
    by_cases hj : j = i
    · subst hj
      simp only [Function.update_self]
      by_contra gone
      rcases next.ended_from (Bool.eq_true_of_not_eq_false gone) with gone | rfl | early
      · have alive := hs j before
        rw [stands, gone] at alive
        exact Bool.noConfusion alive
      · rw [calm j o rfl stands] at before
        exact Bool.noConfusion before
      · rw [spawned.absent (stands ▸ early), absent] at before
        exact Bool.noConfusion before
    · simp only [Function.update_of_ne hj]
      exact hs j before

/-- A recovery thread about to start a pipeline does so while its session has not ended. -/
def Threads.StartsAlive (s : Threads) : Prop :=
  ∀ i, (s.recoveries i).starting = true → (s.sessions i).ended = false

/-- A recovery thread comes to its start through the second look, in MIRACAST. -/
theorem RecoveryStep.starting_from {i : Nat} {d d' : Daemon} {pc pc' : RecoveryPc}
    (h : RecoveryStep i d pc pc' d') (starts : pc'.starting = true) :
    pc.rechecking = true ∧ d.arbiter.state = .miracast := by
  cases h with
  | recheckHolds holds => exact ⟨rfl, holds⟩
  | _ => exact absurd starts Bool.false_ne_true

private theorem Threads.Step.startsAlive {s s' : Threads} {l : Label} (h : s.Step l s')
    (hr : RestartsOwn s l) (spawned : s.RecoverySpawned) (hs : s.StartsAlive) :
    s'.StartsAlive := by
  refine h.marked_alive spawned rfl rfl ?_ ?_ hs
  · rintro i o rfl stands
    exact hr stands
  · rintro i o pc' d rfl gone next starts
    obtain ⟨rechecks, holds⟩ := next.starting_from starts
    exact absurd holds (hr rechecks gone)

/-- In a run whose restarts stay with their sessions every state has it. -/
theorem Threads.startsAlive_of_leads {C : Threads → Label → Prop} {s : Threads}
    (h : Threads.system.Reaches C s) (own : ∀ s l, C s l → RestartsOwn s l) : s.StartsAlive :=
  h.invariant (fun _ starts => absurd starts Bool.false_ne_true)
    fun _ _ _ reached hs hc hstep => (Threads.step_cases hstep).startsAlive (own _ _ hc)
      (Threads.recoverySpawned_of_leads reached) hs

/-! ## The guarantee -/

/-- The guarantee holds of a state with a single session, no rejected source and no restart on
behalf of an ended session. -/
private theorem Threads.SingleSession.firstConnectWins {s : Threads} (single : s.SingleSession)
    (owned : s.Owned) (spawned : s.RecoverySpawned) (alive : s.StartsAlive) :
    FirstConnectWins s := by
  have nobody : ∀ {p : Prop} i, s.trail.rejected i = true → p := fun i hrej =>
    absurd (hrej.symm.trans (single.not_rejected i)) Bool.noConfusion
  refine ⟨fun i => nobody i, fun i => nobody i, fun i _ _ => nobody i, fun i j hi hj => ?_,
    fun i starts => ?_⟩
  · have hown := single.owner_of_inSession i hi
    rw [single.owner_of_inSession j hj] at hown
    exact (Option.some.inj hown).symm
  · have inside : (s.sessions i).inSession = true := by
      rcases starts with own | restart
      · rw [own]
        rfl
      · refine SessionPc.inSession_of_spawned (spawned i fun habsent => ?_) (alive i restart)
        rw [habsent] at restart
        exact Bool.noConfusion restart
    have hown := single.owner_of_inSession i inside
    exact ⟨owned.mpr (hown ▸ Option.some_ne_none i), hown⟩

private theorem serves_rejected {s : Threads} {i : Nat} (stands : s.sessions i = .connect)
    (busy : s.daemon.arbiter.state ≠ .idle) :
    ∃ t, Threads.system.runFrom s [.session i .ok, .session i .ok, .session i .ok] = some t ∧
      ¬ FirstConnectWins t := by
  have rejected := CastArbiter.handle_of_not_accepts (mt accepts_miracastConnected_iff.mp busy)
  simp only [System.runFrom, Threads.system, Threads.step, stands, sessionNext, rejected,
    Daemon.applyAction, Function.update_self, Option.map_some, Option.bind_some]
  refine ⟨_, rfl, fun wins => ?_⟩
  have idle := wins.rejected_not_presenting i (by
    simp only [Trail.afterSession, if_neg (mt accepts_miracastConnected_iff.mp busy),
      Function.update_self])
  simp only [Function.update_self] at idle
  exact Bool.noConfusion idle

private theorem starts_unowned_of_disconnect {s s' : Threads} {i : Nat} {o : Outcome}
    (stands : s.sessions i = .disconnect) (restarts : (s.recoveries i).starting = true)
    (h : Threads.step s (.session i o) = some s') : ¬ FirstConnectWins s' := by
  intro wins
  cases Threads.step_cases h with
  | session hpc next =>
    rw [stands] at hpc
    subst hpc
    cases next
    obtain ⟨miracast, _⟩ := wins.starts_own i (.inr (by simpa using restarts))
    rw [CastArbiter.handle_miracastDisconnected_state] at miracast
    split at miracast
    · cases miracast
    · contradiction

/-- A recovery thread that outlives its session and passes its second look starts a pipeline
for a session that is over. -/
private theorem starts_unowned_of_recheck {s s' : Threads} {i : Nat} {o : Outcome}
    (alive : s.OwnerAlive) (rechecks : (s.recoveries i).rechecking = true)
    (gone : (s.sessions i).ended = true) (miracast : s.daemon.arbiter.state = .miracast)
    (h : Threads.step s (.recovery i o) = some s') : ¬ FirstConnectWins s' := by
  intro wins
  cases Threads.step_cases h with
  | recovery hpc next =>
    subst hpc
    have present : s.recoveries i ≠ .absent := fun habsent => by
      rw [habsent] at rechecks
      exact Bool.noConfusion rechecks
    generalize hpc : s.recoveries i = pc at next rechecks
    cases next with
    | recheckHolds =>
      obtain ⟨_, owns⟩ := wins.starts_own i (.inr (by simp [RecoveryPc.starting]))
      have := alive i owns present
      rw [gone] at this
      exact Bool.noConfusion this
    | recheckOver left => exact left miracast
    | _ => exact Bool.noConfusion rechecks

/-- First connect wins in every state of every run in which no source is rejected and no restart
is torn down or overtaken. From the first step that is otherwise a run goes on to a state where
it does not.

So the condition is the weakest that can be put on single steps: a rejected source can still stop
the pipeline of the one that streams, and a recovery thread can start one behind a teardown. -/
theorem first_connect_wins (s : Threads) :
    (Threads.system.Reaches (fun s l => ConnectsIdle s l ∧ RestartsOwn s l) s →
      FirstConnectWins s) ∧
    (∀ l s', Threads.system.Reachable s → Threads.step s l = some s' →
      ¬ (ConnectsIdle s l ∧ RestartsOwn s l) →
      ∃ t, Threads.system.Leads (fun _ _ => True) s t ∧ ¬ FirstConnectWins t) := by
  refine ⟨fun reached => ?_, fun l s' reached h breaks => ?_⟩
  · exact (Threads.singleSession_of_leads reached fun _ _ hc => hc.1).firstConnectWins
      (Threads.owned_of_leads reached) (Threads.recoverySpawned_of_leads reached)
      (Threads.startsAlive_of_leads reached fun _ _ hc => hc.2)
  · have one : ¬ FirstConnectWins s' →
        ∃ t, Threads.system.Leads (fun _ _ => True) s t ∧ ¬ FirstConnectWins t :=
      fun hn => ⟨s', .step .refl trivial h, hn⟩
    rw [not_and_or] at breaks
    cases l with
    | session i o =>
      simp only [ConnectsIdle, RestartsOwn, Classical.not_imp, Bool.not_eq_false] at breaks
      rcases breaks with ⟨stands, busy⟩ | ⟨stands, restarts⟩
      · obtain ⟨t, run, hn⟩ := serves_rejected stands busy
        exact ⟨t, System.runFrom_leads _ run, hn⟩
      · exact one (starts_unowned_of_disconnect stands restarts h)
    | recovery i o =>
      simp only [ConnectsIdle, RestartsOwn, not_true_eq_false, false_or, Classical.not_imp,
        not_not] at breaks
      obtain ⟨rechecks, gone, miracast⟩ := breaks
      exact one (starts_unowned_of_recheck (Threads.ownerAlive_of_leads reached) rechecks gone
        miracast h)
    | _ => simp [ConnectsIdle, RestartsOwn] at breaks

/-- A session streams and ends, and a second one streams after it. -/
theorem first_connect_wins_in_turn :
    ∃ s, Threads.system.run
        (.inbound 0 :: List.replicate 19 (.session 0 .ok) ++
          .inbound 1 :: List.replicate 10 (.session 1 .ok)) = some s ∧
      s.sessions 0 = .done ∧ s.sessions 1 = .pump ∧ FirstConnectWins s := by
  refine ⟨_, rfl, rfl, rfl, (first_connect_wins _).1 ?_⟩
  exact System.runUnder_leads (.inbound 0 :: List.replicate 19 (.session 0 .ok) ++
    .inbound 1 :: List.replicate 10 (.session 1 .ok)) rfl

/-- Session 0 streams. A second source comes in, the arbiter rejects it, and it still stops the
first one's pipeline, starts its own and takes the socket slot. -/
theorem second_source_takes_display :
    ∃ s, Threads.system.Reachable s ∧ s.trail.rejected 1 = true ∧ s.sessions 1 = .pump ∧
      s.sessions 0 = .pump ∧ s.daemon.render.proc = some { session := 1 } ∧
      s.daemon.activeControlSock = some 1 ∧ ¬ FirstConnectWins s := by
  have run : ∃ s, Threads.system.run
      (.inbound 0 :: List.replicate 10 (.session 0 .ok) ++
        .inbound 1 :: List.replicate 9 (.session 1 .ok)) = some s ∧
      s.trail.rejected 1 = true ∧ s.sessions 1 = .pump ∧ s.sessions 0 = .pump ∧
      s.daemon.render.proc = some { session := 1 } ∧ s.daemon.activeControlSock = some 1 :=
    System.exists_run (by decide +kernel)
  obtain ⟨s, run, rejected, pump1, pump0, proc, slot⟩ := run
  refine ⟨s, System.runFrom_leads _ run, rejected, pump1, pump0, proc, slot, fun wins => ?_⟩
  exact wins.rejected_not_in_slot 1 rejected slot

end Castd.Main
