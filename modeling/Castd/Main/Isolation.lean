import Castd.Main.Arbitration

/-!
# What one session's end does to another

The daemon keeps one control socket slot and one session-less disconnect event. Every session
writes the slot when it starts and clears it when it ends, and a failed handshake or an ended
pump feeds `MIRACAST_DISCONNECTED` to the arbiter, whoever the arbiter is serving.

So a session is isolated from another source only while that source has not come as far as
`_run_source_session` (`streaming_of_turnedAway`). Once it has, the slot never names the first
session again (`SlotLost`), and its disconnect ends whatever session the arbiter is in
(`disconnect_ends_session`).
-/

namespace Castd.Main

open Fsm Render Lib

/-- Session `i` streams, with everything the daemon holds for it in place. -/
structure Threads.Streaming (s : Threads) (i : Nat) : Prop where
  pumping : s.sessions i = .pump
  miracast : s.daemon.arbiter.state = .miracast
  presenting : s.daemon.render.proc = some { session := i }
  airplayPaused : s.daemon.uxplay.isRunning = false
  busy : s.daemon.sessionAvailable = false
  slot : s.daemon.activeControlSock = some i

/-- The steps of the threads of session `j`. -/
def OfSession (j : Nat) : Label → Prop
  | .inbound i => i = j
  | .authorized i => i = j
  | .session i _ => i = j
  | .recovery i _ => i = j
  | _ => False

/-- The step does not take a session into `_run_source_session`. -/
def KeepsOut (s : Threads) : Label → Prop
  | .session i _ => s.sessions i ≠ .setSock
  | _ => True

instance (j : Nat) (l : Label) : Decidable (OfSession j l) :=
  match l with
  | .inbound _ | .authorized _ | .session _ _ | .recovery _ _ => inferInstanceAs (Decidable (_ = _))
  | .airplay _ _ | .airplayAction _ | .tick _ | .childExits | .frameSeen | .elapse _ =>
    instDecidableFalse

instance (s : Threads) (l : Label) : Decidable (KeepsOut s l) :=
  match l with
  | .session _ _ => inferInstanceAs (Decidable (_ ≠ _))
  | .inbound _ | .authorized _ | .recovery _ _ | .airplay _ _ | .airplayAction _ | .tick _
  | .childExits | .frameSeen | .elapse _ => instDecidableTrue

/-- Before `_run_source_session`. -/
def SessionPc.outside : SessionPc → Bool
  | .absent => true
  | .checkState => true
  | .dial => true
  | .setSock => true
  | _ => false

/-! ## A source that is turned away -/

/-- A session outside that takes a step other than its entry stays outside or is done, and the
daemon is as it was. -/
private theorem SessionStep.of_outside {i : Nat} {d d' : Daemon} {pc pc' : SessionPc}
    (h : SessionStep i d pc pc' d') (out : pc.outside = true ∨ pc = .done)
    (keeps : pc ≠ .setSock) : d' = d ∧ (pc'.outside = true ∨ pc' = .done) := by
  cases h with
  | ignored | undialed => exact ⟨rfl, .inr rfl⟩
  | dialing | dialed => exact ⟨rfl, .inl rfl⟩
  | sockSet => exact absurd rfl keeps
  | _ =>
    rcases out with out | gone
    · exact Bool.noConfusion out
    · exact SessionPc.noConfusion gone

private theorem Threads.Streaming.of_turnedAway {s t : Threads} {i j : Nat} (other : j ≠ i)
    (spawned : s.RecoverySpawned) (out : (s.sessions j).outside = true) (streams : s.Streaming i)
    (run : Threads.system.Leads (fun s l => OfSession j l ∧ KeepsOut s l) s t) :
    t.Streaming i := by
  suffices h : t.Streaming i ∧ t.recoveries j = .absent ∧
      ((t.sessions j).outside = true ∨ t.sessions j = .done) from h.1
  refine System.Leads.invariant (I := fun t => t.Streaming i ∧ t.recoveries j = .absent ∧
    ((t.sessions j).outside = true ∨ t.sessions j = .done)) run
    ⟨streams, spawned.absent ?_, .inl out⟩ ?_
  · cases hpc : s.sessions j <;> rw [hpc] at out <;> first | rfl | exact Bool.noConfusion out
  · intro u l u' _ ⟨hs, hrec, hout⟩ ⟨own, keeps⟩ hstep
    obtain ⟨pumping, miracast, presenting, paused, busy, slot⟩ := hs
    cases Threads.step_cases hstep with
    | inbound fresh | authorized fresh =>
      subst own
      refine ⟨⟨?_, miracast, presenting, paused, busy, slot⟩, hrec, .inl ?_⟩
      · simp only [Function.update_of_ne other.symm]
        exact pumping
      · simp only [Function.update_self]
        rfl
    | session stands next =>
      subst own
      subst stands
      obtain ⟨rfl, hout'⟩ := next.of_outside hout keeps
      have hspawn : u.sessions _ ≠ .spawnRecovery := fun hspawn => by
        rw [hspawn] at hout
        exact hout.elim Bool.noConfusion SessionPc.noConfusion
      refine ⟨⟨?_, miracast, presenting, paused, busy, slot⟩, ?_, ?_⟩
      · simp only [Function.update_of_ne other.symm]
        exact pumping
      · simp only [if_neg hspawn]
        exact hrec
      · simp only [Function.update_self]
        exact hout'
    | recovery stands next =>
      subst own
      subst stands
      rw [hrec] at next
      cases next
    | _ => exact absurd own id

/-! ## A source that enters -/

/-- Session `i` has entered, and the slot does not name it. -/
def Threads.SlotLost (s : Threads) (i : Nat) : Prop :=
  (s.sessions i).outside = false ∧ s.daemon.activeControlSock ≠ some i

private theorem SessionStep.not_outside {i : Nat} {d d' : Daemon} {pc pc' : SessionPc}
    (h : SessionStep i d pc pc' d') (inside : pc.outside = false) : pc'.outside = false := by
  cases h <;> first | rfl | exact Bool.noConfusion inside

private theorem SessionStep.slot_ne {i j : Nat} {d d' : Daemon} {pc pc' : SessionPc}
    (h : SessionStep j d pc pc' d') (lost : d.activeControlSock ≠ some i)
    (entered : j = i → pc.outside = false) : d'.activeControlSock ≠ some i := by
  by_cases hs : pc = .setSock
  · subst hs
    cases h
    intro hslot
    exact Bool.noConfusion (entered (Option.some.inj hslot))
  by_cases hc : pc = .clearSock
  · subst hc
    cases h
    exact (Option.some_ne_none i).symm
  · rw [h.activeControlSock_eq hs hc]
    exact lost

private theorem Threads.Step.slotLost {s s' : Threads} {l : Label} {i : Nat} (h : s.Step l s')
    (hs : s.SlotLost i) : s'.SlotLost i := by
  obtain ⟨inside, lost⟩ := hs
  cases h with
  | @inbound j fresh | @authorized j fresh =>
    refine ⟨?_, lost⟩
    by_cases hj : i = j
    · subst hj
      rw [fresh] at inside
      exact Bool.noConfusion inside
    · simp only [Function.update_of_ne hj]
      exact inside
  | @session j o pc pc' d stands next =>
    subst stands
    refine ⟨?_, next.slot_ne lost fun hj => hj ▸ inside⟩
    by_cases hj : i = j
    · subst hj
      simp only [Function.update_self]
      exact next.not_outside inside
    · simp only [Function.update_of_ne hj]
      exact inside
  | recovery stands next =>
    refine ⟨inside, ?_⟩
    rw [next.activeControlSock_eq]
    exact lost
  | airplay | childExits | frameSeen | elapse => exact ⟨inside, lost⟩
  | airplayAction stands next =>
    refine ⟨inside, ?_⟩
    rw [next.activeControlSock_eq]
    exact lost
  | @tick rx =>
    obtain ⟨_, _, frame⟩ := s.daemon.streamWatchTick_frame s.watchdog rx
    refine ⟨inside, ?_⟩
    simp only [frame]
    exact lost

private theorem Threads.slotLost_of_leads {C : Threads → Label → Prop} {s t : Threads} {i : Nat}
    (hs : s.SlotLost i) (run : Threads.system.Leads C s t) : t.SlotLost i :=
  run.invariant hs fun _ _ _ _ h _ hstep => (Threads.step_cases hstep).slotLost h

private theorem Threads.SlotLost.not_tripped {s : Threads} {i : Nat} (hs : s.SlotLost i) :
    i ∈ s.daemon.tripStreamWatchdog.closedSocks ↔ i ∈ s.daemon.closedSocks := by
  unfold Daemon.tripStreamWatchdog
  split
  · rename_i sock hslot
    have hne : i ≠ sock := fun hi => hs.2 (hi ▸ hslot)
    simp [Daemon.closeSock, hne]
  · rfl

private theorem Threads.slotLost_of_entry_or_end {s s' : Threads} {i j : Nat} {o : Outcome}
    (other : j ≠ i) (inside : (s.sessions i).outside = false)
    (writes : s.sessions j = .setSock ∨ s.sessions j = .clearSock)
    (h : Threads.step s (.session j o) = some s') : s'.SlotLost i := by
  cases Threads.step_cases h with
  | session stands next =>
    refine ⟨?_, ?_⟩
    · simp only [Function.update_of_ne other.symm]
      exact inside
    · rcases writes with enters | ends
      · rw [enters] at stands
        subst stands
        cases next
        exact fun hslot => other (Option.some.inj hslot)
      · rw [ends] at stands
        subst stands
        cases next
        exact (Option.some_ne_none i).symm

/-- A session's disconnect in MIRACAST ends the session the arbiter is in, whosever it is. -/
theorem disconnect_ends_session {s : Threads} {j : Nat} (stands : s.sessions j = .disconnect)
    (miracast : s.daemon.arbiter.state = .miracast)
    (paused : s.daemon.uxplay.isRunning = false) :
    ∃ t, Threads.system.runFrom s (List.replicate 6 (.session j .ok)) = some t ∧
      (∀ i, i ≠ j → t.sessions i = s.sessions i) ∧ t.daemon.arbiter.state = .idle ∧
      t.daemon.render.proc = none ∧ t.daemon.uxplay.isRunning = true ∧
      t.daemon.sessionAvailable = true := by
  obtain ⟨u, started⟩ : ∃ u, s.daemon.uxplay.start = some u := by
    cases hu : s.daemon.uxplay.start with
    | some u => exact ⟨u, rfl⟩
    | none =>
      rw [Airplay.UxPlayProcess.start_eq_none_iff.mp hu] at paused
      exact Bool.noConfusion paused
  have accepted : s.daemon.arbiter.handle .miracastDisconnected =
      (⟨.idle, [.stopRenderPipeline, .resumeAirplayAdvertising, .resumeMiracastDiscovery,
        .showIdleScreen]⟩, { state := .idle }) := by
    simp only [CastArbiter.handle, CastArbiter.transition, miracast, table]
  simp only [List.replicate, System.runFrom, Threads.system, Threads.step, stands, sessionNext,
    accepted, Daemon.applyAction, started, Function.update_self, Option.map_some,
    Option.bind_some]
  refine ⟨_, rfl, fun i hi => ?_, rfl, RenderProcess.stop_proc _,
    (Airplay.UxPlayProcess.start_spec started).1, rfl⟩
  simp only [Function.update_of_ne hi]

/-! ## Isolation -/

/-- A source that is turned away before `_run_source_session` leaves a streaming session alone.
One that enters, or ends, takes the slot from it for good: no later trip closes its socket, in
any interleaving. And the entered source's disconnect, should the arbiter be in MIRACAST, takes
the arbiter, the display and the AirPlay pause from the streaming session too. -/
theorem session_isolation_iff_turned_away (s : Threads) {i j : Nat} (other : j ≠ i) :
    (∀ t, Threads.system.Reachable s → s.Streaming i → (s.sessions j).outside = true →
      Threads.system.Leads (fun s l => OfSession j l ∧ KeepsOut s l) s t → t.Streaming i) ∧
    (∀ s' t o, (s.sessions i).outside = false →
      (s.sessions j = .setSock ∨ s.sessions j = .clearSock) →
      Threads.step s (.session j o) = some s' →
      Threads.system.Leads (fun _ _ => True) s' t →
      ¬ t.Streaming i ∧ t.daemon.activeControlSock ≠ some i ∧
        (i ∈ t.daemon.tripStreamWatchdog.closedSocks ↔ i ∈ t.daemon.closedSocks)) ∧
    (s.sessions i = .pump → s.sessions j = .disconnect →
      s.daemon.arbiter.state = .miracast → s.daemon.uxplay.isRunning = false →
      ∃ t, Threads.system.runFrom s (List.replicate 6 (.session j .ok)) = some t ∧
        t.sessions i = .pump ∧ t.daemon.arbiter.state = .idle ∧ t.daemon.render.proc = none ∧
        t.daemon.uxplay.isRunning = true ∧ t.daemon.sessionAvailable = true) := by
  refine ⟨fun t reached streams out run => ?_, fun s' t o inside writes h later => ?_,
    fun pumping stands miracast paused => ?_⟩
  · exact streams.of_turnedAway other (Threads.recoverySpawned_of_leads reached) out run
  · have lost := Threads.slotLost_of_leads
      (Threads.slotLost_of_entry_or_end other inside writes h) later
    exact ⟨fun streams => lost.2 streams.slot, lost.2, lost.not_tripped⟩
  · obtain ⟨t, run, frame, idle, stopped, resumed, available⟩ :=
      disconnect_ends_session stands miracast paused
    exact ⟨t, run, (frame i other.symm).trans pumping, idle, stopped, resumed, available⟩

/-- Session 0 streams when a station is authorized: it is turned away. When another source dials
in instead, the slot is lost to it. -/
theorem session_isolation_of_one_station :
    ∃ s t u v, Threads.system.run (.inbound 0 :: List.replicate 10 (.session 0 .ok)) = some s ∧
      Threads.system.Leads (fun s l => OfSession 1 l ∧ KeepsOut s l) s t ∧
      t.sessions 1 = .done ∧ t.Streaming 0 ∧
      Threads.step s (.inbound 1) = some u ∧ Threads.step u (.session 1 .ok) = some v ∧
      v.daemon.activeControlSock ≠ some 0 := by
  obtain ⟨s, t, u, v, run, turned, done, enters, takes, streams, out, inside, stands⟩ :
      ∃ s t u v, Threads.system.run (.inbound 0 :: List.replicate 10 (.session 0 .ok)) = some s ∧
        System.runUnder Threads.system (fun s l => OfSession 1 l ∧ KeepsOut s l) s
          [.authorized 1, .session 1 .ok] = some t ∧
        t.sessions 1 = .done ∧
        Threads.step s (.inbound 1) = some u ∧ Threads.step u (.session 1 .ok) = some v ∧
        s.Streaming 0 ∧ (s.sessions 1).outside = true ∧ (u.sessions 0).outside = false ∧
        u.sessions 1 = .setSock :=
    ⟨_, _, _, _, rfl, rfl, rfl, rfl, rfl, ⟨rfl, rfl, rfl, rfl, rfl, rfl⟩, rfl, rfl, rfl⟩
  have lead := System.runUnder_leads _ turned
  refine ⟨s, t, u, v, run, lead, done, ?_, enters, takes, ?_⟩
  · exact (session_isolation_iff_turned_away s (by decide)).1 t (System.runFrom_leads _ run)
      streams out lead
  · exact ((session_isolation_iff_turned_away u (by decide)).2.1 v v .ok inside (.inl stands)
      takes .refl).2.1

/-- Session 0 streams. A second source's handshake fails: session 0 is still pumped, but the
arbiter is idle, its pipeline is gone, AirPlay is back, the sink is advertised as available and
the slot is empty. -/
theorem failed_handshake_ends_streaming :
    ∃ s t, Threads.system.run (.inbound 0 :: List.replicate 10 (.session 0 .ok)) = some s ∧
      s.Streaming 0 ∧
      Threads.system.runFrom s (.inbound 1 :: List.replicate 4 (.session 1 .ok) ++
        .session 1 .fails :: List.replicate 7 (.session 1 .ok)) = some t ∧
      t.sessions 1 = .done ∧ t.sessions 0 = .pump ∧ t.daemon.arbiter.state = .idle ∧
      t.daemon.render.proc = none ∧ t.daemon.uxplay.isRunning = true ∧
      t.daemon.sessionAvailable = true ∧ t.daemon.activeControlSock = none ∧
      0 ∉ t.daemon.tripStreamWatchdog.closedSocks :=
  ⟨_, _, rfl, ⟨rfl, rfl, rfl, rfl, rfl, rfl⟩, rfl, rfl, rfl, rfl, rfl, rfl, rfl, rfl, by decide⟩

end Castd.Main
