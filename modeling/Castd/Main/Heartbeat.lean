import Castd.Lib.System
import Castd.Main.Daemon

/-!
# What the health endpoint reports

`_watchdog_heartbeat_loop` pings systemd and leaves `HealthState` alone; `HealthState.heartbeat`
is called at the end of `_apply_actions` only. So the age in `/health` is the time since the last
FSM event, and a daemon nobody connects to is unhealthy after half a minute, pinging or not.
-/

namespace Castd.Main

open Fsm Lib

/-- The daemon on a time line, with the time of the last watchdog ping. -/
structure HeartbeatRun where
  daemon : Daemon := Daemon.started
  lastPing : ℚ := 0
  /-- When `_apply_actions` last ran to its end, or the daemon was started. -/
  lastApplied : ℚ := 0

/-- Time passes, the watchdog loop pings, or an FSM event is handled. -/
inductive HeartbeatLabel
  | elapse (seconds : ℚ)
  | ping
  | event (event : Event)
  deriving DecidableEq

/-- One round of `_watchdog_heartbeat_loop`: `sdnotify.notify(watchdog=True, ...)`. -/
def HeartbeatRun.ping (s : HeartbeatRun) : HeartbeatRun := { s with lastPing := s.daemon.now }

/-- The step function. The loop pings at least every ten seconds. -/
def HeartbeatRun.step (s : HeartbeatRun) : HeartbeatLabel → Option HeartbeatRun
  | .elapse seconds =>
    if 0 ≤ seconds ∧ s.daemon.now + seconds - s.lastPing ≤ 10 then
      some { s with daemon := { s.daemon with now := s.daemon.now + seconds } }
    else none
  | .ping => some s.ping
  | .event event =>
    some { s with
      daemon := (s.daemon.handleEvent event).1
      lastApplied :=
        if (s.daemon.handleEvent event).2 then s.lastApplied else s.daemon.now }

/-- The system, from a started daemon. -/
def HeartbeatRun.system : System HeartbeatRun HeartbeatLabel :=
  { init := {}, step := HeartbeatRun.step }

/-- The answer of `/health` a live daemon owes: 200, with the age of the last ping. -/
structure ReportsPing (s : HeartbeatRun) : Prop where
  healthy : s.daemon.health.isHealthy s.daemon.now = true
  status : s.daemon.health.doGetStatus s.daemon.now "/health" = 200
  age : (s.daemon.health.snapshot s.daemon.now).secondsSinceHeartbeat =
    roundTenth (s.daemon.now - s.lastPing)

private theorem Daemon.applyActions_health (actions : List Action) :
    ∀ d : Daemon, (d.applyActions actions).1.now = d.now ∧
      (d.applyActions actions).1.health.lastHeartbeat =
        if (d.applyActions actions).2 then d.health.lastHeartbeat else d.now := by
  induction actions with
  | nil =>
    intro d
    exact ⟨rfl, rfl⟩
  | cons action actions ih =>
    intro d
    unfold applyActions
    cases happly : d.applyAction action with
    | none => exact ⟨rfl, rfl⟩
    | some d' =>
      obtain ⟨_, _, _, health, _, now⟩ := applyAction_frame happly
      obtain ⟨sameNow, reported⟩ := ih d'
      rw [← health, ← now]
      exact ⟨sameNow, reported⟩

private theorem Daemon.handleEvent_health (d : Daemon) (event : Event) :
    (d.handleEvent event).1.now = d.now ∧
      (d.handleEvent event).1.health.lastHeartbeat =
        if (d.handleEvent event).2 then d.health.lastHeartbeat else d.now :=
  applyActions_health _ { d with arbiter := (d.arbiter.handle event).2 }

/-- The heartbeat is the end of the last `_apply_actions`, and the loop is in time. -/
structure HeartbeatRun.Timed (s : HeartbeatRun) : Prop where
  heartbeat : s.daemon.health.lastHeartbeat = s.lastApplied
  pinged : s.daemon.now - s.lastPing ≤ 10

/-- One step keeps it. A ping does not touch the heartbeat. -/
theorem HeartbeatRun.Timed.step {s s' : HeartbeatRun} {l : HeartbeatLabel} (hs : s.Timed)
    (h : HeartbeatRun.step s l = some s') : s'.Timed := by
  obtain ⟨heartbeat, pinged⟩ := hs
  cases l with
  | elapse seconds =>
    simp only [HeartbeatRun.step] at h
    split at h <;> cases h
    rename_i guard
    exact ⟨heartbeat, guard.2⟩
  | ping =>
    cases h
    refine ⟨heartbeat, ?_⟩
    show s.daemon.now - s.daemon.now ≤ 10
    norm_num
  | event event =>
    cases h
    obtain ⟨now, reported⟩ := s.daemon.handleEvent_health event
    refine ⟨?_, ?_⟩
    · show (s.daemon.handleEvent event).1.health.lastHeartbeat = _
      rw [reported, heartbeat]
    · show (s.daemon.handleEvent event).1.now - s.lastPing ≤ 10
      rw [now]
      exact pinged

/-- At every instant of every run in which the watchdog loop keeps pinging, the daemon is healthy
and `/health` answers 200 exactly when an FSM event ran to its end in the last 30.05 seconds, and
the age it reports is the ping's exactly when the two ages round alike. -/
theorem healthy_iff_recent_event {s : HeartbeatRun} (reached : HeartbeatRun.system.Reachable s) :
    s.daemon.now - s.lastPing ≤ 10 ∧
      (s.daemon.health.isHealthy s.daemon.now = true ↔
        s.daemon.now - s.lastApplied ≤ 601 / 20) ∧
      (ReportsPing s ↔ s.daemon.now - s.lastApplied ≤ 601 / 20 ∧
        roundTenth (s.daemon.now - s.lastApplied) = roundTenth (s.daemon.now - s.lastPing)) := by
  have timed : s.Timed := reached.invariant ⟨rfl, by decide +kernel⟩
    fun _ _ _ _ ht _ hstep => ht.step hstep
  obtain ⟨heartbeat, pinged⟩ := timed
  have healthy : s.daemon.health.isHealthy s.daemon.now = true ↔
      s.daemon.now - s.lastApplied ≤ 601 / 20 := by
    rw [← heartbeat]
    exact HealthState.isHealthy_iff _ _
  have age : (s.daemon.health.snapshot s.daemon.now).secondsSinceHeartbeat =
      roundTenth (s.daemon.now - s.lastApplied) := by
    rw [← heartbeat]
    rfl
  refine ⟨pinged, healthy, fun reports => ⟨healthy.mp reports.healthy, ?_⟩,
    fun ⟨recent, same⟩ => ?_⟩
  · rw [← age, reports.age]
  · exact ⟨healthy.mpr recent,
      (HealthState.doGetStatus_health_iff _ _).mpr (healthy.mpr recent), age.trans same⟩

/-- An AirPlay client connects after eight seconds, and the endpoint is asked two seconds later,
ten seconds after the last ping. -/
theorem healthy_iff_recent_event_at_ten :
    ∃ s, HeartbeatRun.system.run [.elapse 8, .event .airplayConnected, .elapse 2] = some s ∧
      s.daemon.health.isHealthy s.daemon.now = true ∧ ¬ ReportsPing s := by
  obtain ⟨s, run, recent, differ⟩ : ∃ s,
      HeartbeatRun.system.run [.elapse 8, .event .airplayConnected, .elapse 2] = some s ∧
      s.daemon.now - s.lastApplied ≤ 601 / 20 ∧
      roundTenth (s.daemon.now - s.lastApplied) ≠ roundTenth (s.daemon.now - s.lastPing) :=
    System.exists_run (by decide +kernel)
  obtain ⟨_, healthy, reports⟩ := healthy_iff_recent_event (System.runFrom_leads _ run)
  exact ⟨s, run, healthy.mpr recent, fun h => differ (reports.mp h).2⟩

/-- Nobody connects for half a minute. The loop has pinged a second ago, and `/health` answers
503. -/
theorem unhealthy_without_events :
    ∃ s, HeartbeatRun.system.run
        [.ping, .elapse 10, .ping, .elapse 10, .ping, .elapse 10, .ping, .elapse 1] = some s ∧
      s.daemon.now - s.lastPing = 1 ∧ s.daemon.health.isHealthy s.daemon.now = false ∧
      s.daemon.health.doGetStatus s.daemon.now "/health" = 503 ∧ ¬ ReportsPing s := by
  obtain ⟨s, run, ping, sick, status⟩ : ∃ s, HeartbeatRun.system.run
        [.ping, .elapse 10, .ping, .elapse 10, .ping, .elapse 10, .ping, .elapse 1] = some s ∧
      s.daemon.now - s.lastPing = 1 ∧ s.daemon.health.isHealthy s.daemon.now = false ∧
      s.daemon.health.doGetStatus s.daemon.now "/health" = 503 :=
    System.exists_run (by decide +kernel)
  refine ⟨s, run, ping, sick, status, fun reports => ?_⟩
  rw [reports.healthy] at sick
  exact Bool.noConfusion sick

end Castd.Main
