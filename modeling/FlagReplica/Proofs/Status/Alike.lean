import FlagReplica.Proofs.Audience
import FlagReplica.Proofs.Status.Report

/-!
# Gateways that cannot be told apart but by their clocks

Two gateways are alike if they have one store, one status up to its times, and audiences that have
been told the same statuses up to their times. Reports and writes keep them alike, whatever either
of them notes in its journal and whatever its clock shows.
-/

namespace FlagReplica

/-- A status without its times: the state and the failure on record. -/
def Status.untimed (s : Status) : SyncState × Option Failure :=
  (s.state, s.error.map (·.failure))

namespace Gateway

variable {σ : Type}

/-- Nothing but times and journals tells two gateways apart. -/
structure Alike (g h : Gateway σ) : Prop where
  store : g.store = h.store
  status : g.status.untimed = h.status.untimed
  audience : g.audience.Alike Status.untimed h.audience

namespace Alike

variable {g h : Gateway σ}

theorem state (ha : g.Alike h) : g.status.state = h.status.state :=
  congrArg Prod.fst ha.status

theorem failure (ha : g.Alike h) :
    g.status.error.map (·.failure) = h.status.error.map (·.failure) :=
  congrArg Prod.snd ha.status

theorem note (ha : g.Alike h) (n m : Notice) : (g.note n).Alike (h.note m) :=
  ⟨ha.store, ha.status, ha.audience⟩

/-- A change of the store and of the clocks, from outside. -/
theorem disturb (ha : g.Alike h) (f : σ → σ) (now now' : Millis) :
    { g with store := f g.store, now }.Alike { h with store := f h.store, now := now' } :=
  ⟨congrArg f ha.store, ha.status, ha.audience⟩

/-- The failure on record after a report: the reported one, or the old one. -/
theorem failure_report (g : Gateway σ) (state : SyncState) (failure? : Option Failure) :
    (g.report state failure?).2.status.error.map (·.failure) =
      failure?.or (g.status.error.map (·.failure)) := by
  rw [report_error]
  cases failure? <;> rfl

/-- A report of one failure in one state leaves alike what was alike. -/
theorem report (ha : g.Alike h) (state : SyncState) (failure? : Option Failure) :
    (g.report state failure?).2.Alike (h.report state failure?).2 := by
  have hstatus : (g.report state failure?).2.status.untimed =
      (h.report state failure?).2.status.untimed := by
    simp only [Status.untimed, failure_report, report_state, ha.state, ha.failure]
  refine ⟨?_, hstatus, ?_⟩
  · rw [report_store, report_store, ha.store]
  · rw [report_audience, report_audience, ha.state]
    -- both reports announce a status or neither does
    split
    · exact ha.audience
    · exact ha.audience.tell hstatus

/-- The store's answer to both is the same, and so is what is made of it. -/
theorem write [Repository σ] (ha : g.Alike h) (c : Change) :
    (g.write c).gateway.Alike (h.write c).gateway := by
  cases hres : (request g.store c).result with
  | ok changed =>
    have hres' : (request h.store c).result = .ok changed := ha.store ▸ hres
    rw [write_of_ok hres, write_of_ok hres']
    exact ⟨by rw [ha.store], ha.status, ha.audience⟩
  | error fault =>
    have hres' : (request h.store c).result = .error fault := ha.store ▸ hres
    rw [write_of_error hres, write_of_error hres']
    refine Alike.report (Alike.note ?_ _ _) _ _
    exact ⟨by rw [ha.store], ha.status, ha.audience⟩

theorem afterData (ha : g.Alike h) (readiness : Readiness) (n m : Notice) :
    (g.afterData readiness n).Alike (h.afterData readiness m) := by
  unfold Gateway.afterData
  split
  · exact (ha.report .valid none).note n m
  · exact ha.report .valid none

end Alike

end Gateway

end FlagReplica
