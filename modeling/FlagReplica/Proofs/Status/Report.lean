import FlagReplica.Readiness
import FlagReplica.Status.Gateway

/-!
# What a report and a write leave behind

Every change of a status goes through `Gateway.report`, and every change of a store through
`Gateway.write`. The lemmas here say field by field what each of the two does to a gateway, so that
the sources' proofs need not open them.
-/

namespace FlagReplica

/-! ## The state -/

/-- The state after a report: the reported one, except that before the first success and after the
end there is nothing to interrupt. -/
def SyncState.after (old reported : SyncState) : SyncState :=
  if reported = .interrupted ∧ (old = .initializing ∨ old = .off) then old else reported

namespace SyncState

@[simp] theorem after_valid (old : SyncState) : old.after .valid = .valid := by
  simp [after]

@[simp] theorem after_off (old : SyncState) : old.after .off = .off := by
  simp [after]

/-- An interruption keeps the state before the first success and after the end. -/
theorem after_interrupted (old : SyncState) :
    old.after .interrupted =
      if old = .initializing ∨ old = .off then old else .interrupted := by
  simp [after]

@[simp] theorem off_after_interrupted : off.after .interrupted = .off := rfl

/-- An interruption leads into no state that nothing was in before, except `interrupted`. -/
theorem after_interrupted_eq_iff {old state : SyncState} (h : state ≠ .interrupted)
    (hv : state ≠ .valid) : old.after .interrupted = state ↔ old = state := by
  cases old <;> cases state <;> simp_all [after]

/-- Only what has been valid is interrupted. -/
theorem of_after_eq_interrupted {old reported : SyncState} (h : old.after reported = .interrupted) :
    old = .valid ∨ old = .interrupted := by
  cases old <;> cases reported <;> simp_all [after]

end SyncState

/-! ## A report -/

/-- A report changes nothing only if it brings no failure and no other state. -/
theorem Status.next_eq (s : Status) (state : SyncState) (error : Option ErrorRecord)
    (now : Millis) :
    s.next state error now =
      if s.state.after state = s.state ∧ error = none then none
      else some
        { state := s.state.after state
          since := if s.state.after state = s.state then s.since else now
          error := error.or s.error } := by
  cases error <;> simp [Status.next, SyncState.after]

namespace Gateway

variable {σ : Type}

/-- The gateway after an update that changes its status. -/
def announcing (g : Gateway σ) (state : SyncState) (error? : Option ErrorRecord) : Gateway σ :=
  let status : Status :=
    { state := g.status.state.after state
      since := if g.status.state.after state = g.status.state then g.status.since else g.now
      error := error?.or g.status.error }
  { g with
    status
    failures := if error?.isSome then g.failures + 1 else g.failures }.broadcast status

/-- An update does nothing if it brings no record and no other state; otherwise one status is
assigned and announced. -/
theorem update_eq (g : Gateway σ) (state : SyncState) (error? : Option ErrorRecord) :
    g.update state error? =
      if g.status.state.after state = g.status.state ∧ error? = none then (none, g)
      else (some (g.announcing state error?).status, g.announcing state error?) := by
  by_cases h : g.status.state.after state = g.status.state ∧ error? = none
  · simp only [update, assign, Status.next_eq, if_pos h]
  · simp only [update, assign, Status.next_eq, if_neg h]
    rfl

/-- A report does nothing if it brings no failure and no other state; otherwise one status is
assigned and announced. -/
theorem report_eq (g : Gateway σ) (state : SyncState) (failure? : Option Failure) :
    g.report state failure? =
      if g.status.state.after state = g.status.state ∧ failure? = none then (none, g)
      else (some (g.announcing state (failure?.map g.record)).status,
        g.announcing state (failure?.map g.record)) := by
  simp only [report, update_eq, Option.map_eq_none_iff]

@[simp] theorem note_store (g : Gateway σ) (n : Notice) : (g.note n).store = g.store := rfl

@[simp] theorem note_status (g : Gateway σ) (n : Notice) : (g.note n).status = g.status := rfl

@[simp] theorem note_failures (g : Gateway σ) (n : Notice) :
    (g.note n).failures = g.failures := rfl

@[simp] theorem note_now (g : Gateway σ) (n : Notice) : (g.note n).now = g.now := rfl

@[simp] theorem report_store (g : Gateway σ) (state : SyncState) (failure? : Option Failure) :
    (g.report state failure?).2.store = g.store := by
  rw [report_eq]
  split <;> rfl

@[simp] theorem report_now (g : Gateway σ) (state : SyncState) (failure? : Option Failure) :
    (g.report state failure?).2.now = g.now := by
  rw [report_eq]
  split <;> rfl

/-- The state that a report leads to. -/
@[simp] theorem report_state (g : Gateway σ) (state : SyncState) (failure? : Option Failure) :
    (g.report state failure?).2.status.state = g.status.state.after state := by
  rw [report_eq]
  split
  · rename_i h
    exact h.1.symm
  · rfl

/-- The error on record after a report: a new record of the reported failure, or the old one. -/
@[simp] theorem report_error (g : Gateway σ) (state : SyncState) (failure? : Option Failure) :
    (g.report state failure?).2.status.error = (failure?.map g.record).or g.status.error := by
  rw [report_eq]
  split
  · rename_i h
    simp [h.2]
  · rfl

/-- Each reported failure takes one serial number. -/
@[simp] theorem report_failures (g : Gateway σ) (state : SyncState)
    (failure? : Option Failure) :
    (g.report state failure?).2.failures =
      if failure?.isSome then g.failures + 1 else g.failures := by
  rw [report_eq]
  split
  · rename_i h
    simp [h.2]
  · simp [announcing, broadcast]

/-- A status is announced to the audience exactly when the report changes something. -/
theorem report_audience (g : Gateway σ) (state : SyncState) (failure? : Option Failure) :
    (g.report state failure?).2.audience =
      if g.status.state.after state = g.status.state ∧ failure? = none then g.audience
      else (g.audience.tell (g.report state failure?).2.status).takeNotices.2 := by
  rw [report_eq]
  split <;> rfl

/-! ## A full data set -/

/-- The gateway after a source that runs has stored a full data set. Only the first one is worth a
notice. -/
def afterData (g : Gateway σ) (readiness : Readiness) (ready : Notice) : Gateway σ :=
  if readiness = .pending then (g.report .valid none).2.note ready
  else (g.report .valid none).2

section AfterData

variable (g : Gateway σ) (readiness : Readiness) (ready : Notice)

@[simp] theorem afterData_store : (g.afterData readiness ready).store = g.store := by
  unfold afterData
  split <;> simp

@[simp] theorem afterData_state : (g.afterData readiness ready).status.state = .valid := by
  unfold afterData
  split <;> simp

@[simp] theorem afterData_error :
    (g.afterData readiness ready).status.error = g.status.error := by
  unfold afterData
  split <;> simp

@[simp] theorem afterData_now : (g.afterData readiness ready).now = g.now := by
  unfold afterData
  split <;> simp

end AfterData

/-! ## A write -/

section Write

variable [Repository σ]

/-- The store that a write leaves behind. -/
@[simp] theorem write_store (g : Gateway σ) (c : Change) :
    (g.write c).gateway.store = (request g.store c).state := by
  simp only [write]
  split
  · rfl
  · simp

@[simp] theorem write_now (g : Gateway σ) (c : Change) : (g.write c).gateway.now = g.now := by
  simp only [write]
  split
  · rfl
  · simp

/-- The gateway of a write that the store has answered: nothing but the store has changed. -/
theorem write_of_ok {g : Gateway σ} {c : Change} {changed : Bool}
    (h : (request g.store c).result = .ok changed) :
    g.write c = ⟨.ok changed, none,
      { g with
        store := (request g.store c).state
        journal := g.journal ++ (request g.store c).notices }⟩ := by
  simp only [write, h]

/-- The fault that a source meets when the store has failed. -/
def storeFault (fault : Fault) : Fault :=
  .storeUpdate fault.text (some fault)

/-- The failure on record when the store has failed. -/
def storeFailure (fault : Fault) : Failure :=
  ⟨.store, 0, some fault.text⟩

/-- The gateway of a write that the store has refused: the failure is reported once. -/
theorem write_of_error {g : Gateway σ} {c : Change} {fault : Fault}
    (h : (request g.store c).result = .error fault) :
    g.write c =
      let reported := ({ g with
        store := (request g.store c).state
        journal := g.journal ++ (request g.store c).notices }.note (.storeFailed fault)).report
          .interrupted (some (storeFailure fault))
      ⟨.error (storeFault fault), reported.1, reported.2⟩ := by
  simp only [write, h]
  rfl

end Write

/-! ## Serial numbers -/

/-- The error on record came before the failure that will be recorded next. -/
def Recorded (g : Gateway σ) : Prop :=
  ∀ record, g.status.error = some record → record.serial < g.failures

namespace Recorded

variable {g : Gateway σ}

/-- A new failure is not the one on record. -/
theorem record_ne (h : g.Recorded) (failure : Failure) :
    some (g.record failure) ≠ g.status.error := by
  intro he
  have hlt := h _ he.symm
  exact absurd hlt (Nat.lt_irrefl _)

theorem report (h : g.Recorded) (state : SyncState) (failure? : Option Failure) :
    (g.report state failure?).2.Recorded := by
  intro record he
  rw [report_error] at he
  rw [report_failures]
  cases failure? with
  | none => exact h record he
  | some failure =>
    -- the new record has the number that was next
    rcases Option.some.inj he with rfl
    exact Nat.lt_succ_self _

theorem afterData (h : g.Recorded) (readiness : Readiness) (ready : Notice) :
    (g.afterData readiness ready).Recorded := by
  unfold Gateway.afterData
  split
  · exact h.report .valid none
  · exact h.report .valid none

theorem write [Repository σ] (h : g.Recorded) (c : Change) : (g.write c).gateway.Recorded := by
  cases hres : (request g.store c).result with
  | ok changed =>
    rw [write_of_ok hres]
    exact h
  | error fault =>
    -- the failure is recorded by a gateway whose status is the old one
    have hnoted : ({ g with
        store := (request g.store c).state
        journal := g.journal ++ (request g.store c).notices }.note
          (.storeFailed fault)).Recorded := h
    rw [write_of_error hres]
    exact hnoted.report _ _

end Recorded

end Gateway

end FlagReplica
