import FlagReplica.Proofs.Stream.Events

/-!
# What a lost connection comes to

A source that waits for the next delivery goes on after every connection error but a rejection of
its credentials, which ends it for good.
-/

namespace FlagReplica.StreamSource

variable {σ : Type} {s : StreamSource σ}

/-- What is noted of a connection error. -/
def lossNotice : Fault → Notice
  | .streamRejected status => .streamRejected status
  | fault => .connectionFailed fault

/-- A connection error that is worth retrying. -/
def IsRetried (fault : Fault) : Prop :=
  ∀ status, fault = .streamRejected status → Rejection.isRecoverable status = true

/-- A source whose worker has ended, for good if nobody starts it again. -/
structure Ended (s : StreamSource σ) : Prop where
  running : s.running = false
  worker : s.worker = .ended

/-- A connection error is reported, and a new attempt begins. -/
theorem handleError_of_retried (hs : s.Serving) {fault : Fault} (hretried : IsRetried fault) :
    s.handleError fault =
      (.ok true, { s.recordAttempt true with
        gateway := ((s.gateway.note (lossNotice fault)).report .interrupted
          (some (.ofFault fault))).2
        attemptStart := some (s.gateway.now + s.line.retryDelay) }) := by
  rcases Option.isSome_iff_exists.1 hs.address with ⟨address, ha⟩
  cases fault with
  | streamRejected status =>
    have hrec := hretried status rfl
    simp [handleError, hs.running, hrec, retry, report_of_unstopped, hs.stopsUpon, note,
      beginAttempt, ha, lossNotice, Except.map, recordAttempt]
  | _ =>
    simp [handleError, hs.running, retry, report_of_unstopped, hs.stopsUpon, note,
      beginAttempt, ha, lossNotice, Except.map, recordAttempt]

/-- A worker that ends is not running any more. -/
theorem endWorker_worker (h : s.worker = .running ∨ s.worker = .ended) :
    s.endWorker.worker = .ended := by
  rcases h with h | h <;> simp [endWorker, h]

theorem settle_worker (h : s.worker = .running) :
    s.settle.worker = .running ∨ s.settle.worker = .ended := by
  rcases s.settle_eq with he | he
  · rw [he]
    exact Or.inl h
  · rw [he]
    exact Or.inr (endWorker_worker (Or.inl h))

/-- A running source that stops for a reason reports it as its last word. -/
theorem stopWith_eq (hs : s.Serving) (failure : Failure) :
    (s.stopWith (some failure)).running = false ∧
      (s.stopWith (some failure)).readiness = s.readiness.settled false ∧
      (s.stopWith (some failure)).writing = none ∧
      (s.stopWith (some failure)).gateway =
        ((s.gateway.note .streamStopping).report .off (some failure)).2 ∧
      ((s.stopWith (some failure)).worker = .running ∨
        (s.stopWith (some failure)).worker = .ended) := by
  refine ⟨?_, ?_, ?_, ?_, ?_⟩
  · simp [stopWith, hs.running]
  · simp [stopWith, note, hs.running, Readiness.settled]
  · simp [stopWith, note, hs.running, hs.writing]
  · simp [stopWith, note, hs.running]
  · -- a line that closes at once ends the worker already here
    unfold stopWith
    refine settle_worker ?_
    simp [note, hs.running, hs.worker]

/-- A rejection of the credentials stops the source. -/
theorem handleError_of_rejected (hs : s.Serving) {status : Int}
    (hrejected : Rejection.isRecoverable status = false) :
    s.handleError (.streamRejected status) =
      (.ok false, ((s.recordAttempt true).note (.streamRejected status)).stopWith
        (some (.ofFault (.streamRejected status)))) := by
  simp [handleError, hs.running, hrejected]

section Deliver

variable [Repository σ]

/-- What the line delivers about a lost connection leaves nothing to be written. -/
theorem deliver_lost (hs : s.Serving) (ho : s.line.phase = .open) {fault : Fault}
    (hidle : (concluded (s.handleError fault)).writing = none) :
    s.deliver (.lost (some fault)) = some (concluded (s.handleError fault)) := by
  have haccept : s.accept (.lost (some fault)) = some (concluded (s.handed.handleError fault)) :=
    accept_of_running hs.worker hs.running _
  rw [handed_of_open ho] at haccept
  rw [deliver, haccept, Option.map_some, write_of_idle hidle]

/-- A source goes on after a connection error. -/
theorem deliver_of_retried (hs : s.Serving) (ho : s.line.phase = .open) {fault : Fault}
    (hretried : IsRetried fault) :
    s.deliver (.lost (some fault)) =
      some { s.recordAttempt true with
        gateway := ((s.gateway.note (lossNotice fault)).report .interrupted
          (some (.ofFault fault))).2
        attemptStart := some (s.gateway.now + s.line.retryDelay) } := by
  have hgoes : concluded (s.handleError fault) =
      { s.recordAttempt true with
        gateway := ((s.gateway.note (lossNotice fault)).report .interrupted
          (some (.ofFault fault))).2
        attemptStart := some (s.gateway.now + s.line.retryDelay) } := by
    rw [handleError_of_retried hs hretried]
    exact settle_of_open ho
  rw [← hgoes]
  refine deliver_lost hs ho ?_
  rw [hgoes]
  exact hs.writing

/-- A source ends with a rejection of its credentials. -/
theorem deliver_of_rejected (hs : s.Serving) (ho : s.line.phase = .open) {status : Int}
    (hrejected : Rejection.isRecoverable status = false) :
    ∃ t, s.deliver (.lost (some (.streamRejected status))) = some t ∧ t.Ended ∧
      t.readiness = s.readiness.settled false ∧
      t.gateway = (((s.gateway.note (.streamRejected status)).note .streamStopping).report .off
        (some (.ofFault (.streamRejected status)))).2 := by
  have hnoted : ((s.recordAttempt true).note (.streamRejected status)).Serving :=
    ⟨hs.running, hs.worker, hs.writing, hs.address, hs.stopsUpon⟩
  rcases stopWith_eq hnoted (.ofFault (.streamRejected status))
      with ⟨hrunning, hready, hidle, hgateway, hworker⟩
  have hends : concluded (s.handleError (.streamRejected status)) =
      (((s.recordAttempt true).note (.streamRejected status)).stopWith
        (some (.ofFault (.streamRejected status)))).endWorker := by
    rw [handleError_of_rejected hs hrejected]
    rfl
  refine ⟨_, deliver_lost hs ho ?_, ⟨?_, ?_⟩, ?_, ?_⟩
  · rw [hends, endWorker_writing, hidle]
  · rw [hends, endWorker_running, hrunning]
  · rw [hends, endWorker_worker hworker]
  · rw [hends, endWorker_readiness, hready]
    rfl
  · rw [hends, endWorker_gateway, hgateway]
    rfl

end Deliver

end FlagReplica.StreamSource
