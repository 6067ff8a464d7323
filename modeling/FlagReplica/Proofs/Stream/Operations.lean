import FlagReplica.Source.Stream
import FlagReplica.Proofs.Source.Standing

/-!
# What the parts of a stream's work do

One equation for each part of the work, for a source that no listener stops in the middle of it.
The proofs about events and runs rest on these equations and do not open the parts again.
-/

namespace FlagReplica

namespace Gateway

variable {σ : Type}

/-- The gateway after a source that runs has taken note of an event that failed. A failed write has
been reported already. -/
def afterFailedEvent (g : Gateway σ) (fault : Fault) : Gateway σ :=
  match fault with
  | .storeUpdate _ _ => g.note (.eventNotStored fault)
  | .invalidData _ => ((g.note (.eventInvalid fault)).report .interrupted (some (.ofFault fault))).2
  | _ => ((g.note (.eventFailed fault)).report .interrupted (some (.ofFault fault))).2

@[simp] theorem afterFailedEvent_store (g : Gateway σ) (fault : Fault) :
    (g.afterFailedEvent fault).store = g.store := by
  cases fault <;> simp [afterFailedEvent]

end Gateway

namespace StreamSource

variable {σ : Type}

/-! ## Parts of the work -/

section Fields

variable (s : StreamSource σ) (failed : Bool)

@[simp] theorem recordAttempt_gateway : (s.recordAttempt failed).gateway = s.gateway := rfl

@[simp] theorem recordAttempt_readiness : (s.recordAttempt failed).readiness = s.readiness := rfl

@[simp] theorem recordAttempt_running : (s.recordAttempt failed).running = s.running := rfl

@[simp] theorem recordAttempt_worker : (s.recordAttempt failed).worker = s.worker := rfl

@[simp] theorem recordAttempt_line : (s.recordAttempt failed).line = s.line := rfl

@[simp] theorem recordAttempt_writing : (s.recordAttempt failed).writing = s.writing := rfl

@[simp] theorem recordAttempt_stopsUpon : (s.recordAttempt failed).stopsUpon = s.stopsUpon := rfl

@[simp] theorem endWorker_gateway : s.endWorker.gateway = s.gateway := by
  unfold endWorker
  split <;> rfl

@[simp] theorem endWorker_readiness : s.endWorker.readiness = s.readiness := by
  unfold endWorker
  split <;> rfl

@[simp] theorem endWorker_running : s.endWorker.running = s.running := by
  unfold endWorker
  split <;> rfl

@[simp] theorem endWorker_writing : s.endWorker.writing = s.writing := by
  unfold endWorker
  split <;> rfl

@[simp] theorem endWorker_interrupts : s.endWorker.line.interrupts = s.line.interrupts := by
  unfold endWorker
  split <;> rfl

/-- Settling a source changes nothing but its worker, which may end. -/
theorem settle_eq : s.settle = s ∨ s.settle = s.endWorker := by
  unfold settle
  split
  · exact Or.inr rfl
  · exact Or.inl rfl

@[simp] theorem settle_gateway : s.settle.gateway = s.gateway := by
  rcases s.settle_eq with h | h <;> simp [h]

@[simp] theorem settle_readiness : s.settle.readiness = s.readiness := by
  rcases s.settle_eq with h | h <;> simp [h]

@[simp] theorem settle_running : s.settle.running = s.running := by
  rcases s.settle_eq with h | h <;> simp [h]

@[simp] theorem settle_writing : s.settle.writing = s.writing := by
  rcases s.settle_eq with h | h <;> simp [h]

@[simp] theorem settle_interrupts : s.settle.line.interrupts = s.line.interrupts := by
  rcases s.settle_eq with h | h <;> simp [h]

/-- A worker whose line is open goes on. -/
theorem settle_of_open {s : StreamSource σ} (h : s.line.phase = .open) : s.settle = s := by
  simp [settle, h]

end Fields

/-- A listener who waits for nothing stops nothing. -/
theorem heed_of_unstopped {s : StreamSource σ} (h : s.stopsUpon = none)
    (announced : Option Status) : s.heed announced = s := by
  cases announced <;> simp [heed, h]

/-- A report changes nothing but the gateway. -/
theorem report_of_unstopped {s : StreamSource σ} (h : s.stopsUpon = none) (state : SyncState)
    (failure? : Option Failure) :
    s.report state failure? = { s with gateway := (s.gateway.report state failure?).2 } := by
  have hs : { s with gateway := (s.gateway.report state failure?).2 }.stopsUpon = none := h
  exact heed_of_unstopped hs _

/-- A source as it is when it stops, before it reports that it has. -/
def halted (s : StreamSource σ) : StreamSource σ :=
  if s.running then
    { s.note .streamStopping with
      running := false
      subscriptions := s.subscriptions - 1
      line := if s.line.address.isSome then s.line.close else s.line }
  else s

/-- A stop halts the source, reports its end, and resolves its signal. -/
theorem stopWith_halted (s : StreamSource σ) (failure? : Option Failure) :
    s.stopWith failure? =
      settle { s.halted with
        gateway := (s.halted.gateway.report .off failure?).2
        readiness := (s.halted.readiness.resolve false).2
        stopsUpon :=
          if (s.halted.gateway.report .off failure?).1.isSome ∧
              s.halted.stopsUpon = some SyncState.off then none
          else s.halted.stopsUpon } :=
  rfl

/-- A restart has the line reconnect and begins a new attempt. -/
theorem restart_eq {s : StreamSource σ} (hr : s.running = true)
    (ha : s.line.address.isSome = true) (isFailure : Bool) :
    s.restart isFailure =
      (.ok (), { (if isFailure then s.recordAttempt true else s) with
        line := s.line.interrupt
        attemptStart := some (s.gateway.now + s.line.retryDelay) }) := by
  rcases Option.isSome_iff_exists.1 ha with ⟨address, ha⟩
  cases isFailure <;> simp [restart, hr, ha, beginAttempt, Line.interrupt]

/-- The first start opens the line and sets the worker to work. -/
theorem start_of_unstarted {s : StreamSource σ} (hrefusal : s.refusal = none)
    (hw : s.worker = .unstarted) :
    s.start = (.ok (), { s.note (.streamStarting s.uri) with
      running := true
      worker := .running
      attemptStart := some s.gateway.now
      line := s.line.openAt s.uri
      subscriptions :=
        if s.healthWatched = some true then s.subscriptions + 1 else s.subscriptions }) := by
  simp [start, note, hrefusal, hw]

/-! ## Events -/

/-- An event that could not be applied is noted and reported, and the line reconnects. -/
theorem eventFailed_eq {s : StreamSource σ} (hr : s.running = true)
    (ha : s.line.address.isSome = true) (hn : s.stopsUpon = none) (fault : Fault) :
    s.eventFailed fault =
      (.ok (), { s.recordAttempt true with
        gateway := s.gateway.afterFailedEvent fault
        line := s.line.interrupt
        attemptStart := some (s.gateway.now + s.line.retryDelay) }) := by
  cases fault <;>
    simp [eventFailed, hr, ha, hn, note, report_of_unstopped, restart_eq, recordAttempt,
      Gateway.afterFailedEvent]

/-- What a stopped source makes of a failed event does not matter any more. -/
theorem eventFailed_of_stopped {s : StreamSource σ} (hr : s.running = false) (fault : Fault) :
    s.eventFailed fault = (.ok (), s) := by
  simp [eventFailed, hr]

/-- A full data set makes the status valid and the signal a success. -/
theorem dataStored_eq {s : StreamSource σ} (hr : s.running = true) (hn : s.stopsUpon = none) :
    s.dataStored =
      { s.recordAttempt false with
        gateway := s.gateway.afterData s.readiness .streamReady
        readiness := s.readiness.settled true } := by
  have hrec : (s.recordAttempt false).stopsUpon = none := hn
  cases hread : s.readiness <;>
    simp [dataStored, hr, report_of_unstopped hrec, hread, Readiness.resolve, Readiness.settled,
      Gateway.afterData, note]

/-- A full data set counts for nothing after a stop. -/
theorem dataStored_of_stopped {s : StreamSource σ} (hr : s.running = false) :
    s.dataStored = s := by
  simp [dataStored, hr]

/-! ## The worker -/

/-- The worker goes on or ends, as the handling of a connection error told it. -/
def concluded : Except Fault Bool × StreamSource σ → StreamSource σ
  | (.ok true, s) => s.settle
  | (_, s) => s.endWorker

/-- The source after its worker has handled what was delivered, up to a write. -/
def handled (s : StreamSource σ) : Delivered → StreamSource σ
  | .event e => (s.receive e).2.settle
  | .lost (some fault) => concluded (s.handleError fault)
  | _ => s.settle

/-- The worker of a running source handles what is delivered. -/
theorem accept_of_running {s : StreamSource σ} (hw : s.worker = .running)
    (hr : s.running = true) (d : Delivered) :
    s.accept d = some ({ s with line := s.line.deliver }.handled d) := by
  cases d with
  | lost fault? =>
    cases fault? with
    | none => simp [accept, hw, hr, handled]
    | some fault =>
      simp only [accept, hw, hr, handled, Bool.not_true, Bool.false_eq_true, if_false]
      rfl
  | _ => simp [accept, hw, hr, handled]

/-- The worker of a stopped source ends. -/
theorem accept_of_stopped {s : StreamSource σ} (hw : s.worker = .running)
    (hr : s.running = false) (d : Delivered) : s.accept d = some s.endWorker := by
  simp [accept, hw, hr]

/-- Where no worker is running nothing is taken up. -/
theorem accept_of_idle {s : StreamSource σ} (hw : s.worker ≠ .running) (d : Delivered) :
    s.accept d = none := by
  cases h : s.worker <;> simp_all [accept]

/-! ## Writes -/

section Write

variable [Repository σ]

/-- The source when its store has answered a write and nothing has been made of the answer yet. -/
def answered (s : StreamSource σ) (c : Change) : StreamSource σ :=
  { s with writing := none, gateway := (s.gateway.write c).gateway }

/-- Nobody stops the source while it learns of the answer. -/
theorem heed_answered {s : StreamSource σ} (hn : s.stopsUpon = none) (c : Change) :
    { s with writing := none, gateway := (s.gateway.write c).gateway }.heed
      (s.gateway.write c).announced = s.answered c := by
  have hn' : (s.answered c).stopsUpon = none := hn
  exact heed_of_unstopped hn' _

/-- A write that the store has answered. Only a full data set has consequences. -/
theorem write_of_ok {s : StreamSource σ} {c : Change} {changed : Bool}
    (hw : s.writing = some c) (hn : s.stopsUpon = none)
    (h : (Gateway.request s.gateway.store c).result = .ok changed) :
    s.write = (.ok (), (match c with
      | .replace _ => (s.answered c).dataStored
      | .upsert _ _ _ => s.answered c).settle) := by
  have hres : (s.gateway.write c).result = .ok changed := by
    rw [Gateway.write_of_ok h]
  cases c <;> simp only [write, hw, heed_answered hn, hres]

/-- A write that the store has refused is a failed event. -/
theorem write_of_error {s : StreamSource σ} {c : Change} {fault : Fault}
    (hw : s.writing = some c) (hn : s.stopsUpon = none)
    (h : (Gateway.request s.gateway.store c).result = .error fault) :
    s.write =
      (((s.answered c).eventFailed (Gateway.storeFault fault)).1,
        ((s.answered c).eventFailed (Gateway.storeFault fault)).2.settle) := by
  have hres : (s.gateway.write c).result = .error (Gateway.storeFault fault) := by
    rw [Gateway.write_of_error h]
  simp only [write, hw, heed_answered hn, hres]

end Write

end StreamSource

end FlagReplica
