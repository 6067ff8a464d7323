import FlagReplica.Proofs.Stream.Interrupts

/-!
# What reports and stops leave alone

A listener of the status may stop the source while it reports, so that a report can end in a stop.
Neither touches what is known of the present attempt to connect, nor the clock or the line's address
and delay. `Spared` says so of every part of the work that records nothing and begins no attempt;
the other parts come to one of these and a single change besides.
-/

namespace FlagReplica

/-- A connection error that is worth retrying. -/
def Fault.isRetried : Fault → Bool
  | .streamRejected status => Rejection.isRecoverable status
  | _ => true

namespace StreamSource

variable {σ : Type} {s t u : StreamSource σ}

/-- Something is left to be done that needs the line: the worker is running, or writes. -/
def Busy (s : StreamSource σ) : Prop :=
  s.worker = .running ∨ s.writing.isSome = true

/-- What is known of the present attempt stays, and nothing is started again. -/
structure Spared (s t : StreamSource σ) : Prop where
  attemptStart : t.attemptStart = s.attemptStart
  telemetry : t.telemetry = s.telemetry
  now : t.gateway.now = s.gateway.now
  address : t.line.address = s.line.address
  retryDelay : t.line.retryDelay = s.line.retryDelay
  running : t.running = true → s.running = true
  busy : t.Busy → s.Busy

namespace Spared

theorem refl (s : StreamSource σ) : Spared s s :=
  ⟨rfl, rfl, rfl, rfl, rfl, id, id⟩

theorem trans (h : Spared s t) (h' : Spared t u) : Spared s u :=
  ⟨h'.attemptStart.trans h.attemptStart, h'.telemetry.trans h.telemetry, h'.now.trans h.now,
    h'.address.trans h.address, h'.retryDelay.trans h.retryDelay,
    fun hr => h.running (h'.running hr), fun hb => h.busy (h'.busy hb)⟩

theorem note (s : StreamSource σ) (n : Notice) : Spared s (s.note n) :=
  ⟨rfl, rfl, rfl, rfl, rfl, id, id⟩

theorem handed (s : StreamSource σ) : Spared s s.handed :=
  ⟨rfl, rfl, rfl, rfl, rfl, id, id⟩

theorem endWorker (s : StreamSource σ) : Spared s s.endWorker := by
  unfold StreamSource.endWorker
  split
  · refine ⟨rfl, rfl, rfl, rfl, rfl, id, ?_⟩
    rintro (hw | hw)
    · exact absurd hw (by simp)
    · exact .inr hw
  · exact .refl s

theorem settle (s : StreamSource σ) : Spared s s.settle := by
  rcases s.settle_eq with h | h
  · rw [h]
    exact .refl s
  · rw [h]
    exact .endWorker s

theorem halted (s : StreamSource σ) : Spared s s.halted := by
  unfold StreamSource.halted
  split
  · refine ⟨rfl, rfl, rfl, ?_, ?_, fun hr => absurd hr (by simp), id⟩
    · dsimp only
      split <;> rfl
    · dsimp only
      split <;> rfl
  · exact .refl s

theorem stopWith (s : StreamSource σ) (failure? : Option Failure) :
    Spared s (s.stopWith failure?) := by
  rw [stopWith_halted]
  refine ((halted s).trans ?_).trans (settle _)
  exact ⟨rfl, rfl, Gateway.report_now _ _ _, rfl, rfl, id, id⟩

theorem heed (s : StreamSource σ) (announced : Option Status) : Spared s (s.heed announced) := by
  unfold StreamSource.heed
  split
  · exact .refl s
  · split
    · have hminded : Spared s { s with stopsUpon := none } :=
        ⟨rfl, rfl, rfl, rfl, rfl, id, id⟩
      exact hminded.trans (stopWith _ none)
    · exact .refl s

theorem report (s : StreamSource σ) (state : SyncState) (failure? : Option Failure) :
    Spared s (s.report state failure?) := by
  refine trans ?_ (heed _ (s.gateway.report state failure?).1)
  exact ⟨rfl, rfl, Gateway.report_now _ _ _, rfl, rfl, id, id⟩

end Spared

theorem halted_running (s : StreamSource σ) : s.halted.running = false := by
  unfold halted
  split
  · rfl
  · rename_i hr
    simpa using hr

/-- A source that has been stopped does not run. -/
theorem stopWith_running (s : StreamSource σ) (failure? : Option Failure) :
    (s.stopWith failure?).running = false := by
  rw [stopWith_halted, settle_running]
  exact s.halted_running

theorem restart_of_stopped (hr : s.running = false) (isFailure : Bool) :
    s.restart isFailure = (.ok (), s) := by
  simp [restart, hr]

/-- A failed event has the line reconnect, unless a listener stops the source when it is reported;
then nothing more is made of it. -/
theorem eventFailed_spared (s : StreamSource σ) (fault : Fault) :
    ∃ t, Spared s t ∧ (s.eventFailed fault).2 = (t.restart true).2 := by
  cases hr : s.running with
  | false =>
    rw [eventFailed_of_stopped hr]
    exact ⟨s, .refl s, by rw [restart_of_stopped hr]⟩
  | true =>
    have reported (n : Notice) :
        Spared s ((s.note n).report .interrupted (some (.ofFault fault))) :=
      (Spared.note s n).trans (.report _ _ _)
    simp only [eventFailed, hr, Bool.not_true, Bool.false_eq_true, if_false]
    -- the gateway has reported a failed write already
    split
    · exact ⟨_, .note s _, rfl⟩
    · exact ⟨_, reported _, rfl⟩
    · exact ⟨_, reported _, rfl⟩

/-- A full data set that has been stored settles how the attempt went, and nothing else about it. -/
theorem dataStored_spared (hr : s.running = true) :
    Spared (s.recordAttempt false) s.dataStored := by
  have hreport := Spared.report (s.recordAttempt false) .valid none
  simp only [dataStored, hr, Bool.not_true, Bool.false_eq_true, if_false]
  refine hreport.trans ?_
  split
  · exact ⟨rfl, rfl, rfl, rfl, rfl, id, id⟩
  · exact ⟨rfl, rfl, rfl, rfl, rfl, id, id⟩

/-- An event that is not misread is set aside or begins to be written. -/
theorem receive_spared {e : StreamEvent} (hw : s.worker = .running)
    (hread : e.isMisread = false) : Spared s (s.receive e).2 := by
  cases hchange : e.change? with
  | some c =>
    rw [receive_of_change hchange]
    exact ⟨rfl, rfl, rfl, rfl, rfl, id, fun _ => .inl hw⟩
  | none =>
    rcases reading_of_unasked hchange with hnone | ⟨fault, hfault⟩ | ⟨m, path, hskip⟩
    · rw [receive_of_unknown hnone]
      exact .note s _
    · simp [StreamEvent.isMisread, hfault] at hread
    · rw [receive_of_skip hskip]
      exact .note s _

section Write

variable [Repository σ] {c : Change}

theorem Spared.answered (writing : s.writing = some c) : Spared s (s.answered c) :=
  ⟨rfl, rfl, Gateway.write_now _ _, rfl, rfl, id, fun _ => .inr (by simp [writing])⟩

/-- A write that the store has answered is not announced, so that no listener stops the source. -/
theorem write_of_stored {changed : Bool} (writing : s.writing = some c)
    (h : (Gateway.request s.gateway.store c).result = .ok changed) :
    s.write.2 = (match c with
      | .replace _ => (s.answered c).dataStored
      | .upsert _ _ _ => s.answered c).settle := by
  have hresult : (s.gateway.write c).result = .ok changed := by rw [Gateway.write_of_ok h]
  have hannounced : (s.gateway.write c).announced = none := by rw [Gateway.write_of_ok h]
  cases c <;> simp only [write, writing, hresult, hannounced] <;> rfl

/-- One that the store has refused is a failed event, once the listeners have heard of it. -/
theorem write_of_unstored {fault : Fault} (writing : s.writing = some c)
    (h : (Gateway.request s.gateway.store c).result = .error fault) :
    ∃ t, Spared s t ∧ s.write.2 = (t.eventFailed (Gateway.storeFault fault)).2.settle := by
  have hresult : (s.gateway.write c).result = .error (Gateway.storeFault fault) := by
    rw [Gateway.write_of_error h]
  refine ⟨_, (Spared.answered writing).trans (.heed _ (s.gateway.write c).announced), ?_⟩
  simp only [write, writing, hresult]
  rfl

end Write

/-- A connection error that is retried settles how the attempt went and begins another one. -/
theorem handleError_spared_of_retried (hr : s.running = true)
    (ha : s.line.address.isSome = true) {fault : Fault} (hretried : fault.isRetried = true) :
    ∃ t, Spared (s.recordAttempt true) t ∧ concluded (s.handleError fault) =
      { t with attemptStart := some (s.gateway.now + s.line.retryDelay) }.settle := by
  have retried (n : Notice) (failure : Failure) : ∃ t, Spared (s.recordAttempt true) t ∧
      concluded (((s.recordAttempt true).note n).retry failure) =
        { t with attemptStart := some (s.gateway.now + s.line.retryDelay) }.settle := by
    have ht : Spared (s.recordAttempt true)
        (((s.recordAttempt true).note n).report .interrupted (some failure)) :=
      (Spared.note _ n).trans (.report _ _ _)
    obtain ⟨address, haddress⟩ := Option.isSome_iff_exists.1 ha
    have hline := ht.address.trans haddress
    refine ⟨_, ht, ?_⟩
    simp only [retry, beginAttempt, hline, ht.now, ht.retryDelay]
    rfl
  simp only [handleError, hr, Bool.not_true, Bool.false_eq_true, if_false]
  cases fault with
  | streamRejected status =>
    have hrecoverable : Rejection.isRecoverable status = true := hretried
    simp only [hrecoverable, if_true]
    exact retried _ _
  | _ => exact retried _ _

/-- One that is not retried settles how the attempt went and ends the source. -/
theorem handleError_spared_of_rejected (hr : s.running = true) {fault : Fault}
    (hrejected : fault.isRetried = false) :
    Spared (s.recordAttempt true) (concluded (s.handleError fault)) ∧
      (concluded (s.handleError fault)).running = false := by
  cases fault with
  | streamRejected status =>
    have hrecoverable : Rejection.isRecoverable status = false := hrejected
    simp only [handleError, hr, hrecoverable, Bool.not_true, Bool.false_eq_true, if_false]
    refine ⟨?_, ?_⟩
    · exact ((Spared.note _ _).trans (.stopWith _ _)).trans (.endWorker _)
    · exact (endWorker_running _).trans (stopWith_running _ _)
  | _ => exact absurd hrejected (by simp [Fault.isRetried])

end StreamSource

end FlagReplica
