import FlagReplica.Proofs.Stream.Events

/-!
# How often a source breaks its line off

Each part of a stream's work leaves the store and the line's address alone, starts nothing again,
and breaks the line off a number of times that is known beforehand. The lemmas here give that
number for one part after another, up to what the worker makes of a delivery and what the source
makes of news about its store.
-/

namespace FlagReplica

/-- An event that is one of those that are decoded, and cannot be. -/
def StreamEvent.isMisread (e : StreamEvent) : Bool :=
  match e.reading? with
  | some (.error _) => true
  | _ => false

/-- A delivered event that cannot be decoded. -/
def Delivered.isMisread : Delivered → Bool
  | event e => e.isMisread
  | _ => false

namespace StreamSource

variable {σ : Type} {s t u : StreamSource σ}

/-- A source that runs has a line to break off. -/
def Linked (s : StreamSource σ) : Prop :=
  s.running = true → s.line.address.isSome = true

/-- A source is registered for its store's health exactly while it runs. -/
def Subscribed (s : StreamSource σ) : Prop :=
  s.subscriptions = if s.running then 1 else 0

/-- What a part of the work does to a source, which breaks its line off so many times. -/
structure Works (s s' : StreamSource σ) (interrupts : Nat) : Prop where
  sound : s'.Sound
  store : s'.gateway.store = s.gateway.store
  address : s'.line.address = s.line.address
  interrupts : s'.line.interrupts = s.line.interrupts + interrupts
  running : s'.running = true → s.running = true
  subscribed : s.Subscribed → s'.Subscribed

namespace Works

theorem linked {n : Nat} (h : Works s t n) (hl : s.Linked) : t.Linked := by
  intro hr
  rw [h.address]
  exact hl (h.running hr)

/-- One part of the work after another. -/
theorem trans {m n : Nat} (h : Works s t m) (h' : Works t u n) : Works s u (m + n) := by
  refine ⟨h'.sound, h'.store.trans h.store, h'.address.trans h.address, ?_,
    fun hr => h.running (h'.running hr), fun hs => h'.subscribed (h.subscribed hs)⟩
  rw [h'.interrupts, h.interrupts, Nat.add_assoc]

/-- A part that breaks nothing off may come first. -/
theorem after {n : Nat} (h' : Works t u n) (h : Works s t 0) : Works s u n := by
  have hboth := h.trans h'
  rwa [Nat.zero_add] at hboth

/-- A part that breaks nothing off may come last. -/
theorem before {n : Nat} (h : Works s t n) (h' : Works t u 0) : Works s u n :=
  h.trans h'

theorem refl (h : s.Sound) : Works s s 0 :=
  ⟨h, rfl, rfl, rfl, id, id⟩

/-! ## Parts that break nothing off -/

theorem note (h : s.Sound) (n : Notice) : Works s (s.note n) 0 :=
  ⟨h.note n, rfl, rfl, rfl, id, id⟩

theorem recordAttempt (h : s.Sound) (failed : Bool) : Works s (s.recordAttempt failed) 0 :=
  ⟨h.recordAttempt failed, rfl, rfl, rfl, id, id⟩

theorem endWorker (h : s.Sound) : Works s s.endWorker 0 := by
  refine ⟨h.endWorker, by simp, ?_, by simp, by simp, ?_⟩
  · unfold StreamSource.endWorker
    split <;> rfl
  · unfold StreamSource.endWorker
    split <;> exact id

theorem settle (h : s.Sound) : Works s s.settle 0 := by
  rcases s.settle_eq with he | he
  · rw [he]
    exact .refl h
  · rw [he]
    exact .endWorker h

theorem concluded {r : Except Fault Bool × StreamSource σ} (h : r.2.Sound) :
    Works r.2 (concluded r) 0 := by
  unfold StreamSource.concluded
  split
  · exact .settle h
  · exact .endWorker h

theorem report (h : s.Sound) (state : SyncState) (failure? : Option Failure) :
    Works s (s.report state failure?) 0 := by
  refine ⟨h.report state failure?, ?_, ?_, ?_, ?_, ?_⟩
  · rw [report_of_unstopped h.stopsUpon]
    simp
  · rw [report_of_unstopped h.stopsUpon]
  · rw [report_of_unstopped h.stopsUpon]
    rfl
  · rw [report_of_unstopped h.stopsUpon]
    exact id
  · rw [report_of_unstopped h.stopsUpon]
    exact id

theorem beginAttempt (h : s.Sound) : Works s s.beginAttempt.2 0 := by
  refine ⟨h.beginAttempt, ?_, ?_, ?_, ?_, ?_⟩ <;>
  · unfold StreamSource.beginAttempt
    split <;> first | rfl | exact id

/-- A source that halts is no longer registered for its store's health. -/
theorem halted (h : s.Sound) : Works s s.halted 0 ∧ s.halted.running = false := by
  cases hr : s.running with
  | false =>
    have hsame : s.halted = s := by simp [StreamSource.halted, hr]
    rw [hsame]
    exact ⟨.refl h, hr⟩
  | true =>
    have hsame : s.halted =
        { s.note .streamStopping with
          running := false
          subscriptions := s.subscriptions - 1
          line := if s.line.address.isSome then s.line.close else s.line } := by
      simp [StreamSource.halted, hr]
    -- closing a line keeps its address
    have haddress : (if s.line.address.isSome then s.line.close else s.line).address =
        s.line.address := by
      split <;> rfl
    rw [hsame]
    refine ⟨⟨⟨h.stopsUpon, ?_, h.recorded⟩, rfl, haddress, ?_, by simp, ?_⟩, rfl⟩
    · intro hw
      have ha := h.address hw
      rw [← haddress] at ha
      exact ha
    · show (if s.line.address.isSome then s.line.close else s.line).interrupts = _
      split <;> rfl
    · intro hs
      -- running, the stream holds its one subscription, which halting gives back
      have hone : s.subscriptions = 1 := by
        rw [hs, hr]
        rfl
      show s.subscriptions - 1 = 0
      omega

/-- A stop halts the source, whatever it reports. -/
theorem stopWith (h : s.Sound) (failure? : Option Failure) :
    Works s (s.stopWith failure?) 0 ∧ (s.stopWith failure?).running = false := by
  rcases halted h with ⟨hworks, hrunning⟩
  rw [stopWith_halted]
  have hreported : Works s.halted
      { s.halted with
        gateway := (s.halted.gateway.report .off failure?).2
        readiness := (s.halted.readiness.resolve false).2
        stopsUpon :=
          if (s.halted.gateway.report .off failure?).1.isSome ∧
              s.halted.stopsUpon = some SyncState.off then none
          else s.halted.stopsUpon } 0 := by
    refine ⟨⟨?_, hworks.sound.address, hworks.sound.recorded.report _ _⟩, ?_, rfl, rfl, id, id⟩
    · simp [hworks.sound.stopsUpon]
    · simp
  refine ⟨(hworks.before hreported).before (.settle hreported.sound), ?_⟩
  rw [settle_running]
  exact hrunning

theorem dataStored (h : s.Sound) : Works s s.dataStored 0 := by
  cases hr : s.running with
  | false =>
    rw [dataStored_of_stopped hr]
    exact .refl h
  | true =>
    refine ⟨h.dataStored hr, ?_, ?_, ?_, ?_, ?_⟩
    · rw [dataStored_eq hr h.stopsUpon]
      simp
    · rw [dataStored_eq hr h.stopsUpon]
      rfl
    · rw [dataStored_eq hr h.stopsUpon]
      rfl
    · intro _
      exact hr
    · rw [dataStored_eq hr h.stopsUpon]
      exact id

/-! ## Restarts -/

/-- A restart breaks the line off once, if the source runs. -/
theorem restart (h : s.Sound) (hl : s.Linked) (isFailure : Bool) :
    Works s (s.restart isFailure).2 (if s.running then 1 else 0) := by
  cases hr : s.running with
  | false =>
    have hsame : (s.restart isFailure).2 = s := by simp [StreamSource.restart, hr]
    rw [hsame]
    exact .refl h
  | true =>
    have hsound := h.restart isFailure
    rw [restart_eq hr (hl hr)] at hsound ⊢
    refine ⟨hsound, ?_, ?_, ?_, fun _ => hr, ?_⟩ <;>
    · cases isFailure <;> first | rfl | exact id

/-- An event that could not be applied breaks the line off once, if the source runs. -/
theorem eventFailed (h : s.Sound) (hl : s.Linked) (fault : Fault) :
    Works s (s.eventFailed fault).2 (if s.running then 1 else 0) := by
  cases hr : s.running with
  | false =>
    rw [eventFailed_of_stopped hr]
    exact .refl h
  | true =>
    have hsound := (eventFailed_goesOn h fault).sound
    rw [eventFailed_eq hr (hl hr) h.stopsUpon] at hsound ⊢
    exact ⟨hsound, by simp, rfl, rfl, fun _ => hr, id⟩

/-! ## What the worker does -/

/-- An event that cannot be decoded breaks the line off once, if the source runs. -/
theorem receive (h : s.Sound) (hl : s.Linked) (e : StreamEvent) :
    Works s (s.receive e).2 (if s.running && e.isMisread then 1 else 0) := by
  cases hreading : e.reading? with
  | none =>
    have hread : e.isMisread = false := by simp [StreamEvent.isMisread, hreading]
    rw [receive_of_unknown hreading, hread, Bool.and_false]
    exact .note h _
  | some reading =>
    cases reading with
    | error fault =>
      have hread : e.isMisread = true := by simp [StreamEvent.isMisread, hreading]
      rw [receive_of_error hreading, hread, Bool.and_true]
      -- only a message that cannot be read breaks the stream off here
      exact .eventFailed h hl fault
    | ok r =>
      have hread : e.isMisread = false := by simp [StreamEvent.isMisread, hreading]
      rw [hread, Bool.and_false]
      cases r with
      | skip m path =>
        rw [receive_of_skip hreading]
        exact .note h _
      | change c =>
        have hchange : e.change? = some c := by simp [StreamEvent.change?, hreading]
        rw [receive_of_change hchange]
        exact ⟨⟨h.stopsUpon, h.address, h.recorded⟩, rfl, rfl, rfl, id, id⟩

theorem retry (h : s.Sound) (failure : Failure) : Works s (s.retry failure).2 0 := by
  have hreport : Works s (s.report .interrupted (some failure)) 0 := .report h _ _
  exact hreport.before (.beginAttempt hreport.sound)

/-- A connection error breaks nothing off: the connection is gone already. -/
theorem handleError (h : s.Sound) (fault : Fault) : Works s (s.handleError fault).2 0 := by
  have hrecorded : Works s (s.recordAttempt true) 0 := .recordAttempt h true
  have hnoted : ∀ n : Notice, Works s ((s.recordAttempt true).note n) 0 :=
    fun n => hrecorded.before (.note hrecorded.sound n)
  unfold StreamSource.handleError
  split
  · exact .refl h
  · dsimp only
    split
    · split
      · exact (hnoted _).before (.retry (hnoted _).sound _)
      · exact (hnoted _).before (stopWith (hnoted _).sound _).1
    · exact (hnoted _).before (.retry (hnoted _).sound _)

/-- What is delivered breaks the line off once if it is an event that cannot be decoded, and the
source runs. -/
theorem accept (h : s.Sound) (hl : s.Linked) {d : Delivered} (haccept : s.accept d = some t) :
    Works s t (if s.running && d.isMisread then 1 else 0) := by
  -- nothing is accepted without a worker
  have hworker : s.worker = .running := by
    by_cases hw : s.worker = .running
    · exact hw
    · rw [accept_of_idle hw] at haccept
      exact absurd haccept (by simp)
  cases hr : s.running with
  | false =>
    rw [accept_of_stopped hworker hr] at haccept
    rw [← Option.some.inj haccept]
    exact .endWorker h
  | true =>
    rw [accept_of_running hworker hr] at haccept
    rw [← Option.some.inj haccept, Bool.true_and]
    -- handing over takes the delivery off the line and interrupts nothing
    have hhanded : Works s s.handed 0 :=
      ⟨⟨h.stopsUpon, h.address, h.recorded⟩, rfl, rfl, rfl, id, id⟩
    refine Works.after ?_ hhanded
    show Works s.handed (s.handed.handled d) _
    cases d with
    | event e =>
      have hreceived := receive hhanded.sound (hhanded.linked hl) e
      rw [show s.handed.running = true from hr, Bool.true_and] at hreceived
      exact hreceived.before (.settle hreceived.sound)
    | lost fault? =>
      cases fault? with
      | none => exact .settle hhanded.sound
      | some fault =>
        have hhandled := handleError hhanded.sound fault
        exact hhandled.before (.concluded hhandled.sound)
    | comment => exact .settle hhanded.sound
    | connected => exact .settle hhanded.sound

/-! ## What the source makes of its store's health -/

/-- News of a store that is available again and stale breaks the line off once, if the source
runs. -/
theorem hearHealth (h : s.Sound) (hl : s.Linked) (health : Health) :
    Works s (s.hearHealth health).2
      (if s.running && (health.available && health.stale) then 1 else 0) := by
  unfold StreamSource.hearHealth
  cases hr : s.running with
  | false => exact .refl h
  | true =>
    cases hav : health.available with
    | false => exact .report h _ _
    | true =>
      cases hst : health.stale with
      | false => exact .refl h
      | true =>
        have hnoted : Works s (s.note .refreshing) 0 := .note h _
        have hrestart := restart hnoted.sound (hnoted.linked hl) false
        rw [show (s.note .refreshing).running = true from hr] at hrestart
        exact hrestart.after hnoted

/-- A source that is registered hears news once, and one that is not does not hear it. -/
theorem hearPublished_eq (hs : s.Subscribed) (health : Health) :
    s.hearPublished health = (s.hearHealth health).2 := by
  unfold StreamSource.hearPublished
  rw [hs]
  cases hr : s.running with
  | false => simp [StreamSource.hearHealth, hr]
  | true => rfl

end Works

end StreamSource

end FlagReplica
