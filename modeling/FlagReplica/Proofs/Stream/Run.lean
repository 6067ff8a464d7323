import FlagReplica.Proofs.Stream.Operations

/-!
# Runs of a streaming source

What can happen to a streaming source, and what each happening makes of where it stands. The worker
handles one thing at a time and takes nothing while it writes; a stop and news of the store's health
may come at any time, also while a write is in progress. Between two happenings others may use the
store, so that a write may find the store in any state and be answered or refused.
-/

namespace FlagReplica

/-- What happens to a streaming source. -/
inductive Happening where
  | started
  | stopped
  /-- The worker takes what the line delivers. -/
  | taken (d : Delivered)
  /-- A write ends, and the store has answered it or failed. -/
  | written (c : Change) (answer : Except Fault Bool)
  /-- News of the store's health arrives. -/
  | heard (h : Health)
  /-- Time passes, the store and the listeners change, the line chooses another delay. -/
  | elapsed

namespace Happening

/-- A stop, or a rejection of the credentials. -/
def Ends : Happening → Prop
  | stopped => True
  | taken (.lost (some (.streamRejected status))) => status = 401 ∨ status = 403
  | _ => False

/-- The store has taken a full data set. -/
def StoresAll : Happening → Prop
  | written (.replace _) (.ok _) => True
  | _ => False

/-- What stores a full data set ends nothing. -/
theorem not_ends_of_storesAll {a : Happening} (h : a.StoresAll) : ¬ a.Ends := by
  cases a <;> simp_all [StoresAll, Ends]

end Happening

/-- Trying again is pointless after exactly two statuses. -/
theorem Rejection.isRecoverable_eq_false_iff (status : Int) :
    Rejection.isRecoverable status = false ↔ status = 401 ∨ status = 403 := by
  simp [Rejection.isRecoverable]
  omega

namespace StreamSource

variable {σ : Type}

/-- One happening. -/
inductive Step [Repository σ] : StreamSource σ → Happening → StreamSource σ → Prop where
  | start (s : StreamSource σ) : Step s .started s.start.2
  | stop (s : StreamSource σ) : Step s .stopped s.stop
  | take {s s' : StreamSource σ} {d : Delivered} (idle : s.writing = none)
      (accepted : s.accept d = some s') : Step s (.taken d) s'
  | write {s : StreamSource σ} {c : Change} (writing : s.writing = some c) :
      Step s (.written c (Gateway.request s.gateway.store c).result) s.write.2
  | hear (s : StreamSource σ) (h : Health) : Step s (.heard h) (s.hearHealth h).2
  | elapse (s : StreamSource σ) (store : σ) (audience : Audience Status) (now delay : Millis) :
      Step s .elapsed
        { s with
          gateway := { s.gateway with store, audience, now }
          line := { s.line with retryDelay := delay } }

/-- Happenings one after another, the latest at the end. -/
inductive Run [Repository σ] (s : StreamSource σ) : List Happening → StreamSource σ → Prop where
  | nil : Run s [] s
  | snoc {past : List Happening} {s' s'' : StreamSource σ} {a : Happening}
      (run : Run s past s') (step : Step s' a s'') : Run s (past ++ [a]) s''

/-- A source that nothing has happened to yet, at a gateway that nothing has gone through. No
listener of its status stops it. -/
structure Fresh (s : StreamSource σ) : Prop where
  state : s.gateway.status.state = .initializing
  error : s.gateway.status.error = none
  readiness : s.readiness = .pending
  running : s.running = false
  worker : s.worker = .unstarted
  writing : s.writing = none
  stopsUpon : s.stopsUpon = none

/-- A source that some run from a fresh one leads to, whatever has been started and stopped in
it. -/
def Reached [Repository σ] (s : StreamSource σ) : Prop :=
  ∃ s₀ past, s₀.Fresh ∧ Run s₀ past s

/-! ## Where a source stands -/

/-- Where a streaming source stands. -/
def standing (s : StreamSource σ) : Standing :=
  ⟨s.running, s.gateway.status.state, s.readiness⟩

/-- Two sources stand alike if the three variables agree. -/
theorem standing_congr {s t : StreamSource σ} (hr : t.running = s.running)
    (hs : t.gateway.status.state = s.gateway.status.state) (hread : t.readiness = s.readiness) :
    t.standing = s.standing := by
  simp [standing, hr, hs, hread]

@[simp] theorem standing_note (s : StreamSource σ) (n : Notice) :
    (s.note n).standing = s.standing := rfl

@[simp] theorem standing_endWorker (s : StreamSource σ) : s.endWorker.standing = s.standing := by
  apply standing_congr <;> simp

@[simp] theorem standing_settle (s : StreamSource σ) : s.settle.standing = s.standing := by
  apply standing_congr <;> simp

@[simp] theorem standing_beginAttempt (s : StreamSource σ) :
    s.beginAttempt.2.standing = s.standing := by
  unfold beginAttempt
  split <;> rfl

@[simp] theorem standing_restart (s : StreamSource σ) (isFailure : Bool) :
    (s.restart isFailure).2.standing = s.standing := by
  unfold restart
  split
  · rfl
  · dsimp only
    split
    · cases isFailure <;> rfl
    · rw [standing_beginAttempt]
      cases isFailure <;> rfl

/-- A report moves the state and nothing else. -/
theorem standing_report {s : StreamSource σ} (hn : s.stopsUpon = none) (state : SyncState)
    (failure? : Option Failure) :
    (s.report state failure?).standing =
      { s.standing with state := s.standing.state.after state } := by
  rw [report_of_unstopped hn]
  simp [standing]

theorem standing_interrupt {s : StreamSource σ} (hn : s.stopsUpon = none)
    (failure? : Option Failure) :
    (s.report .interrupted failure?).standing = s.standing.interrupted :=
  standing_report hn .interrupted failure?

/-- A stop ends the source wherever it stands. -/
theorem standing_stopWith (s : StreamSource σ) (failure? : Option Failure) :
    (s.stopWith failure?).standing = s.standing.ended := by
  unfold stopWith
  rw [standing_settle]
  cases hr : s.running <;>
    simp [standing, Standing.ended, Readiness.settled, hr, note]

/-- A full data set moves a source that runs. -/
theorem standing_dataStored {s : StreamSource σ} (hr : s.running = true)
    (hn : s.stopsUpon = none) : s.dataStored.standing = s.standing.synced := by
  rw [dataStored_eq hr hn]
  simp [standing, Standing.synced]

/-- A failed write has moved the source already, before it counts as a failed event. -/
theorem standing_eventFailed_storeFault (s : StreamSource σ) (fault : Fault) :
    (s.eventFailed (Gateway.storeFault fault)).2.standing = s.standing := by
  unfold eventFailed
  split
  · rfl
  · simp [Gateway.storeFault]

@[simp] theorem standing_concluded (r : Except Fault Bool × StreamSource σ) :
    (concluded r).standing = r.2.standing := by
  unfold concluded
  split <;> simp

/-! ## What every run preserves -/

/-- No listener stops the source, a worker that is running has a line, and the failures on record
are numbered. -/
structure Sound (s : StreamSource σ) : Prop where
  stopsUpon : s.stopsUpon = none
  address : s.worker = .running → s.line.address.isSome = true
  recorded : s.gateway.Recorded

namespace Sound

variable {s : StreamSource σ}

theorem note (h : s.Sound) (n : Notice) : (s.note n).Sound :=
  ⟨h.stopsUpon, h.address, h.recorded⟩

theorem recordAttempt (h : s.Sound) (failed : Bool) : (s.recordAttempt failed).Sound :=
  ⟨h.stopsUpon, h.address, h.recorded⟩

theorem endWorker (h : s.Sound) : s.endWorker.Sound := by
  unfold StreamSource.endWorker
  split
  · exact ⟨h.stopsUpon, fun hw => absurd hw (by simp), h.recorded⟩
  · exact h

theorem settle (h : s.Sound) : s.settle.Sound := by
  rcases s.settle_eq with he | he
  · rw [he]
    exact h
  · rw [he]
    exact h.endWorker

theorem concluded {r : Except Fault Bool × StreamSource σ} (h : r.2.Sound) :
    (concluded r).Sound := by
  unfold StreamSource.concluded
  split
  · exact h.settle
  · exact h.endWorker

theorem beginAttempt (h : s.Sound) : s.beginAttempt.2.Sound := by
  unfold StreamSource.beginAttempt
  split
  · exact h
  · exact ⟨h.stopsUpon, h.address, h.recorded⟩

theorem restart (h : s.Sound) (isFailure : Bool) : (s.restart isFailure).2.Sound := by
  unfold StreamSource.restart
  split
  · exact h
  · dsimp only
    split
    · cases isFailure
      · exact h
      · exact h.recordAttempt true
    · refine Sound.beginAttempt ?_
      cases isFailure <;> exact ⟨h.stopsUpon, h.address, h.recorded⟩

theorem report (h : s.Sound) (state : SyncState) (failure? : Option Failure) :
    (s.report state failure?).Sound := by
  rw [report_of_unstopped h.stopsUpon]
  exact ⟨h.stopsUpon, h.address, h.recorded.report _ _⟩

theorem stopWith (h : s.Sound) (failure? : Option Failure) : (s.stopWith failure?).Sound := by
  unfold StreamSource.stopWith
  refine Sound.settle ?_
  -- closing a line does not make it forget its address
  cases hr : s.running with
  | false =>
    constructor
    · simp [h.stopsUpon]
    · exact h.address
    · exact h.recorded.report _ _
  | true =>
    constructor
    · simp [h.stopsUpon, StreamSource.note]
    · intro hw
      have ha := h.address hw
      simp [ha, StreamSource.note, Line.close]
    · exact Gateway.Recorded.report (h.note .streamStopping).recorded _ _

/-- A start opens the line before it sets the worker to work. -/
theorem start (h : s.Sound) : s.start.2.Sound := by
  unfold StreamSource.start
  dsimp only
  split
  · exact ⟨h.stopsUpon, h.address, h.recorded⟩
  · split
    · exact ⟨h.stopsUpon, fun _ => rfl, h.recorded⟩
    · exact ⟨h.stopsUpon, fun _ => rfl, h.recorded⟩

theorem dataStored (h : s.Sound) (hr : s.running = true) : s.dataStored.Sound := by
  rw [dataStored_eq hr h.stopsUpon]
  exact ⟨h.stopsUpon, h.address, h.recorded.afterData _ _⟩

end Sound

theorem Fresh.sound {s : StreamSource σ} (h : s.Fresh) : s.Sound := by
  refine ⟨h.stopsUpon, ?_, ?_⟩
  · intro hw
    rw [h.worker] at hw
    exact absurd hw (by decide)
  · intro record he
    rw [h.error] at he
    exact absurd he (by simp)

/-! ## Where each happening leads -/

/-- The source goes on from where it stood, perhaps interrupted. -/
structure GoesOn (c : Standing) (t : StreamSource σ) : Prop where
  sound : t.Sound
  standing : t.standing = c ∨ t.standing = c.interrupted

namespace GoesOn

variable {c : Standing} {s t u : StreamSource σ}

theorem refl (hs : s.Sound) : GoesOn s.standing s :=
  ⟨hs, Or.inl rfl⟩

/-- What does not move the source may follow. -/
theorem congr (h : GoesOn c t) (hu : u.Sound) (hs : u.standing = t.standing) : GoesOn c u := by
  refine ⟨hu, ?_⟩
  rw [hs]
  exact h.standing

theorem settle (h : GoesOn c t) : GoesOn c t.settle :=
  h.congr h.sound.settle (by simp)

theorem restart (h : GoesOn c t) (isFailure : Bool) : GoesOn c (t.restart isFailure).2 :=
  h.congr (h.sound.restart isFailure) (by simp)

/-- A source that has been interrupted once is interrupted. -/
theorem report (hs : s.Sound) (failure? : Option Failure) :
    GoesOn s.standing (s.report .interrupted failure?) :=
  ⟨hs.report _ _, Or.inr (standing_interrupt hs.stopsUpon failure?)⟩

end GoesOn

/-- A failed event interrupts a source at most. -/
theorem eventFailed_goesOn {s : StreamSource σ} (hs : s.Sound) (fault : Fault) :
    GoesOn s.standing (s.eventFailed fault).2 := by
  have invalid : ∀ n : Notice, GoesOn s.standing
      (((s.note n).report .interrupted (some (.ofFault fault))).restart true).2 := by
    intro n
    exact (GoesOn.report (hs.note n) _).restart true
  cases hr : s.running with
  | false =>
    rw [eventFailed_of_stopped hr]
    exact GoesOn.refl hs
  | true =>
    cases fault with
    | storeUpdate text cause =>
      have h : GoesOn s.standing (s.note (.eventNotStored (.storeUpdate text cause))) :=
        ⟨hs.note _, Or.inl rfl⟩
      simpa [eventFailed, hr] using h.restart true
    | _ => simpa [eventFailed, hr] using invalid _

/-- Decoding an event interrupts a source at most. -/
theorem receive_goesOn {s : StreamSource σ} (hs : s.Sound) (e : StreamEvent) :
    GoesOn s.standing (s.receive e).2 := by
  unfold receive
  split
  · exact ⟨hs.note _, Or.inl rfl⟩
  · split
    · exact eventFailed_goesOn hs _
    · exact ⟨hs.note _, Or.inl rfl⟩
    · exact ⟨⟨hs.stopsUpon, hs.address, hs.recorded⟩, Or.inl rfl⟩

/-- News of the store's health interrupts a source at most. -/
theorem hearHealth_goesOn {s : StreamSource σ} (hs : s.Sound) (h : Health) :
    GoesOn s.standing (s.hearHealth h).2 := by
  unfold hearHealth
  split
  · exact GoesOn.refl hs
  · split
    · exact GoesOn.report hs _
    · split
      · have hnote : GoesOn s.standing (s.note .refreshing) := ⟨hs.note _, Or.inl rfl⟩
        exact hnote.restart false
      · exact GoesOn.refl hs

/-- A connection that is made again interrupts a source. -/
theorem retry_goesOn {s : StreamSource σ} (hs : s.Sound) (failure : Failure) :
    GoesOn s.standing (s.retry failure).2 := by
  have h : GoesOn s.standing (s.report .interrupted (some failure)) := GoesOn.report hs _
  exact h.congr h.sound.beginAttempt (standing_beginAttempt _)

end StreamSource

/-! ## A small source -/

/-- An event that brings a full data set without any item. -/
def StreamEvent.emptyPut : StreamEvent :=
  ⟨"put", "\x7b\"data\":\x7b\x7d\x7d"⟩

/-- The change that it asks for. -/
def Change.emptied : Change :=
  .replace [(.flag, []), (.segment, [])]

namespace StreamSource

/-- A source that writes to a store in memory and tells nobody. -/
def sample : StreamSource Memory :=
  { gateway := .create {} none 0, uri := "http://localhost/all" }

theorem sample_fresh : sample.Fresh :=
  ⟨rfl, rfl, rfl, rfl, rfl, rfl, rfl⟩

end StreamSource

end FlagReplica
