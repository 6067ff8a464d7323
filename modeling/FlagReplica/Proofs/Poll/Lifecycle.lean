import FlagReplica.Proofs.Poll.Run
import Mathlib

/-!
# The life of a polling source

A polling source is initializing until its first full data set has been stored, then valid and
interrupted in turn, and off from the first stop or rejection of its credentials on. Its task is
stopped with it, and then no fetch begins any more; after every other failure the next one is due
when the interval is over. `step_effect` says what each happening does to the source's standing, and
`Lived` is what a whole run preserves.
-/

namespace FlagReplica

namespace PollWork

variable {σ : Type} {w w' : PollWork σ} {a : PollHappening} {past later : List PollHappening}

/-! ## One step -/

/-- Whether the source has been stopped, told from where it stands. -/
theorem running_standing (s : PollSource σ) : s.standing.running = false ↔ s.stopped = true := by
  simp [PollSource.standing]

/-- A task that goes on in step with its source goes on doing so. -/
theorem proceed_halted {s : PollSource σ} (hw : w.task.stopped = w.source.stopped)
    (hs : w.source.stopped = true → s.stopped = true) :
    (w.proceed s).task.stopped = s.stopped := by
  have htask : (w.proceed s).task.stopped = if s.stopped then true else w.task.stopped := by
    unfold proceed
    cases s.stopped <;> cases s.writing <;> simp [Task.stop]
  rw [htask]
  cases hstopped : s.stopped with
  | true => rfl
  | false =>
    have hgoes : w.source.stopped = false := by
      by_contra hne
      rw [hs (by simpa using hne)] at hstopped
      exact absurd hstopped (by decide)
    simp [hw, hgoes]

/-- A run of the task that ends begins no other. -/
theorem proceed_began (w : PollWork σ) (s : PollSource σ) :
    (w.proceed s).task.began = w.task.began := by
  unfold proceed
  cases s.stopped <;> cases s.writing <;> simp [Task.stop]

/-- A start stops no task and begins no run of it. -/
theorem start_task (w : PollWork σ) :
    w.start.task.stopped = w.task.stopped ∧ w.start.task.began = w.task.began := by
  unfold start
  cases hstart : w.task.start w.source.gateway.now with
  | ok task => exact Task.start_ok hstart
  | error fault => exact ⟨rfl, rfl⟩

section Step

variable [Repository σ]

/-- A source is stopped only by what ends it, and for good. -/
theorem Step.stopped_iff (h : Step w a w') :
    w'.source.stopped = true ↔ w.source.stopped = true ∨ a.Ends := by
  rw [← running_standing, ← running_standing]
  exact (step_effect h).running_iff PollHappening.not_ends_of_storesAll

/-- The task is stopped exactly when its source is. -/
theorem Step.halted (h : Step w a w') (hw : w.task.stopped = w.source.stopped) :
    w'.task.stopped = w'.source.stopped := by
  have hstopped := h.stopped_iff
  have hmono : w.source.stopped = true → w'.source.stopped = true := fun hs =>
    hstopped.2 (Or.inl hs)
  cases h with
  | start =>
    have hsource : w.start.source.stopped = w.source.stopped := by
      rw [Bool.eq_iff_iff, hstopped]
      simp [PollHappening.Ends]
    rw [w.start_task.1, hw, hsource]
  | stop =>
    have hsource : w.stop.source.stopped = true := hstopped.2 (Or.inr trivial)
    rw [hsource]
    rfl
  | wake => simpa using hw
  | fetch runs idle outcome => exact proceed_halted hw hmono
  | write runs writing => exact proceed_halted hw hmono
  | elapse => exact hw

/-- Where the source has been stopped no fetch begins. -/
theorem Step.idle (h : Step w a w') (hw : w.task.stopped = w.source.stopped)
    (hs : w.task.stopped = true) :
    w'.task.began = w.task.began ∧ w'.source.fetches = w.source.fetches := by
  have hsource : w.source.stopped = true := hw.symm.trans hs
  have hsource' : w'.source.stopped = true := h.stopped_iff.2 (Or.inl hsource)
  cases h with
  | start =>
    refine ⟨w.start_task.2, ?_⟩
    simp only [PollWork.start, PollSource.start]
    split
    · rfl
    · simp [PollSource.fetchNext, PollSource.note, hsource]
  | stop => exact ⟨rfl, (PollSource.Keeps.stopWith _ _).fetches⟩
  -- a wake-up of a stopped task begins no run
  | wake => exact ⟨Task.wake_of_stopped hs, rfl⟩
  | fetch runs idle outcome =>
    refine ⟨proceed_began _ _, ?_⟩
    cases hd : outcome.bind Payload.toDataSet with
    | ok data =>
      show (w.source.receive outcome).fetches = w.source.fetches
      simp only [PollSource.receive, hd]
    | error fault =>
      have hover := PollSource.receive_over idle hd
      rw [proceed] at hsource' ⊢
      dsimp only at hsource' ⊢
      -- an operation that ends after the stop asks for no further fetch
      rw [hover.fetches, if_pos hsource']
  | write runs writing =>
    have hover := PollSource.write_over writing
    refine ⟨proceed_began _ _, ?_⟩
    rw [proceed] at hsource' ⊢
    dsimp only at hsource' ⊢
    rw [hover.fetches, if_pos hsource']
  | elapse => exact ⟨rfl, rfl⟩

/-- After a poll that failed and ended nothing the next one is due when the interval is over. -/
theorem Step.due (h : Step w a w') (hfails : a.Fails) (hends : ¬ a.Ends)
    (hs : w.source.stopped = false) :
    w'.source.fetches = w.source.fetches + 1 ∧
      ∃ since, w.task.phase = .running since ∧
        w'.task.phase =
          .waiting (max (since + w.task.cadence.interval) w.source.gateway.now) := by
  have hgoes : w'.source.stopped = false := by
    rw [← Bool.not_eq_true, h.stopped_iff]
    simp [hs, hends]
  -- a fetch that fails and a write that ends both close the run the same way
  have hproceed : ∀ {s : PollSource σ} {since : Millis}, w.source.Over s → s.stopped = false →
      w.task.phase = .running since →
      s.fetches = w.source.fetches + 1 ∧ (w.proceed s).task.phase =
        .waiting (max (since + w.task.cadence.interval) w.source.gateway.now) := by
    intro s since hover hgoes hruns
    refine ⟨by simp [hover.fetches, hgoes], ?_⟩
    have hfinish : (w.proceed s).task = w.task.finish s.gateway.now none := by
      simp [proceed, hgoes, hover.writing]
    rw [hfinish, hover.now]
    exact Task.finish_of_running hruns _ _
  cases h with
  | @fetch since runs idle outcome =>
    rcases hfails with ⟨fault, hd⟩
    rcases hproceed (PollSource.receive_over idle hd) hgoes runs with ⟨hfetches, hphase⟩
    exact ⟨hfetches, since, runs, hphase⟩
  | @write since data runs writing =>
    rcases hproceed (PollSource.write_over writing) hgoes runs with ⟨hfetches, hphase⟩
    exact ⟨hfetches, since, runs, hphase⟩
  | start => exact hfails.elim
  | stop => exact hfails.elim
  | wake => exact hfails.elim
  | elapse => exact hfails.elim

end Step

/-! ## A whole run -/

/-- What holds of a source at work after a run. -/
structure Lived (past : List PollHappening) (w : PollWork σ) : Prop where
  halted : w.task.stopped = w.source.stopped
  coherent : w.source.standing.Coherent
  stopped_iff : w.source.stopped = true ↔ ∃ a ∈ past, a.Ends
  succeeded_iff : w.source.readiness = .succeeded ↔
    Foremost PollHappening.StoresAll PollHappening.Ends past

/-- A fresh source has lived through nothing. -/
theorem Fresh.lived (h : w.Fresh) : Lived [] w := by
  have hnone : ¬ Foremost PollHappening.StoresAll PollHappening.Ends [] := Foremost.not_nil
  refine ⟨h.stopped.trans h.source.stopped.symm, ⟨?_, ?_, ?_⟩, ?_, ?_⟩
  · simp [PollSource.standing, h.source.readiness, h.source.state]
  · simp [PollSource.standing, h.source.state, h.source.stopped]
  · simp [PollSource.standing, h.source.readiness]
  · simp [h.source.stopped]
  · simp [h.source.readiness, hnone]

section Runs

variable [Repository σ]

/-- What has ended a source is over for good, and a full data set counts as long as nothing has. -/
theorem Lived.step (h : Lived past w) (hstep : Step w a w') : Lived (past ++ [a]) w' := by
  have heffect := step_effect hstep
  have hends : (∃ b ∈ past ++ [a], b.Ends) ↔ (∃ b ∈ past, b.Ends) ∨ a.Ends := by
    simp only [List.mem_append, List.mem_singleton, or_and_right, exists_or, exists_eq_left]
  have hgoing : (∀ b ∈ past, ¬ b.Ends) ↔ w.source.standing.running = true := by
    rw [← Bool.not_eq_false, running_standing, h.stopped_iff]
    simp
  have hsucceeded : w'.source.readiness = .succeeded ↔ w.source.readiness = .succeeded ∨
      (a.StoresAll ∧ w.source.standing.running = true) :=
    heffect.succeeded_iff h.coherent PollHappening.not_ends_of_storesAll
  refine ⟨hstep.halted h.halted, h.coherent.move heffect.move, ?_, ?_⟩
  · rw [hstep.stopped_iff, hends, h.stopped_iff]
  · rw [hsucceeded, Foremost.snoc, h.succeeded_iff, hgoing]

theorem Lived.run (h : Lived past w) (hrun : Run w later w') : Lived (past ++ later) w' := by
  induction hrun with
  | nil => simpa using h
  | snoc run step ih =>
    rw [← List.append_assoc]
    exact ih.step step

/-- What is over or resolved stays so, and no fetch begins any more. -/
theorem Lived.stable (h : Lived past w) (hrun : Run w later w') :
    (w.source.readiness ≠ .pending → w'.source.readiness = w.source.readiness) ∧
      (w.source.gateway.status.state = .off → w'.source.gateway.status.state = .off) ∧
      (w.task.stopped = true → w'.task.stopped = true ∧ w'.task.began = w.task.began ∧
        w'.source.fetches = w.source.fetches) := by
  induction hrun with
  | nil => simp
  | @snoc later w' w'' a run step ih =>
    rcases ih with ⟨hready, hoff, hidle⟩
    have hlived := h.run run
    -- every step moves the standing as one of the four moves, none of which takes back what was
    -- settled
    have hmove := (step_effect step).move
    refine ⟨?_, ?_, ?_⟩
    · intro hr
      have hr' : w'.source.readiness ≠ .pending := by
        rw [hready hr]
        exact hr
      exact (Standing.Coherent.readiness_move hmove hr').trans (hready hr)
    · intro hs
      exact hlived.coherent.off_move hmove (hoff hs)
    · intro hs
      rcases hidle hs with ⟨hstopped, hbegan, hfetches⟩
      rcases step.idle hlived.halted hstopped with ⟨hbegan', hfetches'⟩
      refine ⟨?_, hbegan'.trans hbegan, hfetches'.trans hfetches⟩
      rw [step.halted hlived.halted, step.stopped_iff, ← hlived.halted]
      exact Or.inl hstopped

/-- The life of a polling source, after every run. The signal is pending exactly while the source is
initializing, and the source is off exactly when its task is stopped, which is when something has
ended it. The signal has succeeded exactly if a full data set was stored before that. A resolved
signal stays as it is, off is for good, and no fetch begins once the task is stopped. After every
failed poll that does not end the source its task goes on, and the next poll is due when the
interval is over. -/
theorem Run.life {w₀ : PollWork σ} (hfresh : w₀.Fresh) (hrun : Run w₀ past w) :
    (w.source.readiness = .pending ↔ w.source.gateway.status.state = .initializing) ∧
      (w.source.gateway.status.state = .off ↔ w.task.stopped = true) ∧
      (w.task.stopped = true ↔ ∃ a ∈ past, a.Ends) ∧
      (w.source.readiness = .succeeded ↔
        Foremost PollHappening.StoresAll PollHappening.Ends past) ∧
      (∀ later w', Run w later w' →
        (w.source.readiness ≠ .pending → w'.source.readiness = w.source.readiness) ∧
          (w.source.gateway.status.state = .off → w'.source.gateway.status.state = .off) ∧
          (w.task.stopped = true → w'.task.stopped = true ∧ w'.task.began = w.task.began ∧
            w'.source.fetches = w.source.fetches)) ∧
      ∀ a w', Step w a w' → a.Fails → ¬ a.Ends → w.task.stopped = false →
        w'.task.stopped = false ∧ w'.source.fetches = w.source.fetches + 1 ∧
          ∃ since, w.task.phase = .running since ∧
            w'.task.phase =
              .waiting (max (since + w.task.cadence.interval) w.source.gateway.now) := by
  have hlived : Lived past w := by
    simpa using hfresh.lived.run hrun
  have hoff : w.source.gateway.status.state = .off ↔ w.source.stopped = true :=
    hlived.coherent.off_iff.trans (running_standing w.source)
  refine ⟨hlived.coherent.pending_iff, ?_, ?_, hlived.succeeded_iff, ?_, ?_⟩
  · rw [hoff, hlived.halted]
  · rw [hlived.halted, hlived.stopped_iff]
  · intro later w' hlater
    exact hlived.stable hlater
  · intro a w' hstep hfails hends hs
    have hs' : w.source.stopped = false := hlived.halted.symm.trans hs
    refine ⟨?_, hstep.due hfails hends hs'⟩
    rw [hstep.halted hlived.halted, ← Bool.not_eq_true, hstep.stopped_iff]
    simp [hs', hends]

end Runs

/-! ## A stop during the second poll -/

/-- A source that polls into a store in memory every thirty seconds and tells nobody. -/
def sample : PollWork Memory :=
  { source :=
      { gateway := .create {} none 0
        interval := .integer 30
        fetcher := ⟨"http://localhost/latest-all", [], none⟩ }
    task := { cadence := ⟨"polling", 30000, 0⟩ } }

theorem sample_fresh : sample.Fresh :=
  ⟨⟨rfl, rfl, rfl, rfl, rfl, rfl⟩, rfl, rfl⟩

/-- A poll that is answered with 503. -/
def overloaded : List PollHappening :=
  [.started, .woken, .fetched (.error (.fetchRejected 503))]

/-- Half a minute later another poll, which brings a data set without any item, and a stop while it
is being written. -/
def lateStop : List PollHappening :=
  [.elapsed, .woken, .fetched (.ok (.value (.object []))), .stopped,
    .written [(.flag, []), (.segment, [])] (.ok true)]

/-- The first poll fails, and the next one is due after thirty seconds. The source is stopped while
that one writes the first full data set: the store takes it, and yet the source is off and its
signal has failed. -/
theorem Run.life_of_stop_during_poll :
    ∃ w w', sample.Fresh ∧ Run sample overloaded w ∧ w.task.phase = .waiting 30000 ∧
      Run sample (overloaded ++ lateStop) w' ∧ w'.task.began = [0, 30000] ∧
      (∃ a ∈ lateStop, a.StoresAll) ∧ w'.source.readiness = .failed ∧
      w'.source.gateway.status.state = .off ∧
      ¬ Foremost PollHappening.StoresAll PollHappening.Ends (overloaded ++ lateStop) := by
  let woken : PollWork Memory := { sample.start with task := sample.start.task.wake }
  have hwoken : Run sample [.started, .woken] woken :=
    .snoc (.snoc .nil (.start _)) (.wake rfl (Or.inl (by decide)))
  let failed := woken.proceed (woken.source.receive (.error (.fetchRejected 503)))
  have hfailed : Step woken (.fetched (.error (.fetchRejected 503))) failed := .fetch rfl rfl _
  rcases Run.life sample_fresh hwoken with ⟨-, -, -, -, -, hdue⟩
  rcases hdue _ _ hfailed ⟨_, rfl⟩ (by simp [PollHappening.Ends, Fault.IsFinal]) rfl
      with ⟨-, -, since, hsince, hphase⟩
  rcases Phase.running.inj (show Phase.running 0 = Phase.running since from hsince) with rfl
  -- half a minute later the wait is over
  have helapsed := (hwoken.snoc hfailed).snoc
    (.elapse failed {} failed.source.gateway.audience 30000)
  have hbegun := helapsed.snoc (.wake hphase (Or.inl (by decide)))
  have hfetched := hbegun.snoc
    (.fetch (show _ = Phase.running 30000 from rfl) rfl (.ok (.value (.object []))))
  have hwritten := (hfetched.snoc (.stop _)).snoc
    (.write (show _ = Phase.running 30000 from rfl)
      (show _ = some [(Kind.flag, []), (.segment, [])] from rfl))
  rcases Run.life sample_fresh hwritten with ⟨-, hoff, hstopped, hsucceeded, -, -⟩
  have hstored : ∃ a ∈ lateStop, a.StoresAll :=
    ⟨.written [(.flag, []), (.segment, [])] (.ok true), by simp [lateStop], trivial⟩
  refine ⟨_, _, sample_fresh, hwoken.snoc hfailed, hphase, hwritten, rfl, hstored, rfl, ?_, ?_⟩
  · exact hoff.2 (hstopped.2 ⟨.stopped, by simp, trivial⟩)
  · intro hforemost
    have := hsucceeded.2 hforemost
    exact absurd this (by decide)

end PollWork

end FlagReplica
