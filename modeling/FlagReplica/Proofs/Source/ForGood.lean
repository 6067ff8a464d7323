import FlagReplica.Proofs.Poll.Lifecycle
import FlagReplica.Proofs.Source.Shut

/-!
# Stops for good

What is left of either source after a stop, whatever it was about when it was stopped. A polling
source is stopped for good: its task begins no run any more, also if it is started only then. A
stream is stopped for good as long as nobody starts it, for a start sets it running again, even if
it is the first one.
-/

namespace FlagReplica

variable {σ : Type}

/-- How a resolved signal has been resolved is whether it was a success. -/
theorem Readiness.success?_of_resolved {r : Readiness} (h : r ≠ .pending) :
    r.success? = some (decide (r.success? = some true)) := by
  cases r with
  | pending => exact absurd rfl h
  | succeeded => rfl
  | failed => rfl

/-! ## A stream -/

/-- The change whose write has ended, if one has. -/
def Happening.ended? : Happening → Option Change
  | written c _ => some c
  | _ => none

namespace StreamSource

variable {s s' : StreamSource σ} {a : Happening} {later : List Happening}

/-- What is left of a stream that was stopped, after what happened later: it is off and does not
run, whoever waits for the start has been told how it went, and only what was being written has
been written. -/
structure Shut (s : StreamSource σ) (later : List Happening) (s' : StreamSource σ) : Prop where
  state : s'.gateway.status.state = .off
  running : s'.running = false
  still : s.Still s'
  written : later.filterMap Happening.ended? ++ s'.writing.toList = s.writing.toList
  readiness : s'.readiness = s.readiness.settled false
  agrees : s'.readiness.success? = some s'.initialized

section Steps

variable [Repository σ]

/-- A stream that does not run is not moved and takes up nothing, unless it is started. -/
theorem Step.shut (hs : Step s a s') (hnew : a ≠ .started) (hr : s.running = false)
    (hc : s.standing.Coherent) :
    s'.standing = s.standing ∧ s.Still s' ∧
      a.ended?.toList ++ s'.writing.toList = s.writing.toList := by
  cases hs with
  | start => exact absurd rfl hnew
  | stop =>
    refine ⟨?_, .stopWith s none, ?_⟩
    · rw [StreamSource.stop, standing_stopWith]
      exact hc.eq_of_stopped hr .finish
    · rw [StreamSource.stop, stopWith_writing]
      rfl
  | take idle accepted =>
    -- a worker that outlived the stop ends at the next delivery
    by_cases hw : s.worker = .running
    · rw [accept_of_stopped hw hr] at accepted
      rw [← Option.some.inj accepted, standing_endWorker, endWorker_writing]
      exact ⟨rfl, .endWorker s, rfl⟩
    · rw [accept_of_idle hw] at accepted
      exact absurd accepted (by simp)
  | write writing =>
    rcases write_of_stopped hr hc writing with ⟨hstands, hstill, hdone⟩
    refine ⟨hstands, hstill, ?_⟩
    rw [hdone, writing]
    rfl
  | hear h =>
    rw [hearHealth_of_stopped hr]
    exact ⟨rfl, .refl s, rfl⟩
  | elapse store audience now delay =>
    exact ⟨rfl, ⟨rfl, rfl, rfl, .inl rfl, .inl rfl⟩, rfl⟩

/-- Until somebody starts it, a stream that was stopped stays where the stop has put it, and what is
written and what is being written are what was being written then. -/
theorem Run.rests (run : Run s.stop later s') (hquiet : Happening.started ∉ later) :
    s'.standing = s.standing.ended ∧ s.Still s' ∧
      later.filterMap Happening.ended? ++ s'.writing.toList = s.writing.toList := by
  induction run with
  | nil =>
    refine ⟨s.standing_stopWith none, .stopWith s none, ?_⟩
    rw [stop, stopWith_writing]
    rfl
  | @snoc later s' s'' a run step ih =>
    rw [List.mem_append, not_or, List.mem_singleton] at hquiet
    rcases ih hquiet.1 with ⟨hstands, hstill, hwritten⟩
    have hcoherent : s'.standing.Coherent := hstands ▸ .ended _
    have hr : s'.running = false := congrArg Standing.running hstands
    rcases step.shut (Ne.symm hquiet.2) hr hcoherent with ⟨hstands', hstill', hwritten'⟩
    refine ⟨hstands'.trans hstands, hstill.trans hstill', ?_⟩
    rw [← hwritten, ← hwritten', List.filterMap_append, List.append_assoc]
    cases h : a.ended? <;> simp [h]

/-- A stop shuts a stream until somebody starts it. -/
theorem Run.shut (run : Run s.stop later s') (hquiet : Happening.started ∉ later) :
    s.Shut later s' := by
  rcases run.rests hquiet with ⟨hstands, hstill, hwritten⟩
  have hready : s'.readiness = s.readiness.settled false := congrArg Standing.readiness hstands
  refine ⟨congrArg Standing.state hstands, congrArg Standing.running hstands, hstill, hwritten,
    hready, ?_⟩
  have hresolved : s'.readiness ≠ .pending := hready ▸ Readiness.settled_ne_pending _ _
  exact Readiness.success?_of_resolved hresolved

end Steps

end StreamSource

/-! ## Polls -/

/-- The data set whose write has ended, if one has. -/
def PollHappening.ended? : PollHappening → Option DataSet
  | written data _ => some data
  | _ => none

namespace PollWork

variable {w w' : PollWork σ} {a : PollHappening} {later : List PollHappening}

/-- How many polls are under way. -/
def polls (w : PollWork σ) : Nat :=
  match w.task.phase with
  | .running _ => 1
  | _ => 0

theorem polls_le (w : PollWork σ) : w.polls ≤ 1 := by
  unfold polls
  split <;> simp

/-- What is left of a polling source that was stopped, after what happened later: it is off, it and
its task are stopped, no fetch has begun, whoever waits for the start has been told how it went, and
at most the poll that was under way has been written. -/
structure Shut (w : PollWork σ) (later : List PollHappening) (w' : PollWork σ) : Prop where
  state : w'.source.gateway.status.state = .off
  stopped : w'.source.stopped = true
  halted : w'.task.stopped = true
  began : w'.task.began = w.task.began
  fetches : w'.source.fetches = w.source.fetches
  written : (later.filterMap PollHappening.ended?).length + w'.polls ≤ w.polls
  readiness : w'.source.readiness = w.source.readiness.settled false
  agrees : w'.source.readiness.success? = some w'.source.initialized

/-- A poll is over when its source writes nothing any more. -/
theorem polls_proceed {s : PollSource σ} (idle : s.writing = none) : (w.proceed s).polls = 0 := by
  have hfinished : ∀ (t : Task) (now : Millis) (since : Millis),
      (t.finish now none).phase ≠ .running since := by
    intro t now since
    unfold Task.finish
    split
    · simp [Task.wait]
    · rename_i hother
      exact hother since
  have htask : (w.proceed s).task =
      (if s.stopped then w.task.stop else w.task).finish s.gateway.now none := by
    simp [proceed, idle]
  unfold polls
  split
  · rename_i since hruns
    rw [htask] at hruns
    exact absurd hruns (hfinished _ _ _)
  · rfl

section Steps

variable [Repository σ]

/-- Where the task is stopped no poll comes on top of the one that is under way. -/
theorem Step.polls (hs : Step w a w') (hstopped : w.task.stopped = true) :
    a.ended?.toList.length + w'.polls ≤ w.polls := by
  have quiet : ∀ {n m : Nat}, n ≤ m → (none : Option DataSet).toList.length + n ≤ m := by
    intro n m h
    simpa using h
  cases hs with
  | start =>
    refine quiet ?_
    unfold PollWork.start Task.start
    cases hphase : w.task.phase <;> simp [PollWork.polls, Task.wait, hphase]
  | stop => exact quiet (Nat.le_refl _)
  | wake waits due =>
    refine quiet ?_
    simp [PollWork.polls, Task.wake, waits, hstopped]
  | fetch runs idle outcome =>
    refine quiet (Nat.le_trans (polls_le _) ?_)
    simp [PollWork.polls, runs]
  | write runs writing =>
    have hover := (PollSource.write_over writing).writing
    rw [polls_proceed hover]
    simp [PollWork.polls, runs, PollHappening.ended?]
  | elapse => exact quiet (Nat.le_refl _)

/-- A polling source that was stopped stays where the stop has put it, and its task begins
nothing. -/
theorem Run.rests (run : Run w.stop later w') :
    w'.source.standing = w.source.standing.ended ∧ w'.task.stopped = true ∧
      w'.task.began = w.task.began ∧ w'.source.fetches = w.source.fetches ∧
      (later.filterMap PollHappening.ended?).length + w'.polls ≤ w.polls := by
  induction run with
  | nil =>
    exact ⟨w.source.standing_stopWith none, rfl, rfl, (PollSource.Keeps.stopWith _ _).fetches,
      Nat.le_of_eq (Nat.zero_add _)⟩
  | @snoc later w' w'' a run step ih =>
    rcases ih with ⟨hstands, hstopped, hbegan, hfetches, hwritten⟩
    have hcoherent : w'.source.standing.Coherent := hstands ▸ .ended _
    have hr : w'.source.standing.running = false := congrArg Standing.running hstands
    have hhalted : w'.task.stopped = w'.source.stopped :=
      hstopped.trans ((running_standing _).1 hr).symm
    have hstands' := (hcoherent.eq_of_stopped hr (step_effect step).move).trans hstands
    have hr' : w''.source.standing.running = false := congrArg Standing.running hstands'
    -- source and task have been stopped together, and so the step begins no run
    rcases step.idle hhalted hstopped with ⟨hbegan', hfetches'⟩
    refine ⟨hstands', ?_, hbegan'.trans hbegan, hfetches'.trans hfetches, ?_⟩
    · rw [step.halted hhalted]
      exact (running_standing _).1 hr'
    · have hone := step.polls hstopped
      have hlength : ((later ++ [a]).filterMap PollHappening.ended?).length =
          (later.filterMap PollHappening.ended?).length + a.ended?.toList.length := by
        cases h : a.ended? <;> simp [h]
      omega

/-- A stop shuts a polling source whatever happens later. -/
theorem Run.shut (run : Run w.stop later w') : w.Shut later w' := by
  rcases run.rests with ⟨hstands, hstopped, hbegan, hfetches, hwritten⟩
  have hr : w'.source.standing.running = false := congrArg Standing.running hstands
  have hready : w'.source.readiness = w.source.readiness.settled false :=
    congrArg Standing.readiness hstands
  refine ⟨congrArg Standing.state hstands, (running_standing _).1 hr, hstopped, hbegan, hfetches,
    hwritten, hready, ?_⟩
  have hresolved : w'.source.readiness ≠ .pending := hready ▸ Readiness.settled_ne_pending _ _
  exact Readiness.success?_of_resolved hresolved

end Steps

end PollWork

/-! ## Both of them -/

/-- A stop shuts a polling source for good, wherever it finds it and whatever happens later, starts
and stops included. It shuts a stream as long as nobody starts it, and the next start sets the
stream going again. So where a source is started once at most, a stream is shut for good exactly if
its start does not come after the stop. -/
theorem shut_for_good [Repository σ] (s : StreamSource σ) (w : PollWork σ) :
    (∀ later s', StreamSource.Run s.stop later s' → Happening.started ∉ later →
        s.Shut later s') ∧
      (∀ s', StreamSource.Step s.stop .started s' → ¬ s.Shut [.started] s') ∧
      ∀ later w', PollWork.Run w.stop later w' → w.Shut later w' := by
  refine ⟨fun later s' run hquiet => run.shut hquiet, ?_, fun later w' run => run.shut⟩
  intro s' hstart hshut
  cases hstart with
  | start =>
    have hr : s.stop.start.2.running = true := by
      unfold StreamSource.start
      dsimp only
      split
      · rfl
      · split <;> rfl
    rw [hshut.running] at hr
    exact absurd hr (by decide)

/-- A stream is stopped while it writes, and its write ends; a polling source is stopped before it
is started, and its task begins no run. -/
theorem shut_for_good_of_late_answer :
    ∃ (s s' : StreamSource Memory) (w w' : PollWork Memory),
      StreamSource.Run s.stop [.written .emptied (.ok true)] s' ∧
      s.Shut [.written .emptied (.ok true)] s' ∧ s'.readiness = .failed ∧
      PollWork.Run w.stop [.started, .woken] w' ∧ w.Shut [.started, .woken] w' ∧
      w'.source.fetches = 0 := by
  let s : StreamSource Memory := { StreamSource.sample.start.2 with writing := some .emptied }
  rcases shut_for_good s PollWork.sample with ⟨hstream, -, hpolls⟩
  have hwritten : StreamSource.Run s.stop [.written .emptied (.ok true)] s.stop.write.2 :=
    .snoc .nil (.write rfl)
  have hwoken : PollWork.Run PollWork.sample.stop [.started, .woken] _ :=
    .snoc (.snoc .nil (.start _)) (.wake rfl (Or.inr rfl))
  have hshut := hpolls _ _ hwoken
  exact ⟨s, _, _, _, hwritten, hstream _ _ hwritten (by simp), rfl, hwoken, hshut, hshut.fetches⟩

/-- A stream that is started only after its stop opens its line, and the first full data set makes
it valid. -/
theorem StreamSource.opened_after_stop :
    ∃ later s, sample.Fresh ∧ Run sample.stop later s ∧
      later = [.started, .taken (.event .emptyPut), .written .emptied (.ok true)] ∧
      sample.stop.line.address = none ∧ s.line.address = some sample.uri ∧
      s.gateway.status.state = .valid ∧ s.readiness = .failed ∧
      s.gateway.store.store.initialized = true := by
  have haccept : sample.stop.start.2.accept (.event .emptyPut) =
      some { sample.stop.start.2 with writing := some .emptied } := by
    cbv
  have hrun : Run sample.stop
      [.started, .taken (.event .emptyPut), .written .emptied (.ok true)]
      ({ sample.stop.start.2 with writing := some .emptied }.write.2) :=
    .snoc (.snoc (.snoc .nil (.start _)) (.take rfl haccept)) (.write rfl)
  exact ⟨_, _, sample_fresh, hrun, rfl, rfl, rfl, rfl, rfl, rfl⟩

end FlagReplica
