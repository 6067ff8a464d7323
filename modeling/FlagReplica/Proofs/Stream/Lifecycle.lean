import FlagReplica.Proofs.Stream.Run
import Mathlib

/-!
# The life of a streaming source

A source that is started once lives through one life: it is initializing until its first full data
set has been stored, then valid and interrupted in turn, and off from the first stop or rejection of
its credentials on. The main statement ties its three variables to each other and to what has
happened. The invariant is `Standing.Coherent`; `step_effect` says what each happening does to a
standing, and everything else follows along the run.
-/

namespace FlagReplica

namespace Happening

/-- A full data set was stored before anything ended the source. -/
def Synced (past : List Happening) : Prop :=
  ∃ before a after, past = before ++ a :: after ∧ a.StoresAll ∧ ∀ b ∈ before, ¬ b.Ends

/-- One more happening matters only if it stores a full data set and nothing has ended the source
so far. -/
theorem synced_snoc {past : List Happening} {a : Happening} :
    Synced (past ++ [a]) ↔ Synced past ∨ (a.StoresAll ∧ ∀ b ∈ past, ¬ b.Ends) :=
  Foremost.snoc

end Happening

namespace StreamSource

variable {σ : Type}

/-! ## One step -/

/-- What a happening does to a standing. -/
abbrev Effect (c : Standing) (a : Happening) : Standing → Prop :=
  c.Effect a.Ends a.StoresAll

/-- A source that goes on has been moved by something that neither ends it nor stores all. -/
theorem GoesOn.effect {c : Standing} {a : Happening} {t : StreamSource σ} (h : GoesOn c t)
    (he : ¬ a.Ends) (hs : ¬ a.StoresAll) : t.Sound ∧ Effect c a t.standing := by
  refine ⟨h.sound, ?_⟩
  rcases h.standing with hk | hi
  · rw [hk]
    exact .kept he hs
  · rw [hi]
    exact .interrupted he hs

/-- A running source ends over a rejection of its credentials and retries after every other
connection error. -/
theorem handleError_cases {s : StreamSource σ} (hr : s.running = true) (hs : s.Sound)
    (fault : Fault) :
    ((Happening.taken (.lost (some fault))).Ends ∧ (s.handleError fault).2.Sound ∧
        (s.handleError fault).2.standing = s.standing.ended) ∨
      (¬ (Happening.taken (.lost (some fault))).Ends ∧
        GoesOn s.standing (s.handleError fault).2) := by
  have retried : ∀ n : Notice, GoesOn s.standing
      (((s.recordAttempt true).note n).retry (.ofFault fault)).2 := by
    intro n
    exact retry_goesOn ((hs.recordAttempt true).note n) _
  cases fault with
  | streamRejected status =>
    -- the one fault that may end the stream: a rejection is retried or final by its status
    cases hrec : Rejection.isRecoverable status with
    | false =>
      left
      have heq : (s.handleError (.streamRejected status)).2 =
          ((s.recordAttempt true).note (.streamRejected status)).stopWith
            (some (.ofFault (.streamRejected status))) := by
        simp [handleError, hr, hrec]
      rw [heq]
      refine ⟨(Rejection.isRecoverable_eq_false_iff status).1 hrec,
        ((hs.recordAttempt true).note _).stopWith _, ?_⟩
      rw [standing_stopWith]
      rfl
    | true =>
      right
      have hends : ¬ (Happening.taken (.lost (some (.streamRejected status)))).Ends := by
        intro h
        have := (Rejection.isRecoverable_eq_false_iff status).2 h
        rw [hrec] at this
        exact absurd this (by decide)
      have heq : (s.handleError (.streamRejected status)).2 =
          (((s.recordAttempt true).note (.streamRejected status)).retry
            (.ofFault (.streamRejected status))).2 := by
        simp [handleError, hr, hrec]
      rw [heq]
      exact ⟨hends, retried _⟩
  | _ =>
    right
    refine ⟨fun h => h, ?_⟩
    -- every other fault is retried
    simpa [handleError, hr] using retried _

/-- What the worker handles ends the source, or leaves it where it stands, or interrupts it. -/
theorem handled_effect {s : StreamSource σ} (hr : s.running = true) (hs : s.Sound)
    (d : Delivered) :
    (s.handled d).Sound ∧ Effect s.standing (.taken d) (s.handled d).standing := by
  have hstores : ¬ (Happening.taken d).StoresAll := fun h => h
  cases d with
  | event e => exact (receive_goesOn hs e).settle.effect (fun h => h.elim) hstores
  | comment => exact (GoesOn.refl hs).settle.effect (fun h => h.elim) hstores
  | connected => exact (GoesOn.refl hs).settle.effect (fun h => h.elim) hstores
  | lost fault? =>
    cases fault? with
    | none => exact (GoesOn.refl hs).settle.effect (fun h => h.elim) hstores
    | some fault =>
      -- whether the worker goes on or ends afterwards makes no difference to the standing
      have hc := standing_concluded (s.handleError fault)
      rcases handleError_cases hr hs fault with ⟨he, hsound, hend⟩ | ⟨he, hgoes⟩
      · refine ⟨hsound.concluded, ?_⟩
        rw [handled, hc, hend]
        exact .ended he
      · exact (hgoes.congr hgoes.sound.concluded hc).effect he hstores

/-- What the worker takes up ends the source, or leaves it where it stands, or interrupts it. -/
theorem accept_effect {s s' : StreamSource σ} {d : Delivered} (h : s.accept d = some s')
    (hs : s.Sound) : s'.Sound ∧ Effect s.standing (.taken d) s'.standing := by
  by_cases hw : s.worker = .running
  · cases hr : s.running with
    | false =>
      -- a stopped source takes nothing up any more
      rw [accept_of_stopped hw hr] at h
      rcases Option.some.inj h with rfl
      refine ⟨hs.endWorker, ?_⟩
      rw [standing_endWorker]
      exact .unmoved hr
    | true =>
      rw [accept_of_running hw hr] at h
      rcases Option.some.inj h with rfl
      have hline : { s with line := s.line.deliver }.Sound :=
        ⟨hs.stopsUpon, hs.address, hs.recorded⟩
      have hrun : { s with line := s.line.deliver }.running = true := hr
      exact handled_effect hrun hline d
  · rw [accept_of_idle hw] at h
    exact absurd h (by simp)

/-- A write that ends stores a full data set, or leaves the source where it stands, or interrupts
it. -/
theorem write_effect [Repository σ] {s : StreamSource σ} {c : Change} (hw : s.writing = some c)
    (hs : s.Sound) :
    s.write.2.Sound ∧
      Effect s.standing (.written c (Gateway.request s.gateway.store c).result)
        s.write.2.standing := by
  have hn := hs.stopsUpon
  have hs' : (s.answered c).Sound := ⟨hn, hs.address, hs.recorded.write c⟩
  cases h : (Gateway.request s.gateway.store c).result with
  | error fault =>
    -- the gateway has interrupted the source already, and the failed event does not once more
    have hgate : (s.answered c).standing = s.standing.interrupted := by
      simp [answered, standing, Gateway.write_of_error h, Standing.interrupted]
    have hgoes : GoesOn s.standing ((s.answered c).eventFailed (Gateway.storeFault fault)).2 := by
      refine ⟨(eventFailed_goesOn hs' _).sound, Or.inr ?_⟩
      rw [standing_eventFailed_storeFault, hgate]
    rw [write_of_error hw hn h]
    refine hgoes.settle.effect (fun h => h) ?_
    cases c <;> exact fun h => h
  | ok changed =>
    have hgate : (s.answered c).standing = s.standing := by
      simp [answered, standing, Gateway.write_of_ok h]
    rw [write_of_ok hw hn h]
    cases c with
    | upsert kind key d =>
      have hgoes : GoesOn s.standing (s.answered (.upsert kind key d)) := ⟨hs', Or.inl hgate⟩
      exact hgoes.settle.effect (fun h => h) (fun h => h)
    | replace data =>
      dsimp only
      rw [standing_settle]
      cases hr : s.running with
      | false =>
        have hr' : (s.answered (.replace data)).running = false := hr
        rw [dataStored_of_stopped hr', hgate]
        exact ⟨hs'.settle, .unmoved hr⟩
      | true =>
        have hr' : (s.answered (.replace data)).running = true := hr
        rw [standing_dataStored hr' hs'.stopsUpon, hgate]
        exact ⟨(hs'.dataStored hr').settle, .synced trivial hr⟩

/-- Every happening but a start makes one of the three moves, or none. -/
theorem step_effect [Repository σ] {s s' : StreamSource σ} {a : Happening} (h : Step s a s')
    (hs : s.Sound) (hnew : a ≠ .started) : s'.Sound ∧ Effect s.standing a s'.standing := by
  cases h with
  | start => exact absurd rfl hnew
  | stop =>
    refine ⟨hs.stopWith none, ?_⟩
    rw [stop, standing_stopWith]
    exact .ended trivial
  | take _ accepted => exact accept_effect accepted hs
  | write writing => exact write_effect writing hs
  | hear h => exact (hearHealth_goesOn hs h).effect (fun h => h) (fun h => h)
  | elapse =>
    exact ⟨⟨hs.stopsUpon, hs.address, hs.recorded⟩, .kept (fun h => h) (fun h => h)⟩

/-! ## A whole run -/

/-- Every happening leaves a source sound, a start included. -/
theorem Sound.step [Repository σ] {s s' : StreamSource σ} {a : Happening} (h : s.Sound)
    (hstep : Step s a s') : s'.Sound := by
  by_cases hnew : a = .started
  · subst hnew
    cases hstep
    exact h.start
  · exact (step_effect hstep h hnew).1

/-- So does every run, however often the source is started and stopped in it. -/
theorem Reached.sound [Repository σ] {s : StreamSource σ} (h : s.Reached) : s.Sound := by
  rcases h with ⟨s₀, past, hfresh, hrun⟩
  induction hrun with
  | nil => exact hfresh.sound
  | snoc _ step ih => exact ih.step step

/-- What holds of a source after a run since its only start. -/
structure Lived (past : List Happening) (s : StreamSource σ) : Prop where
  sound : s.Sound
  coherent : s.standing.Coherent
  stopped_iff : s.running = false ↔ ∃ a ∈ past, a.Ends
  succeeded_iff : s.readiness = .succeeded ↔ Happening.Synced past

/-- A fresh source that has just been started has lived through nothing. -/
theorem Fresh.lived {s : StreamSource σ} (h : s.Fresh) : Lived [] s.start.2 := by
  have hstart : s.start.2.running = true ∧ s.start.2.readiness = .pending ∧
      s.start.2.gateway.status.state = .initializing := by
    cases hrefusal : s.refusal <;> simp [start, hrefusal, h.worker, h.readiness, h.state, note]
  rcases hstart with ⟨hr, hread, hstate⟩
  refine ⟨h.sound.start, ⟨?_, ?_, ?_⟩, ?_, ?_⟩
  · simp [standing, hread, hstate]
  · simp [standing, hstate, hr]
  · simp [standing, hread]
  · simp [hr]
  · have hnone : ¬ Happening.Synced [] := Foremost.not_nil
    simp [hread, hnone]

/-- What has ended a source is over for good, and a full data set counts as long as nothing has. -/
theorem Lived.step [Repository σ] {past : List Happening} {s s' : StreamSource σ} {a : Happening}
    (h : Lived past s) (hstep : Step s a s') (hnew : a ≠ .started) :
    Lived (past ++ [a]) s' := by
  rcases step_effect hstep h.sound hnew with ⟨hsound, heffect⟩
  have hcoherent : s'.standing.Coherent := h.coherent.move heffect.move
  have hends : (∃ b ∈ past ++ [a], b.Ends) ↔ (∃ b ∈ past, b.Ends) ∨ a.Ends := by
    simp only [List.mem_append, List.mem_singleton, or_and_right, exists_or, exists_eq_left]
  have hgoing : (∀ b ∈ past, ¬ b.Ends) ↔ s.running = true := by
    rw [← Bool.not_eq_false, h.stopped_iff]
    simp
  have hstores : a.StoresAll → ¬ a.Ends := Happening.not_ends_of_storesAll
  have hrunning : s'.running = false ↔ s.running = false ∨ a.Ends :=
    heffect.running_iff hstores
  have hsucceeded : s'.readiness = .succeeded ↔
      s.readiness = .succeeded ∨ (a.StoresAll ∧ s.running = true) :=
    heffect.succeeded_iff h.coherent hstores
  refine ⟨hsound, hcoherent, ?_, ?_⟩
  · rw [hrunning, hends, h.stopped_iff]
  · rw [hsucceeded, Happening.synced_snoc, h.succeeded_iff, hgoing]

theorem Lived.run [Repository σ] {past later : List Happening} {s s' : StreamSource σ}
    (h : Lived past s) (hrun : Run s later s') (honce : Happening.started ∉ later) :
    Lived (past ++ later) s' := by
  induction hrun with
  | nil => simpa using h
  | snoc run step ih =>
    rw [List.mem_append, not_or, List.mem_singleton] at honce
    rw [← List.append_assoc]
    exact (ih honce.1).step step (Ne.symm honce.2)

/-- What is over or resolved stays so, and nothing goes back to the beginning. -/
theorem Lived.stable [Repository σ] {past later : List Happening} {s s' : StreamSource σ}
    (h : Lived past s) (hrun : Run s later s') (honce : Happening.started ∉ later) :
    (s.readiness ≠ .pending → s'.readiness = s.readiness) ∧
      (s.gateway.status.state = .off → s'.gateway.status.state = .off) ∧
      (s'.gateway.status.state = .initializing → s.gateway.status.state = .initializing) := by
  induction hrun with
  | nil => simp
  | @snoc later s' s'' a run step ih =>
    rw [List.mem_append, not_or, List.mem_singleton] at honce
    rcases ih honce.1 with ⟨hready, hoff, hinit⟩
    have hlived := h.run run honce.1
    have hmove := (step_effect step hlived.sound (Ne.symm honce.2)).2.move
    refine ⟨?_, ?_, ?_⟩
    · intro hr
      have hr' : s'.readiness ≠ .pending := by
        rw [hready hr]
        exact hr
      exact (Standing.Coherent.readiness_move hmove hr').trans (hready hr)
    · intro hs
      exact hlived.coherent.off_move hmove (hoff hs)
    · intro hs
      exact hinit (Standing.Coherent.initializing_move hmove hs)

/-- The life of a source that is started once, after every run. The signal is pending exactly while
the source is initializing, and the source is off exactly when something has ended it. The signal
has succeeded exactly if a full data set was stored before that, and an interruption comes only
after such a success. A resolved signal stays as it is, off is for good, and the source never is
initializing again. -/
theorem lifecycle [Repository σ] {s₀ s : StreamSource σ} {past : List Happening}
    (hfresh : s₀.Fresh) (hrun : Run s₀.start.2 past s) (honce : Happening.started ∉ past) :
    (s.readiness = .pending ↔ s.gateway.status.state = .initializing) ∧
      (s.gateway.status.state = .off ↔ s.running = false) ∧
      (s.running = false ↔ ∃ a ∈ past, a.Ends) ∧
      (s.readiness = .failed → s.gateway.status.state = .off) ∧
      (s.readiness = .succeeded ↔ Happening.Synced past) ∧
      (s.gateway.status.state = .interrupted → Happening.Synced past) ∧
      ∀ later s', Run s later s' → Happening.started ∉ later →
        (s.readiness ≠ .pending → s'.readiness = s.readiness) ∧
          (s.gateway.status.state = .off → s'.gateway.status.state = .off) ∧
          (s'.gateway.status.state = .initializing →
            s.gateway.status.state = .initializing) := by
  have hlived : Lived past s := by
    simpa using hfresh.lived.run hrun honce
  refine ⟨hlived.coherent.pending_iff, hlived.coherent.off_iff, hlived.stopped_iff,
    hlived.coherent.off_of_failed, hlived.succeeded_iff, ?_, ?_⟩
  · intro hs
    exact hlived.succeeded_iff.1 (hlived.coherent.succeeded_of_interrupted hs)
  · intro later s' hlater honce'
    exact hlived.stable hlater honce'

theorem sample_accept_emptyPut :
    sample.start.2.accept (.event .emptyPut) =
      some { sample.start.2 with writing := some .emptied } := by
  cbv

/-- A source that is stopped while it writes its first full data set: the store takes the data set,
and yet the source is off and its signal has failed. -/
theorem lifecycle_of_stop_while_writing :
    ∃ past s, sample.Fresh ∧ Run sample.start.2 past s ∧ Happening.started ∉ past ∧
      (∃ a ∈ past, a.StoresAll) ∧ s.readiness = .failed ∧
      s.gateway.status.state = .off ∧ ¬ Happening.Synced past := by
  have hrun : Run sample.start.2
      [.taken (.event .emptyPut), .stopped, .written .emptied (.ok true)]
      ({ sample.start.2 with writing := some .emptied }.stop.write.2) :=
    .snoc (.snoc (.snoc .nil (.take rfl sample_accept_emptyPut)) (.stop _)) (.write rfl)
  have honce : Happening.started ∉
      [Happening.taken (.event .emptyPut), .stopped, .written .emptied (.ok true)] := by
    simp
  rcases lifecycle sample_fresh hrun honce with ⟨-, hoff, hstopped, -, hsucceeded, -, -⟩
  have hread : ({ sample.start.2 with writing := some .emptied }.stop.write.2).readiness
      = .failed := rfl
  refine ⟨_, _, sample_fresh, hrun, honce,
    ⟨.written .emptied (.ok true), by simp, trivial⟩, hread, ?_, ?_⟩
  · exact hoff.2 (hstopped.2 ⟨Happening.stopped, by simp, trivial⟩)
  · rw [← hsucceeded, hread]
    decide

end StreamSource

end FlagReplica
