import FlagReplica.Proofs.Stream.Trials

/-!
# Every attempt to connect is accounted for

What has been recorded at any moment is exactly what is to be recorded of the attempts so far, in
order. `Booked` is the invariant: every attempt but perhaps the last has ended and is recorded as it
should be, and while the source runs it measures that last one, if it has not ended.
-/

namespace FlagReplica

/-! ## One attempt -/

namespace Trial

theorem attempt?_succeeded_iff (t : Trial) :
    (∃ entry, t.attempt? = some entry ∧ entry.failed = false) ↔
      ∃ time, t.ended = some (.applied, time) := by
  obtain ⟨start, ended⟩ := t
  rcases ended with _ | ⟨ending, time⟩
  · simp [attempt?]
  · cases ending <;> simp [attempt?, Ending.failed?]

theorem attempt?_failed_iff (t : Trial) :
    (∃ entry, t.attempt? = some entry ∧ entry.failed = true) ↔
      ∃ time, (∃ fault, t.ended = some (.lost fault, time)) ∨ t.ended = some (.misread, time) ∨
        t.ended = some (.unstored, time) := by
  obtain ⟨start, ended⟩ := t
  rcases ended with _ | ⟨ending, time⟩
  · simp [attempt?]
  · cases ending <;> simp [attempt?, Ending.failed?]

theorem attempt?_eq_none_iff (t : Trial) :
    t.attempt? = none ↔ t.ended = none ∨ ∃ time, t.ended = some (.stopped, time) ∨
      t.ended = some (.stale, time) ∨ t.ended = some (.startedAnew, time) := by
  obtain ⟨start, ended⟩ := t
  rcases ended with _ | ⟨ending, time⟩
  · simp [attempt?]
  · cases ending <;> simp [attempt?, Ending.failed?]

/-- A recorded attempt is told with its beginning and how long it took. -/
theorem attempt?_times {t : Trial} {entry : Attempt} (h : t.attempt? = some entry) :
    entry.start = t.start ∧ ∃ ending time, t.ended = some (ending, time) ∧
      entry.duration = max 0 (time - t.start) := by
  obtain ⟨start, ended⟩ := t
  rcases ended with _ | ⟨ending, time⟩
  · simp [attempt?] at h
  · obtain ⟨failed, -, rfl⟩ := Option.map_eq_some_iff.1 h
    exact ⟨rfl, ending, time, rfl, Int.max_comm _ _⟩

end Trial

namespace StreamSource

variable {σ : Type} {s s' s₀ : StreamSource σ} {a : Happening} {m : Moment σ}
  {past : List (Moment σ)} {reports : List Report} {t : Telemetry}

/-! ## One moment more -/

/-- A moment ends the attempts that have not ended, and may begin one. -/
theorem trials_concat (past : List (Moment σ)) (m : Moment σ) :
    trials (past ++ [m]) = (trials past).map (fun t => { t with ended := t.ended.or m.end? }) ++
      (m.begins?.map fun start => (⟨start, none⟩ : Trial)).toList := by
  induction past with
  | nil =>
    cases hbegins : m.begins? <;> simp [trials, hbegins]
  | cons first past ih =>
    cases hbegins : first.begins? with
    | none => simpa [trials, hbegins] using ih
    | some start =>
      simp [trials, hbegins, ih, List.findSome?_append]

/-- The books of a source: the attempts that have ended, all recorded as they should be, and the
beginning of the one that has not, if there is one. -/
structure Booked (t : Telemetry) (past : List (Moment σ)) (reports : List Report)
    (settled : List Trial) (current? : Option Millis) (s : StreamSource σ) : Prop where
  trials : trials past = settled ++ (current?.map fun start => (⟨start, none⟩ : Trial)).toList
  ended : ∀ trial ∈ settled, trial.ended.isSome = true
  telemetry : ∃ t', s.telemetry = some t' ∧
    reports.flatMap Report.attempts ++ t'.attempts =
      t.attempts ++ settled.filterMap Trial.attempt?
  measures : s.running = true → s.attemptStart = current?
  hasLine : s.HasLine

namespace Booked

variable {settled : List Trial} {current? : Option Millis}

/-- What is recorded at a moment is recorded of the attempt that has not ended. -/
theorem attempt? (h : Booked t past reports settled current? m.before) (hm : Accounted m) :
    m.attempt? = current?.bind fun start => Trial.attempt? ⟨start, m.end?⟩ := by
  cases hr : m.before.running with
  | true => rw [Moment.attempt?, h.measures hr]
  | false =>
    -- a source that does not run records nothing
    have hnone : m.ending?.bind Ending.failed? = none := by
      cases hfailed : m.ending?.bind Ending.failed? with
      | none => rfl
      | some failed =>
        have hrunning := hm.measured (by simp [hfailed])
        simp [hr] at hrunning
    rw [Accounted.attempt?_of_unrecorded hnone]
    cases current? with
    | none => rfl
    | some start => exact (Accounted.trial_attempt?_of_unrecorded hnone start).symm

/-- Nothing ends, and no attempt begins. -/
theorem goOn (h : Booked t past reports settled current? m.before) (hm : Accounted m)
    (hends : m.ending? = none) : Booked t (past ++ [m]) reports settled current? m.after := by
  have hend : m.end? = none := by simp [Moment.end?, hends]
  have hbegins : m.begins? = none := by simp [Moment.begins?, hends]
  refine ⟨?_, h.ended, ?_, ?_, hm.hasLine⟩
  · rw [trials_concat, hend, hbegins]
    simpa using h.trials
  · -- nothing ends here, so that no trial is settled and no entry is made
    have hnothing : m.attempt? = none := Accounted.attempt?_of_unrecorded (by simp [hends])
    obtain ⟨t', ht', hentries⟩ := h.telemetry
    refine ⟨t', ?_, hentries⟩
    rw [hm.telemetry, hnothing, ht']
    simp [Telemetry.book]
  · intro hr
    have hbefore : m.before.running = true := by simpa [hends] using hm.goesOn hr
    rw [hm.attemptStart hr, ← h.measures hbefore]
    simp [hends]

/-- The attempt that has not ended does so now, and perhaps another one begins. -/
theorem close (h : Booked t past reports settled current? m.before) (hm : Accounted m)
    {ending : Ending} (hends : m.ending? = some ending) :
    Booked t (past ++ [m]) reports
      (settled ++ (current?.map fun start => (⟨start, m.end?⟩ : Trial)).toList) m.begins?
      m.after := by
  have hend : m.end?.isSome = true := by simp [Moment.end?, hends]
  -- what has been settled keeps its ending, and only the present trial takes this one
  have hsettled : (settled.map fun t => ({ t with ended := t.ended.or m.end? } : Trial)) =
      settled := by
    refine (List.map_congr_left fun trial hin => ?_).trans (List.map_id settled)
    obtain ⟨ended, hended⟩ := Option.isSome_iff_exists.1 (h.ended trial hin)
    obtain ⟨start, _⟩ := trial
    simp_all
  refine ⟨?_, ?_, ?_, ?_, hm.hasLine⟩
  · rw [trials_concat, h.trials, List.map_append, hsettled]
    cases current? <;> simp
  · intro trial hin
    rcases List.mem_append.1 hin with hin | hin
    · exact h.ended trial hin
    · obtain ⟨start, -, rfl⟩ : ∃ start, current? = some start ∧ ⟨start, m.end?⟩ = trial := by
        simpa using hin
      exact hend
  · obtain ⟨t', ht', hentries⟩ := h.telemetry
    refine ⟨t'.book m.attempt?, by rw [hm.telemetry, ht']; rfl, ?_⟩
    rw [Telemetry.book, ← List.append_assoc, hentries, h.attempt? hm]
    -- the entry that is made now is the one that the present trial stands for
    cases current? with
    | none => simp
    | some start => cases hattempt : Trial.attempt? ⟨start, m.end?⟩ <;> simp [hattempt]
  · intro hr
    rw [hm.attemptStart hr]
    simp [hends]

/-- Every moment leaves the books in order. -/
theorem moment (h : Booked t past reports settled current? m.before) (hm : Accounted m) :
    ∃ settled' current?', Booked t (past ++ [m]) reports settled' current?' m.after := by
  cases hends : m.ending? with
  | none => exact ⟨_, _, h.goOn hm hends⟩
  | some ending => exact ⟨_, _, h.close hm hends⟩

end Booked

/-- The books of a source that nothing has happened to are empty. -/
theorem Fresh.booked (h : s.Fresh) (ht : s.telemetry = some t) : Booked t [] [] [] none s := by
  refine ⟨rfl, by simp, ⟨t, ht, by simp⟩, ?_, ?_⟩
  · intro hr
    simp [h.running] at hr
  · rintro (hw | hw)
    · simp [h.worker] at hw
    · simp [h.writing] at hw

/-- The books are in order at every moment of a course. -/
theorem Course.booked [Repository σ] (course : Course s₀ past reports s) (fresh : s₀.Fresh)
    (accumulates : s₀.telemetry = some t) :
    ∃ settled current?, Booked t past reports settled current? s := by
  induction course with
  | start => exact ⟨_, _, fresh.booked accumulates⟩
  | @step past reports s s' a course step ih =>
    obtain ⟨settled, current?, hbooked⟩ := ih
    exact Booked.moment (m := ⟨s, a, s'⟩) hbooked (step.accounted hbooked.hasLine)
  | @flush past reports s t' course telemetry now ih =>
    obtain ⟨settled, current?, hbooked⟩ := ih
    -- what is handed over and what is kept are together what was kept before
    obtain ⟨t'', ht'', hentries⟩ := hbooked.telemetry
    obtain rfl : t' = t'' := Option.some.inj (telemetry.symm.trans ht'')
    have hhanded : (reports ++ [(t'.flush now).1]).flatMap Report.attempts ++
        (t'.flush now).2.attempts = t.attempts ++ settled.filterMap Trial.attempt? := by
      rw [← hentries]
      simp [Telemetry.flush]
    exact ⟨settled, current?, hbooked.trials, hbooked.ended, ⟨_, rfl, hhanded⟩, hbooked.measures,
      hbooked.hasLine⟩
  | mind course stopsUpon ih =>
    obtain ⟨settled, current?, hbooked⟩ := ih
    exact ⟨settled, current?, hbooked.trials, hbooked.ended, hbooked.telemetry, hbooked.measures,
      hbooked.hasLine⟩

/-! ## A single start -/

/-- Only a start ends an attempt by starting anew. -/
theorem Moment.ending?_ne_startedAnew (h : m.isStart = false) :
    m.ending? ≠ some .startedAnew := by
  obtain ⟨before, happening, after⟩ := m
  intro hending
  simp only [Moment.ending?] at hending
  grind [Moment.isStart]

/-- A source that does not run begins no attempt before it is started. -/
theorem Moment.begins?_of_stopped (h : m.isStart = false) (hr : m.before.running = false) :
    m.begins? = none := by
  have hanew := Moment.ending?_ne_startedAnew h
  have hending : m.ending? = none ∨ m.ending? = some .stopped := by
    obtain ⟨before, happening, after⟩ := m
    simp only [Moment.ending?] at hanew ⊢
    grind
  rcases hending with hending | hending <;> simp [Moment.begins?, hending]

/-- Before a source is started there are no attempts. -/
theorem Course.unstarted [Repository σ] (course : Course s₀ past reports s) (fresh : s₀.Fresh)
    (accumulates : s₀.telemetry = some t) (h : ∀ m ∈ past, m.isStart = false) :
    trials past = [] ∧ s.running = false := by
  induction course with
  | start => exact ⟨rfl, fresh.running⟩
  | @step past reports s s' a course step ih =>
    obtain ⟨_, _, hbooked⟩ := course.booked fresh accumulates
    obtain ⟨htrials, hstopped⟩ := ih fun m hm => h m (List.mem_append_left _ hm)
    have hm : Moment.isStart ⟨s, a, s'⟩ = false := h _ (by simp)
    have hgoesOn := (step.accounted hbooked.hasLine).goesOn
    refine ⟨?_, ?_⟩
    · rw [trials_concat, htrials, Moment.begins?_of_stopped hm hstopped]
      rfl
    · cases hr : s'.running with
      | false => rfl
      | true =>
        -- a source that was not running runs only after a start
        rcases hgoesOn hr with hbefore | hanew
        · simp [hstopped] at hbefore
        · exact absurd hanew (Moment.ending?_ne_startedAnew hm)
  | flush course telemetry now ih => exact ih h
  | mind course stopsUpon ih => exact ih h

/-- An attempt ends by a start only where a source is started more than once. -/
theorem Course.not_startedAnew [Repository σ] (course : Course s₀ past reports s) (fresh : s₀.Fresh)
    (accumulates : s₀.telemetry = some t) (once : past.countP Moment.isStart ≤ 1) :
    ∀ trial ∈ trials past, ∀ time, trial.ended ≠ some (.startedAnew, time) := by
  induction course with
  | start => simp [trials]
  | @step past reports s s' a course step ih =>
    rw [List.countP_append, List.countP_singleton] at once
    intro trial hin time
    rw [trials_concat, List.mem_append] at hin
    rcases hin with hin | hin
    · obtain ⟨earlier, hearlier, rfl⟩ := List.mem_map.1 hin
      cases hm : Moment.isStart ⟨s, a, s'⟩ with
      | true =>
        -- it is the first start, before which there are no attempts
        have hnone : ∀ m ∈ past, m.isStart = false := by simpa [hm] using once
        rw [(course.unstarted fresh accumulates hnone).1] at hearlier
        simp at hearlier
      | false =>
        have honce : past.countP Moment.isStart ≤ 1 := by simpa [hm] using once
        have hanew := Moment.ending?_ne_startedAnew hm
        cases hended : earlier.ended with
        | some ended => simpa [hended] using ih honce earlier hearlier time
        | none =>
          intro hend
          have hend' : Moment.end? ⟨s, a, s'⟩ = some (.startedAnew, time) := by
            simpa [hended] using hend
          obtain ⟨ending, hending, heq⟩ := Option.map_eq_some_iff.1 hend'
          obtain ⟨rfl, -⟩ := Prod.mk.inj heq
          exact hanew hending
    · obtain ⟨start, -, rfl⟩ : ∃ start, Moment.begins? ⟨s, a, s'⟩ = some start ∧
          ⟨start, none⟩ = trial := by
        simpa using hin
      simp
  | flush course telemetry now ih => exact ih once
  | mind course stopsUpon ih => exact ih once

/-! ## A small course -/

/-- The source after its worker has taken something, if there is a worker to take it. -/
def taking (s : StreamSource σ) (d : Delivered) : StreamSource σ :=
  (s.accept d).getD s

/-- A course goes on by what a worker takes. -/
theorem Course.take [Repository σ] (course : Course s₀ past reports s) (d : Delivered)
    (idle : s.writing.isNone = true) (taken : (s.accept d).isSome = true) :
    Course s₀ (past ++ [⟨s, .taken d, s.taking d⟩]) reports (s.taking d) := by
  obtain ⟨s', hs'⟩ := Option.isSome_iff_exists.1 taken
  have haccepted : s.accept d = some (s.taking d) := by simp [taking, hs']
  exact course.step (.take (Option.isNone_iff_eq_none.1 idle) haccepted)

/-- The source at another time, and with another delay of its line. -/
def passing (s : StreamSource σ) (now delay : Millis) : StreamSource σ :=
  { s with
    gateway := { s.gateway with now }
    line := { s.line with retryDelay := delay } }

/-- A course goes on as time passes. -/
theorem Course.pass [Repository σ] (course : Course s₀ past reports s) (now delay : Millis) :
    Course s₀ (past ++ [⟨s, .elapsed, s.passing now delay⟩]) reports (s.passing now delay) :=
  course.step (.elapse s s.gateway.store s.gateway.audience now delay)

namespace Sample

/-- The telemetry of a source that has recorded nothing. -/
def records : Telemetry :=
  ⟨.null, 0, []⟩

def blank : StreamSource Memory :=
  { sample with telemetry := some records }

def loss : Delivered :=
  .lost (some (.streamRejected 500))

/-- Started at 0; it is 7 now. -/
def opened : StreamSource Memory :=
  blank.start.2.passing 7 100

/-- The connection was lost at 7; it is 120 now. -/
def again : StreamSource Memory :=
  (opened.taking loss).passing 120 100

/-- A full data set is being written. -/
def filling : StreamSource Memory :=
  again.taking (.event .emptyPut)

theorem filling_writes : filling.writing.isSome = true := by decide +kernel

/-- The data set was stored, the connection lost again, and the store has come back stale. -/
def refreshed : StreamSource Memory :=
  ((filling.write.2.taking loss).hearHealth ⟨true, true⟩).2

end Sample

/-! ## The whole account -/

/-- What a source with telemetry records of its attempts to connect. Every attempt but the last has
ended. There is an entry that tells of success exactly for an attempt that a full data set ended,
one that tells of failure exactly for one that a lost connection or an event that could not be
decoded or stored ended, and each tells when the attempt began and how long it took; all others are
passed over. No attempt ends by another start if there is only one. Once an attempt has ended, a
connection error adds nothing. -/
theorem Course.accounts [Repository σ] (course : Course s₀ past reports s) (fresh : s₀.Fresh)
    (accumulates : s₀.telemetry = some t) :
    (∃ t', s.telemetry = some t' ∧ reports.flatMap Report.attempts ++ t'.attempts =
        t.attempts ++ (trials past).filterMap Trial.attempt?) ∧
      (∀ trial ∈ trials past,
        ((∃ entry, trial.attempt? = some entry ∧ entry.failed = false) ↔
          ∃ time, trial.ended = some (.applied, time)) ∧
        ((∃ entry, trial.attempt? = some entry ∧ entry.failed = true) ↔
          ∃ time, (∃ fault, trial.ended = some (.lost fault, time)) ∨
            trial.ended = some (.misread, time) ∨ trial.ended = some (.unstored, time)) ∧
        (trial.attempt? = none ↔
          trial.ended = none ∨ ∃ time, trial.ended = some (.stopped, time) ∨
            trial.ended = some (.stale, time) ∨ trial.ended = some (.startedAnew, time)) ∧
        ∀ entry, trial.attempt? = some entry →
          entry.start = trial.start ∧ ∃ ending time, trial.ended = some (ending, time) ∧
            entry.duration = max 0 (time - trial.start)) ∧
      (past.countP Moment.isStart ≤ 1 →
        ∀ trial ∈ trials past, ∀ time, trial.ended ≠ some (.startedAnew, time)) ∧
      (∀ trial ∈ (trials past).dropLast, trial.ended ≠ none) ∧
      ∀ fault s', Step s (.taken (.lost (some fault))) s' →
        (∀ trial ∈ (trials past).getLast?, trial.ended ≠ none) → s'.telemetry = s.telemetry := by
  obtain ⟨settled, current?, hbooked⟩ := course.booked fresh accumulates
  refine ⟨?_, ?_, course.not_startedAnew fresh accumulates, ?_, ?_⟩
  · obtain ⟨t', ht', hentries⟩ := hbooked.telemetry
    refine ⟨t', ht', hentries.trans ?_⟩
    rw [hbooked.trials]
    cases current? <;> simp [Trial.attempt?]
  · intro trial _
    exact ⟨trial.attempt?_succeeded_iff, trial.attempt?_failed_iff, trial.attempt?_eq_none_iff,
      fun entry => Trial.attempt?_times⟩
  · intro trial hin hopen
    -- only the last trial can be the one that goes on
    have hsettled : trial ∈ settled := by
      rw [hbooked.trials] at hin
      cases current? with
      | none => exact List.dropLast_subset _ (by simpa using hin)
      | some start => simpa using hin
    simpa [hopen] using hbooked.ended trial hsettled
  · intro fault s' step hended
    -- where the last trial has ended none is going on, and there is nothing to record
    have hnone : current? = none := by
      cases current? with
      | none => rfl
      | some start => exact absurd rfl (hended ⟨start, none⟩ (by simp [hbooked.trials]))
    have hm := step.accounted hbooked.hasLine
    have hattempt := Booked.attempt? (m := ⟨s, .taken (.lost (some fault)), s'⟩) hbooked hm
    rw [hnone] at hattempt
    rw [hm.telemetry, hattempt]
    simp [Telemetry.book]

/-- Two attempts are recorded of four: the first is lost at 7, the second begins at 107 and has
stored a full data set at 120, the third begins with the loss after that and is given up for a stale
store, and the last is stopped. -/
theorem Course.accounts_of_stale_store :
    ∃ past, Sample.blank.Fresh ∧ Sample.blank.telemetry = some Sample.records ∧
      Course Sample.blank past [] Sample.refreshed.stop ∧ (trials past).length = 4 ∧
      Sample.refreshed.stop.telemetry.map Telemetry.attempts =
        some [⟨0, 7, true⟩, ⟨107, 13, false⟩] := by
  have hfresh : Sample.blank.Fresh := ⟨rfl, rfl, rfl, rfl, rfl, rfl, rfl⟩
  have hopened : Course Sample.blank _ [] Sample.opened :=
    (Course.start.step (.start Sample.blank)).pass 7 100
  have hagain : Course Sample.blank _ [] Sample.again :=
    (hopened.take Sample.loss (by decide +kernel) (by decide +kernel)).pass 120 100
  have hfilling : Course Sample.blank _ [] Sample.filling :=
    hagain.take (.event .emptyPut) (by decide +kernel) (by decide +kernel)
  have hstored : Course Sample.blank _ [] Sample.filling.write.2 :=
    hfilling.step (.write (Option.some_get Sample.filling_writes).symm)
  have hrefreshed : Course Sample.blank _ [] Sample.refreshed :=
    (hstored.take Sample.loss (by decide +kernel) (by decide +kernel)).step
      (.hear _ ⟨true, true⟩)
  have hstopped : Course Sample.blank _ [] Sample.refreshed.stop := hrefreshed.step (.stop _)
  obtain ⟨t', ht', hentries⟩ := (Course.accounts hstopped hfresh rfl).1
  refine ⟨_, hfresh, rfl, hstopped, by decide +kernel, ?_⟩
  rw [ht', Option.map_some]
  exact congrArg some (hentries.trans (by decide +kernel))

end StreamSource

end FlagReplica
