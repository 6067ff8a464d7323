import FlagReplica.Cadence
import FlagReplica.Proofs.Runs

/-!
# The schedule of a task

When the runs of a task begin, with a clock beside the task: a wait lasts exactly as long as it was
asked to, unless the task is stopped, and a run takes as long as it takes. `Completed` is the
schedule by itself: the first run begins an initial delay after the start, and each other one an
interval after the beginning of the one before or, if that is later, at its end. `OnTime` says that
every step keeps a task to its schedule. A stop may come at any moment, before the start and from
within a run as well.
-/

namespace FlagReplica

/-! ## The schedule -/

/-- When the next run of a task is due that was started at some moment, after the latest run with
its beginning and its end, if there was one. -/
def Cadence.due (c : Cadence) (started : Millis) : (latest? : Option (Millis × Millis)) → Millis
  | none => started + c.initialDelay
  | some (began, ended) => max (began + c.interval) ended

/-- The beginnings and the ends of runs that are over, and when the next one is due. -/
inductive Cadence.Completed (c : Cadence) (started : Millis) :
    (begins ends : List Millis) → (due : Millis) → Prop where
  | none : Completed c started [] [] (started + c.initialDelay)
  | run {begins ends : List Millis} {due ended : Millis}
      (before : Completed c started begins ends due) (later : due ≤ ended) :
      Completed c started (begins ++ [due]) (ends ++ [ended]) (max (due + c.interval) ended)

namespace Cadence.Completed

variable {c : Cadence} {started due : Millis} {begins ends : List Millis}

theorem length_eq (h : c.Completed started begins ends due) : begins.length = ends.length := by
  induction h with
  | none => rfl
  | run _ _ ih => simp [ih]

/-- The next run is due when the latest one says. -/
theorem due_eq (h : c.Completed started begins ends due) :
    due = c.due started (begins.zip ends).getLast? := by
  cases h with
  | none => rfl
  | @run begins ends due ended before later =>
    rw [List.zip_append before.length_eq]
    simp [Cadence.due]

/-- The first run, be it over or due, begins an initial delay after the start. -/
theorem first (h : c.Completed started begins ends due) :
    (begins ++ [due])[0]? = some (started + c.initialDelay) := by
  induction h with
  | none => rfl
  | @run begins ends due ended before later ih =>
    rw [List.getElem?_append_left (by simp)]
    exact ih

/-- Every other run, be it over or due, begins an interval after the beginning of the one before or
at its end. -/
theorem next (h : c.Completed started begins ends due) {i : Nat} {b : Millis}
    (hb : (begins ++ [due])[i + 1]? = some b) :
    ∃ a e, (begins ++ [due])[i]? = some a ∧ ends[i]? = some e ∧ a ≤ e ∧
      b = max (a + c.interval) e := by
  induction h with
  | none => simp at hb
  | @run begins ends due ended before later ih =>
    have hlength := before.length_eq
    by_cases hlast : i = begins.length
    · -- the run that is due now follows the one that is over
      subst hlast
      refine ⟨due, ended, ?_, ?_, later, ?_⟩
      · simp
      · simp [hlength]
      · simpa [eq_comm] using hb
    · have hlt : i + 1 < (begins ++ [due]).length := by
        have hbound := (List.getElem?_eq_some_iff.1 hb).1
        simp only [List.length_append, List.length_singleton] at hbound ⊢
        omega
      rw [List.getElem?_append_left hlt] at hb
      obtain ⟨a, e, ha, he, hle, heq⟩ := ih hb
      refine ⟨a, e, ?_, ?_, hle, heq⟩
      · rw [List.getElem?_append_left (Nat.lt_of_succ_lt hlt)]
        exact ha
      · rw [List.getElem?_append_left (List.getElem?_eq_some_iff.1 he).1]
        exact he

end Cadence.Completed

namespace Task

/-! ## A task and the time -/

/-- A task and the time. -/
structure Timed where
  task : Task
  now : Millis

/-- What happens to a task. -/
inductive Occasion where
  | started (moment : Millis)
  | stopped
  /-- A wait is over. -/
  | woken
  /-- A run is over, and has failed or not. -/
  | ended (moment : Millis) (fault? : Option Fault)
  | elapsed

/-- One happening. Time passes while a run goes on, and up to the end of a wait. -/
inductive Step : Timed → Occasion → Timed → Prop where
  | start {s : Timed} {task : Task} (starts : s.task.start s.now = .ok task) :
      Step s (.started s.now) { s with task }
  | stop (s : Timed) : Step s .stopped { s with task := s.task.stop }
  | wake {s : Timed} {deadline : Millis} (waits : s.task.phase = .waiting deadline)
      (due : s.now = deadline ∨ s.task.stopped = true) :
      Step s .woken { s with task := s.task.wake }
  | finish {s : Timed} {since : Millis} (runs : s.task.phase = .running since)
      (fault? : Option Fault) :
      Step s (.ended s.now fault?) { s with task := s.task.finish s.now fault? }
  | elapse {s : Timed} {now : Millis} (later : s.now ≤ now)
      (within : ∀ deadline, s.task.phase = .waiting deadline → now ≤ deadline) :
      Step s .elapsed { s with now }

/-- A task that nothing has happened to yet. -/
def Timed.fresh (c : Cadence) (now : Millis) : Timed :=
  { task := { cadence := c }, now }

/-- The moment of a start. -/
def Occasion.start? : Occasion → Option Millis
  | started moment => some moment
  | _ => none

/-- The moment at which a run ends. -/
def Occasion.end? : Occasion → Option Millis
  | ended moment _ => some moment
  | _ => none

/-- The moments at which a task was started. -/
def starts (past : List Occasion) : List Millis :=
  past.filterMap Occasion.start?

/-- The moments at which its runs have ended. -/
def ends (past : List Occasion) : List Millis :=
  past.filterMap Occasion.end?

theorem starts_concat (past : List Occasion) (a : Occasion) :
    starts (past ++ [a]) = starts past ++ a.start?.toList := by
  cases h : a.start? <;> simp [starts, h]

theorem ends_concat (past : List Occasion) (a : Occasion) :
    ends (past ++ [a]) = ends past ++ a.end?.toList := by
  cases h : a.end? <;> simp [ends, h]

theorem mem_starts_iff {past : List Occasion} {moment : Millis} :
    moment ∈ starts past ↔ .started moment ∈ past := by
  simp only [starts, List.mem_filterMap]
  constructor
  · rintro ⟨a, ha, hmoment⟩
    cases a <;> simp_all [Occasion.start?]
  · intro h
    exact ⟨_, h, rfl⟩

/-! ## What every step keeps -/

/-- Where a task is on its schedule, with the moments of its start and of the ends of its runs. -/
inductive Place (c : Cadence) (s : Timed) : (starts ends : List Millis) → Prop where
  | unstarted (phase : s.task.phase = .unstarted) (began : s.task.began = []) : Place c s [] []
  | waiting {started due : Millis} {ends : List Millis} (phase : s.task.phase = .waiting due)
      (completed : c.Completed started s.task.began ends due) (early : s.now ≤ due) :
      Place c s [started] ends
  | running {started since : Millis} {begins ends : List Millis}
      (phase : s.task.phase = .running since) (began : s.task.began = begins ++ [since])
      (completed : c.Completed started begins ends since) (late : since ≤ s.now) :
      Place c s [started] ends
  | ended {started due : Millis} {ends : List Millis} (phase : s.task.phase = .ended)
      (completed : c.Completed started s.task.began ends due) (stopped : s.task.stopped = true) :
      Place c s [started] ends

/-- A task keeps to its schedule, and is stopped if it was told to stop. -/
structure OnTime (c : Cadence) (past : List Occasion) (s : Timed) : Prop where
  cadence : s.task.cadence = c
  stopped : s.task.stopped = true ↔ .stopped ∈ past
  place : Place c s (starts past) (ends past)

variable {c : Cadence} {s s' : Timed} {a : Occasion} {past later : List Occasion}

theorem onTime_fresh (c : Cadence) (now : Millis) : OnTime c [] (.fresh c now) :=
  ⟨rfl, by simp [Timed.fresh], .unstarted rfl rfl⟩

@[simp] theorem finish_cadence (t : Task) (now : Millis) (fault? : Option Fault) :
    (t.finish now fault?).cadence = t.cadence := by
  unfold finish
  split
  · cases fault? <;> rfl
  · rfl

@[simp] theorem wake_cadence (t : Task) : t.wake.cadence = t.cadence := by
  unfold wake
  split
  · split <;> rfl
  · rfl

/-- A task that is started waits for its first run. -/
theorem start_eq_ok {t task : Task} {now : Millis} (h : t.start now = .ok task) :
    t.phase = .unstarted ∧ task = t.wait now t.cadence.initialDelay := by
  unfold start at h
  split at h
  · rename_i hphase
    exact ⟨hphase, (Except.ok.inj h).symm⟩
  · exact absurd h (by simp)

/-- A wait that is over is followed by a run, unless the task was stopped. -/
theorem wake_of_waiting {t : Task} {deadline : Millis} (waits : t.phase = .waiting deadline) :
    t.wake = if t.stopped then { t with phase := .ended }
      else { t with phase := .running deadline, began := t.began ++ [deadline] } := by
  simp [wake, waits]

/-- What a step does to the cadence and to a stop. -/
theorem Step.settings (hs : Step s a s') :
    s'.task.cadence = s.task.cadence ∧
      (s'.task.stopped = true ↔ s.task.stopped = true ∨ a = .stopped) := by
  cases hs with
  | start starts =>
    obtain ⟨-, rfl⟩ := start_eq_ok starts
    simp [wait]
  | stop => simp [Task.stop]
  | wake => simp
  | finish => simp
  | elapse => simp

/-- A step takes a task along its schedule. -/
theorem Place.step {starts ends : List Millis} (hdelay : 0 ≤ c.initialDelay)
    (hcadence : s.task.cadence = c) (h : Place c s starts ends) (hs : Step s a s') :
    Place c s' (starts ++ a.start?.toList) (ends ++ a.end?.toList) := by
  cases hs with
  | start starts =>
    obtain ⟨hphase, rfl⟩ := start_eq_ok starts
    cases h with
    | unstarted _ began =>
      have hphase' : (s.task.wait s.now s.task.cadence.initialDelay).phase =
          .waiting (s.now + c.initialDelay) := by
        simp [wait, hcadence]
      refine .waiting hphase' ?_ (Int.le_add_of_nonneg_right hdelay)
      rw [show (s.task.wait s.now s.task.cadence.initialDelay).began = [] from began]
      exact .none
    | waiting phase => simp [hphase] at phase
    | running phase => simp [hphase] at phase
    | ended phase => simp [hphase] at phase
  | stop =>
    simp only [Occasion.start?, Occasion.end?, Option.toList_none, List.append_nil]
    cases h with
    | unstarted phase began => exact .unstarted phase began
    | waiting phase completed early => exact .waiting phase completed early
    | running phase began completed late => exact .running phase began completed late
    | ended phase completed _ => exact .ended phase completed rfl
  | @wake deadline waits due =>
    simp only [Occasion.start?, Occasion.end?, Option.toList_none, List.append_nil]
    cases h with
    | waiting phase completed early =>
      obtain rfl := Phase.waiting.inj (phase.symm.trans waits)
      by_cases hgoes : s.task.stopped = true
      · have hwoken : s.task.wake = { s.task with phase := .ended } := by
          simp [wake_of_waiting waits, hgoes]
        rw [hwoken]
        exact .ended rfl completed hgoes
      · -- a wait that was not cut short has lasted until its end
        have hnow := due.resolve_right hgoes
        refine .running ?_ ?_ completed ?_
        · simp [wake_of_waiting waits, hgoes]
        · simp [wake_of_waiting waits, hgoes]
        · exact Int.le_of_eq hnow.symm
    | unstarted phase => simp [waits] at phase
    | running phase => simp [waits] at phase
    | ended phase => simp [waits] at phase
  | @finish since runs fault? =>
    simp only [Occasion.start?, Occasion.end?, Option.toList_none, Option.toList_some,
      List.append_nil]
    cases h with
    | running phase began completed late =>
      obtain rfl := Phase.running.inj (phase.symm.trans runs)
      have hphase := finish_of_running runs s.now fault?
      rw [hcadence] at hphase
      refine .waiting hphase ?_ (Int.le_max_right _ _)
      rw [finish_began, began]
      exact .run completed late
    | unstarted phase => simp [runs] at phase
    | waiting phase => simp [runs] at phase
    | ended phase => simp [runs] at phase
  | elapse hlater within =>
    simp only [Occasion.start?, Occasion.end?, Option.toList_none, List.append_nil]
    cases h with
    | unstarted phase began => exact .unstarted phase began
    | waiting phase completed _ => exact .waiting phase completed (within _ phase)
    | running phase began completed late =>
      exact .running phase began completed (Int.le_trans late hlater)
    | ended phase completed stopped => exact .ended phase completed stopped

/-- A step keeps a task to its schedule. -/
theorem OnTime.step (hdelay : 0 ≤ c.initialDelay) (h : OnTime c past s) (hs : Step s a s') :
    OnTime c (past ++ [a]) s' := by
  obtain ⟨hkept, hstops⟩ := hs.settings
  constructor
  case cadence => exact hkept.trans h.cadence
  case stopped =>
    rw [hstops, h.stopped]
    simp [eq_comm]
  case place =>
    rw [starts_concat, ends_concat]
    exact h.place.step hdelay h.cadence hs

theorem OnTime.run (hdelay : 0 ≤ c.initialDelay) {birth : Millis}
    (run : Runs Step (.fresh c birth) past s) : OnTime c past s := by
  induction run with
  | nil => exact onTime_fresh c birth
  | snoc _ next ih => exact ih.step hdelay next

/-! ## What follows of a schedule -/

/-- The runs that have begun are those that are over, and perhaps the one that is due. -/
theorem Place.begun {starts ends : List Millis} (h : Place c s starts ends)
    (hbegan : s.task.began ≠ []) :
    ∃ started begins due, starts = [started] ∧ c.Completed started begins ends due ∧
      s.task.began <+: begins ++ [due] := by
  cases h with
  | unstarted _ began => exact absurd began hbegan
  | waiting _ completed => exact ⟨_, _, _, rfl, completed, List.prefix_append _ _⟩
  | running _ began completed => exact ⟨_, _, _, rfl, completed, began ▸ List.prefix_refl _⟩
  | ended _ completed => exact ⟨_, _, _, rfl, completed, List.prefix_append _ _⟩

/-- One run at most has begun and not ended. -/
theorem Place.lengths {starts ends : List Millis} (h : Place c s starts ends) :
    ends.length ≤ s.task.began.length ∧ s.task.began.length ≤ ends.length + 1 := by
  -- a run of the task has either ended or is the only one that has not
  -- a run of the task has either ended or is the only one that has not
  cases h with
  | unstarted _ began => simp [began]
  | waiting _ completed =>
    have hlength := completed.length_eq
    omega
  | running _ began completed =>
    have hlength := completed.length_eq
    rw [began, List.length_append, List.length_singleton]
    omega
  | ended _ completed =>
    have hlength := completed.length_eq
    omega

/-- A task that was started, is not stopped and has ended every run waits for the next one. -/
theorem Place.idle {starts ends : List Millis} (h : Place c s starts ends) {started : Millis}
    (hstarted : started ∈ starts) (hidle : ends.length = s.task.began.length)
    (hgoes : s.task.stopped ≠ true) :
    ∃ due, s.task.phase = .waiting due ∧ due = c.due started (s.task.began.zip ends).getLast? ∧
      s.now ≤ due := by
  cases h with
  | unstarted => exact absurd hstarted (by simp)
  | waiting phase completed early =>
    obtain rfl := List.mem_singleton.1 hstarted
    exact ⟨_, phase, completed.due_eq, early⟩
  | running _ began completed =>
    -- while a run goes on it has begun and not ended
    -- while a run goes on it has begun and not ended
    have hlength := completed.length_eq
    rw [began, List.length_append, List.length_singleton] at hidle
    omega
  | ended _ _ stopped => exact absurd stopped hgoes

/-- A stopped task begins no run, whatever happens. -/
theorem began_of_stopped (run : Runs Step s later s') (hstopped : s.task.stopped = true) :
    s'.task.stopped = true ∧ s'.task.began = s.task.began := by
  induction run with
  | nil => exact ⟨hstopped, rfl⟩
  | @snoc _ t t' _ _ next ih =>
    obtain ⟨hs, hbegan⟩ := ih
    refine ⟨(next.settings.2).2 (Or.inl hs), ?_⟩
    rw [← hbegan]
    -- only waking makes a run begin, and it does not where the task has stopped
    -- only waking makes a run begin, and it does not where the task has stopped
    cases next with
    | start starts => exact (start_ok starts).2
    | stop => rfl
    | wake => exact wake_of_stopped hs
    | finish => exact finish_began _ _ _
    | elapse => rfl

/-! ## Faults -/

/-- The same happening without a fault. -/
def Occasion.calm : Occasion → Occasion
  | ended moment _ => ended moment none
  | a => a

/-- The same task without a notice. -/
def Timed.calm (s : Timed) : Timed :=
  { s with task := { s.task with notices := [] } }

/-- A run that fails leaves a notice and nothing else. -/
theorem Step.calm (hs : Step s a s') : Step s.calm a.calm s'.calm := by
  cases hs with
  | @start task starts =>
    obtain ⟨hphase, rfl⟩ := start_eq_ok starts
    refine Step.start (s := s.calm) ?_
    simp [Task.start, Timed.calm, hphase, wait]
  | stop => exact Step.stop s.calm
  | @wake deadline waits due =>
    -- what a run raised shows in the notes only, so that the calm task wakes at the same moment
    -- what a run raised shows in the notes only, so that the calm task wakes at the same moment
    have hwoken : Step s.calm .woken { s.calm with task := s.calm.task.wake } :=
      .wake (show s.calm.task.phase = .waiting deadline from waits) due
    have hsame : ({ s with task := s.task.wake } : Timed).calm =
        { s.calm with task := s.calm.task.wake } := by
      rw [wake_of_waiting (t := s.calm.task) waits]
      by_cases hgoes : s.task.stopped = true <;>
        simp [Timed.calm, wake_of_waiting waits, hgoes]
    rw [hsame]
    exact hwoken
  | @finish since runs fault? =>
    have hended : Step s.calm (.ended s.now none)
        { s.calm with task := s.calm.task.finish s.now none } :=
      .finish (show s.calm.task.phase = .running since from runs) none
    have hsame : ({ s with task := s.task.finish s.now fault? } : Timed).calm =
        { s.calm with task := s.calm.task.finish s.now none } := by
      cases fault? <;> simp [Timed.calm, Task.finish, runs, wait]
    rw [hsame]
    exact hended
  | elapse hlater within => exact Step.elapse (s := s.calm) hlater within

theorem run_calm (run : Runs Step s past s') :
    Runs Step s.calm (past.map Occasion.calm) s'.calm := by
  induction run with
  | nil => exact .nil
  | snoc _ next ih =>
    rw [List.map_append]
    exact ih.snoc next.calm

/-! ## Playing a task through -/

/-- While a task waits, time passes up to the end of the wait. -/
theorem elapse_waiting (now : Millis) {deadline : Millis}
    (waits : s.task.phase = .waiting deadline) (later : s.now ≤ now) (early : now ≤ deadline) :
    Step s .elapsed { s with now } := by
  refine .elapse later ?_
  intro deadline' waits'
  obtain rfl := Phase.waiting.inj (waits.symm.trans waits')
  exact early

/-- While a run goes on, any time passes. -/
theorem elapse_running (now : Millis) {since : Millis} (runs : s.task.phase = .running since)
    (later : s.now ≤ now) : Step s .elapsed { s with now } := by
  refine .elapse later ?_
  intro deadline waits
  exact absurd (runs.symm.trans waits) (by simp)

/-- The end of a wait, at the moment that the wait was asked to last until, unless the task is
stopped. -/
theorem run_wake {deadline : Millis} (waits : s.task.phase = .waiting deadline)
    (early : s.now ≤ deadline) :
    ∃ past now, Runs Step s past ⟨s.task.wake, now⟩ ∧
      (s.task.stopped = false → past = [.elapsed, .woken] ∧ now = deadline) ∧
      ∀ since, s.task.wake.phase = .running since → now = since := by
  -- a stopped task wakes at once and begins nothing; any other sleeps until it is due
  -- a stopped task wakes at once and begins nothing; any other sleeps until it is due
  by_cases hgoes : s.task.stopped = true
  · have hwoken : Runs Step s [.woken] { s with task := s.task.wake } :=
      Runs.nil.snoc (.wake waits (Or.inr hgoes))
    refine ⟨_, _, hwoken, fun h => absurd hgoes (by simp [h]), ?_⟩
    intro since hphase
    simp [wake_of_waiting waits, hgoes] at hphase
  · have helapsed : Runs Step s [.elapsed] { s with now := deadline } :=
      Runs.nil.snoc (elapse_waiting _ waits early (Int.le_refl _))
    have hwoken := helapsed.snoc (.wake waits (Or.inl rfl))
    refine ⟨_, _, hwoken, fun _ => ⟨rfl, rfl⟩, ?_⟩
    intro since hphase
    simpa [wake_of_waiting waits, hgoes] using hphase

/-- Waiting out a wait, with or without a stop that cuts it short. -/
theorem run_waitOut {deadline : Millis} (waits : s.task.phase = .waiting deadline)
    (early : s.now ≤ deadline) (stopAtWait : Option Nat) :
    ∃ past now, Runs Step s past ⟨s.task.waitOut stopAtWait, now⟩ ∧
      ∀ since, (s.task.waitOut stopAtWait).phase = .running since → now = since := by
  unfold waitOut
  split
  · have hstopped : Runs Step s [.stopped] { s with task := s.task.stop } := Runs.nil.snoc (.stop s)
    obtain ⟨past, now, hwoken, -, hnow⟩ :=
      run_wake (s := { s with task := s.task.stop }) waits early
    exact ⟨_, now, hstopped.trans hwoken, hnow⟩
  · obtain ⟨past, now, hwoken, -, hnow⟩ := run_wake waits early
    exact ⟨past, now, hwoken, hnow⟩

/-- A task that is played through goes by its steps. -/
theorem run_play {runs : List Run} (hruns : ∀ r ∈ runs, 0 ≤ r.takes) (stopAtWait : Option Nat)
    {deadline : Millis} (waits : s.task.phase = .waiting deadline) (early : s.now ≤ deadline) :
    ∃ past now, Runs Step s past ⟨s.task.play stopAtWait runs, now⟩ := by
  induction runs generalizing s deadline with
  | nil =>
    obtain ⟨past, now, hwaited, -⟩ := run_waitOut waits early stopAtWait
    exact ⟨past, now, hwaited⟩
  | cons r rest ih =>
    obtain ⟨past, now, hwaited, hnow⟩ := run_waitOut waits early stopAtWait
    simp only [play]
    split
    · rename_i since hphase
      obtain rfl := hnow since hphase
      -- the run may stop its task, and then takes its time
      have hrun : ∃ past, Runs Step ⟨s.task.waitOut stopAtWait, now⟩ past
          ⟨if r.stops then (s.task.waitOut stopAtWait).stop
            else s.task.waitOut stopAtWait, now⟩ := by
        by_cases hstops : r.stops = true
        · rw [if_pos hstops]
          exact ⟨_, Runs.nil.snoc (.stop _)⟩
        · rw [if_neg hstops]
          exact ⟨_, .nil⟩
      have hphase' : (if r.stops then (s.task.waitOut stopAtWait).stop
          else s.task.waitOut stopAtWait).phase = .running now := by
        split
        · exact hphase
        · exact hphase
      generalize (if r.stops then (s.task.waitOut stopAtWait).stop
        else s.task.waitOut stopAtWait) = task at hrun hphase' ⊢
      obtain ⟨past', hrun⟩ := hrun
      have htakes := hruns r (by simp)
      have helapsed : Step ⟨task, now⟩ .elapsed ⟨task, now + r.takes⟩ :=
        elapse_running _ hphase' (Int.le_add_of_nonneg_right htakes)
      have hended := ((hwaited.trans hrun).snoc helapsed).snoc (.finish hphase' r.fails)
      obtain ⟨past'', now', hplayed⟩ := ih (fun r' hr' => hruns r' (by simp [hr']))
        (s := ⟨task.finish (now + r.takes) r.fails, now + r.takes⟩)
        (finish_of_running hphase' _ _) (Int.le_max_right _ _)
      exact ⟨_, now', hended.trans hplayed⟩
    · exact ⟨past, now, hwaited⟩

/-! ## On schedule -/

/-- A task after anything that may happen to it. The first run begins an initial delay after the
start, and each other one an interval after the beginning of the one before or at its end, whichever
is later. Runs do not overlap: as many have ended as have begun, or all but one, and each ends
before the next one begins. Faults make no difference but for the notices. The task is stopped
exactly if it was told to, and then no run begins any more, so that the one in progress is the last.
While it is not stopped the next run does begin, neither before nor after its time. And playing the
task through is something that may happen to it. -/
theorem on_schedule {c : Cadence} (hdelay : 0 ≤ c.initialDelay) {birth : Millis}
    (run : Runs Step (.fresh c birth) past s) :
    (∀ b, s.task.began[0]? = some b → ∃ started, .started started ∈ past ∧
        b = started + c.initialDelay) ∧
      (∀ i b, s.task.began[i + 1]? = some b → ∃ a e, s.task.began[i]? = some a ∧
        (ends past)[i]? = some e ∧ a ≤ e ∧ b = max (a + c.interval) e) ∧
      ((ends past).length ≤ s.task.began.length ∧
        s.task.began.length ≤ (ends past).length + 1) ∧
      Runs Step (.fresh c birth) (past.map Occasion.calm) s.calm ∧
      ((s.task.stopped = true ↔ .stopped ∈ past) ∧
        ∀ later s', Runs Step s later s' → s.task.stopped = true → s'.task.began = s.task.began) ∧
      (∀ started, .started started ∈ past → .stopped ∉ past →
        (ends past).length = s.task.began.length →
        ∃ due, due = c.due started (s.task.began.zip (ends past)).getLast? ∧ s.now ≤ due ∧
          ∃ s', Runs Step s [.elapsed, .woken] s' ∧ s'.now = due ∧
            s'.task.began = s.task.began ++ [due]) ∧
      ∀ task stopAtWait runs, s.task.start s.now = .ok task → (∀ r ∈ runs, 0 ≤ r.takes) →
        ∃ later now, Runs Step s later ⟨task.play stopAtWait runs, now⟩ := by
  have htime := OnTime.run hdelay run
  refine ⟨?_, ?_, htime.place.lengths, run_calm run, ⟨htime.stopped, ?_⟩, ?_, ?_⟩
  · intro b hb
    obtain ⟨started, begins, due, hstarted, hcompleted, rest, hbegan⟩ :=
      htime.place.begun (List.ne_nil_of_mem (List.mem_of_getElem? hb))
    refine ⟨started, mem_starts_iff.1 (by simp [hstarted]), ?_⟩
    -- the first run begins when the first delay is over
    -- the first run begins when the first delay is over
    have hfirst := hcompleted.first
    rw [← hbegan, List.getElem?_append_left (List.getElem?_eq_some_iff.1 hb).1, hb] at hfirst
    exact Option.some.inj hfirst
  · intro i b hb
    obtain ⟨started, begins, due, -, hcompleted, rest, hbegan⟩ :=
      htime.place.begun (List.ne_nil_of_mem (List.mem_of_getElem? hb))
    have hbound := (List.getElem?_eq_some_iff.1 hb).1
    -- every other begin follows from the one before it and its end, which `Completed` ties together
    -- every other begin follows from the one before it and its end, which `Completed` ties together
    have hnext : (begins ++ [due])[i + 1]? = some b := by
      rw [← hbegan, List.getElem?_append_left hbound]
      exact hb
    obtain ⟨a, e, ha, he, hle, heq⟩ := hcompleted.next hnext
    refine ⟨a, e, ?_, he, hle, heq⟩
    rw [← hbegan, List.getElem?_append_left (Nat.lt_of_succ_lt hbound)] at ha
    exact ha
  · intro later s' hlater hstopped
    exact (began_of_stopped hlater hstopped).2
  · intro started hstarted hgoes hidle
    obtain ⟨due, hphase, hdue, hearly⟩ :=
      htime.place.idle (mem_starts_iff.2 hstarted) hidle fun h => hgoes (htime.stopped.1 h)
    -- a task that waits only has to wait until it is due and wake up
    -- a task that waits only has to wait until it is due and wake up
    obtain ⟨past', now, hwoken, htimely, -⟩ := run_wake hphase hearly
    have hstopped : s.task.stopped = false :=
      Bool.eq_false_iff.2 fun h => hgoes (htime.stopped.1 h)
    obtain ⟨rfl, rfl⟩ := htimely hstopped
    refine ⟨now, hdue, hearly, _, hwoken, rfl, ?_⟩
    simp [wake_of_waiting hphase, hstopped]
  · intro task stopAtWait runs hstart hruns
    obtain ⟨-, rfl⟩ := start_eq_ok hstart
    have hstarted : Runs Step s [.started s.now] _ := Runs.nil.snoc (.start hstart)
    have hearly : s.now ≤ s.now + s.task.cadence.initialDelay := by
      rw [htime.cadence]
      exact Int.le_add_of_nonneg_right hdelay
    obtain ⟨later, now, hplayed⟩ := run_play
      (s := { s with task := s.task.wait s.now s.task.cadence.initialDelay })
      hruns stopAtWait rfl hearly
    exact ⟨_, now, hstarted.trans hplayed⟩

/-! ## A run that takes too long, and a stop during the next one -/

/-- Every hundred milliseconds, and the first time after fifty. -/
def quick : Cadence :=
  ⟨Text.ofChars ['t'], 100, 50⟩

/-- What happens to a task that is started at ten. Its first run fails, the second one takes longer
than the interval, and the third one stops the task. -/
def overrun : List Occasion :=
  [.started 10, .elapsed, .woken, .elapsed, .ended 90 (some .alreadyStarted), .elapsed, .woken,
    .elapsed, .ended 410 none, .woken, .stopped, .elapsed, .ended 430 none]

/-- The third run begins when the second one ends, and it is the last one. -/
theorem on_schedule_of_overrun :
    0 ≤ quick.initialDelay ∧ ∃ s, Runs Step (.fresh quick 10) overrun s ∧
      s.task.began = [60, 160, 410] ∧ (410 : Millis) = max (160 + quick.interval) 410 ∧
      ∀ later s', Runs Step s later s' → s'.task.began = [60, 160, 410] := by
  have hstarted : Runs Step (.fresh quick 10) [.started 10] _ := Runs.nil.snoc (.start rfl)
  have hfirst := (hstarted.snoc (elapse_waiting 60 rfl (by decide) (by decide))).snoc
    (.wake rfl (Or.inl rfl))
  have hfailed := (hfirst.snoc (elapse_running 90 rfl (by decide))).snoc
    (.finish rfl (some .alreadyStarted))
  have hsecond := (hfailed.snoc (elapse_waiting 160 rfl (by decide) (by decide))).snoc
    (.wake rfl (Or.inl rfl))
  have hlong := (hsecond.snoc (elapse_running 410 rfl (by decide))).snoc
    (.finish rfl none)
  have hthird := (hlong.snoc (.wake rfl (Or.inl rfl))).snoc (.stop _)
  have hended := (hthird.snoc (elapse_running 430 rfl (by decide))).snoc
    (.finish rfl none)
  obtain ⟨-, hnext, -, -, ⟨hstopped, hlast⟩, -, -⟩ := on_schedule (by decide) hended
  obtain ⟨a, e, ha, he, -, hdue⟩ := hnext 1 410 rfl
  obtain rfl := Option.some.inj ha
  obtain rfl := Option.some.inj he
  refine ⟨by decide, _, hended, rfl, hdue, ?_⟩
  intro later s' hlater
  exact hlast later s' hlater rfl

end Task

end FlagReplica
