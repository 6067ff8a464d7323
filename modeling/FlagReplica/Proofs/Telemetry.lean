import FlagReplica.Proofs.Runs
import FlagReplica.Telemetry

/-!
# What is reported of attempts

Every attempt that is recorded is handed out with exactly one report, in the order of recording, and
the reports follow each other in time without a gap. A flush takes the attempts out first and closes
its report afterwards. What is recorded in between is left for the next report, although the time of
the report ends later. `Step` lists what is done with telemetry, and `Kept` is what every run
preserves.
-/

namespace FlagReplica

namespace Report

/-- Whether a moment belongs to the time that a report is about. -/
def covers (r : Report) (m : Millis) : Bool :=
  r.since ≤ m && m < r.created

/-- Reports that follow each other from one moment to another: each begins where the one before it
ends. -/
def Tile : (start : Millis) → List Report → (stop : Millis) → Prop
  | start, [], stop => start = stop
  | start, r :: rest, stop => r.since = start ∧ start ≤ r.created ∧ Tile r.created rest stop

namespace Tile

variable {start stop : Millis} {reports : List Report}

/-- Another report goes on where the others end. -/
theorem concat (h : Tile start reports stop) {r : Report} (since : r.since = stop)
    (later : stop ≤ r.created) : Tile start (reports ++ [r]) r.created := by
  induction reports generalizing start with
  | nil =>
    have hstart : start = stop := h
    subst hstart
    exact ⟨since, later, rfl⟩
  | cons first rest ih =>
    obtain ⟨hsince, hle, hrest⟩ := h
    exact ⟨hsince, hle, ih hrest⟩

theorem le (h : Tile start reports stop) : start ≤ stop := by
  induction reports generalizing start with
  | nil => exact Int.le_of_eq h
  | cons first rest ih =>
    obtain ⟨-, hle, hrest⟩ := h
    exact Int.le_trans hle (ih hrest)

/-- The last report ends where all of them end. -/
theorem stop_eq (h : Tile start reports stop) :
    stop = (reports.getLast?.map Report.created).getD start := by
  induction reports generalizing start with
  | nil => exact (show start = stop from h).symm
  | cons first rest ih =>
    obtain ⟨-, -, hrest⟩ := h
    rw [ih hrest]
    cases rest with
    | nil => rfl
    | cons second others => simp [List.getLast?_cons]

/-- A moment between the two ends belongs to one report, and any other to none. -/
theorem countP_covers (h : Tile start reports stop) (m : Millis) :
    reports.countP (·.covers m) = if start ≤ m ∧ m < stop then 1 else 0 := by
  induction reports generalizing start with
  | nil =>
    have hstart : start = stop := h
    subst hstart
    have hnone : ¬ (start ≤ m ∧ m < start) := fun hm => Int.not_le.2 hm.2 hm.1
    rw [if_neg hnone]
    rfl
  | cons first rest ih =>
    obtain ⟨hsince, hle, hrest⟩ := h
    have hlater := hrest.le
    rw [List.countP_cons, ih hrest]
    by_cases hfirst : start ≤ m ∧ m < first.created
    · -- the moment lies in the first report, before all others
      have hcovers : first.covers m = true := by simp [covers, hsince, hfirst]
      have hall : start ≤ m ∧ m < stop := ⟨hfirst.1, Int.lt_of_lt_of_le hfirst.2 hlater⟩
      have hothers : ¬ (first.created ≤ m ∧ m < stop) := fun hm => Int.not_le.2 hfirst.2 hm.1
      rw [if_pos hcovers, if_pos hall, if_neg hothers]
    · have hcovers : ¬ first.covers m = true := by
        simp only [covers, hsince, Bool.and_eq_true, decide_eq_true_eq]
        exact hfirst
      have hsame : (first.created ≤ m ∧ m < stop) ↔ (start ≤ m ∧ m < stop) := by
        constructor
        · intro hm
          exact ⟨Int.le_trans hle hm.1, hm.2⟩
        · intro hm
          exact ⟨Int.not_lt.1 fun hlt => hfirst ⟨hm.1, hlt⟩, hm.2⟩
      rw [if_neg hcovers]
      simp only [hsame]
      rfl

end Tile

end Report

namespace Telemetry

/-! ## What is done with telemetry -/

/-- Takes the attempts out. -/
def takeOut (t : Telemetry) : List Attempt × Telemetry :=
  (t.attempts, { t with attempts := [] })

/-- Closes the report on attempts that were taken out. -/
def closeReport (t : Telemetry) (taken : List Attempt) (now : Millis) : Report × Telemetry :=
  ({ created := now, id := t.id, since := t.since, attempts := taken }, { t with since := now })

/-- A flush does first the one and then the other. -/
theorem flush_eq (t : Telemetry) (now : Millis) :
    t.flush now = t.takeOut.2.closeReport t.takeOut.1 now := rfl

/-- Telemetry in use, with the attempts that a flush took out whose report is not closed yet. -/
structure InUse where
  telemetry : Telemetry
  now : Millis
  taken : Option (List Attempt) := none

/-- Telemetry that has just been set up. -/
def InUse.fresh (id : Json.Value) (now : Millis) : InUse :=
  { telemetry := { id, since := now }, now }

/-- What is done with telemetry. -/
inductive Use where
  | recorded (a : Attempt)
  /-- Somebody is shown the attempts. -/
  | read (shown : List Attempt)
  | tookOut (attempts : List Attempt)
  | reported (r : Report)
  | elapsed

/-- One use. One flush goes on at a time, and others may record and read meanwhile. -/
inductive Step : InUse → Use → InUse → Prop where
  | record (s : InUse) (a : Attempt) :
      Step s (.recorded a) { s with telemetry := s.telemetry.record a }
  | read (s : InUse) : Step s (.read s.telemetry.attempts) s
  | takeOut {s : InUse} (idle : s.taken = none) :
      Step s (.tookOut s.telemetry.takeOut.1)
        { s with telemetry := s.telemetry.takeOut.2, taken := some s.telemetry.takeOut.1 }
  | close {s : InUse} {taken : List Attempt} (begun : s.taken = some taken) :
      Step s (.reported (s.telemetry.closeReport taken s.now).1)
        { s with telemetry := (s.telemetry.closeReport taken s.now).2, taken := none }
  | elapse (s : InUse) {now : Millis} (later : s.now ≤ now) : Step s .elapsed { s with now }

/-- A flush that nothing comes between is two uses. -/
theorem run_flush {s : InUse} (idle : s.taken = none) :
    Runs Step s [.tookOut s.telemetry.attempts, .reported (s.telemetry.flush s.now).1]
      { s with telemetry := (s.telemetry.flush s.now).2 } := by
  have htaken : Runs Step s [.tookOut s.telemetry.attempts] _ := Runs.nil.snoc (.takeOut idle)
  have hclosed := htaken.snoc (.close rfl)
  rw [show s = { s with taken := none } by rw [← idle]]
  rw [show s = { s with taken := none } by rw [← idle]] at hclosed
  exact hclosed

/-! ## What the uses tell -/

/-- The attempt that is recorded. -/
def Use.attempt? : Use → Option Attempt
  | recorded a => some a
  | _ => none

/-- The report that is closed. -/
def Use.report? : Use → Option Report
  | reported r => some r
  | _ => none

/-- The attempts that are taken out. -/
def Use.takenOut : Use → List Attempt
  | tookOut attempts => attempts
  | _ => []

/-- All that was recorded. -/
def recorded (uses : List Use) : List Attempt :=
  uses.filterMap Use.attempt?

/-- All reports. -/
def reports (uses : List Use) : List Report :=
  uses.filterMap Use.report?

/-- All that was taken out. -/
def takenOut (uses : List Use) : List Attempt :=
  uses.flatMap Use.takenOut

section Concat

variable (uses : List Use) (a : Use)

theorem recorded_concat : recorded (uses ++ [a]) = recorded uses ++ a.attempt?.toList := by
  cases h : a.attempt? <;> simp [recorded, h]

theorem reports_concat : reports (uses ++ [a]) = reports uses ++ a.report?.toList := by
  cases h : a.report? <;> simp [reports, h]

theorem takenOut_concat : takenOut (uses ++ [a]) = takenOut uses ++ a.takenOut := by
  simp [takenOut]

end Concat

/-! ## What every use preserves -/

/-- The books of telemetry that was set up at some moment: what was recorded has been taken out or
is pending, what was taken out has been reported or is about to be, and the reports follow each
other up to the time since which attempts are pending. -/
structure Kept (start : Millis) (uses : List Use) (s : InUse) : Prop where
  pending : takenOut uses ++ s.telemetry.attempts = recorded uses
  taken : (reports uses).flatMap Report.attempts ++ s.taken.getD [] = takenOut uses
  tile : Report.Tile start (reports uses) s.telemetry.since
  past : s.telemetry.since ≤ s.now

theorem kept_fresh (id : Json.Value) (start : Millis) : Kept start [] (.fresh id start) :=
  ⟨rfl, rfl, rfl, Int.le_refl _⟩

theorem Kept.step {start : Millis} {uses : List Use} {s s' : InUse} {a : Use}
    (h : Kept start uses s) (hs : Step s a s') : Kept start (uses ++ [a]) s' := by
  obtain ⟨hpending, htaken, htile, hpast⟩ := h
  constructor
  case pending =>
    rw [recorded_concat, takenOut_concat, ← hpending]
    cases hs <;> simp [Use.takenOut, Use.attempt?, record, Telemetry.takeOut, closeReport]
  case taken =>
    rw [reports_concat, takenOut_concat, ← htaken]
    cases hs with
    | takeOut idle => simp [Use.takenOut, Use.report?, idle]
    | close begun => simp [Use.takenOut, Use.report?, begun, closeReport]
    | record => simp [Use.takenOut, Use.report?]
    | read => simp [Use.takenOut, Use.report?]
    | elapse => simp [Use.takenOut, Use.report?]
  case tile =>
    rw [reports_concat]
    cases hs with
    | close begun =>
      -- the new report begins where the others end, and ends now
      exact htile.concat rfl hpast
    | record => simpa [Use.report?, record] using htile
    | read => simpa [Use.report?] using htile
    | takeOut => simpa [Use.report?, Telemetry.takeOut] using htile
    | elapse => simpa [Use.report?] using htile
  case past =>
    cases hs with
    | close => exact Int.le_refl _
    | elapse later => exact Int.le_trans hpast later
    | record => exact hpast
    | read => exact hpast
    | takeOut => exact hpast

theorem Kept.run {id : Json.Value} {start : Millis} {uses : List Use} {s : InUse}
    (run : Runs Step (.fresh id start) uses s) : Kept start uses s := by
  induction run with
  | nil => exact kept_fresh id start
  | snoc _ next ih => exact ih.step next

/-- Telemetry after any use at all. The attempts of the reports, then those of a report that is
about to be closed, then those that are pending are all that was recorded, in the order of
recording. The reports follow each other from the beginning to the time since which attempts are
pending, which is when the last report was made, so that each moment in between belongs to one
report and every other moment to none. Whoever reads is shown what was recorded and not taken out
before. And a flush that nothing comes between is such a use, whenever no other one is going on. -/
theorem reported_once {id : Json.Value} {start : Millis} {uses : List Use} {s : InUse}
    (run : Runs Step (.fresh id start) uses s) :
    (reports uses).flatMap Report.attempts ++ s.taken.getD [] ++ s.telemetry.attempts =
        recorded uses ∧
      Report.Tile start (reports uses) s.telemetry.since ∧
      s.telemetry.since = ((reports uses).getLast?.map Report.created).getD start ∧
      (∀ m, (reports uses).countP (·.covers m) =
        if start ≤ m ∧ m < s.telemetry.since then 1 else 0) ∧
      (∀ before shown after, uses = before ++ .read shown :: after →
        takenOut before ++ shown = recorded before) ∧
      (s.taken = none →
        Runs Step (.fresh id start)
          (uses ++ [.tookOut s.telemetry.attempts, .reported (s.telemetry.flush s.now).1])
          { s with telemetry := (s.telemetry.flush s.now).2 }) := by
  have hkept := Kept.run run
  refine ⟨?_, hkept.tile, hkept.tile.stop_eq, hkept.tile.countP_covers, ?_, ?_⟩
  · rw [hkept.taken, hkept.pending]
  · intro before shown after huses
    -- a read shows what is kept at its own point of the run
    subst huses
    obtain ⟨s₁, s₂, hbefore, hread, -⟩ := run.split
    cases hread with
    | read => exact (Kept.run hbefore).pending
  · intro idle
    exact run.trans (run_flush idle)

/-! ## An attempt that comes during a flush -/

/-- Two attempts to open a stream, of which only the second succeeds. -/
def twoAttempts : Attempt × Attempt :=
  (⟨0, 30, true⟩, ⟨40, 20, false⟩)

/-- What is done with telemetry while the second attempt is recorded: the attempts have been taken
out, and the report is not closed yet. -/
def lateUses : List Use :=
  [.recorded twoAttempts.1, .elapsed, .tookOut [twoAttempts.1], .recorded twoAttempts.2,
    .read [twoAttempts.2], .elapsed, .reported ⟨70, .null, 0, [twoAttempts.1]⟩]

/-- The first report ends after the second attempt and yet leaves it to the next one. -/
theorem reported_once_of_late_attempt :
    ∃ s, Runs Step (.fresh .null 0) lateUses s ∧ s.telemetry.attempts = [twoAttempts.2] ∧
      takenOut (lateUses.take 4) ++ [twoAttempts.2] = recorded (lateUses.take 4) ∧
      Runs Step (.fresh .null 0)
        (lateUses ++ [.tookOut [twoAttempts.2], .reported ⟨70, .null, 70, [twoAttempts.2]⟩])
        { s with telemetry := ⟨.null, 70, []⟩ } := by
  have hrecorded : Runs Step (.fresh .null 0) [.recorded twoAttempts.1, .elapsed] _ :=
    (Runs.nil.snoc (.record _ _)).snoc (.elapse _ (show (0 : Millis) ≤ 30 by decide))
  have htaken := hrecorded.snoc (.takeOut rfl)
  have hlate := (htaken.snoc (.record _ twoAttempts.2)).snoc (.read _)
  have hclosed := (hlate.snoc (.elapse _ (show (30 : Millis) ≤ 70 by decide))).snoc (.close rfl)
  obtain ⟨-, -, -, -, hshown, hflush⟩ := reported_once hclosed
  exact ⟨_, hclosed, rfl, hshown (lateUses.take 4) _ (lateUses.drop 5) rfl, hflush rfl⟩

end Telemetry

end FlagReplica
