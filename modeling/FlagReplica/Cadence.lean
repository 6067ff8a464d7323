import FlagReplica.Status.Basic
import FlagReplica.Notice

/-!
# Repeated work

A task does its work over and over. Runs are spaced from the start of one to the start of the next;
a run that takes longer than the interval is followed by the next at once, and runs never overlap. A
run that fails is reported and changes nothing else. A stop takes effect when the current run or
wait is over, and a wait is over as soon as the task is stopped.
-/

namespace FlagReplica

/-- When work is repeated. -/
structure Cadence where
  label : Text
  interval : Millis
  initialDelay : Millis

/-- What a task is doing. -/
inductive Phase where
  | unstarted
  | waiting (deadline : Millis)
  | running (since : Millis)
  | ended
deriving DecidableEq

/-- A task with its record: the lengths of its waits and the starts of its runs. -/
structure Task where
  cadence : Cadence
  phase : Phase := .unstarted
  stopped : Bool := false
  waits : List Millis := []
  began : List Millis := []
  notices : List Notice := []

namespace Task

/-- The name under which a task works. -/
def workerName (t : Task) : Text :=
  t.cadence.label ++ ".repeating"

/-- Begins a wait. -/
def wait (t : Task) (now length : Millis) : Task :=
  { t with phase := .waiting (now + length), waits := t.waits ++ [length] }

/-- Starts a task, which can be done once. -/
def start (t : Task) (now : Millis) : Except Fault Task :=
  match t.phase with
  | .unstarted => .ok (t.wait now t.cadence.initialDelay)
  | _ => .error .alreadyStarted

/-- Stops a task for good. -/
def stop (t : Task) : Task :=
  { t with stopped := true }

/-- A wait is over: the next run begins, unless the task was stopped. -/
def wake (t : Task) : Task :=
  match t.phase with
  | .waiting deadline =>
    if t.stopped then { t with phase := .ended }
    else { t with phase := .running deadline, began := t.began ++ [deadline] }
  | _ => t

/-- A run is over. What is left of the interval is waited out. -/
def finish (t : Task) (now : Millis) (fault? : Option Fault) : Task :=
  match t.phase with
  | .running since =>
    let t := match fault? with
      | some fault => { t with notices := t.notices ++ [Notice.runFailed t.cadence.label fault] }
      | none => t
    t.wait now (max (t.cadence.interval - (now - since)) 0)
  | _ => t

/-! ## What stays -/

section Stays

variable (t : Task) (now : Millis) (fault? : Option Fault)

@[simp] theorem wake_stopped : t.wake.stopped = t.stopped := by
  unfold wake
  split
  · split <;> rfl
  · rfl

@[simp] theorem finish_stopped : (t.finish now fault?).stopped = t.stopped := by
  unfold finish
  split
  · cases fault? <;> rfl
  · rfl

@[simp] theorem finish_began : (t.finish now fault?).began = t.began := by
  unfold finish
  split
  · cases fault? <;> rfl
  · rfl

end Stays

/-- A start stops nothing and begins no run. -/
theorem start_ok {t t' : Task} {now : Millis} (h : t.start now = .ok t') :
    t'.stopped = t.stopped ∧ t'.began = t.began := by
  unfold start at h
  split at h
  · rcases Except.ok.inj h with rfl
    exact ⟨rfl, rfl⟩
  · exact absurd h (by simp)

/-- A task that has been stopped begins no run. -/
theorem wake_of_stopped {t : Task} (h : t.stopped = true) : t.wake.began = t.began := by
  unfold wake
  split
  · rw [if_pos h]
  · rfl

/-- A run that is over is followed by the next when the interval from its start is over too. -/
theorem finish_of_running {t : Task} {since : Millis} (h : t.phase = .running since) (now : Millis)
    (fault? : Option Fault) :
    (t.finish now fault?).phase = .waiting (max (since + t.cadence.interval) now) := by
  have hdue : ∀ n i s : Int, n + max (i - (n - s)) 0 = max (s + i) n := by
    intro n i s
    omega
  cases fault? <;> simp only [finish, h, wait, hdue]

/-! ## Playing a task through -/

/-- A run as it will go: how long it takes, whether it stops the task, and whether it fails. -/
structure Run where
  takes : Millis := 0
  stops : Bool := false
  fails : Option Fault := none

/-- Runs of which the last one stops the task; without any there is one that does only that. -/
def Run.closing : List Run → List Run
  | [] => [{ stops := true }]
  | [r] => [{ r with stops := true }]
  | r :: rest => r :: closing rest

/-- Waits out the current wait. The wait of a given number ends because the task is stopped. -/
def waitOut (t : Task) (stopAtWait : Option Nat) : Task :=
  if stopAtWait = some t.waits.length then t.stop.wake else t.wake

/-- Plays a waiting task through runs, each as long as it takes. -/
def play (stopAtWait : Option Nat) : List Run → Task → Task
  | [], t => t.waitOut stopAtWait
  | r :: rest, t =>
    let t := t.waitOut stopAtWait
    match t.phase with
    | .running since =>
      let t := if r.stops then t.stop else t
      play stopAtWait rest (t.finish (since + r.takes) r.fails)
    | _ => t

end Task

end FlagReplica
