import FlagReplica.Proofs.Audience.Prospect

/-!
# What happens in an audience

An audience whose callbacks may do anything about a value: register and remove callbacks, notify
further values, fail. `Course` is what can happen in it from outside and by its own steps, and keeps
a record of everything, the latest at the end. From the record alone one can tell who is registered
at any moment, what was handed over and which deliveries have begun.

`Goes` says once what a step can be, and `Asks` what a request does. `run_rests` is that an audience
whose callbacks notify only finitely many further values comes to rest.
-/

namespace FlagReplica.Audience

variable {ν : Type}

/-- What is asked of an audience from outside. -/
inductive Request (ν : Type) where
  | add (name : Text)
  | remove (name : Text)
  | notify (value : ν)
  | close

/-- What happens in an audience. -/
inductive Happening (ν : Type) where
  | asked (request : Request ν)
  /-- The delivery of a value to the callbacks of these names begins. -/
  | begins (value : ν) (names : List Text)
  | hears (name : Text) (value : ν)
  /-- The callback that heard a value last does one thing about it. -/
  | reacts (reaction : Reaction ν)
  /-- The delivery of a value ends. -/
  | ends (value : ν)

/-- Does what is asked. -/
def perform (a : Audience ν) : Request ν → Audience ν
  | .add name => a.add name
  | .remove name => a.remove name
  | .notify value => a.notify value
  | .close => a.close

/-- What happens at once when a value is handed over: without a dispatcher its delivery begins. -/
def atOnce (a : Audience ν) (value : ν) : List (Happening ν) :=
  match a.dispatcher with
  | some _ => []
  | none => [.begins value a.registered]

/-- What happens when something is asked. -/
def uponRequest (a : Audience ν) (request : Request ν) : List (Happening ν) :=
  .asked request ::
    match request with
    | .notify value => a.atOnce value
    | _ => []

/-- What happens in the next step. -/
def upNext (a : Audience ν) : List (Happening ν) :=
  match a.underWay with
  | ⟨_, _, reaction :: _⟩ :: _ =>
    .reacts reaction ::
      match reaction with
      | .notify value => a.atOnce value
      | _ => []
  | ⟨value, name :: _, []⟩ :: _ => [.hears name value]
  | ⟨value, [], []⟩ :: _ => [.ends value]
  | [] =>
    match a.queue with
    | value :: _ => [.begins value a.registered]
    | [] => []

/-- What happens in at most `fuel` steps. -/
def ahead : (fuel : Nat) → Audience ν → List (Happening ν)
  | 0, _ => []
  | fuel + 1, a =>
    match a.step with
    | some next => a.upNext ++ ahead fuel next
    | none => []

/-- What has happened and what the audience has become. Something is asked only where nothing is
left to do; what the callbacks would do about a value may change at any time. -/
inductive Course (a₀ : Audience ν) : List (Happening ν) → Audience ν → Prop where
  | start : Course a₀ [] a₀
  | ask {past : List (Happening ν)} {a : Audience ν} (course : Course a₀ past a)
      (rests : a.step = none) (request : Request ν) :
      Course a₀ (past ++ a.uponRequest request) (a.perform request)
  | go {past : List (Happening ν)} {a a' : Audience ν} (course : Course a₀ past a)
      (step : a.step = some a') : Course a₀ (past ++ a.upNext) a'
  | relearn {past : List (Happening ν)} {a : Audience ν} (course : Course a₀ past a)
      (described : List (Callback ν)) : Course a₀ past { a with described }

/-! ## What the record tells -/

/-- The value that is handed over, if one is. -/
def Happening.notified? : Happening ν → Option ν
  | .asked (.notify value) => some value
  | .reacts (.notify value) => some value
  | _ => none

/-- The delivery that begins, if one does: the value and the names of those who are to hear it. -/
def Happening.begun? : Happening ν → Option (ν × List Text)
  | .begins value names => some (value, names)
  | _ => none

/-- What is heard, if anything is. -/
def Happening.heard? : Happening ν → Option (Text × ν)
  | .hears name value => some (name, value)
  | _ => none

/-- Who is registered afterwards. -/
def Happening.enroll (registered : List Text) : Happening ν → List Text
  | .asked (.add name) => registered ++ [name]
  | .reacts (.add name) => registered ++ [name]
  | .asked (.remove name) => registered.erase name
  | .reacts (.remove name) => registered.erase name
  | _ => registered

/-- The values that were handed over, by whomever, in order. -/
def notified (past : List (Happening ν)) : List ν :=
  past.filterMap Happening.notified?

/-- The deliveries that have begun, in order. -/
def begun (past : List (Happening ν)) : List (ν × List Text) :=
  past.filterMap Happening.begun?

/-- Who is registered, in order, where nobody was at first. -/
def registry (past : List (Happening ν)) : List Text :=
  past.foldl Happening.enroll []

@[simp] theorem notified_append (past later : List (Happening ν)) :
    notified (past ++ later) = notified past ++ notified later :=
  List.filterMap_append

@[simp] theorem begun_append (past later : List (Happening ν)) :
    begun (past ++ later) = begun past ++ begun later :=
  List.filterMap_append

@[simp] theorem notified_nil : notified ([] : List (Happening ν)) = [] := rfl

@[simp] theorem begun_nil : begun ([] : List (Happening ν)) = [] := rfl

@[simp] theorem notified_cons (h : Happening ν) (later : List (Happening ν)) :
    notified (h :: later) = h.notified?.toList ++ notified later := by
  rw [notified, List.filterMap_cons]
  split <;> simp_all [notified]

@[simp] theorem begun_cons (h : Happening ν) (later : List (Happening ν)) :
    begun (h :: later) = h.begun?.toList ++ begun later := by
  rw [begun, List.filterMap_cons]
  split <;> simp_all [begun]

@[simp] theorem registry_concat (past : List (Happening ν)) (h : Happening ν) :
    registry (past ++ [h]) = h.enroll (registry past) := by
  simp [registry]

variable {a₀ a a' : Audience ν} {past happened : List (Happening ν)}

/-! ## One step -/

/-- What a step can be: the callback that heard a value last does the next thing about it, the next
callback hears the value, the delivery ends, or the next one begins. -/
inductive Goes (a : Audience ν) : List (Happening ν) → Audience ν → Prop where
  | adds {value : ν} {waiting : List Text} {name : Text} {pending : List (Reaction ν)}
      {outer : List (Delivery ν)}
      (underWay : a.underWay = ⟨value, waiting, .add name :: pending⟩ :: outer)
      (described : List (Callback ν)) :
      Goes a [.reacts (.add name)]
        { a with
          underWay := ⟨value, waiting, pending⟩ :: outer
          described
          registered := a.registered ++ [name] }
  | removes {value : ν} {waiting : List Text} {name : Text} {pending : List (Reaction ν)}
      {outer : List (Delivery ν)}
      (underWay : a.underWay = ⟨value, waiting, .remove name :: pending⟩ :: outer) :
      Goes a [.reacts (.remove name)]
        { a with
          underWay := ⟨value, waiting, pending⟩ :: outer
          registered := a.registered.erase name }
  | queues {value further : ν} {waiting : List Text} {pending : List (Reaction ν)}
      {outer : List (Delivery ν)}
      (underWay : a.underWay = ⟨value, waiting, .notify further :: pending⟩ :: outer)
      (dispatched : a.dispatcher ≠ none) :
      Goes a [.reacts (.notify further)]
        { a with
          underWay := ⟨value, waiting, pending⟩ :: outer
          queue := a.queue ++ [further]
          dispatching := some true }
  | nests {value further : ν} {waiting : List Text} {pending : List (Reaction ν)}
      {outer : List (Delivery ν)}
      (underWay : a.underWay = ⟨value, waiting, .notify further :: pending⟩ :: outer)
      (direct : a.dispatcher = none) :
      Goes a [.reacts (.notify further), .begins further a.registered]
        { a with
          underWay := ⟨further, a.registered, []⟩ :: ⟨value, waiting, pending⟩ :: outer }
  | fails {value : ν} {waiting : List Text} {fault : Fault} {pending : List (Reaction ν)}
      {outer : List (Delivery ν)}
      (underWay : a.underWay = ⟨value, waiting, .fail fault :: pending⟩ :: outer)
      (notices : List Notice) :
      Goes a [.reacts (.fail fault)]
        { a with underWay := ⟨value, waiting, []⟩ :: outer, notices }
  | hears {value : ν} {name : Text} {waiting : List Text} {outer : List (Delivery ν)}
      (underWay : a.underWay = ⟨value, name :: waiting, []⟩ :: outer)
      (pending : List (Reaction ν)) :
      Goes a [.hears name value]
        { a with
          underWay := ⟨value, waiting, pending⟩ :: outer
          heard := a.heard ++ [(name, value)] }
  | ends {value : ν} {outer : List (Delivery ν)}
      (underWay : a.underWay = ⟨value, [], []⟩ :: outer) :
      Goes a [.ends value] { a with underWay := outer }
  | begins {value : ν} {queue : List ν} (underWay : a.underWay = [])
      (waits : a.queue = value :: queue) :
      Goes a [.begins value a.registered]
        { a with queue, underWay := [⟨value, a.registered, []⟩] }

/-- Registering may describe the callback, which is all that it does besides. -/
theorem exists_add (a : Audience ν) (name : Text) :
    ∃ described, a.add name = { a with described, registered := a.registered ++ [name] } := by
  refine ⟨(a.describe (.silent name)).described, ?_⟩
  unfold add describe
  split <;> rfl

theorem notify_of_dispatched (h : a.dispatcher ≠ none) (value : ν) :
    a.notify value = { a with queue := a.queue ++ [value], dispatching := some true } := by
  cases hd : a.dispatcher with
  | none => exact absurd hd h
  | some name => simp [notify, hd]

theorem notify_of_direct (h : a.dispatcher = none) (value : ν) :
    a.notify value = { a with underWay := ⟨value, a.registered, []⟩ :: a.underWay } := by
  simp [notify, h]

theorem atOnce_of_dispatched (h : a.dispatcher ≠ none) (value : ν) : a.atOnce value = [] := by
  cases hd : a.dispatcher with
  | none => exact absurd hd h
  | some name => simp [atOnce, hd]

theorem atOnce_of_direct (h : a.dispatcher = none) (value : ν) :
    a.atOnce value = [.begins value a.registered] := by
  simp [atOnce, h]

/-- A callback's doing is one of these steps. -/
theorem goes_react {value : ν} {waiting : List Text} {reaction : Reaction ν}
    {pending : List (Reaction ν)} {outer : List (Delivery ν)}
    (h : a.underWay = ⟨value, waiting, reaction :: pending⟩ :: outer) :
    a.Goes a.upNext (a.react ⟨value, waiting, pending⟩ outer reaction) := by
  cases reaction with
  | add name =>
    obtain ⟨described, hadd⟩ :=
      exists_add { a with underWay := ⟨value, waiting, pending⟩ :: outer } name
    simp only [upNext, h, react, hadd]
    exact .adds h described
  | remove name =>
    simp only [upNext, h, react]
    exact .removes h
  | notify further =>
    simp only [upNext, h, react]
    -- without a dispatcher the further value is delivered within the present delivery
    by_cases hd : a.dispatcher = none
    · rw [atOnce_of_direct hd, notify_of_direct]
      · exact .nests h hd
      · exact hd
    · rw [atOnce_of_dispatched hd, notify_of_dispatched]
      · exact .queues h hd
      · exact hd
  | fail fault =>
    simp only [upNext, h, react]
    exact .fails h _

/-- Every step is one of these. -/
theorem goes_of_step (h : a.step = some a') : a.Goes a.upNext a' := by
  unfold step at h
  -- nothing is under way, so that the next value is taken from the queue if there is one
  split at h
  · rename_i hunderWay
    rcases Option.some.inj h with rfl
    -- somebody's reaction goes first, then the next listener, then the end of the delivery
    exact goes_react hunderWay
  · rename_i value name waiting outer hunderWay
    rcases Option.some.inj h with rfl
    simp only [upNext, hunderWay]
    exact .hears hunderWay _
  · rename_i hunderWay
    rcases Option.some.inj h with rfl
    simp only [upNext, hunderWay]
    exact .ends hunderWay
  · rename_i hunderWay
    split at h
    · rename_i hqueue
      rcases Option.some.inj h with rfl
      simp only [upNext, hunderWay, hqueue]
      exact .begins hunderWay hqueue
    · exact absurd h (by simp)

/-! ## One request -/

/-- What a request does to an audience that has nothing left to do. -/
inductive Asks (a : Audience ν) : List (Happening ν) → Audience ν → Prop where
  | adds (name : Text) (described : List (Callback ν)) :
      Asks a [.asked (.add name)] { a with described, registered := a.registered ++ [name] }
  | removes (name : Text) :
      Asks a [.asked (.remove name)] { a with registered := a.registered.erase name }
  | queues (value : ν) (dispatched : a.dispatcher ≠ none) :
      Asks a [.asked (.notify value)]
        { a with queue := [value], dispatching := some true }
  | begins (value : ν) (direct : a.dispatcher = none) :
      Asks a [.asked (.notify value), .begins value a.registered]
        { a with underWay := [⟨value, a.registered, []⟩] }
  | closes : Asks a [.asked .close] a.close

theorem asks_perform (h : a.step = none) (request : Request ν) :
    a.Asks (a.uponRequest request) (a.perform request) := by
  obtain ⟨hunderWay, hqueue⟩ := rests_of_step_eq_none h
  cases request with
  | add name =>
    obtain ⟨described, hadd⟩ := exists_add a name
    rw [perform, hadd]
    exact .adds name described
  | remove name => exact .removes name
  | notify value =>
    -- nothing is under way, so that a value is begun at once, or is the first to wait
    by_cases hd : a.dispatcher = none
    · rw [perform, uponRequest, notify_of_direct hd, hunderWay]
      simp only [atOnce_of_direct hd]
      exact .begins value hd
    · rw [perform, uponRequest, notify_of_dispatched hd, hqueue]
      simp only [atOnce_of_dispatched hd]
      exact .queues value hd
  | close => exact .closes

/-! ## A whole course -/

theorem Goes.dispatcher (h : a.Goes happened a') : a'.dispatcher = a.dispatcher := by
  cases h <;> rfl

theorem Asks.dispatcher (h : a.Asks happened a') : a'.dispatcher = a.dispatcher := by
  cases h <;> rfl

/-- Nothing changes whether there is a dispatcher. -/
theorem Course.dispatcher (h : Course a₀ past a) : a.dispatcher = a₀.dispatcher := by
  induction h with
  | start => rfl
  | ask course rests request ih => rw [(asks_perform rests request).dispatcher, ih]
  | go course step ih => rw [(goes_of_step step).dispatcher, ih]
  | relearn course described ih => exact ih

/-- A course goes on by the steps of the audience. -/
theorem Course.run (h : Course a₀ past a) (fuel : Nat) :
    Course a₀ (past ++ a.ahead fuel) (a.run fuel) := by
  induction fuel generalizing past a with
  | zero => simpa [ahead, Audience.run] using h
  | succ fuel ih =>
    cases hs : a.step with
    | none => simpa [ahead, Audience.run, hs] using h
    | some next =>
      have hnext := ih (h.go hs)
      simpa [ahead, Audience.run, hs, List.append_assoc] using hnext

/-! ## Coming to rest -/

/-- How many callbacks have yet to hear something that is being delivered. -/
def yetToHear (a : Audience ν) : Nat :=
  (a.underWay.flatMap fun d => d.waiting).length

/-- How many things are left to be done by those who have heard it, and deliveries to be ended. -/
def yetToDo (a : Audience ν) : Nat :=
  (a.underWay.flatMap fun d => d.pending).length + a.underWay.length

/-- What a step makes less: the values to be handed over, the queue, those who have yet to hear, or
what is left to be done, each at the expense of those after it. -/
theorem Goes.decreases (h : a.Goes happened a') :
    (∃ value, notified happened = [value]) ∨
      notified happened = [] ∧
        Prod.Lex (· < ·) (Prod.Lex (· < ·) (· < ·))
          (a'.queue.length, a'.yetToHear, a'.yetToDo)
          (a.queue.length, a.yetToHear, a.yetToDo) := by
  cases h with
  | adds underWay described =>
    refine .inr ⟨rfl, ?_⟩
    simp [Prod.lex_def, yetToHear, yetToDo, underWay]
  | removes underWay =>
    refine .inr ⟨rfl, ?_⟩
    simp [Prod.lex_def, yetToHear, yetToDo, underWay]
  | queues underWay dispatched => exact .inl ⟨_, rfl⟩
  | nests underWay direct => exact .inl ⟨_, rfl⟩
  | @fails value waiting fault pending outer underWay notices =>
    -- what the callback would have done besides is given up
    refine .inr ⟨rfl, ?_⟩
    have hfewer : yetToDo { a with underWay := ⟨value, waiting, []⟩ :: outer, notices } <
        a.yetToDo := by
      simp only [yetToDo, underWay, List.flatMap_cons, List.length_append, List.length_cons,
        List.length_nil]
      omega
    simpa [Prod.lex_def, yetToHear, underWay] using hfewer
  | hears underWay pending =>
    refine .inr ⟨rfl, ?_⟩
    simp [Prod.lex_def, yetToHear, underWay]
  | ends underWay =>
    refine .inr ⟨rfl, ?_⟩
    simp [Prod.lex_def, yetToHear, yetToDo, underWay]
  | begins underWay waits =>
    refine .inr ⟨rfl, ?_⟩
    simp [Prod.lex_def, waits]

/-- If the callbacks notify no more than `bound` further values, the audience comes to rest. -/
theorem run_rests {a : Audience ν} {bound : Nat}
    (h : ∀ fuel, (notified (a.ahead fuel)).length ≤ bound) : ∃ fuel, (a.run fuel).step = none := by
  cases hs : a.step with
  | none => exact ⟨0, hs⟩
  | some next =>
    have hgoes := goes_of_step hs
    have hahead : ∀ fuel,
        (notified a.upNext).length + (notified (next.ahead fuel)).length ≤ bound := by
      intro fuel
      have hfuel := h (fuel + 1)
      simpa [ahead, hs] using hfuel
    obtain ⟨fuel, hfuel⟩ : ∃ fuel, (next.run fuel).step = none := by
      rcases hgoes.decreases with ⟨value, hvalue⟩ | ⟨hnone, hless⟩
      · -- the further value uses up one of `bound`
        have hfirst : 1 ≤ bound := by
          have hfirst := hahead 0
          rw [hvalue] at hfirst
          simp at hfirst
          omega
        have hfewer : ∀ fuel, (notified (next.ahead fuel)).length ≤ bound - 1 := by
          intro fuel
          have hfuel := hahead fuel
          rw [hvalue] at hfuel
          simp at hfuel
          omega
        exact run_rests hfewer
      · have hsame : ∀ fuel, (notified (next.ahead fuel)).length ≤ bound := by
          intro fuel
          have hfuel := hahead fuel
          omega
        exact run_rests hsame
    exact ⟨fuel + 1, by simpa [Audience.run, hs] using hfuel⟩
-- a step that hands over a value may add to everything but the bound
termination_by (bound, a.queue.length, a.yetToHear, a.yetToDo)
decreasing_by
  · exact Prod.Lex.left _ _ (by omega)
  · exact Prod.Lex.right _ hless

end FlagReplica.Audience
