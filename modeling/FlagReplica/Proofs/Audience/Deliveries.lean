import FlagReplica.Proofs.Audience.Course

/-!
# Who hears what, and when

Every value that is handed over is delivered once and in the order of handing over, each to those
who were registered when its delivery began. With a dispatcher deliveries follow one another.
Without one they nest: `Session` is what happens in a delivery from its beginning to its end, with
the deliveries of the values that its callbacks notify inside it.

`Tracked` is what holds at every moment. That a nested delivery is complete before anything else
happens is shown from the end of a course backwards: whatever completes the deliveries under way
after a step completes, with that step in front of it, those under way before it.
`Course.delivered` puts the two together.
-/

namespace FlagReplica.Audience

variable {ν : Type} {a₀ a a' : Audience ν} {past happened later : List (Happening ν)}

/-! ## Every moment -/

/-- Every delivery began with the callbacks that were registered then. -/
def BegunWithAll (past : List (Happening ν)) : Prop :=
  ∀ earlier value names, earlier ++ [.begins value names] <+: past → names = registry earlier

theorem BegunWithAll.concat (h : BegunWithAll past) {x : Happening ν}
    (hx : ∀ value names, x = .begins value names → names = registry past) :
    BegunWithAll (past ++ [x]) := by
  intro earlier value names hearlier
  rcases List.prefix_concat_iff.1 hearlier with heq | hbefore
  · obtain ⟨rfl, hlast⟩ := List.append_inj' heq rfl
    exact hx value names (by simpa using hlast.symm)
  · exact h earlier value names hbefore

theorem BegunWithAll.concat_other (h : BegunWithAll past) {x : Happening ν}
    (hx : x.begun? = none) : BegunWithAll (past ++ [x]) := by
  refine h.concat fun value names heq => ?_
  simp [heq, Happening.begun?] at hx

theorem BegunWithAll.concat_begins (h : BegunWithAll past) (value : ν) {names : List Text}
    (hnames : names = registry past) : BegunWithAll (past ++ [.begins value names]) := by
  refine h.concat fun value names heq => ?_
  simp only [Happening.begins.injEq] at heq
  rw [← heq.2, hnames]

/-- A delivery heard by everybody it goes to, once for each name and in order. -/
def hearings (delivery : ν × List Text) : List (Text × ν) :=
  delivery.2.map fun name => (name, delivery.1)

/-- What is yet to be heard of the deliveries that are under way. -/
def unheard (a : Audience ν) : List (Text × ν) :=
  a.underWay.flatMap fun d => hearings (d.value, d.waiting)

/-- A step adds the delivery that it begins, if it begins one, to what has been heard and is yet to
be heard. -/
theorem Goes.heard_unheard (hg : a.Goes happened a') :
    (a'.heard ++ a'.unheard).Perm (a.heard ++ a.unheard ++ (begun happened).flatMap hearings) := by
  cases hg with
  | @nests _ further _ _ _ underWay direct =>
    -- the inner delivery is heard before what is left of the outer one
    have hfirst : (hearings (further, a.registered) ++ a.unheard).Perm
        (a.unheard ++ hearings (further, a.registered)) := List.perm_append_comm
    simpa [unheard, underWay, Happening.begun?] using hfirst.append_left a.heard
  | _ => simp [unheard, hearings, Happening.begun?, *]

/-- With a dispatcher it adds it at the end. -/
theorem Goes.heard_unheard_of_dispatched (hg : a.Goes happened a') (hd : a.dispatcher ≠ none) :
    a'.heard ++ a'.unheard = a.heard ++ a.unheard ++ (begun happened).flatMap hearings := by
  cases hg with
  | nests underWay direct => exact absurd direct hd
  | _ => simp [unheard, hearings, Happening.begun?, *]

theorem Asks.heard_unheard (hg : a.Asks happened a') (h : a.step = none) :
    a'.heard ++ a'.unheard = a.heard ++ a.unheard ++ (begun happened).flatMap hearings := by
  cases hg <;>
    simp [unheard, hearings, Happening.begun?, close, (rests_of_step_eq_none h).1]

/-- The audience is as its record says, and what has been handed over has begun to be delivered or
waits for a dispatcher that is running. -/
structure Tracked (past : List (Happening ν)) (a : Audience ν) : Prop where
  registered : a.registered = registry past
  heard : a.heard = past.filterMap Happening.heard?
  values : notified past = (begun past).map Prod.fst ++ a.queue
  begunWithAll : BegunWithAll past
  heardOnce : (a.heard ++ a.unheard).Perm ((begun past).flatMap hearings)
  serial : a.dispatcher ≠ none → a.heard ++ a.unheard = (begun past).flatMap hearings
  dispatched : a.dispatcher ≠ none → a.underWay ≠ [] ∨ a.queue ≠ [] → a.dispatching = some true
  direct : a.dispatcher = none → a.queue = []

/-- One step keeps the record true. -/
theorem Tracked.goes (h : Tracked past a) (hg : a.Goes happened a') :
    Tracked (past ++ happened) a' := by
  refine ⟨?registered, ?heard, ?values, ?begun, ?once, ?serial, ?dispatched, ?direct⟩
  case registered =>
    cases hg <;> simp [registry, Happening.enroll, h.registered]
  case heard =>
    cases hg <;> simp [Happening.heard?, h.heard]
  case values =>
    rw [notified_append, begun_append, h.values]
    -- a nested delivery begins at once, which is in order as nothing is queued
    cases hg with
    | nests underWay direct => simp [Happening.notified?, Happening.begun?, h.direct direct]
    | begins underWay waits => simp [Happening.notified?, Happening.begun?, waits]
    | _ => simp [Happening.notified?, Happening.begun?]
  case begun =>
    cases hg with
    | nests underWay direct =>
      rw [List.append_cons]
      refine (h.begunWithAll.concat_other rfl).concat_begins _ ?_
      rw [h.registered, registry_concat]
      rfl
    | begins underWay waits => exact h.begunWithAll.concat_begins _ h.registered
    | _ => exact h.begunWithAll.concat_other rfl
  case once =>
    rw [begun_append, List.flatMap_append]
    exact hg.heard_unheard.trans (h.heardOnce.append_right _)
  case serial =>
    intro hd
    have hbefore : a.dispatcher ≠ none := hg.dispatcher ▸ hd
    rw [hg.heard_unheard_of_dispatched hbefore, h.serial hbefore, begun_append,
      List.flatMap_append]
  case dispatched =>
    intro hd _
    cases hg with
    | queues underWay dispatched => rfl
    | nests underWay direct => exact absurd direct hd
    | begins underWay waits => exact h.dispatched hd (.inr (by simp [waits]))
    | _ => exact h.dispatched hd (.inl (by simp [*]))
  case direct =>
    intro hd
    cases hg with
    | queues underWay dispatched => exact absurd hd dispatched
    | begins underWay waits => simpa [waits] using h.direct hd
    | _ => exact h.direct hd

/-- So does a request. -/
theorem Tracked.asks (h : Tracked past a) (rests : a.step = none) (hg : a.Asks happened a') :
    Tracked (past ++ happened) a' := by
  obtain ⟨hunderWay, hqueue⟩ := rests_of_step_eq_none rests
  -- the audience rests, so that nothing is under way and nothing waits when the request comes
  refine ⟨?registered, ?heard, ?values, ?begun, ?once, ?serial, ?dispatched, ?direct⟩
  case registered =>
    cases hg <;> simp [registry, Happening.enroll, h.registered, close]
  case heard =>
    cases hg <;> simp [Happening.heard?, h.heard, close]
  case values =>
    -- a value is begun at once or goes to the end of an empty queue
    rw [notified_append, begun_append, h.values, hqueue]
    cases hg <;> simp [Happening.notified?, Happening.begun?, close, hqueue]
  case begun =>
    cases hg with
    | begins value direct =>
      rw [List.append_cons]
      -- it begins with everybody who is registered at that moment
      refine (h.begunWithAll.concat_other rfl).concat_begins _ ?_
      rw [h.registered, registry_concat]
      rfl
    | _ => exact h.begunWithAll.concat_other rfl
  case once =>
    rw [hg.heard_unheard rests, begun_append, List.flatMap_append]
    exact h.heardOnce.append_right _
  case serial =>
    intro hd
    rw [hg.heard_unheard rests, h.serial (hg.dispatcher ▸ hd), begun_append, List.flatMap_append]
  case dispatched =>
    intro hd hbusy
    cases hg with
    | queues value dispatched => rfl
    | begins value direct => exact absurd direct hd
    | _ => exact absurd hbusy (by simp [close, hunderWay, hqueue])
  case direct =>
    intro hd
    cases hg with
    | queues value dispatched => exact absurd hd dispatched
    | _ => exact hqueue

theorem Course.tracked (h : Course a₀ past a) (h₀ : Tracked [] a₀) : Tracked past a := by
  induction h with
  | start => exact h₀
  | ask course rests request ih => exact ih.asks rests (asks_perform rests request)
  | go course step ih => exact ih.goes (goes_of_step step)
  | relearn course described ih =>
    exact ⟨ih.registered, ih.heard, ih.values, ih.begunWithAll, ih.heardOnce, ih.serial,
      ih.dispatched, ih.direct⟩

/-! ## Without a dispatcher -/

mutual

/-- What happens in a delivery of a value that goes on to callbacks of these names, up to its end:
one after another they hear the value and do what they do about it. -/
inductive Session : ν → List Text → List (Happening ν) → Prop where
  | ends {value : ν} : Session value [] [.ends value]
  | hears {value : ν} {name : Text} {names : List Text} {reactions : List (Reaction ν)}
      {answers rest : List (Happening ν)} (answered : Answers reactions answers)
      (goesOn : Session value names rest) :
      Session value (name :: names) (.hears name value :: (answers ++ rest))

/-- What happens when a callback does these things about a value. A value that it notifies is
delivered to the end before it does the next thing. -/
inductive Answers : List (Reaction ν) → List (Happening ν) → Prop where
  | nothing : Answers [] []
  | adds {name : Text} {reactions : List (Reaction ν)} {rest : List (Happening ν)}
      (answered : Answers reactions rest) :
      Answers (.add name :: reactions) (.reacts (.add name) :: rest)
  | removes {name : Text} {reactions : List (Reaction ν)} {rest : List (Happening ν)}
      (answered : Answers reactions rest) :
      Answers (.remove name :: reactions) (.reacts (.remove name) :: rest)
  | notifies {value : ν} {names : List Text} {reactions : List (Reaction ν)}
      {inner rest : List (Happening ν)} (delivered : Session value names inner)
      (answered : Answers reactions rest) :
      Answers (.notify value :: reactions)
        (.reacts (.notify value) :: .begins value names :: (inner ++ rest))
  | fails {fault : Fault} {reactions : List (Reaction ν)} :
      Answers (.fail fault :: reactions) [.reacts (.fail fault)]

end

/-- What happens later begins by completing the deliveries that are under way, the innermost
first. -/
def Completes : List (Delivery ν) → List (Happening ν) → Prop
  | [], _ => True
  | d :: outer, later =>
    ∃ answers session rest, later = answers ++ session ++ rest ∧
      Answers d.pending answers ∧ Session d.value d.waiting session ∧ Completes outer rest

/-- Where nothing is left to do, nothing is left to be completed. -/
theorem completes_of_rests (h : a.step = none) (later : List (Happening ν)) :
    Completes a.underWay later := by
  rw [(rests_of_step_eq_none h).1]
  trivial

/-- What completes the deliveries under way after a step completes, with the step in front, those
under way before it. -/
theorem Goes.completes (hg : a.Goes happened a') (hd : a.dispatcher = none) (hq : a.queue = [])
    (h : Completes a'.underWay later) : Completes a.underWay (happened ++ later) := by
  cases hg with
  | adds underWay described =>
    obtain ⟨answers, session, rest, rfl, hanswers, hsession, houter⟩ := h
    rw [underWay]
    exact ⟨_, session, rest, by simp, .adds hanswers, hsession, houter⟩
  | removes underWay =>
    obtain ⟨answers, session, rest, rfl, hanswers, hsession, houter⟩ := h
    rw [underWay]
    exact ⟨_, session, rest, by simp, .removes hanswers, hsession, houter⟩
  | queues underWay dispatched => exact absurd hd dispatched
  | nests underWay direct =>
    obtain ⟨none, inner, _, rfl, hnone, hinner, answers, session, rest, rfl, hanswers, hsession,
      houter⟩ := h
    -- nobody has heard the further value yet, so that there is nothing to be answered
    rcases hnone with ⟨⟩
    rw [underWay]
    exact ⟨_, session, rest, by simp, .notifies hinner hanswers, hsession, houter⟩
  | fails underWay notices =>
    obtain ⟨answers, session, rest, rfl, hanswers, hsession, houter⟩ := h
    rcases hanswers with ⟨⟩
    rw [underWay]
    exact ⟨_, session, rest, by simp, .fails, hsession, houter⟩
  | hears underWay pending =>
    obtain ⟨answers, session, rest, rfl, hanswers, hsession, houter⟩ := h
    rw [underWay]
    exact ⟨[], _, rest, by simp, .nothing, .hears hanswers hsession, houter⟩
  | ends underWay =>
    rw [underWay]
    exact ⟨[], _, later, rfl, .nothing, .ends, h⟩
  | begins underWay waits => simp [hq] at waits

/-- A value that is handed over in the past is delivered from its beginning to its end, to those who
are registered then, before anything else happens; `later` is what happens after the past. -/
def DeliversAtOnce (past later : List (Happening ν)) : Prop :=
  ∀ earlier x after value, past = earlier ++ x :: after → x.notified? = some value →
    ∃ session rest, after ++ later = .begins value (registry earlier) :: (session ++ rest) ∧
      Session value (registry earlier) session

/-- Without a dispatcher, what happens hands over nothing, or the delivery of what it hands over is
the innermost of those under way. -/
def HandsOver (a : Audience ν) (happened : List (Happening ν)) (a' : Audience ν) : Prop :=
  (∀ x ∈ happened, x.notified? = none) ∨
    ∃ x value outer, happened = [x, .begins value a.registered] ∧ x.notified? = some value ∧
      a'.underWay = ⟨value, a.registered, []⟩ :: outer

theorem Goes.handsOver (hg : a.Goes happened a') (hd : a.dispatcher = none) :
    a.HandsOver happened a' := by
  cases hg with
  | queues underWay dispatched => exact absurd hd dispatched
  | nests underWay direct => exact .inr ⟨_, _, _, rfl, rfl, rfl⟩
  | _ => exact .inl (by simp [Happening.notified?])

theorem Asks.handsOver (hg : a.Asks happened a') (hd : a.dispatcher = none) :
    a.HandsOver happened a' := by
  cases hg with
  | queues value dispatched => exact absurd hd dispatched
  | begins value direct => exact .inr ⟨_, _, _, rfl, rfl, rfl⟩
  | _ => exact .inl (by simp [Happening.notified?])

/-- A moment of two stretches of a record is one of the first or one of the second. -/
theorem moment_of_append {earlier after : List (Happening ν)} {x : Happening ν}
    (h : past ++ happened = earlier ++ x :: after) :
    (∃ between, past = earlier ++ x :: between ∧ after = between ++ happened) ∨
      ∃ between, earlier = past ++ between ∧ happened = between ++ x :: after := by
  rcases List.append_eq_append_iff.1 h with ⟨between, rfl, hrest⟩ | ⟨between, rfl, hrest⟩
  · exact .inr ⟨between, rfl, hrest⟩
  · cases between with
    | nil => exact .inr ⟨[], by simp, hrest.symm⟩
    | cons y between =>
      obtain ⟨rfl, rfl⟩ := List.cons.inj hrest
      exact .inl ⟨between, rfl, rfl⟩

theorem DeliversAtOnce.append (h : DeliversAtOnce past (happened ++ later)) (ht : Tracked past a)
    (hover : a.HandsOver happened a') (hc : Completes a'.underWay later) :
    DeliversAtOnce (past ++ happened) later := by
  intro earlier x after value heq hx
  rcases moment_of_append heq with ⟨between, hpast, rfl⟩ | ⟨between, rfl, hhappened⟩
  · rw [List.append_assoc]
    exact h earlier x between value hpast hx
  · -- it was handed over in what has just happened, and its delivery is under way
    rcases hover with hnone | ⟨y, w, outer, rfl, hy, hunderWay⟩
    · have hin : x ∈ happened := by simp [hhappened]
      exact absurd (hnone x hin) (by simp [hx])
    rw [hunderWay] at hc
    obtain ⟨nothing, session, rest, rfl, hnothing, hsession, -⟩ := hc
    rcases hnothing with ⟨⟩
    rcases between with _ | ⟨z, between⟩
    · obtain ⟨rfl, rfl⟩ : y = x ∧ [.begins w a.registered] = after := by
        simpa using hhappened
      obtain rfl : w = value := by simpa [hy] using hx
      rw [List.append_nil, ← ht.registered]
      exact ⟨session, rest, by simp, hsession⟩
    · -- the beginning of a delivery hands nothing over
      have hbegins : x = .begins w a.registered := by
        have hin : x ∈ [.begins w a.registered] := by
          rw [(List.cons.inj hhappened).2]
          simp
        exact List.mem_singleton.1 hin
      simp [hbegins, Happening.notified?] at hx

/-- Without a dispatcher every value that is handed over in a course is delivered before anything
else happens, if what happens later completes the deliveries that are under way. -/
theorem Course.deliversAtOnce (h : Course a₀ past a) (h₀ : Tracked [] a₀)
    (hd : a₀.dispatcher = none) (hc : Completes a.underWay later) : DeliversAtOnce past later := by
  -- by induction on the course, with what is still to come left open, since a delivery ends later
  -- than it begins
  induction h generalizing later with
  | start =>
    intro earlier x after value heq
    exact absurd heq (by simp)
  | ask course rests request ih =>
    have hdirect := course.dispatcher.trans hd
    have hasks := asks_perform rests request
    exact (ih (completes_of_rests rests _)).append (course.tracked h₀) (hasks.handsOver hdirect) hc
  | go course step ih =>
    have hdirect := course.dispatcher.trans hd
    have htracked := course.tracked h₀
    have hgoes := goes_of_step step
    -- what is under way before the step is completed by the step and what comes after it
    have hbefore := hgoes.completes hdirect (htracked.direct hdirect) hc
    exact (ih hbefore).append htracked (hgoes.handsOver hdirect) hc
  | relearn course described ih => exact ih hc

/-! ## What has been delivered -/

/-- What has been delivered where nothing is left to do. -/
structure Delivered (past : List (Happening ν)) (a : Audience ν) : Prop where
  /-- Every value that was handed over was delivered, once and in the order of handing over. -/
  values : (begun past).map Prod.fst = notified past
  /-- A delivery goes to those who were registered when it began. -/
  begunWithAll : BegunWithAll past
  /-- Each of them has heard the value once for each registration, and nothing else was heard. -/
  heardOnce : a.heard.Perm ((begun past).flatMap hearings)
  /-- With a dispatcher, one delivery after the other and in the order of registration. -/
  serial : a.dispatcher ≠ none → a.heard = (begun past).flatMap hearings
  /-- Without one, each in the order of registration and before anything else happens. -/
  atOnce : a.dispatcher = none → DeliversAtOnce past []
  /-- The record has what was heard in the order of hearing. -/
  heard : a.heard = past.filterMap Happening.heard?

/-- Whatever is asked of an audience, one request after the other, and whatever its callbacks do:
while there is anything to deliver with a dispatcher, the dispatcher is running; once nothing is
left, everything has been delivered as it should be; and if only finitely many further values are
notified, nothing is left in the end. -/
theorem Course.delivered {typeName : ν → Text} {dispatcher : Option Text}
    {described : List (Callback ν)} {past : List (Happening ν)} {a : Audience ν}
    (course : Course { typeName, dispatcher, described } past a) :
    a.dispatcher = dispatcher ∧
      (a.step ≠ none → dispatcher ≠ none → a.dispatching = some true) ∧
      (a.step = none → Delivered past a) ∧
      ((∃ bound, ∀ fuel, (notified (a.ahead fuel)).length ≤ bound) →
        ∃ fuel, (a.run fuel).step = none ∧ Delivered (past ++ a.ahead fuel) (a.run fuel)) := by
  have hstart : Tracked [] ({ typeName, dispatcher, described } : Audience ν) := by
    refine ⟨rfl, rfl, rfl, ?_, .refl _, fun _ => rfl, ?_, fun _ => rfl⟩
    · intro earlier value names h
      simp at h
    · simp
  have hdispatcher := course.dispatcher
  have htracked := course.tracked hstart
  have hdelivered {past : List (Happening ν)} {a : Audience ν}
      (course : Course { typeName, dispatcher, described } past a) (hrests : a.step = none) :
      Delivered past a := by
    obtain ⟨hunderWay, hqueue⟩ := rests_of_step_eq_none hrests
    have htracked := course.tracked hstart
    -- where nothing is under way nobody is left who has not heard
    have hunheard : a.unheard = [] := by simp [unheard, hunderWay]
    refine ⟨?_, htracked.begunWithAll, ?_, ?_, ?_, htracked.heard⟩
    · rw [htracked.values, hqueue, List.append_nil]
    · simpa [hunheard] using htracked.heardOnce
    · simpa [hunheard] using htracked.serial
    · intro hd
      exact course.deliversAtOnce hstart (course.dispatcher ▸ hd) (completes_of_rests hrests [])
  refine ⟨hdispatcher, ?_, hdelivered course, ?_⟩
  · intro hbusy hd
    refine htracked.dispatched (hdispatcher ▸ hd) ?_
    -- an audience that does not rest is in the middle of a delivery or has a value waiting
    by_cases hunderWay : a.underWay = []
    · right
      intro hqueue
      exact hbusy (by simp [step, hunderWay, hqueue])
    · exact .inl hunderWay
  · rintro ⟨bound, hbound⟩
    obtain ⟨fuel, hrests⟩ := run_rests hbound
    exact ⟨fuel, hrests, hdelivered (course.run fuel) hrests⟩

/-- The first of two listeners notifies a further value while it hears one, takes the second off,
registers itself once more and fails; a last value comes after the dispatcher was ended. -/
theorem Course.delivered_of_second_thoughts :
    ∃ (first second : Text) (a₀ : Audience Nat) (past : List (Happening Nat)) (a : Audience Nat),
      Course a₀ past a ∧ Delivered past a ∧ notified past = [0, 1, 2] ∧
        a.heard =
          [(first, 0), (second, 0), (first, 1), (first, 1), (first, 2), (first, 2)] := by
  -- the first listener takes the second off and registers again while the value 0 is delivered
  let answers : Callback Nat :=
    ⟨"first", fun _ value =>
      if value = 0 then
        [.notify 1, .remove "second", .add "first", .fail (.noSuchKey "0"), .notify 5]
      else []⟩
  let a₀ : Audience Nat :=
    { typeName := fun _ => "int", dispatcher := some "dispatcher", described := [answers] }
  let ready := (a₀.perform (.add "first")).perform (.add "second")
  let changed := (ready.perform (.notify 0)).run 12
  let finished := ((changed.perform .close).perform (.notify 2)).run 4
  have rests (a : Audience Nat) (h : a.step.isNone = true) : a.step = none :=
    Option.isNone_iff_eq_none.1 h
  have hready : Course a₀ _ ready := (Course.start.ask rfl (.add "first")).ask rfl (.add "second")
  have hchanged : Course a₀ _ changed := (hready.ask rfl (.notify 0)).run 12
  have hover : Course a₀ _ finished :=
    ((hchanged.ask (rests _ (by decide +kernel)) .close).ask (rests _ (by decide +kernel))
      (.notify 2)).run 4
  have hrests : finished.step = none := rests _ (by decide +kernel)
  exact ⟨"first", "second", a₀, _, finished, hover, (Course.delivered hover).2.2.1 hrests,
    by decide +kernel, by decide +kernel⟩

end FlagReplica.Audience
