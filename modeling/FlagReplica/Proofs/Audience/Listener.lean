import FlagReplica.Proofs.Audience.Course

/-!
# One listener among others

What a single listener hears in an audience whose other callbacks may come and go and fail as they
like. As long as no callback takes the listener off, registers it once more or hands over values
itself, each step leaves the prospect of the listener as it is, and the audience comes to rest: the
listener has then heard its whole prospect. With a dispatcher every value that is handed over is put
at the end of the prospect; without one it comes before everything that is on its way.
-/

namespace FlagReplica

variable {ν : Type}

/-- The reaction neither registers nor removes the listener of a name, and hands nothing over. -/
def Reaction.Spares (name : Text) : Reaction ν → Prop
  | add other => other ≠ name
  | remove other => other ≠ name
  | notify _ => False
  | fail _ => True

namespace Audience

variable {name : Text} {told : List ν} {a a' : Audience ν} {happened : List (Happening ν)}

/-- Whatever the callbacks do about a value spares the listener of a name. -/
structure Retains (name : Text) (a : Audience ν) : Prop where
  described : ∀ c ∈ a.described, ∀ past value, ∀ x ∈ c.reactions past value, x.Spares name
  pending : ∀ d ∈ a.underWay, ∀ x ∈ d.pending, x.Spares name

/-- What is on its way to the callback of a name, in the order in which it will hear it if nothing
further is handed over. -/
def onWay (a : Audience ν) (name : Text) : List ν :=
  a.underWay.flatMap (fun d => List.replicate (d.waiting.count name) d.value)
    ++ a.queue.flatMap fun value => List.replicate (a.registered.count name) value

theorem prospect_eq (a : Audience ν) (name : Text) :
    a.prospect name = a.heardBy name ++ a.onWay name :=
  List.append_assoc _ _ _

/-! ## One step -/

namespace Retains

theorem callback (h : a.Retains name) (other : Text) (past : List (Text × ν)) (value : ν) :
    ∀ x ∈ (a.callback other).reactions past value, x.Spares name := by
  unfold Audience.callback
  cases hfound : a.described.find? (·.name = other) with
  | none =>
    intro x hx
    exact absurd hx List.not_mem_nil
  | some c => exact h.described c (List.mem_of_find?_eq_some hfound) past value

/-- What the callback that heard a value last is about to do spares the listener. -/
theorem next (h : a.Retains name) {value : ν} {waiting : List Text} {x : Reaction ν}
    {pending : List (Reaction ν)} {outer : List (Delivery ν)}
    (hunderWay : a.underWay = ⟨value, waiting, x :: pending⟩ :: outer) : x.Spares name :=
  h.pending _ (hunderWay ▸ List.mem_cons_self) x List.mem_cons_self

/-- Registering a callback describes it as one that does nothing. -/
theorem add (h : a.Retains name) (other : Text) : (a.add other).Retains name := by
  refine ⟨?_, ?_⟩
  · unfold Audience.add describe
    dsimp only
    split
    · exact h.described
    · intro c hc past value x hx
      rcases List.mem_append.1 hc with hc | hc
      · exact h.described c hc past value x hx
      · rcases List.mem_singleton.1 hc with rfl
        exact absurd hx List.not_mem_nil
  · obtain ⟨described, hadd⟩ := exists_add a other
    rw [hadd]
    exact h.pending

theorem remove (h : a.Retains name) (other : Text) : (a.remove other).Retains name :=
  ⟨h.described, h.pending⟩

theorem takeNotices (h : a.Retains name) : a.takeNotices.2.Retains name :=
  ⟨h.described, h.pending⟩

/-- Nobody has done anything about a value that has just been handed over. -/
theorem notify (h : a.Retains name) (value : ν) : (a.notify value).Retains name := by
  unfold Audience.notify
  split
  · exact ⟨h.described, h.pending⟩
  · refine ⟨h.described, ?_⟩
    intro d hd x hx
    rcases List.mem_cons.1 hd with rfl | hd
    · exact absurd hx List.not_mem_nil
    · exact h.pending d hd x hx

/-- The delivery under way goes on with less to be done, or with what a callback does. -/
theorem goOn (h : a.Retains name) {d : Delivery ν} {outer : List (Delivery ν)}
    (hunderWay : a.underWay = d :: outer) (d' : Delivery ν) (hd : ∀ x ∈ d'.pending, x.Spares name) :
    ({ a with underWay := d' :: outer } : Audience ν).Retains name := by
  refine ⟨h.described, ?_⟩
  intro e he
  rcases List.mem_cons.1 he with rfl | he
  · exact hd
  · exact h.pending e (hunderWay ▸ List.mem_cons_of_mem _ he)

theorem react (h : a.Retains name) {value : ν} {waiting : List Text} {x : Reaction ν}
    {pending : List (Reaction ν)} {outer : List (Delivery ν)}
    (hunderWay : a.underWay = ⟨value, waiting, x :: pending⟩ :: outer) :
    (a.react ⟨value, waiting, pending⟩ outer x).Retains name := by
  have hrest : ∀ y ∈ pending, y.Spares name := fun y hy =>
    h.pending _ (hunderWay ▸ List.mem_cons_self) y (List.mem_cons_of_mem _ hy)
  have hgoesOn := h.goOn hunderWay ⟨value, waiting, pending⟩ hrest
  cases x with
  | add other => exact hgoesOn.add other
  | remove other => exact hgoesOn.remove other
  | notify further => exact (h.next hunderWay).elim
  | fail fault =>
    have hgivenUp := h.goOn hunderWay ⟨value, waiting, []⟩
      fun y hy => absurd hy List.not_mem_nil
    exact ⟨hgivenUp.described, hgivenUp.pending⟩

theorem step (h : a.Retains name) (hs : a.step = some a') : a'.Retains name := by
  unfold Audience.step at hs
  split at hs
  · rename_i hunderWay
    rcases Option.some.inj hs with rfl
    exact h.react hunderWay
  · rename_i value other waiting outer hunderWay
    rcases Option.some.inj hs with rfl
    have hheard := h.goOn hunderWay ⟨value, waiting, _⟩ (h.callback other a.heard value)
    exact ⟨hheard.described, hheard.pending⟩
  · rename_i hunderWay
    rcases Option.some.inj hs with rfl
    exact ⟨h.described, fun d hd => h.pending d (hunderWay ▸ List.mem_cons_of_mem _ hd)⟩
  · split at hs
    · rcases Option.some.inj hs with rfl
      refine ⟨h.described, ?_⟩
      intro d hd x hx
      rcases List.mem_singleton.1 hd with rfl
      exact absurd hx List.not_mem_nil
    · exact absurd hs (by simp)

/-- Nothing is handed over in a step. -/
theorem goes_silent (h : a.Retains name) (hg : a.Goes happened a') : notified happened = [] := by
  cases hg with
  | queues underWay dispatched => exact (h.next underWay).elim
  | nests underWay direct => exact (h.next underWay).elim
  | _ => rfl

/-- Nor in any number of steps. -/
theorem ahead_silent (h : a.Retains name) (fuel : Nat) : notified (a.ahead fuel) = [] := by
  induction fuel generalizing a with
  | zero => rfl
  | succ fuel ih =>
    cases hs : a.step with
    | none => simp [ahead, hs]
    | some next => simp [ahead, hs, h.goes_silent (goes_of_step hs), ih (h.step hs)]

end Retains

/-- A step changes neither the registrations of the listener nor what it hears in the end. -/
theorem Goes.spares (hg : a.Goes happened a') (h : a.Retains name) :
    a'.registered.count name = a.registered.count name ∧ a'.prospect name = a.prospect name := by
  cases hg with
  | @adds value waiting other pending outer underWay described =>
    have hother : other ≠ name := h.next underWay
    have hcount : (a.registered ++ [other]).count name = a.registered.count name := by
      simp [hother]
    exact ⟨hcount, by simp [prospect, heardBy, underWay, hcount]⟩
  | @removes value waiting other pending outer underWay =>
    have hother : other ≠ name := h.next underWay
    have hcount : (a.registered.erase other).count name = a.registered.count name :=
      List.count_erase_of_ne (Ne.symm hother)
    exact ⟨hcount, by simp [prospect, heardBy, underWay, hcount]⟩
  | queues underWay dispatched => exact (h.next underWay).elim
  | nests underWay direct => exact (h.next underWay).elim
  | fails underWay notices => exact ⟨rfl, by simp [prospect, heardBy, underWay]⟩
  | @hears value hearer waiting outer underWay pending =>
    refine ⟨rfl, ?_⟩
    by_cases hn : hearer = name
    · subst hn
      simp [prospect, heardBy, underWay, List.replicate_succ]
    · simp [prospect, heardBy, underWay, hn]
  | ends underWay => exact ⟨rfl, by simp [prospect, heardBy, underWay]⟩
  | begins underWay waits => exact ⟨rfl, by simp [prospect, heardBy, underWay, waits]⟩

/-! ## The listener -/

/-- Nothing has been handed over to an audience yet. -/
structure Unused (a : Audience ν) : Prop where
  heard : a.heard = []
  underWay : a.underWay = []
  queue : a.queue = []

theorem Unused.step (h : a.Unused) : a.step = none := by
  simp only [Audience.step, h.underWay, h.queue]

theorem Unused.add (h : a.Unused) (other : Text) : (a.add other).Unused := by
  obtain ⟨described, hadd⟩ := exists_add a other
  rw [hadd]
  exact ⟨h.heard, h.underWay, h.queue⟩

/-- What is done about an audience makes no difference to the listener of a name. -/
structure Unmoved (name : Text) (a a' : Audience ν) : Prop where
  count : a'.registered.count name = a.registered.count name
  heardBy : a'.heardBy name = a.heardBy name
  onWay : a'.onWay name = a.onWay name
  dispatcher : a'.dispatcher = a.dispatcher

namespace Unmoved

/-- Others may be registered. -/
theorem add (a : Audience ν) {other : Text} (hother : other ≠ name) :
    Unmoved name a (a.add other) := by
  have hcount : (a.registered ++ [other]).count name = a.registered.count name := by
    simp [hother]
  obtain ⟨described, hadd⟩ := exists_add a other
  rw [hadd]
  refine ⟨hcount, rfl, ?_, rfl⟩
  simp only [Audience.onWay, hcount]

/-- And taken off. -/
theorem remove (a : Audience ν) {other : Text} (hother : other ≠ name) :
    Unmoved name a (a.remove other) := by
  have hcount : (a.registered.erase other).count name = a.registered.count name :=
    List.count_erase_of_ne (Ne.symm hother)
  refine ⟨hcount, rfl, ?_, rfl⟩
  simp only [Audience.onWay, Audience.remove, hcount]

theorem takeNotices (a : Audience ν) : Unmoved name a a.takeNotices.2 :=
  ⟨rfl, rfl, rfl, rfl⟩

theorem close (a : Audience ν) : Unmoved name a a.close :=
  ⟨rfl, rfl, rfl, rfl⟩

theorem prospect (h : Unmoved name a a') : a'.prospect name = a.prospect name := by
  rw [prospect_eq, prospect_eq, h.heardBy, h.onWay]

end Unmoved

/-- An audience that retains the listener of a name, which is registered once, and what it hears in
the end. -/
structure Listens (name : Text) (told : List ν) (a : Audience ν) : Prop where
  retains : a.Retains name
  once : a.registered.count name = 1
  prospect : a.prospect name = told

namespace Listens

/-- A listener that is registered before anything was handed over has been told nothing. -/
theorem of_unused (h : a.Retains name) (once : a.registered.count name = 1) (hu : a.Unused) :
    Listens name [] a :=
  ⟨h, once, by simp [Audience.prospect, heardBy, hu.heard, hu.underWay, hu.queue]⟩

theorem step (h : Listens name told a) (hs : a.step = some a') : Listens name told a' := by
  rcases (goes_of_step hs).spares h.retains with ⟨hcount, hprospect⟩
  exact ⟨h.retains.step hs, hcount.trans h.once, hprospect.trans h.prospect⟩

theorem run (h : Listens name told a) (fuel : Nat) : Listens name told (a.run fuel) := by
  induction fuel generalizing a with
  | zero => exact h
  | succ fuel ih =>
    unfold Audience.run
    split
    · rename_i hs
      exact ih (h.step hs)
    · exact h

/-- With a dispatcher a value comes after everything that was handed over before. -/
theorem notify_of_dispatched (h : Listens name told a) (hd : a.dispatcher ≠ none) (value : ν) :
    Listens name (told ++ [value]) (a.notify value) := by
  have hretains := h.retains.notify value
  rw [Audience.notify_of_dispatched hd] at hretains ⊢
  refine ⟨hretains, h.once, ?_⟩
  rw [← h.prospect]
  simp [Audience.prospect, heardBy, h.once]

/-- Without one it comes before everything that is on its way. -/
theorem notify_of_direct (h : Listens name told a) (hd : a.dispatcher = none) (value : ν) :
    Listens name (a.heardBy name ++ value :: a.onWay name) (a.notify value) := by
  have hretains := h.retains.notify value
  rw [Audience.notify_of_direct hd] at hretains ⊢
  refine ⟨hretains, h.once, ?_⟩
  simp [Audience.prospect, heardBy, onWay, h.once]

theorem congr (h : Listens name told a) (hretains : a'.Retains name) (hu : Unmoved name a a') :
    Listens name told a' :=
  ⟨hretains, hu.count.trans h.once, hu.prospect.trans h.prospect⟩

/-- Where nothing is left to do the listener has heard everything. -/
theorem heardBy_eq (h : Listens name told a) (hrests : a.step = none) : a.heardBy name = told := by
  rcases rests_of_step_eq_none hrests with ⟨hunderWay, hqueue⟩
  rw [← h.prospect]
  simp [Audience.prospect, hunderWay, hqueue]

/-- The audience comes to rest, and then the listener has heard everything. -/
theorem rests (h : Listens name told a) :
    ∃ fuel, (a.run fuel).step = none ∧ (a.run fuel).heardBy name = told := by
  have hsilent : ∀ fuel, (notified (a.ahead fuel)).length ≤ 0 := by
    intro fuel
    rw [h.retains.ahead_silent fuel]
    exact Nat.le_refl 0
  obtain ⟨fuel, hrests⟩ := run_rests hsilent
  exact ⟨fuel, hrests, (h.run fuel).heardBy_eq hrests⟩

end Listens

/-! ## With a dispatcher -/

/-- A listener to whom a dispatcher delivers what it is told. -/
structure Awaits (name : Text) (told : List ν) (a : Audience ν) : Prop where
  listens : Listens name told a
  dispatched : a.dispatcher ≠ none

namespace Awaits

/-- What the audience is told comes last. -/
theorem tell (h : Awaits name told a) (value : ν) :
    Awaits name (told ++ [value]) (a.tell value) := by
  have hlistens := h.listens.notify_of_dispatched h.dispatched value
  have htell : a.tell value = a.notify value := by
    obtain ⟨dispatcher, hdispatcher⟩ := Option.ne_none_iff_exists'.1 h.dispatched
    simp [Audience.tell, hdispatcher]
  rw [htell]
  refine ⟨hlistens, ?_⟩
  rw [Audience.notify_of_dispatched h.dispatched]
  exact h.dispatched

theorem congr (h : Awaits name told a) (hretains : a'.Retains name) (hu : Unmoved name a a') :
    Awaits name told a' := by
  refine ⟨h.listens.congr hretains hu, ?_⟩
  rw [hu.dispatcher]
  exact h.dispatched

theorem takeNotices (h : Awaits name told a) : Awaits name told a.takeNotices.2 :=
  h.congr h.listens.retains.takeNotices (.takeNotices a)

theorem step (h : Awaits name told a) (hs : a.step = some a') : Awaits name told a' := by
  refine ⟨h.listens.step hs, ?_⟩
  rw [(goes_of_step hs).dispatcher]
  exact h.dispatched

theorem add (h : Awaits name told a) {other : Text} (hother : other ≠ name) :
    Awaits name told (a.add other) :=
  h.congr (h.listens.retains.add other) (.add a hother)

theorem remove (h : Awaits name told a) {other : Text} (hother : other ≠ name) :
    Awaits name told (a.remove other) :=
  h.congr (h.listens.retains.remove other) (.remove a hother)

theorem close (h : Awaits name told a) : Awaits name told a.close :=
  h.congr ⟨h.listens.retains.described, h.listens.retains.pending⟩ (.close a)

end Awaits

end Audience

end FlagReplica
