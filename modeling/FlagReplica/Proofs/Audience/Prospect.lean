import FlagReplica.Audience

/-!
# What a listener hears in the end

A mute audience does nothing about a value but perhaps fail. What a listener of it has heard and has
yet to hear is its prospect. Delivering leaves the prospect as it is and only a new value extends
it, so that what is heard can be told from what was handed over, whenever and by whom it is
delivered.
-/

namespace FlagReplica

variable {ν : Type}

/-- Nothing is done about a value, except that the callback may fail. -/
def Reaction.Mute (reactions : List (Reaction ν)) : Prop :=
  reactions = [] ∨ ∃ fault, reactions = [.fail fault]

namespace Audience

variable {a a' : Audience ν}

/-- Every callback does nothing about a value but perhaps fail. -/
structure Mute (a : Audience ν) : Prop where
  described : ∀ c ∈ a.described, ∀ past value, Reaction.Mute (c.reactions past value)
  pending : ∀ d ∈ a.underWay, Reaction.Mute d.pending

/-- Without a dispatcher nothing is left to be delivered. -/
def Prompt (a : Audience ν) : Prop :=
  a.dispatcher = none → a.underWay = [] ∧ a.queue = []

/-- What the callback of a name has heard. -/
def heardBy (a : Audience ν) (name : Text) : List ν :=
  (a.heard.filter fun told => told.1 = name).map Prod.snd

/-- What the callback of a name has heard and has yet to hear of what was handed over. -/
def prospect (a : Audience ν) (name : Text) : List ν :=
  a.heardBy name
    ++ a.underWay.flatMap (fun d => List.replicate (d.waiting.count name) d.value)
    ++ a.queue.flatMap fun value => List.replicate (a.registered.count name) value

/-- What has been heard is the beginning of the prospect. -/
theorem heardBy_prefix (a : Audience ν) (name : Text) : a.heardBy name <+: a.prospect name := by
  rw [prospect, List.append_assoc]
  exact List.prefix_append _ _

/-- Without a dispatcher it is all of it. -/
theorem Prompt.heardBy_eq (h : a.Prompt) (hd : a.dispatcher = none) (name : Text) :
    a.heardBy name = a.prospect name := by
  rcases h hd with ⟨hunderWay, hqueue⟩
  simp [prospect, hunderWay, hqueue]

/-! ## One turn -/

/-- What happens next in a mute audience: the callback that heard a value last fails, the next one
hears the value, a delivery ends, or the next one begins. -/
inductive Turn (a : Audience ν) : Audience ν → Prop where
  | fails {value : ν} {waiting : List Text} {fault : Fault} {outer : List (Delivery ν)}
      (underWay : a.underWay = ⟨value, waiting, [.fail fault]⟩ :: outer) (notices : List Notice) :
      Turn a { a with underWay := ⟨value, waiting, []⟩ :: outer, notices }
  | hears {value : ν} {name : Text} {waiting : List Text} {outer : List (Delivery ν)}
      (underWay : a.underWay = ⟨value, name :: waiting, []⟩ :: outer)
      {pending : List (Reaction ν)} (mute : Reaction.Mute pending) :
      Turn a
        { a with
          underWay := ⟨value, waiting, pending⟩ :: outer
          heard := a.heard ++ [(name, value)] }
  | ends {value : ν} {outer : List (Delivery ν)}
      (underWay : a.underWay = ⟨value, [], []⟩ :: outer) : Turn a { a with underWay := outer }
  | begins {value : ν} {queue : List ν} (underWay : a.underWay = [])
      (waits : a.queue = value :: queue) :
      Turn a { a with queue, underWay := [⟨value, a.registered, []⟩] }

/-- A callback of a mute audience does nothing about a value but perhaps fail. -/
theorem Mute.callback (h : a.Mute) (name : Text) (past : List (Text × ν)) (value : ν) :
    Reaction.Mute ((a.callback name).reactions past value) := by
  unfold Audience.callback
  cases hfound : a.described.find? (·.name = name) with
  | none => exact Or.inl rfl
  | some c => exact h.described c (List.mem_of_find?_eq_some hfound) past value

/-- Every step of a mute audience is one of these turns. -/
theorem Mute.turn (h : a.Mute) (hs : a.step = some a') : a.Turn a' := by
  unfold step at hs
  split at hs
  · rename_i value waiting reaction pending outer hunderWay
    rcases Option.some.inj hs with rfl
    have hmute := h.pending _ (hunderWay ▸ List.mem_cons_self)
    rcases hmute with hnone | ⟨fault, hfault⟩
    · exact absurd hnone (by simp)
    · rcases List.cons.inj hfault with ⟨rfl, rfl⟩
      exact .fails hunderWay _
  · rename_i value name waiting outer hunderWay
    rcases Option.some.inj hs with rfl
    exact .hears hunderWay (h.callback name a.heard value)
  · rename_i value outer hunderWay
    rcases Option.some.inj hs with rfl
    exact .ends hunderWay
  · rename_i hunderWay
    split at hs
    · rename_i value queue hqueue
      rcases Option.some.inj hs with rfl
      exact .begins hunderWay hqueue
    · exact absurd hs (by simp)

/-- Where nothing happens any more, nothing is left to be delivered. -/
theorem rests_of_step_eq_none (h : a.step = none) : a.underWay = [] ∧ a.queue = [] := by
  unfold step at h
  split at h
  · exact absurd h (by simp)
  · exact absurd h (by simp)
  · exact absurd h (by simp)
  · rename_i hunderWay
    split at h
    · exact absurd h (by simp)
    · rename_i hqueue
      exact ⟨hunderWay, hqueue⟩

namespace Turn

theorem dispatcher (h : a.Turn a') : a'.dispatcher = a.dispatcher := by
  cases h <;> rfl

theorem registered (h : a.Turn a') : a'.registered = a.registered := by
  cases h <;> rfl

/-- A mute audience stays mute. -/
theorem mute (h : a.Turn a') (hm : a.Mute) : a'.Mute := by
  cases h with
  | fails underWay notices =>
    refine ⟨hm.described, ?_⟩
    intro d hd
    rcases List.mem_cons.1 hd with rfl | hd
    · exact Or.inl rfl
    · exact hm.pending d (underWay ▸ List.mem_cons_of_mem _ hd)
  | hears underWay mute =>
    refine ⟨hm.described, ?_⟩
    intro d hd
    rcases List.mem_cons.1 hd with rfl | hd
    · exact mute
    · exact hm.pending d (underWay ▸ List.mem_cons_of_mem _ hd)
  | ends underWay =>
    refine ⟨hm.described, ?_⟩
    intro d hd
    exact hm.pending d (underWay ▸ List.mem_cons_of_mem _ hd)
  | begins underWay waits =>
    refine ⟨hm.described, ?_⟩
    intro d hd
    rcases List.mem_singleton.1 hd with rfl
    exact Or.inl rfl

/-- No turn changes what anybody hears in the end. -/
theorem prospect (h : a.Turn a') (name : Text) : a'.prospect name = a.prospect name := by
  cases h with
  | fails underWay notices => simp [Audience.prospect, heardBy, underWay]
  | @hears value hearer waiting outer underWay pending mute =>
    by_cases hn : hearer = name
    · subst hn
      simp [Audience.prospect, heardBy, underWay, List.replicate_succ]
    · simp [Audience.prospect, heardBy, underWay, hn]
  | ends underWay => simp [Audience.prospect, heardBy, underWay]
  | begins underWay waits => simp [Audience.prospect, heardBy, underWay, waits]

/-- Every turn leaves less to be done. -/
theorem outstanding_lt (h : a.Turn a') : a'.outstanding < a.outstanding := by
  cases h with
  | fails underWay notices =>
    simp only [outstanding, underWay, List.foldr_cons, List.length_cons, List.length_nil]
    omega
  | hears underWay mute =>
    simp only [outstanding, underWay, List.foldr_cons, List.length_cons, List.length_nil]
    rcases mute with rfl | ⟨fault, rfl⟩
    · simp only [List.length_nil]
      omega
    · simp only [List.length_cons, List.length_nil]
      omega
  | ends underWay =>
    simp only [outstanding, underWay, List.foldr_cons, List.length_nil]
    omega
  | begins underWay waits =>
    simp only [outstanding, underWay, waits, List.foldr_cons, List.foldr_nil, List.length_cons,
      List.length_nil, Nat.add_mul]
    omega

end Turn

/-! ## Many turns -/

/-- What an audience has become by delivering: everybody hears in the end what was to be heard
before. -/
structure Delivers (a a' : Audience ν) : Prop where
  mute : a'.Mute
  dispatcher : a'.dispatcher = a.dispatcher
  registered : a'.registered = a.registered
  prospect : ∀ name, a'.prospect name = a.prospect name

theorem Delivers.refl (h : a.Mute) : a.Delivers a :=
  ⟨h, rfl, rfl, fun _ => rfl⟩

theorem Delivers.of_turn (hm : a.Mute) (h : a.Turn a') : a.Delivers a' :=
  ⟨h.mute hm, h.dispatcher, h.registered, h.prospect⟩

theorem Delivers.trans {a'' : Audience ν} (h : a.Delivers a') (h' : a'.Delivers a'') :
    a.Delivers a'' :=
  ⟨h'.mute, h'.dispatcher.trans h.dispatcher, h'.registered.trans h.registered,
    fun name => (h'.prospect name).trans (h.prospect name)⟩

/-- One step of a mute audience delivers. -/
theorem Mute.step_delivers (h : a.Mute) (hs : a.step = some a') : a.Delivers a' :=
  .of_turn h (h.turn hs)

/-- Without a dispatcher there is nothing to deliver. -/
theorem Prompt.step (h : a.Prompt) (hs : a.step = some a') : a.dispatcher ≠ none := by
  intro hd
  rcases h hd with ⟨hunderWay, hqueue⟩
  simp [Audience.step, hunderWay, hqueue] at hs

/-- So do any number of steps, and enough of them leave nothing to be delivered. -/
theorem Mute.run_delivers (h : a.Mute) {fuel : Nat} (hfuel : a.outstanding ≤ fuel) :
    a.Delivers (run fuel a) ∧ (run fuel a).underWay = [] ∧ (run fuel a).queue = [] := by
  -- on the steps; each leaves less to be done, so that the last one finds nothing
  induction fuel generalizing a with
  | zero =>
    refine ⟨.refl h, ?_⟩
    cases hs : a.step with
    | none => exact rests_of_step_eq_none hs
    | some next =>
      have hlt := (h.turn hs).outstanding_lt
      omega
  | succ fuel ih =>
    cases hs : a.step with
    | none =>
      rw [run, hs]
      exact ⟨.refl h, rests_of_step_eq_none hs⟩
    | some next =>
      have hlt := (h.turn hs).outstanding_lt
      have hdelivers := h.step_delivers hs
      rcases ih hdelivers.mute (by omega) with ⟨hrest, hdone⟩
      rw [run, hs]
      exact ⟨hdelivers.trans hrest, hdone⟩

/-- A mute audience delivers everything that is waiting. -/
theorem Mute.settle_delivers (h : a.Mute) :
    a.Delivers a.settle ∧ a.settle.underWay = [] ∧ a.settle.queue = [] :=
  h.run_delivers (Nat.le_refl _)

/-! ## A new value -/

/-- What an audience has become by being told a value: everybody hears it in the end, once for each
registration. -/
structure Told (a : Audience ν) (value : ν) (a' : Audience ν) : Prop where
  mute : a'.Mute
  prompt : a'.Prompt
  dispatcher : a'.dispatcher = a.dispatcher
  registered : a'.registered = a.registered
  prospect : ∀ name,
    a'.prospect name = a.prospect name ++ List.replicate (a.registered.count name) value

theorem Mute.tell (h : a.Mute) (hp : a.Prompt) (value : ν) : a.Told value (a.tell value) := by
  cases hd : a.dispatcher with
  | some dispatcher =>
    have htell : a.tell value =
        { a with queue := a.queue ++ [value], dispatching := some true } := by
      simp [Audience.tell, notify, hd]
    rw [htell]
    refine ⟨⟨h.described, h.pending⟩, ?_, rfl, rfl, ?_⟩
    · intro hnone
      exact absurd hnone (by simp [hd])
    · intro name
      simp [Audience.prospect, heardBy, List.append_assoc]
  | none =>
    rcases hp hd with ⟨hunderWay, hqueue⟩
    have htell : a.tell value =
        ({ a with underWay := [⟨value, a.registered, []⟩] } : Audience ν).settle := by
      simp [Audience.tell, notify, hd, hunderWay]
    have hmute : Mute { a with underWay := [⟨value, a.registered, []⟩] } := by
      refine ⟨h.described, ?_⟩
      intro d hd
      rcases List.mem_singleton.1 hd with rfl
      exact Or.inl rfl
    rcases hmute.settle_delivers with ⟨hdelivers, hdone⟩
    rw [htell]
    refine ⟨hdelivers.mute, fun _ => hdone, hdelivers.dispatcher, hdelivers.registered, ?_⟩
    intro name
    rw [hdelivers.prospect]
    simp [Audience.prospect, heardBy, hunderWay, hqueue]

/-! ## One listener -/

/-- A mute audience in which the listener of a name is registered once, and what it hears in the
end. -/
structure Follows (name : Text) (told : List ν) (a : Audience ν) : Prop where
  mute : a.Mute
  prompt : a.Prompt
  once : a.registered.count name = 1
  prospect : a.prospect name = told

namespace Follows

variable {name : Text} {told : List ν}

/-- The first listener of an audience follows it from the start. -/
theorem of_add (hd : a.described = []) (hr : a.registered = []) (hu : a.underWay = [])
    (hq : a.queue = []) (hh : a.heard = []) (name : Text) : Follows name [] (a.add name) := by
  have hadd : a.add name =
      { a with described := [.silent name], registered := [name] } := by
    simp [add, describe, hd, hr]
  rw [hadd]
  refine ⟨⟨?_, ?_⟩, fun _ => ⟨hu, hq⟩, by simp, ?_⟩
  · intro c hc past value
    rcases List.mem_singleton.1 hc with rfl
    exact Or.inl rfl
  · intro d hd'
    exact absurd (hu ▸ hd') List.not_mem_nil
  · simp [Audience.prospect, heardBy, hu, hq, hh]

/-- The listener hears every value that the audience is told. -/
theorem tell (h : Follows name told a) (value : ν) :
    Follows name (told ++ [value]) (a.tell value) := by
  have htold := h.mute.tell h.prompt value
  refine ⟨htold.mute, htold.prompt, ?_, ?_⟩
  · rw [htold.registered, h.once]
  · rw [htold.prospect, h.prospect, h.once]
    rfl

theorem takeNotices (h : Follows name told a) : Follows name told a.takeNotices.2 :=
  ⟨⟨h.mute.described, h.mute.pending⟩, h.prompt, h.once, h.prospect⟩

/-- Without a dispatcher it has heard all of them. -/
theorem heardBy_eq (h : Follows name told a) (hd : a.dispatcher = none) : a.heardBy name = told :=
  (h.prompt.heardBy_eq hd name).trans h.prospect

end Follows

end Audience

end FlagReplica
