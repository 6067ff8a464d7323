import FlagReplica.Audience

/-!
# Audiences that answer nothing

What such an audience makes of a value can be said in one step: with a dispatcher the value waits in
the queue, and without one every registered callback hears it, in order. Two audiences that are told
values that look alike stay alike.
-/

namespace FlagReplica.Audience

variable {ν μ : Type}

/-- The listeners answer nothing and nothing is under way. With a dispatcher it does not matter what
they would answer. -/
structure Quiet (a : Audience ν) : Prop where
  silent : a.dispatcher = none → ∀ c ∈ a.described, ∀ past value, c.reactions past value = []
  underWay : a.dispatcher = none → a.underWay = []
  queue : a.dispatcher = none → a.queue = []

/-- A described callback of a quiet audience does nothing about a value. -/
theorem Quiet.callback_reactions {a : Audience ν} (h : a.Quiet) (hd : a.dispatcher = none)
    (name : Text) (past : List (Text × ν)) (value : ν) :
    (a.callback name).reactions past value = [] := by
  unfold callback
  cases hfound : a.described.find? (·.name = name) with
  | none => rfl
  | some c => exact h.silent hd c (List.mem_of_find?_eq_some hfound) past value

/-- The audience when its callbacks of these names have heard a value. -/
def hearing (a : Audience ν) (names : List Text) (value : ν) : Audience ν :=
  { a with heard := a.heard ++ names.map fun name => (name, value) }

theorem Quiet.hearing {a : Audience ν} (h : a.Quiet) (names : List Text) (value : ν) :
    (a.hearing names value).Quiet :=
  ⟨h.silent, h.underWay, h.queue⟩

/-- One delivery to callbacks that answer nothing takes one step for each of them and one more. -/
theorem Quiet.run_delivery {a : Audience ν} (h : a.Quiet) (hd : a.dispatcher = none)
    (waiting : List Text) (value : ν) {fuel : Nat} (hfuel : waiting.length < fuel) :
    run fuel { a with underWay := [⟨value, waiting, []⟩] } = a.hearing waiting value := by
  -- on the callbacks that have yet to hear the value; the audience grows by what was heard
  induction waiting generalizing a fuel with
  | nil =>
    obtain ⟨fuel, rfl⟩ : ∃ n, fuel = n + 1 := ⟨fuel - 1, by simp at hfuel; omega⟩
    -- the delivery ends, and the steps that are left find nothing to do
    have hdone : run fuel { a with underWay := [] } = { a with underWay := [] } := by
      cases fuel with
      | zero => rfl
      | succ fuel => simp [run, step, h.queue hd]
    have hsame : { a with underWay := [] } = a := by
      rw [← h.underWay hd]
    simp only [run, step]
    rw [hdone, hsame]
    simp [Audience.hearing]
  | cons name waiting ih =>
    obtain ⟨fuel, rfl⟩ : ∃ n, fuel = n + 1 := ⟨fuel - 1, by simp at hfuel; omega⟩
    have hfuel' : waiting.length < fuel := by simpa using hfuel
    have hstep : step { a with underWay := [⟨value, name :: waiting, []⟩] } =
        some { a.hearing [name] value with underWay := [⟨value, waiting, []⟩] } := by
      have hreactions := h.callback_reactions hd name a.heard value
      simp only [step, hear, Audience.hearing, List.map_cons, List.map_nil]
      congr 4
    -- the first callback has heard the value and answers nothing
    rw [run, hstep]
    dsimp only
    rw [ih (h.hearing [name] value) hd hfuel']
    simp [Audience.hearing]

/-- Without a dispatcher every registered callback hears a value at once. -/
theorem Quiet.tell_directly {a : Audience ν} (h : a.Quiet) (hd : a.dispatcher = none)
    (value : ν) : a.tell value = a.hearing a.registered value := by
  have hfuel : a.registered.length <
      outstanding { a with underWay := [⟨value, a.registered, []⟩] } := by
    simp [outstanding]
    omega
  have hnotify : a.notify value = { a with underWay := [⟨value, a.registered, []⟩] } := by
    unfold notify
    split
    · rename_i name hname
      rw [hd] at hname
      exact absurd hname (by simp)
    · rw [h.underWay hd]
  unfold tell
  split
  · rename_i name hname
    rw [hd] at hname
    exact absurd hname (by simp)
  · rw [settle, hnotify]
    exact h.run_delivery hd a.registered value hfuel

/-- With a dispatcher a value waits. -/
theorem tell_to_dispatcher {a : Audience ν} {name : Text} (hd : a.dispatcher = some name)
    (value : ν) :
    a.tell value = { a with queue := a.queue ++ [value], dispatching := some true } := by
  unfold tell
  split
  · simp [notify, hd]
  · rename_i hnone
    rw [hd] at hnone
    exact absurd hnone (by simp)

/-- A quiet audience stays quiet. -/
theorem Quiet.tell {a : Audience ν} (h : a.Quiet) (value : ν) :
    (a.tell value).takeNotices.2.Quiet := by
  cases hd : a.dispatcher with
  | none =>
    rw [h.tell_directly hd]
    exact ⟨h.silent, h.underWay, h.queue⟩
  | some name =>
    rw [tell_to_dispatcher hd]
    constructor <;> intro hn <;> exact absurd hn (by simp [takeNotices, hd])

/-- The values of two audiences look alike one by one, as does everything else that matters for
what they will be told. -/
structure Alike (look : ν → μ) (a b : Audience ν) : Prop where
  left : a.Quiet
  right : b.Quiet
  dispatcher : a.dispatcher = b.dispatcher
  registered : a.registered = b.registered
  heard : a.heard.map (Prod.map id look) = b.heard.map (Prod.map id look)
  queue : a.queue.map look = b.queue.map look

/-- Audiences that are told values that look alike stay alike. -/
theorem Alike.tell {look : ν → μ} {a b : Audience ν} (h : a.Alike look b) {v w : ν}
    (hvw : look v = look w) : (a.tell v).takeNotices.2.Alike look (b.tell w).takeNotices.2 := by
  have hleft := h.left.tell v
  have hright := h.right.tell w
  cases hd : a.dispatcher with
  | none =>
    have hd' : b.dispatcher = none := h.dispatcher ▸ hd
    rw [h.left.tell_directly hd] at hleft ⊢
    rw [h.right.tell_directly hd'] at hright ⊢
    refine ⟨hleft, hright, h.dispatcher, h.registered, ?_, h.queue⟩
    simp [takeNotices, Audience.hearing, h.heard, h.registered, hvw]
  | some name =>
    have hd' : b.dispatcher = some name := h.dispatcher ▸ hd
    rw [tell_to_dispatcher hd] at hleft ⊢
    rw [tell_to_dispatcher hd'] at hright ⊢
    refine ⟨hleft, hright, h.dispatcher, h.registered, h.heard, ?_⟩
    simp [takeNotices, h.queue, hvw]

end FlagReplica.Audience
