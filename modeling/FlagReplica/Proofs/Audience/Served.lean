import FlagReplica.Proofs.Audience.Listener

/-!
# Deliveries side by side

Without a dispatcher a value is delivered by whoever hands it over, so several deliveries may be
under way and any of them may go on next. A listener still hears every value once. It hears them in
the order in which they were handed over if a dispatcher delivers them, or if nothing is on its way
to it whenever a value is handed over.
-/

namespace FlagReplica.Audience

variable {ν : Type} {name : Text} {told : List ν} {a a' : Audience ν}

/-- A delivery goes on, or the next one begins. Without a dispatcher it may be any of those that are
under way. -/
inductive Serves (a : Audience ν) : Audience ν → Prop where
  | innermost {a' : Audience ν} (step : a.step = some a') : Serves a a'
  | other {inner outer : List (Delivery ν)} {d : Delivery ν} {a' : Audience ν}
      (direct : a.dispatcher = none) (underWay : a.underWay = inner ++ d :: outer)
      (step : ({ a with underWay := d :: outer } : Audience ν).step = some a') :
      Serves a { a' with underWay := inner ++ a'.underWay }

/-! ## What a listener hears -/

/-- What is heard is added to what was heard before. -/
theorem Goes.heardBy {happened : List (Happening ν)} (hg : a.Goes happened a') (name : Text) :
    ∃ new, a'.heardBy name = a.heardBy name ++ new := by
  cases hg with
  | @hears value hearer waiting outer underWay pending =>
    refine ⟨([(hearer, value)].filter (·.1 = name)).map (·.2), ?_⟩
    rw [Audience.heardBy, List.filter_append, List.map_append]
    rfl
  | _ => exact ⟨[], (List.append_nil _).symm⟩

/-- What is heard in a step is what was the next to be heard. -/
theorem Retains.hears (h : a.Retains name) (hs : a.step = some a') :
    ∃ new, a'.heardBy name = a.heardBy name ++ new ∧ a.onWay name = new ++ a'.onWay name := by
  have hg := goes_of_step hs
  rcases hg.heardBy name with ⟨new, hheard⟩
  have hprospect := (hg.spares h).2
  rw [prospect_eq, prospect_eq, hheard, List.append_assoc] at hprospect
  exact ⟨new, hheard, (List.append_cancel_left hprospect).symm⟩

/-- What is on its way to a listener in the innermost deliveries comes first. -/
theorem onWay_append (a : Audience ν) (name : Text) (inner : List (Delivery ν)) :
    ({ a with underWay := inner ++ a.underWay } : Audience ν).onWay name =
      inner.flatMap (fun d => List.replicate (d.waiting.count name) d.value) ++ a.onWay name := by
  simp [onWay]

/-- What a delivery that goes on makes of an audience that retains a listener: something is heard
that was on its way, and with a dispatcher it was the next. -/
structure Served (name : Text) (a a' : Audience ν) : Prop where
  retains : a'.Retains name
  registered : a'.registered.count name = a.registered.count name
  dispatcher : a'.dispatcher = a.dispatcher
  heard : ∃ inner new outer, a'.heardBy name = a.heardBy name ++ new ∧
    a.onWay name = inner ++ new ++ outer ∧ a'.onWay name = inner ++ outer ∧
    (a.dispatcher ≠ none → inner = [])

theorem Retains.serves (h : a.Retains name) (hs : a.Serves a') : a.Served name a' := by
  cases hs with
  | innermost step =>
    rcases h.hears step with ⟨new, hheard, hway⟩
    have hg := goes_of_step step
    exact ⟨h.step step, (hg.spares h).1, hg.dispatcher, [], new, a'.onWay name, hheard, hway, rfl,
      fun _ => rfl⟩
  | @other inner outer d b direct underWay step =>
    have hrest : ({ a with underWay := d :: outer } : Audience ν).Retains name :=
      ⟨h.described, fun e he => h.pending e (underWay ▸ List.mem_append_right _ he)⟩
    have hwhole := onWay_append { a with underWay := d :: outer } name inner
    rcases hrest.hears step with ⟨new, hheard, hway⟩
    have hg := goes_of_step step
    have hb := hrest.step step
    -- the deliveries further in stay where they are, in front of what the step leaves
    refine ⟨⟨hb.described, ?_⟩, (hg.spares hrest).1, hg.dispatcher,
      inner.flatMap (fun d => List.replicate (d.waiting.count name) d.value), new, b.onWay name,
      hheard, ?_, onWay_append b name inner, fun hd => absurd direct hd⟩
    · intro e he
      rcases List.mem_append.1 he with he | he
      · exact h.pending e (underWay ▸ List.mem_append_left _ he)
      · exact hb.pending e he
    · rw [hway] at hwhole
      rw [List.append_assoc, ← hwhole, ← underWay]

/-! ## A listener who hears everything -/

/-- A listener who is registered once hears every value that is handed over once, and in order if a
dispatcher delivers them or if each of them is handed over in turn. -/
structure Reaches (inTurn : Prop) (name : Text) (told : List ν) (a : Audience ν) : Prop where
  retains : a.Retains name
  once : a.registered.count name = 1
  all : (a.heardBy name ++ a.onWay name).Perm told
  order : a.dispatcher ≠ none ∨ inTurn → a.heardBy name ++ a.onWay name = told
  single : inTurn → a.dispatcher = none → (a.onWay name).length ≤ 1

namespace Reaches

variable {inTurn : Prop}

theorem of_listens (h : Listens name [] a) : Reaches inTurn name [] a := by
  have hnothing : a.heardBy name ++ a.onWay name = [] := by
    rw [← prospect_eq]
    exact h.prospect
  refine ⟨h.retains, h.once, by rw [hnothing], fun _ => hnothing, fun _ _ => ?_⟩
  rw [(List.append_eq_nil_iff.1 hnothing).2]
  exact Nat.zero_le 1

/-- Only what the listener has heard and what is on its way to it matter. -/
theorem congr (h : Reaches inTurn name told a) (hretains : a'.Retains name)
    (hu : Unmoved name a a') : Reaches inTurn name told a' := by
  refine ⟨hretains, hu.count.trans h.once, ?_, ?_, ?_⟩
  · rw [hu.heardBy, hu.onWay]
    exact h.all
  · rw [hu.heardBy, hu.onWay, hu.dispatcher]
    exact h.order
  · rw [hu.onWay, hu.dispatcher]
    exact h.single

theorem takeNotices (h : Reaches inTurn name told a) :
    Reaches inTurn name told a.takeNotices.2 :=
  h.congr h.retains.takeNotices (.takeNotices a)

theorem add (h : Reaches inTurn name told a) {other : Text} (hother : other ≠ name) :
    Reaches inTurn name told (a.add other) :=
  h.congr (h.retains.add other) (.add a hother)

theorem remove (h : Reaches inTurn name told a) {other : Text} (hother : other ≠ name) :
    Reaches inTurn name told (a.remove other) :=
  h.congr (h.retains.remove other) (.remove a hother)

/-- A value that is handed over is on its way to the listener. -/
theorem notify (h : Reaches inTurn name told a) (value : ν)
    (hturn : inTurn → a.dispatcher = none → a.onWay name = []) :
    Reaches inTurn name (told ++ [value]) (a.notify value) := by
  have hretains := h.retains.notify value
  by_cases hd : a.dispatcher = none
  · rw [notify_of_direct hd] at hretains ⊢
    have hway : ({ a with underWay := ⟨value, a.registered, []⟩ :: a.underWay } :
        Audience ν).onWay name = value :: a.onWay name := by
      simp [onWay, h.once]
    have hinTurn (hin : inTurn) : a.onWay name = [] := hturn hin hd
    refine ⟨hretains, h.once, ?_, ?_, ?_⟩
    · rw [hway]
      have hmiddle : (a.heardBy name ++ value :: a.onWay name).Perm
          (value :: (a.heardBy name ++ a.onWay name)) := List.perm_middle
      exact (hmiddle.trans (h.all.cons value)).trans (List.perm_append_singleton _ _).symm
    · intro horder
      have hin : inTurn := horder.resolve_left fun hne => hne hd
      have hsofar := h.order (.inr hin)
      rw [hinTurn hin, List.append_nil] at hsofar
      rw [hway, hinTurn hin, ← hsofar]
      rfl
    · intro hin _
      rw [hway, hinTurn hin]
      exact Nat.le_refl 1
  · rw [notify_of_dispatched hd] at hretains ⊢
    have hway : ({ a with queue := a.queue ++ [value], dispatching := some true } :
        Audience ν).onWay name = a.onWay name ++ [value] := by
      simp [onWay, h.once]
    refine ⟨hretains, h.once, ?_, ?_, fun _ hdirect => absurd hdirect hd⟩
    · rw [hway, ← List.append_assoc]
      exact h.all.append_right [value]
    · intro _
      rw [hway, ← List.append_assoc]
      exact congrArg (· ++ [value]) (h.order (.inl hd))

/-- A delivery goes on. -/
theorem serves (h : Reaches inTurn name told a) (hs : a.Serves a') :
    Reaches inTurn name told a' := by
  rcases h.retains.serves hs with ⟨hretains, hregistered, hdispatcher, inner, new, outer, hheard,
    hway, hway', hinner⟩
  have hmoved : a'.heardBy name ++ a'.onWay name = a.heardBy name ++ (new ++ inner ++ outer) := by
    rw [hheard, hway']
    simp only [List.append_assoc]
  refine ⟨hretains, hregistered.trans h.once, ?_, ?_, ?_⟩
  · have hall := h.all
    rw [hway] at hall
    rw [hmoved]
    have hswap : (new ++ inner ++ outer).Perm (inner ++ new ++ outer) :=
      List.perm_append_comm.append_right outer
    exact (hswap.append_left _).trans hall
  · intro horder
    rw [hdispatcher] at horder
    have hswap : new ++ inner = inner ++ new := by
      by_cases hd : a.dispatcher = none
      · -- one value is on its way at most
        have hsingle := h.single (horder.resolve_left fun hne => hne hd) hd
        rw [hway, List.length_append, List.length_append] at hsingle
        cases inner with
        | nil => rw [List.append_nil, List.nil_append]
        | cons value inner =>
          have hnew : new = [] := by
            rw [← List.length_eq_zero_iff]
            rw [List.length_cons] at hsingle
            omega
          rw [hnew, List.append_nil, List.nil_append]
      · rw [hinner hd, List.append_nil, List.nil_append]
    rw [hmoved, hswap, ← hway]
    exact h.order horder
  · intro hin hd
    have hsingle := h.single hin (hdispatcher ▸ hd)
    rw [hway, List.length_append, List.length_append] at hsingle
    rw [hway', List.length_append]
    omega

/-- Where nothing is left to do the listener has heard everything. -/
theorem heardBy (h : Reaches inTurn name told a) (hrests : a.step = none) :
    (a.heardBy name).Perm told ∧ (a.dispatcher ≠ none ∨ inTurn → a.heardBy name = told) := by
  rcases rests_of_step_eq_none hrests with ⟨hunderWay, hqueue⟩
  have hway : a.onWay name = [] := by
    simp [onWay, hunderWay, hqueue]
  have hall := h.all
  have horder := h.order
  rw [hway, List.append_nil] at hall horder
  exact ⟨hall, horder⟩

end Reaches

end FlagReplica.Audience
