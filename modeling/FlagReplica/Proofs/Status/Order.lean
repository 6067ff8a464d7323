import FlagReplica.Proofs.Audience.Served
import FlagReplica.Proofs.Status.Report

/-!
# In which order statuses are heard

A report assigns a status and then tells the listeners of it, and other reports may come in between:
those of other threads, and those of a listener who has just heard of a status. So there may be
statuses that have been assigned and not announced yet, and they need not be announced in order.
Each is announced once all the same, and each listener hears of it once. It hears of the statuses in
the order in which they were assigned as long as they are announced in turn.
-/

namespace FlagReplica

variable {σ : Type}

/-- An assignment tells nobody, and the status is the one that it brings, if it brings one. -/
theorem Gateway.assign_snd (g : Gateway σ) (state : SyncState) (error? : Option ErrorRecord) :
    (g.assign state error?).2.audience = g.audience ∧
      (g.assign state error?).2.status = (g.assign state error?).1.getD g.status := by
  unfold assign
  split <;> exact ⟨rfl, rfl⟩

/-! ## Reports under way -/

/-- A gateway, and the statuses that have been assigned and not announced yet. -/
structure Bulletin (σ : Type) where
  gateway : Gateway σ
  unannounced : List Status := []

namespace Bulletin

/-- What happens to it. -/
inductive Event where
  /-- A status is assigned, if the report makes a difference. -/
  | assigned (status? : Option Status)
  /-- A status is announced, while others wait that were assigned before it. -/
  | announced (ahead : List Status) (status : Status)
  | enlisted (name : Text)
  | struck (name : Text)
  /-- A listener hears a status or goes on, or a delivery begins or ends. -/
  | attended
  | elapsed

namespace Event

/-- The status that was assigned, if one was. -/
def assigned? : Event → Option Status
  | assigned status? => status?
  | _ => none

/-- The status that was announced, if one was. -/
def announced? : Event → Option Status
  | announced _ status => some status
  | _ => none

/-- Nobody registers or takes off the listener of a name. -/
def Spares (name : Text) : Event → Prop
  | enlisted other => other ≠ name
  | struck other => other ≠ name
  | _ => True

end Event

/-- One event. -/
inductive Step : Bulletin σ → Event → Bulletin σ → Prop where
  | assign (b : Bulletin σ) (state : SyncState) (error? : Option ErrorRecord) :
      Step b (.assigned (b.gateway.assign state error?).1)
        ⟨(b.gateway.assign state error?).2,
          b.unannounced ++ (b.gateway.assign state error?).1.toList⟩
  | announce {b : Bulletin σ} (ahead : List Status) {behind : List Status} {status : Status}
      (waits : b.unannounced = ahead ++ status :: behind) :
      Step b (.announced ahead status)
        ⟨{ b.gateway with audience := b.gateway.audience.notify status }, ahead ++ behind⟩
  | attend {b : Bulletin σ} {audience : Audience Status}
      (serves : b.gateway.audience.Serves audience) :
      Step b .attended { b with gateway := { b.gateway with audience } }
  | enlist (b : Bulletin σ) (name : Text) :
      Step b (.enlisted name)
        { b with gateway := { b.gateway with audience := b.gateway.audience.add name } }
  | strike (b : Bulletin σ) (name : Text) :
      Step b (.struck name)
        { b with gateway := { b.gateway with audience := b.gateway.audience.remove name } }
  | elapse (b : Bulletin σ) (store : σ) (now : Millis) (journal : List Notice) :
      Step b .elapsed
        { b with
          gateway := { b.gateway with
            audience := b.gateway.audience.takeNotices.2
            store
            now
            journal } }

/-- Events one after another, the latest at the end, each of them allowed when it came. -/
inductive Run (allows : Bulletin σ → Event → Prop) (b : Bulletin σ) :
    List Event → Bulletin σ → Prop where
  | nil : Run allows b [] b
  | snoc {past : List Event} {b' b'' : Bulletin σ} {e : Event} (run : Run allows b past b')
      (allowed : allows b' e) (step : Step b' e b'') : Run allows b (past ++ [e]) b''

/-- Statuses are announced in turn: none is announced before one that was assigned earlier, and,
where no dispatcher delivers them, none while another is on its way to the listener. -/
def InTurn (name : Text) (b : Bulletin σ) : Event → Prop
  | .announced ahead _ =>
    ahead = [] ∧ (b.gateway.audience.dispatcher = none → b.gateway.audience.onWay name = [])
  | _ => True

theorem inTurn_of_quiet {name : Text} {b : Bulletin σ} {e : Event} (h : e.announced? = none) :
    InTurn name b e := by
  cases e with
  | announced ahead status => exact absurd h (by simp [Event.announced?])
  | _ => trivial

/-- The statuses that were assigned, in order. -/
def assignments (events : List Event) : List Status :=
  events.filterMap Event.assigned?

/-- The statuses that were announced, in order. -/
def announcements (events : List Event) : List Status :=
  events.filterMap Event.announced?

theorem assignments_append (events later : List Event) :
    assignments (events ++ later) = assignments events ++ assignments later :=
  List.filterMap_append

theorem assignments_concat (events : List Event) (e : Event) :
    assignments (events ++ [e]) = assignments events ++ e.assigned?.toList := by
  cases h : e.assigned? <;> simp [assignments, h]

theorem announcements_concat (events : List Event) (e : Event) :
    announcements (events ++ [e]) = announcements events ++ e.announced?.toList := by
  cases h : e.announced? <;> simp [announcements, h]

/-! ## What every run preserves -/

variable {allows : Bulletin σ → Event → Prop} {b b' b'' : Bulletin σ} {e : Event}
  {events : List Event} {inTurn : Prop} {name : Text} {first : Status}

/-- Every status that was assigned has been announced once or waits to be, and what was announced
reaches the listener. -/
structure Tracks (inTurn : Prop) (name : Text) (first : Status) (events : List Event)
    (b : Bulletin σ) : Prop where
  reaches : b.gateway.audience.Reaches inTurn name (announcements events)
  all : (announcements events ++ b.unannounced).Perm (assignments events)
  turn : inTurn → announcements events ++ b.unannounced = assignments events
  last : (first :: assignments events).getLast? = some b.gateway.status

namespace Tracks

/-- Where nothing is assigned or announced only the listeners change. -/
theorem aside (h : Tracks inTurn name first events b) (hassigned : e.assigned? = none)
    (hannounced : e.announced? = none)
    (hreaches : b'.gateway.audience.Reaches inTurn name (announcements events))
    (hunannounced : b'.unannounced = b.unannounced)
    (hstatus : b'.gateway.status = b.gateway.status) :
    Tracks inTurn name first (events ++ [e]) b' := by
  -- nothing is assigned or announced, so that the three lists are those before
  have hassignments : assignments (events ++ [e]) = assignments events := by
    rw [assignments_concat, hassigned]
    exact List.append_nil _
  have hannouncements : announcements (events ++ [e]) = announcements events := by
    rw [announcements_concat, hannounced]
    exact List.append_nil _
  constructor
  · rwa [hannouncements]
  · rw [hannouncements, hassignments, hunannounced]
    exact h.all
  · rw [hannouncements, hassignments, hunannounced]
    exact h.turn
  · rw [hassignments, hstatus]
    exact h.last

theorem step (h : Tracks inTurn name first events b) (hs : Step b e b') (hspares : e.Spares name)
    (hturn : inTurn → InTurn name b e) : Tracks inTurn name first (events ++ [e]) b' := by
  cases hs with
  | assign state error? =>
    rcases b.gateway.assign_snd state error? with ⟨haudience, hstatus⟩
    have hannouncements : announcements (events ++ [.assigned (b.gateway.assign state error?).1]) =
        announcements events := by
      rw [announcements_concat]
      exact List.append_nil _
    constructor
    · rw [hannouncements, haudience]
      exact h.reaches
    · rw [hannouncements, assignments_concat, ← List.append_assoc]
      exact h.all.append_right _
    · intro hin
      rw [hannouncements, assignments_concat, ← List.append_assoc, h.turn hin]
      rfl
    · rw [assignments_concat, hstatus]
      cases hbrought : (b.gateway.assign state error?).1 with
      | none => simpa [Event.assigned?] using h.last
      | some status => exact List.getLast?_concat (l := first :: assignments events)
  | @announce ahead behind status waits =>
    have hassignments : assignments (events ++ [.announced ahead status]) = assignments events := by
      rw [assignments_concat]
      exact List.append_nil _
    have hannouncements : announcements (events ++ [.announced ahead status]) =
        announcements events ++ [status] :=
      announcements_concat events _
    constructor
    · rw [hannouncements]
      exact h.reaches.notify status fun hin => (hturn hin).2
    · -- it leaves the middle of those that wait for the end of those that were announced
      have hall := h.all
      rw [waits] at hall
      have hmiddle : (status :: (ahead ++ behind)).Perm (ahead ++ status :: behind) :=
        List.perm_middle.symm
      rw [hannouncements, hassignments, List.append_assoc]
      exact (hmiddle.append_left _).trans hall
    · intro hin
      have hall := h.turn hin
      rw [waits, (hturn hin).1] at hall
      rw [hannouncements, hassignments, (hturn hin).1, ← hall]
      simp
    · rw [hassignments]
      exact h.last
  | attend serves => exact h.aside rfl rfl (h.reaches.serves serves) rfl rfl
  | enlist other => exact h.aside rfl rfl (h.reaches.add hspares) rfl rfl
  | strike other => exact h.aside rfl rfl (h.reaches.remove hspares) rfl rfl
  | elapse store now journal => exact h.aside rfl rfl h.reaches.takeNotices rfl rfl

end Tracks

theorem Run.tracks (hnone : b.unannounced = []) (hlistens : b.gateway.audience.Listens name [])
    (run : Run allows b events b') (hspares : ∀ e ∈ events, e.Spares name) :
    Tracks (∀ c e, allows c e → InTurn name c e) name b.gateway.status events b' := by
  induction run with
  | nil =>
    refine ⟨.of_listens hlistens, ?_, fun _ => ?_, rfl⟩
    · rw [hnone]
      exact .refl _
    · rw [hnone]
      rfl
  | @snoc events b' b'' e run allowed step ih =>
    have hearlier := ih fun e he => hspares e (List.mem_append_left _ he)
    exact hearlier.step step (hspares e (List.mem_append_right _ List.mem_cons_self))
      fun hin => hin b' e allowed

/-- Whatever reports come in between: every status that is assigned is announced once, and a
listener hears once of everything that is announced, as soon as nothing is left to do. With a
dispatcher it hears of the statuses in the order in which they are announced. If they are announced
in turn it hears of them in the order in which they were assigned, with a dispatcher or without. -/
theorem Run.in_order (hnone : b.unannounced = []) (hlistens : b.gateway.audience.Listens name [])
    (run : Run allows b events b') (hspares : ∀ e ∈ events, e.Spares name) :
    (b.gateway.status :: assignments events).getLast? = some b'.gateway.status ∧
      (announcements events ++ b'.unannounced).Perm (assignments events) ∧
      (b'.gateway.audience.heardBy name ++ b'.gateway.audience.onWay name).Perm
        (announcements events) ∧
      (b'.gateway.audience.dispatcher ≠ none →
        b'.gateway.audience.heardBy name ++ b'.gateway.audience.onWay name =
          announcements events) ∧
      ((∀ c e, allows c e → InTurn name c e) →
        b'.gateway.audience.heardBy name ++ b'.gateway.audience.onWay name ++ b'.unannounced =
          assignments events) ∧
      (b'.unannounced = [] → b'.gateway.audience.step = none →
        (b'.gateway.audience.heardBy name).Perm (assignments events) ∧
          ((∀ c e, allows c e → InTurn name c e) →
            b'.gateway.audience.heardBy name = assignments events)) := by
  have htracks := run.tracks hnone hlistens hspares
  have hreaches := htracks.reaches
  refine ⟨htracks.last, htracks.all, hreaches.all, fun hd => hreaches.order (.inl hd), ?_, ?_⟩
  · intro hin
    rw [hreaches.order (.inr hin)]
    exact htracks.turn hin
  · intro hdone hrests
    -- nothing is on its way any more, so that what was announced is what was heard
    rcases hreaches.heardBy hrests with ⟨hall, horder⟩
    have hannounced := htracks.all
    have hturn := htracks.turn
    rw [hdone, List.append_nil] at hannounced hturn
    exact ⟨hall.trans hannounced, fun hin => (horder (.inr hin)).trans (hturn hin)⟩

/-! ## Reports with nothing in between -/

/-- A run goes on with another. -/
theorem Run.trans {later : List Event} (run : Run allows b events b')
    (run' : Run allows b' later b'') : Run allows b (events ++ later) b'' := by
  induction run' with
  | nil =>
    rw [List.append_nil]
    exact run
  | snoc _ allowed step ih =>
    rw [← List.append_assoc]
    exact ih.snoc allowed step

/-- The next thing about the innermost delivery. -/
theorem Run.attend {audience : Audience Status} (run : Run allows b events b')
    (allowed : allows b' .attended) (hs : b'.gateway.audience.step = some audience) :
    Run allows b (events ++ [.attended]) { b' with gateway := { b'.gateway with audience } } :=
  run.snoc allowed (.attend (.innermost hs))

/-- The status that has waited longest is announced while nothing is on its way. -/
theorem Run.announce {status : Status} {behind : List Status} (run : Run (InTurn name) b events b')
    (waits : b'.unannounced = status :: behind)
    (hprompt : b'.gateway.audience.dispatcher = none → b'.gateway.audience.onWay name = []) :
    Run (InTurn name) b (events ++ [.announced [] status])
      ⟨{ b'.gateway with audience := b'.gateway.audience.notify status }, behind⟩ := by
  have hturn : InTurn name b' (.announced [] status) := ⟨rfl, hprompt⟩
  exact run.snoc hturn (.announce [] waits)

/-- Going on for some steps is a run in turn. -/
theorem Run.attends (b : Bulletin σ) (fuel : Nat) :
    ∃ events, assignments events = [] ∧ Run (InTurn name) b events
      { b with gateway := { b.gateway with audience := b.gateway.audience.run fuel } } := by
  -- by induction on the number of steps that the audience takes
  induction fuel generalizing b with
  | zero => exact ⟨[], rfl, .nil⟩
  | succ fuel ih =>
    cases hs : b.gateway.audience.step with
    | none =>
      simp only [Audience.run, hs]
      exact ⟨[], rfl, .nil⟩
    | some next =>
      have hnothing : Run (InTurn name) b [] b := .nil
      have hstep := hnothing.attend (inTurn_of_quiet rfl) hs
      rcases ih { b with gateway := { b.gateway with audience := next } } with ⟨later, hnone, run⟩
      simp only [Audience.run, hs]
      exact ⟨[.attended] ++ later, hnone, hstep.trans run⟩

/-- An update with nothing in between is a run in turn, if nothing is on its way to the listener
where no dispatcher delivers it. -/
theorem Run.update (g : Gateway σ) (state : SyncState) (error? : Option ErrorRecord)
    (hprompt : g.audience.dispatcher = none → g.audience.onWay name = []) :
    ∃ events, assignments events = (g.update state error?).1.toList ∧
      Run (InTurn name) ⟨g, []⟩ events ⟨(g.update state error?).2, []⟩ := by
  have hnothing : Run (InTurn name) ⟨g, []⟩ [] ⟨g, []⟩ := .nil
  have hassigned := hnothing.snoc (inTurn_of_quiet rfl) (.assign _ state error?)
  have haudience := (g.assign_snd state error?).1
  unfold Gateway.update
  cases hbrought : g.assign state error? with
  | mk status? g' =>
    rw [hbrought] at hassigned haudience
    cases status? with
    | none => exact ⟨_, rfl, hassigned⟩
    | some status =>
      have hannounced := hassigned.announce (show _ = status :: [] from rfl) (by
        rw [haudience]
        exact hprompt)
      -- a dispatcher delivers later; without one the audience is served before the report is over
      have htold : ∃ later, assignments later = [] ∧ Run (InTurn name)
          ⟨{ g' with audience := g'.audience.notify status }, []⟩ later
          ⟨{ g' with audience := g'.audience.tell status }, []⟩ := by
        unfold Audience.tell
        split
        · exact ⟨[], rfl, .nil⟩
        · exact Run.attends ⟨{ g' with audience := g'.audience.notify status }, []⟩ _
      rcases htold with ⟨later, hnone, run⟩
      have hdone := (hannounced.trans run).snoc (inTurn_of_quiet rfl) (.elapse _ g'.store g'.now
        (g'.journal ++ (g'.audience.tell status).takeNotices.1))
      refine ⟨_, ?_, hdone⟩
      rw [assignments_concat, assignments_append, hnone]
      rfl

/-! ## Two listeners -/

/-- A gateway of a store in memory, with two listeners. -/
def shared (dispatcher : Option Text) : Bulletin Memory :=
  let created := Gateway.create {} dispatcher 0
  ⟨{ created with audience := (created.audience.add "first").add "second" }, []⟩

theorem shared_listens (dispatcher : Option Text) :
    (shared dispatcher).gateway.audience.Listens "second" [] := by
  have hempty : (Gateway.create ({} : Memory) dispatcher 0).audience.Retains "second" :=
    ⟨fun c hc => absurd hc List.not_mem_nil, fun d hd => absurd hd List.not_mem_nil⟩
  exact .of_unused ((hempty.add "first").add "second") rfl ⟨rfl, rfl, rfl⟩

/-- The status after the first full data set, and the one after a stop. -/
def synced : Status := ⟨.valid, 0, none⟩
def ended : Status := ⟨.off, 0, none⟩

/-- The first listener hears that the status is valid and stops the source, and only then is the
second listener told. -/
def nested : List Event :=
  [.assigned (some synced), .announced [] synced, .attended, .assigned (some ended),
    .announced [] ended, .attended, .attended, .attended, .attended, .attended]

/-- Two reports assign their statuses, and the later one tells the listeners first. -/
def overtaken : List Event :=
  [.assigned (some synced), .assigned (some ended), .announced [synced] ended, .announced [] synced,
    .attended, .attended, .attended, .attended, .attended, .attended, .attended, .attended]

/-- In both cases the second listener hears that the status is off, and then that it is valid. -/
theorem out_of_order :
    (∃ b, Run (fun _ _ => True) (shared none) nested b ∧ assignments nested = [synced, ended] ∧
        b.gateway.status = ended ∧ b.unannounced = [] ∧ b.gateway.audience.step = none ∧
        b.gateway.audience.heardBy "second" = [ended, synced]) ∧
      ∃ b, Run (fun _ _ => True) (shared (some "source-status")) overtaken b ∧
        assignments overtaken = [synced, ended] ∧ b.gateway.status = ended ∧ b.unannounced = [] ∧
        b.gateway.audience.step = none ∧
        b.gateway.audience.heardBy "second" = [ended, synced] := by
  have hnothing : ∀ b : Bulletin Memory, Run (fun _ _ => True) b [] b := fun b => .nil
  constructor
  · have hheard := (((hnothing (shared none)).snoc trivial (.assign _ .valid none)).snoc trivial
      (.announce [] rfl)).attend trivial rfl
    have hstopped := (hheard.snoc trivial (.assign _ .off none)).snoc trivial
      (.announce [] rfl)
    -- the first listener reports the end while the second has not heard of the success
    have hinner := ((hstopped.attend trivial rfl).attend trivial rfl).attend trivial rfl
    exact ⟨_, (hinner.attend trivial rfl).attend trivial rfl, rfl, rfl, rfl, rfl, rfl⟩
  · have hassigned := ((hnothing (shared (some "source-status"))).snoc trivial
      (.assign _ .valid none)).snoc trivial (.assign _ .off none)
    have hannounced := (hassigned.snoc trivial (.announce [synced] rfl)).snoc trivial
      (.announce [] rfl)
    -- the report of the end overtakes the other one between its assignment and its announcement
    have hlater := (((hannounced.attend trivial rfl).attend trivial rfl).attend trivial rfl).attend
      trivial rfl
    have hearlier := (((hlater.attend trivial rfl).attend trivial rfl).attend trivial rfl).attend
      trivial rfl
    exact ⟨_, hearlier, rfl, rfl, rfl, rfl, rfl⟩

/-- Where the other report comes as soon as the second listener has heard of the first, it hears of
both in order. -/
theorem Run.in_order_of_two_reports :
    ∃ events b, Run (InTurn "second") (shared none) events b ∧
      assignments events = [synced, ended] ∧ b.unannounced = [] ∧
      b.gateway.audience.step = none ∧
      b.gateway.audience.heardBy "second" = [synced, ended] := by
  have quiet : ∀ {b : Bulletin Memory} {e : Event}, e.announced? = none → InTurn "second" b e :=
    inTurn_of_quiet
  have hnothing : Run (InTurn "second") (shared none) [] (shared none) := .nil
  have hfirst := (((hnothing.snoc (quiet rfl) (.assign _ .valid none)).announce rfl
    fun _ => rfl).attend (quiet rfl) rfl).attend (quiet rfl) rfl
  have hlast := ((hfirst.snoc (quiet rfl) (.assign _ .off none)).announce rfl
    fun _ => rfl).attend (quiet rfl) rfl
  have hrun := ((hlast.attend (quiet rfl) rfl).attend (quiet rfl) rfl).attend (quiet rfl) rfl
  rcases hrun.in_order rfl (shared_listens none) (by simp [Event.Spares]) with
    ⟨-, -, -, -, -, hrests⟩
  exact ⟨_, _, hrun, rfl, rfl, rfl, (hrests rfl rfl).2 fun _ _ h => h⟩

end Bulletin

end FlagReplica
