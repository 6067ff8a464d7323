import FlagReplica.Proofs.Source.Reports
import FlagReplica.Proofs.Stream.Lifecycle
import FlagReplica.Replica

/-!
# Sources at work

A replica works with one source or the other, or with none yet, and what can be said of both is said
here once: where the source stands, what holds of it between two happenings, and what one piece of
its work makes of it. `Source.Advances` collects the latter: the effect on the standing, and the one
status that is announced at most.
-/

namespace FlagReplica.Source

variable {σ : Type} {source source' : Source σ}

/-- Where a source stands. A replica without a source stands as one whose source has done nothing
yet. -/
def standing : Source σ → Standing
  | idle gateway => ⟨true, gateway.status.state, .pending⟩
  | refused s | streaming s => s.standing
  | polling s => s.standing

/-- The state of the status is part of where a source stands. -/
theorem standing_state (source : Source σ) :
    source.standing.state = source.gateway.status.state := by
  cases source <;> rfl

/-- A stop ends whatever source there is. -/
theorem standing_stop (made : source.readiness?.isSome = true) :
    source.stop.standing = source.standing.ended := by
  cases source with
  | idle gateway => exact absurd made (by simp [readiness?])
  | refused s => exact s.standing_stopWith none
  | streaming s => exact s.standing_stopWith none
  | polling s => exact s.standing_stopWith none

/-- The signal of a source is part of where it stands too. -/
theorem readiness?_eq (made : source.readiness?.isSome = true) :
    source.readiness? = some source.standing.readiness := by
  cases source with
  | idle gateway => exact absurd made (by simp [readiness?])
  | refused s => exact absurd made (by simp [readiness?])
  | streaming s => rfl
  | polling s => rfl

/-- What holds of a source between two happenings, where no connection is refused: the failures on
record are numbered, and a stream is registered for its store's health once at most. -/
inductive Orderly : Source σ → Prop where
  | idle {g : Gateway σ} (recorded : g.Recorded) : Orderly (.idle g)
  | streaming {s : StreamSource σ} (sound : s.Sound) (once : s.subscriptions ≤ 1) :
      Orderly (.streaming s)
  | polling {s : PollSource σ} (recorded : s.gateway.Recorded) : Orderly (.polling s)

namespace Orderly

theorem recorded (h : source.Orderly) : source.gateway.Recorded := by
  cases h with
  | idle recorded => exact recorded
  | streaming sound once => exact sound.recorded
  | polling recorded => exact recorded

/-- Where nobody can wait for a start to end there is no source yet. -/
theorem idle_of_unmade (h : source.Orderly) (hunmade : source.readiness? = none) :
    ∃ g, source = .idle g := by
  cases h with
  | @idle g recorded => exact ⟨g, rfl⟩
  | streaming sound once => exact absurd hunmade (by simp [readiness?])
  | polling recorded => exact absurd hunmade (by simp [readiness?])

/-- Another gateway makes no difference if it has recorded the same. -/
theorem withGateway (h : source.Orderly) {g : Gateway σ} (hg : g.Recorded) :
    (source.withGateway g).Orderly := by
  cases h with
  | idle recorded => exact .idle hg
  | streaming sound once => exact .streaming ⟨sound.stopsUpon, sound.address, hg⟩ once
  | polling recorded => exact .polling hg

end Orderly

/-- Only the state of the gateway matters for where the source stands. -/
theorem standing_withGateway {g : Gateway σ}
    (hstate : g.status.state = source.gateway.status.state) :
    (source.withGateway g).standing = source.standing := by
  cases source with
  | idle gateway => exact congrArg (fun state => Standing.mk true state .pending) hstate
  | refused s => exact StreamSource.standing_congr rfl hstate rfl
  | streaming s => exact StreamSource.standing_congr rfl hstate rfl
  | polling s =>
    exact congrArg (fun state => Standing.mk (!s.stopped) state s.readiness) hstate

/-! ## Pieces of work -/

/-- What one piece of work makes of a source, by whether it ends the source and whether it stores a
full data set. -/
structure Advances (ends stores : Prop) (source source' : Source σ) : Prop where
  orderly : source'.Orderly
  made : source'.readiness?.isSome = source.readiness?.isSome
  effect : source.standing.Effect ends stores source'.standing
  moves : source.gateway.Moves source'.gateway

namespace Advances

variable {ends stores : Prop}

theorem refl (h : source.Orderly) (hends : ¬ ends) (hstores : ¬ stores) :
    Advances ends stores source source :=
  ⟨h, rfl, .kept hends hstores, .of_same (.refl _)⟩

theorem stop (h : source.Orderly) (made : source.readiness?.isSome = true) (hends : ends) :
    Advances ends stores source source.stop := by
  have hended : source.standing.Effect ends stores source.stop.standing := by
    rw [standing_stop made]
    exact .ended hends
  cases h with
  | idle recorded => exact absurd made (by simp [readiness?])
  | streaming sound once =>
    have hreports := StreamSource.Reports.stopWith sound none
    exact ⟨.streaming (sound.stopWith none) (Nat.le_trans hreports.subscriptions once), rfl,
      hended, hreports.moves⟩
  | polling recorded =>
    have hmoves := PollSource.stopWith_moves recorded none
    exact ⟨.polling (hmoves.recorded recorded), rfl, hended, hmoves⟩

section Stream

variable {s s' : StreamSource σ}

/-- The worker of a stream takes what the line delivers. -/
theorem take (h : (Source.streaming s).Orderly) {d : Delivered} (haccept : s.accept d = some s') :
    Advances (Happening.taken d).Ends (Happening.taken d).StoresAll (.streaming s)
      (.streaming s') := by
  rcases h with _ | ⟨sound, once⟩
  have hreports := StreamSource.Reports.accept sound haccept
  rcases StreamSource.accept_effect haccept sound with ⟨hsound, heffect⟩
  exact ⟨.streaming hsound (Nat.le_trans hreports.subscriptions once), rfl, heffect,
    hreports.moves⟩

/-- A source hears of its store's health. -/
theorem hearPublished (h : source.Orderly) (health : Health) :
    Advances False False source (source.hearPublished health) := by
  cases id h with
  | idle recorded => exact .refl h id id
  | polling recorded => exact .refl h id id
  | @streaming s sound once =>
    show Advances False False (.streaming s) (.streaming (s.hearPublished health))
    rcases StreamSource.Reports.hearPublished_eq once health with hnone | hone
    · rw [hnone]
      exact .refl h id id
    · have hreports := StreamSource.Reports.hearHealth sound health
      have hgoes := StreamSource.hearHealth_goesOn sound health
      have heffect : s.standing.Effect False False (s.hearHealth health).2.standing := by
        rcases hgoes.standing with hkept | hinterrupted
        · rw [hkept]
          exact .kept id id
        · rw [hinterrupted]
          exact .interrupted id id
      rw [hone]
      exact ⟨.streaming hgoes.sound (Nat.le_trans hreports.subscriptions once), rfl, heffect,
        hreports.moves⟩

/-- A stream ends a write that its store has answered. -/
theorem write [Repository σ] (h : (Source.streaming s).Orderly) {c : Change}
    (writing : s.writing = some c) :
    Advances (Happening.written c (Gateway.request s.gateway.store c).result).Ends
      (Happening.written c (Gateway.request s.gateway.store c).result).StoresAll
      (.streaming { s with gateway := s.gateway.asked c }) (.streaming s.write.2) := by
  rcases h with _ | ⟨sound, once⟩
  have hreports := StreamSource.Reports.write sound writing
  rcases StreamSource.write_effect writing sound with ⟨hsound, heffect⟩
  exact ⟨.streaming hsound (Nat.le_trans hreports.subscriptions once), rfl, heffect,
    hreports.moves⟩

end Stream

section Polls

variable {s : PollSource σ}

/-- A fetch has an outcome. -/
theorem receive (h : (Source.polling s).Orderly) (outcome : Except Fault Payload) :
    Advances (PollHappening.fetched outcome).Ends (PollHappening.fetched outcome).StoresAll
      (.polling s) (.polling (s.receive outcome)) := by
  have hmoves := PollSource.receive_moves h.recorded outcome
  exact ⟨.polling (hmoves.recorded h.recorded), rfl, s.receive_effect outcome, hmoves⟩

/-- A polling source ends a write that its store has answered. -/
theorem writeAll [Repository σ] (h : (Source.polling s).Orderly) {data : DataSet}
    (writing : s.writing = some data) :
    Advances
      (Happening.written (.replace data)
        (Gateway.request s.gateway.store (.replace data)).result).Ends
      (Happening.written (.replace data)
        (Gateway.request s.gateway.store (.replace data)).result).StoresAll
      (.polling { s with gateway := s.gateway.asked (.replace data) }) (.polling s.write) := by
  have hmoves := PollSource.write_moves h.recorded writing
  have hasked : (s.gateway.asked (.replace data)).Recorded := h.recorded
  have heffect := PollSource.write_effect writing
  have hstores : ∀ answer : Except Fault Bool, (PollHappening.written data answer).StoresAll =
      (Happening.written (.replace data) answer).StoresAll := by
    intro answer
    cases answer <;> rfl
  rw [hstores] at heffect
  exact ⟨.polling (hmoves.recorded hasked), rfl, heffect, hmoves⟩

end Polls

end Advances

end FlagReplica.Source
