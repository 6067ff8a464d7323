import FlagReplica.Proofs.Change.Unreadable
import FlagReplica.Proofs.Stream.EventOutcome

/-!
# What an event that cannot be used is reported as

An event whose payload cannot be used is reported as invalid data, unless the payload is unreadable:
then the failure is of no sort that is known. Decoding makes the same difference, whatever a payload
is decoded as and however it is handed over.
-/

namespace FlagReplica

namespace StreamSource

variable {σ : Type} [Repository σ] {s : StreamSource σ} {e : StreamEvent}

/-- A running source reports an event that cannot be used as invalid data exactly if its payload is
readable. -/
theorem Serving.deliver_unusable (hs : s.Serving) {m : Message}
    (hm : Message.ofName? e.name = some m) {fault : Fault}
    (h : m.read (.text e.data) = .error fault) :
    ∃ s' failure, s.deliver (.event e) = some s' ∧
      s'.gateway.status.error = some (s.gateway.record failure) ∧
      (failure.kind = .data ∧ (∀ fault, ¬ (Payload.text e.data).UnreadableAs m.form fault) ∨
        failure.kind = .unknown ∧ (Payload.text e.data).UnreadableAs m.form fault) := by
  have hreading : e.reading? = some (.error fault) := by
    rw [StreamEvent.reading?, hm, Option.map_some, h]
  rcases hs.struck_of_misread hreading with ⟨s', failure, hdelivered, hfails, hstruck⟩
  refine ⟨s', failure, hdelivered, hstruck.reported.error, ?_⟩
  cases hfails with
  | @invalid reason reading =>
    left
    refine ⟨rfl, ?_⟩
    intro fault' hunreadable
    -- an unreadable payload would be refused for that
    have hread := Message.read_of_unreadable hunreadable
    rw [StreamEvent.reading?, hm, Option.map_some, hread] at reading
    rcases Except.error.inj (Option.some.inj reading) with rfl
    rcases hunreadable with ⟨q, -, hq⟩
    exact hq.not_isInvalid ⟨reason, rfl⟩
  | @tooLong count reading =>
    right
    rw [hreading] at reading
    rcases Except.error.inj (Option.some.inj reading) with rfl
    refine ⟨rfl, ?_⟩
    rcases Message.read_unreadable h with ⟨reason, hinvalid⟩ | hunreadable
    · exact absurd hinvalid (by simp)
    · exact hunreadable
  | refused asks _ => exact absurd asks (by simp [StreamEvent.change?, hreading])

/-- Whatever a running source has been through: decoding a payload comes to data or to a refusal as
invalid data exactly if the payload is readable, and one that is not is refused for the octets that
cannot be decoded or for an integer of too many digits that stands in it. An event that cannot be
used is reported, as invalid data if its payload is readable and as a failure of no known sort if it
is not. -/
theorem Reached.unusable_outcome (h : s.Reached) (hr : s.running = true)
    (hw : s.worker = .running) (hidle : s.writing = none) :
    (∀ (p : Payload) (form : Payload.Form),
      ((∀ fault, p.refusal? form = some fault → fault.IsInvalid) ↔
        ∀ fault, ¬ p.UnreadableAs form fault) ∧
      (∀ fault, p.UnreadableAs form fault → p.refusal? form = some fault) ∧
      ∀ q fault, p.Opens form q → q.Unreadable fault →
        (∃ bytes r, q = .octets bytes ∧ Octets.decodeGuessed bytes = .error r ∧
          fault = .undecodable r) ∨
        ∃ count t, q.Spells t ∧ t.Overlong count ∧ fault = .tooManyDigits count) ∧
    ∀ (e : StreamEvent) (m : Message) (fault : Fault), Message.ofName? e.name = some m →
      m.read (.text e.data) = .error fault →
      ∃ s' failure, s.deliver (.event e) = some s' ∧
        s'.gateway.status.error = some (s.gateway.record failure) ∧
        (failure.kind = .data ↔ ∀ fault, ¬ (Payload.text e.data).UnreadableAs m.form fault) ∧
        (failure.kind = .unknown ↔ ∃ fault, (Payload.text e.data).UnreadableAs m.form fault) := by
  refine ⟨?_, ?_⟩
  · intro p form
    refine ⟨p.refused_as_invalid_iff form, fun fault => Payload.UnreadableAs.refusal?, ?_⟩
    intro q fault _ hq
    -- only these two faults make a payload unreadable
    cases fault with
    | tooManyDigits count =>
      rcases hq.overlong with ⟨t, hspells, hoverlong⟩
      exact Or.inr ⟨count, t, hspells, hoverlong, rfl⟩
    | undecodable r =>
      left
      cases hq with
      | undecodable refused => exact ⟨_, r, rfl, refused, rfl⟩
    | _ => cases hq
  · intro e m fault hm hread
    rcases (h.serving hr hw hidle).deliver_unusable hm hread
        with ⟨s', failure, hdelivered, herror, ⟨hkind, hreadable⟩ | ⟨hkind, hunreadable⟩⟩
    · refine ⟨s', failure, hdelivered, herror, ?_, ?_⟩
      · exact ⟨fun _ => hreadable, fun _ => hkind⟩
      · refine ⟨fun hunknown => ?_, fun ⟨fault, h⟩ => absurd h (hreadable fault)⟩
        rw [hkind] at hunknown
        exact absurd hunknown (by decide)
    · refine ⟨s', failure, hdelivered, herror, ?_, ?_⟩
      · refine ⟨fun hdata => ?_, fun hreadable => absurd hunreadable (hreadable fault)⟩
        rw [hkind] at hdata
        exact absurd hdata (by decide)
      · exact ⟨fun _ => ⟨fault, hunreadable⟩, fun _ => hkind⟩

end StreamSource

/-! ## Two unreadable payloads -/

/-- An octet that begins nothing in any of the encodings. -/
def Payload.stray : Payload :=
  .octets [0xFF]

/-- Decoded as a removal, such a payload is refused, but not as invalid data. -/
theorem Payload.refusal?_stray :
    stray.refusal? .removal = some (.undecodable ⟨"utf-8", 0, [0xFF], .invalidStart⟩) ∧
      ¬ (Fault.undecodable ⟨"utf-8", 0, [0xFF], .invalidStart⟩).IsInvalid := by
  refine ⟨rfl, ?_⟩
  rintro ⟨reason, h⟩
  exact absurd h (by simp)

/-- An event whose data is one integer, of one digit more than is read. -/
def StreamEvent.endless : StreamEvent :=
  ⟨"patch", Json.ones (digitLimit + 1)⟩

theorem StreamEvent.endless_unreadable :
    (Payload.text endless.data).Unreadable (.tooManyDigits (digitLimit + 1)) :=
  .text (Json.read_ones (Nat.lt_succ_self _))

/-- After the start such an event is reported as a failure of no known sort, and the octet is
refused for what it is. -/
theorem StreamSource.Reached.unusable_outcome_of_endless :
    (∃ s' failure, sample.start.2.deliver (.event .endless) = some s' ∧
      s'.gateway.status.error = some ⟨0, failure, 0⟩ ∧ failure.kind = .unknown) ∧
    ¬ ∀ fault, Payload.stray.refusal? .removal = some fault → fault.IsInvalid := by
  have hreached : sample.start.2.Reached :=
    ⟨sample, [.started], sample_fresh, .snoc .nil (.start _)⟩
  have hname : Message.ofName? StreamEvent.endless.name = some .patch := by decide
  have hunreadable : (Payload.text StreamEvent.endless.data).UnreadableAs Message.patch.form
      (.tooManyDigits (digitLimit + 1)) := ⟨_, .whole, StreamEvent.endless_unreadable⟩
  rcases hreached.unusable_outcome rfl rfl rfl with ⟨hdecoding, hevents⟩
  constructor
  · rcases hevents .endless .patch _ hname (Message.read_of_unreadable hunreadable)
        with ⟨s', failure, hdelivered, herror, -, hunknown⟩
    exact ⟨s', failure, hdelivered, herror, hunknown.2 ⟨_, hunreadable⟩⟩
  · rw [(hdecoding .stray .removal).1]
    intro hreadable
    exact hreadable _ ⟨_, .whole, .undecodable rfl⟩

end FlagReplica
