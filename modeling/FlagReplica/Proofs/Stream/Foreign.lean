import FlagReplica.Proofs.Stream.EventOutcome
import FlagReplica.Proofs.Stream.Journal
import FlagReplica.Proofs.Stream.Losses

/-!
# Events for newer readers

An event about one item whose path names no item of a known kind is meant for a newer reader and is
skipped. It has to be complete for that: its payload is decoded before its path is looked at, so
that one without the member that its message wants besides the path fails like any other.
-/

namespace FlagReplica

open Json (Value Members)

/-! ## Reading -/

/-- What an event lacks if it brings no more than a path. -/
def Message.lacking : Message → InvalidData
  | .delete => .noVersion
  | m => .noData m

/-- The members of a payload have what a message wants besides the path: a deletion its version,
which is an integer, and every other message its data. -/
def Message.Complete : Message → Members → Prop
  | .delete, members => ∃ version, Table.get? members ("version" : Text) =
      some (.number (.integer version))
  | _, members => ∃ content, Table.get? members ("data" : Text) = some content

namespace StreamEvent

/-- An event about one item, with a payload that is an object with a path, the path of no item of a
known kind. Nothing is said of the other members. -/
structure Foreign (e : StreamEvent) (m : Message) (members : Members) (path : Text) : Prop where
  name : Message.ofName? e.name = some m
  single : m ≠ .put
  read : Json.read e.data = .ok (.object members)
  names : Table.get? members ("path" : Text) = some (.text path)
  unknown : ItemPath.parse? path = none

namespace Foreign

variable {e : StreamEvent} {m : Message} {members : Members} {path : Text}

/-- The members of such an event are found. -/
theorem load (h : e.Foreign m members path) :
    (Payload.text e.data).load = .ok (.object members) := by
  rw [Payload.load, h.read, Payload.ofRead]

theorem pathOf (h : e.Foreign m members path) : Payload.pathOf m members = .ok path := by
  simp only [Payload.pathOf, h.names]

/-- Decoding a patch comes down to whether it has data. -/
theorem toPatch (h : e.Foreign .patch members path) :
    (Payload.text e.data).toPatch =
      match Table.get? members ("data" : Text) with
      | some content => .ok ⟨path, content⟩
      | none => .error (.invalidData (.noData .patch)) := by
  rw [Payload.toPatch, h.load]
  change (Payload.pathOf .patch members >>= _) = _
  rw [h.pathOf]
  rfl

/-- Decoding a deletion comes down to whether it has a version. -/
theorem toRemoval (h : e.Foreign .delete members path) :
    (Payload.text e.data).toRemoval =
      match Table.get? members ("version" : Text) with
      | some (.number (.integer version)) => .ok ⟨path, version⟩
      | _ => .error (.invalidData .noVersion) := by
  rw [Payload.toRemoval, h.load]
  change (Payload.pathOf .delete members >>= _) = _
  rw [h.pathOf]
  rfl

/-- A complete event of this sort asks for nothing. -/
theorem reading?_of_complete (h : e.Foreign m members path) (hc : m.Complete members) :
    e.reading? = some (.ok (.skip m path)) := by
  rw [reading?, h.name, Option.map_some]
  cases m with
  | put => exact absurd rfl h.single
  | patch =>
    rcases hc with ⟨content, hdata⟩
    rw [Message.read, h.toPatch, hdata]
    change some (Patch.reading ⟨path, content⟩) = _
    simp only [Patch.reading, h.unknown]
  | delete =>
    rcases hc with ⟨version, hversion⟩
    rw [Message.read, h.toRemoval, hversion]
    change some (Except.ok (Removal.reading ⟨path, version⟩)) = _
    simp only [Removal.reading, h.unknown]

/-- One that is not complete cannot be decoded. -/
theorem reading?_of_incomplete (h : e.Foreign m members path) (hc : ¬ m.Complete members) :
    e.reading? = some (.error (.invalidData m.lacking)) := by
  rw [reading?, h.name, Option.map_some]
  cases m with
  | put => exact absurd rfl h.single
  | patch =>
    have hpatch : (Payload.text e.data).toPatch = .error (.invalidData (.noData .patch)) := by
      rw [h.toPatch]
      split
      · rename_i content hdata
        exact absurd ⟨content, hdata⟩ hc
      · rfl
    rw [Message.read, hpatch]
    rfl
  | delete =>
    have hremoval : (Payload.text e.data).toRemoval = .error (.invalidData .noVersion) := by
      rw [h.toRemoval]
      split
      · rename_i version hversion
        exact absurd ⟨version, hversion⟩ hc
      · rfl
    rw [Message.read, hremoval]
    rfl

end Foreign

end StreamEvent

/-! ## Handling -/

namespace StreamSource

variable {σ : Type} {s : StreamSource σ} {e : StreamEvent}

/-- A worker that settles neither records an attempt to connect nor begins one. -/
theorem settle_attempts (s : StreamSource σ) :
    s.settle.telemetry = s.telemetry ∧ s.settle.attemptStart = s.attemptStart := by
  rcases s.settle_eq with h | h
  · rw [h]
    exact ⟨rfl, rfl⟩
  · rw [h, endWorker]
    split
    · exact ⟨rfl, rfl⟩
    · exact ⟨rfl, rfl⟩

/-- What an event that was skipped leaves behind: a notice. Where the line is open there is nothing
else, so that the source goes on like its twin without the notice; a line that was closed before has
delivered its last. -/
structure Skipped [Repository σ] (s s' : StreamSource σ) (n : Notice) : Prop where
  gateway : s'.gateway = s.gateway.note n
  readiness : s'.readiness = s.readiness
  running : s'.running = true
  telemetry : s'.telemetry = s.telemetry
  attemptStart : s'.attemptStart = s.attemptStart
  interrupts : s'.line.interrupts = s.line.interrupts
  goesOn : s.line.phase = .open →
    s' = s.note n ∧ ∀ d, Option.Rel Twin (s.deliver d) (s'.deliver d)
  ends : s.line.phase ≠ .open → s'.worker = .ended

variable [Repository σ]

/-- An event about an item of an unknown kind is skipped. -/
theorem Serving.skipped (hs : s.Serving) {m : Message} {path : Text}
    (h : e.reading? = some (.ok (.skip m path))) :
    ∃ s', s.deliver (.event e) = some s' ∧ Skipped s s' (.unknownPath m path) := by
  have haccept : s.accept (.event e) = some (s.handed.receive e).2.settle :=
    accept_of_running hs.worker hs.running _
  rw [receive_of_skip h] at haccept
  have hidle : (s.handed.note (.unknownPath m path)).settle.writing = none := by
    rw [settle_writing]
    exact hs.writing
  have hattempts := settle_attempts (s.handed.note (.unknownPath m path))
  refine ⟨(s.handed.note (.unknownPath m path)).settle, ?_, ?_, ?_, ?_, hattempts.1, hattempts.2,
    ?_, ?_, ?_⟩
  · rw [StreamSource.deliver, haccept, Option.map_some, write_of_idle hidle]
  · rw [settle_gateway]
    rfl
  · rw [settle_readiness]
    rfl
  · rw [settle_running]
    exact hs.running
  · rw [settle_interrupts]
    rfl
  · -- on an open line nothing but the note in the journal is left behind
    intro ho
    have hsame : (s.handed.note (.unknownPath m path)).settle = s.note (.unknownPath m path) := by
      rw [handed_of_open ho]
      exact settle_of_open ho
    rw [hsame]
    exact ⟨rfl, (Twin.of_note s _).deliver⟩
  · -- on a line that is not open the worker ends, with nothing left to write
    intro hphase
    have hclosed : (s.handed.note (.unknownPath m path)).line.phase = .closed := if_neg hphase
    rw [settle, if_pos ⟨hclosed, by rw [Option.isNone_iff_eq_none]; exact hs.writing⟩]
    exact endWorker_worker (Or.inl hs.worker)

/-- Whatever a running source has been through, an event that is meant for a newer reader is skipped
exactly if it is complete: the store, the status, the signal and the record of attempts stay as they
are, nothing is broken off, and the next delivery is handled as if the event had not come. One
that is not complete fails like any other: it breaks the line off once and is reported as invalid
data. -/
theorem Reached.foreign_outcome (h : s.Reached) (hr : s.running = true) (hw : s.worker = .running)
    (hidle : s.writing = none) {m : Message} {members : Members} {path : Text}
    (he : e.Foreign m members path) :
    ∃ s', s.deliver (.event e) = some s' ∧
      (m.Complete members ∧ Skipped s s' (.unknownPath m path) ∨
        ¬ m.Complete members ∧ Struck s s' ⟨.data, 0, some m.lacking.text⟩) := by
  have hs := h.serving hr hw hidle
  by_cases hc : m.Complete members
  · rcases hs.skipped (he.reading?_of_complete hc) with ⟨s', hdelivered, hskipped⟩
    exact ⟨s', hdelivered, Or.inl ⟨hc, hskipped⟩⟩
  · have hreading := he.reading?_of_incomplete hc
    rcases hs.struck_of_misread hreading with ⟨s', failure, hdelivered, hfails, hstruck⟩
    refine ⟨s', hdelivered, Or.inr ⟨hc, ?_⟩⟩
    cases hfails with
    | invalid reading =>
      rw [hreading] at reading
      rcases Fault.invalidData.inj (Except.error.inj (Option.some.inj reading)) with rfl
      exact hstruck
    | tooLong reading =>
      rw [hreading] at reading
      exact absurd reading (by simp)
    | refused asks _ => exact absurd asks (by simp [StreamEvent.change?, hreading])

end StreamSource

/-! ## Two events for newer readers -/

namespace StreamEvent

/-- The deletion of something of an unknown kind. -/
def newer : StreamEvent :=
  ⟨"delete", "\x7b\"path\":\"/wrong\",\"version\":1\x7d"⟩

theorem newer_foreign :
    newer.Foreign .delete [("path", .string "/wrong"), ("version", .integer 1)] "/wrong" :=
  ⟨by decide, by decide, by cbv, by rfl, by decide⟩

/-- A new version of something of an unknown kind, without the version. -/
def bare : StreamEvent :=
  ⟨"patch", "\x7b\"path\":\"/wrong\"\x7d"⟩

theorem bare_foreign : bare.Foreign .patch [("path", .string "/wrong")] "/wrong" :=
  ⟨by decide, by decide, by cbv, by rfl, by decide⟩

end StreamEvent

namespace StreamSource

/-- After the start the deletion is skipped: only the notice of it is new, and the source goes on
like its twin. -/
theorem Reached.foreign_outcome_of_newer :
    sample.start.2.deliver (.event .newer) =
        some (sample.start.2.note (.unknownPath .delete "/wrong")) ∧
      ∀ d, Option.Rel Twin (sample.start.2.deliver d)
        ((sample.start.2.note (.unknownPath .delete "/wrong")).deliver d) := by
  have hreached : sample.start.2.Reached :=
    ⟨sample, [.started], sample_fresh, .snoc .nil (.start _)⟩
  have hcomplete : Message.delete.Complete
      [("path", .string "/wrong"), ("version", .integer 1)] := ⟨1, rfl⟩
  rcases hreached.foreign_outcome rfl rfl rfl StreamEvent.newer_foreign
      with ⟨s', hdelivered, ⟨-, hskipped⟩ | ⟨hincomplete, -⟩⟩
  · rcases hskipped.goesOn rfl with ⟨rfl, htwin⟩
    exact ⟨hdelivered, htwin⟩
  · exact absurd hcomplete hincomplete

/-- The other event is meant for a newer reader no less, and breaks the line off. -/
theorem broken_off_by_bare :
    sample.start.2.Reached ∧
      StreamEvent.bare.Foreign .patch [("path", .string "/wrong")] "/wrong" ∧
      ∃ s', sample.start.2.deliver (.event .bare) = some s' ∧
        s'.line.interrupts = sample.start.2.line.interrupts + 1 ∧
        s'.gateway.status ≠ sample.start.2.gateway.status := by
  have hreached : sample.start.2.Reached :=
    ⟨sample, [.started], sample_fresh, .snoc .nil (.start _)⟩
  have hincomplete : ¬ Message.patch.Complete [("path", .string "/wrong")] := by
    rintro ⟨content, hdata⟩
    cases hdata
  have hreading := StreamEvent.bare_foreign.reading?_of_incomplete hincomplete
  rcases (hreached.serving rfl rfl rfl).struck_of_misread hreading
      with ⟨s', failure, hdelivered, -, hstruck⟩
  refine ⟨hreached, StreamEvent.bare_foreign, s', hdelivered, hstruck.interrupts, ?_⟩
  intro hstatus
  -- nothing was on record before
  have herror := hstruck.reported.error
  rw [hstatus] at herror
  exact absurd herror (by simp [sample, start, note, Gateway.note, Gateway.create])

end StreamSource

end FlagReplica
