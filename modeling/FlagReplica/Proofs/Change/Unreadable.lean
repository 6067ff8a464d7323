import FlagReplica.Proofs.Change.Refused
import FlagReplica.Proofs.Json.Overlong

/-!
# Unreadable payloads

Decoding refuses a payload as invalid data, with two exceptions: octets in none of the encodings,
and a text with an integer of too many digits. The lemmas here tell exactly which payloads those
are. A full data set may come as text within an event and is then read by itself, so the exception
may also be the text within.
-/

namespace FlagReplica

open Json (Value Members)

namespace Payload

/-- A payload that nothing can be read from, though its JSON may well be spelled right: octets in
none of the encodings, or a text in which the reader meets an integer of too many digits. -/
inductive Unreadable : Payload → Fault → Prop where
  | undecodable {bytes : List UInt8} {r : Octets.Refusal}
      (refused : Octets.decodeGuessed bytes = .error r) :
      Unreadable (.octets bytes) (.undecodable r)
  | octets {bytes : List UInt8} {t : Text} {count : Nat}
      (decoded : Octets.decodeGuessed bytes = .ok t)
      (read : Json.readDecoded t = .error (.tooManyDigits count)) :
      Unreadable (.octets bytes) (.tooManyDigits count)
  | text {t : Text} {count : Nat} (read : Json.read t = .error (.tooManyDigits count)) :
      Unreadable (.text t) (.tooManyDigits count)
  | value {t : Text} {count : Nat} (read : Json.read t = .error (.tooManyDigits count)) :
      Unreadable (.value (.text t)) (.tooManyDigits count)

/-- The text that a payload spells, if it is one to be read. -/
inductive Spells : Payload → Text → Prop where
  | octets {bytes : List UInt8} {t : Text} (decoded : Octets.decodeGuessed bytes = .ok t) :
      Spells (.octets bytes) t
  | text (t : Text) : Spells (.text t) t
  | value (t : Text) : Spells (.value (.text t)) t

namespace Unreadable

variable {p : Payload} {fault : Fault}

/-- Such a payload is not loaded. -/
theorem load (h : p.Unreadable fault) : p.load = .error fault := by
  cases h with
  | undecodable refused => simp only [Payload.load, refused]
  | octets decoded read => simp only [Payload.load, decoded, read, ofRead]
  | text read => simp only [Payload.load, read, ofRead]
  | value read => simp only [Payload.load, read, ofRead]

/-- It is not refused as invalid data. -/
theorem not_isInvalid (h : p.Unreadable fault) : ¬ fault.IsInvalid := by
  rintro ⟨reason, rfl⟩
  cases h

/-- Where digits are too many, they stand in a row in the text that the payload spells. -/
theorem overlong {count : Nat} (h : p.Unreadable (.tooManyDigits count)) :
    ∃ t, p.Spells t ∧ t.Overlong count := by
  cases h with
  | octets decoded read => exact ⟨_, .octets decoded, Json.readDecoded_overlong read⟩
  | text read => exact ⟨_, .text _, Json.read_overlong read⟩
  | value read => exact ⟨_, .value _, Json.read_overlong read⟩

end Unreadable

/-- What a reader cannot make anything of is invalid data, or it is an integer of too many
digits. -/
theorem ofRead_eq_error {r : Except Json.ReadError Value} {fault : Fault}
    (h : ofRead r = .error fault) :
    fault.IsInvalid ∨
      ∃ count, fault = .tooManyDigits count ∧ r = .error (.tooManyDigits count) := by
  unfold ofRead at h
  split at h
  · exact absurd h (by simp)
  · exact Or.inl ⟨_, (Except.error.inj h).symm⟩
  · rename_i count
    exact Or.inr ⟨count, (Except.error.inj h).symm, rfl⟩

/-- A payload that is not loaded is refused as invalid data unless it is unreadable. -/
theorem load_refused {p : Payload} {fault : Fault} (h : p.load = .error fault) :
    fault.IsInvalid ∨ p.Unreadable fault := by
  cases p with
  | text t =>
    -- a reading fails as invalid or for too many digits
    rcases ofRead_eq_error h with hinvalid | ⟨count, rfl, hread⟩
    · exact Or.inl hinvalid
    · exact Or.inr (.text hread)
  | octets bytes =>
    cases hdecode : Octets.decodeGuessed bytes with
    | error r =>
      simp only [load, hdecode] at h
      rcases Except.error.inj h with rfl
      exact Or.inr (.undecodable hdecode)
    | ok t =>
      simp only [load, hdecode] at h
      rcases ofRead_eq_error h with hinvalid | ⟨count, rfl, hread⟩
      · exact Or.inl hinvalid
      · exact Or.inr (.octets hdecode hread)
  | value v =>
    cases v with
    | text t =>
      rcases ofRead_eq_error h with hinvalid | ⟨count, rfl, hread⟩
      · exact Or.inl hinvalid
      · exact Or.inr (.value hread)
    | _ => exact absurd h (by simp [load])

/-! ## The four ways to decode a payload -/

/-- What a payload is decoded as. -/
inductive Form where
  | dataSet
  | put
  | patch
  | removal
deriving DecidableEq

end Payload

/-- The fault that a result is, if it is none to go on with. -/
def Fault.of? {α : Type} : Except Fault α → Option Fault
  | .ok _ => none
  | .error fault => some fault

theorem Fault.of?_eq_some_iff {α : Type} {r : Except Fault α} {fault : Fault} :
    Fault.of? r = some fault ↔ r = .error fault := by
  cases r <;> simp [Fault.of?]

namespace Payload

/-- The fault that decoding a payload meets; `none` if the payload is decoded. -/
def refusal? (p : Payload) : Form → Option Fault
  | .dataSet => Fault.of? p.toDataSet
  | .put => Fault.of? p.toPut
  | .patch => Fault.of? p.toPatch
  | .removal => Fault.of? p.toRemoval

/-- What is read when a payload is decoded: the payload, and the full data set within an event that
brings one. -/
inductive Opens (p : Payload) (form : Form) : Payload → Prop where
  | whole : Opens p form p
  | within {members : Members} {v : Value} (put : form = .put)
      (load : p.load = .ok (.object members))
      (data : Table.get? members ("data" : Text) = some v) : Opens p form (.value v)

/-- A payload is unreadable in a form if something is that has to be read for it. -/
def UnreadableAs (p : Payload) (form : Form) (fault : Fault) : Prop :=
  ∃ q, p.Opens form q ∧ q.Unreadable fault

/-- What cannot be loaded cannot be decoded in any form. -/
theorem refusal?_of_load {p : Payload} {fault : Fault} (h : p.load = .error fault) (form : Form) :
    p.refusal? form = some fault := by
  cases form with
  | dataSet => simp only [refusal?, toDataSet, h]; rfl
  | put => simp only [refusal?, toPut, h]; rfl
  | patch => simp only [refusal?, toPatch, h]; rfl
  | removal => simp only [refusal?, toRemoval, h]; rfl

theorem UnreadableAs.refusal? {p : Payload} {form : Form} {fault : Fault}
    (h : p.UnreadableAs form fault) : p.refusal? form = some fault := by
  rcases h with ⟨q, hopens, hq⟩
  cases hopens with
  | whole => exact refusal?_of_load hq.load form
  | @within members v put load data =>
    subst put
    -- what is within is decoded as a data set of its own
    have hwithin : p.toPut = (Payload.value v).toDataSet := by
      rw [toPut, load]
      dsimp only [bind, Except.bind, membersOf]
      rw [data]
    rw [Payload.refusal?, hwithin]
    exact refusal?_of_load hq.load .dataSet

/-- A payload is refused as invalid data unless it is unreadable. -/
theorem refusal?_refused {p : Payload} {form : Form} {fault : Fault}
    (h : p.refusal? form = some fault) : fault.IsInvalid ∨ p.UnreadableAs form fault := by
  have opened : ∀ {q : Payload}, p.Opens form q → q.load = .error fault →
      fault.IsInvalid ∨ p.UnreadableAs form fault := by
    intro q hopens hload
    exact (load_refused hload).imp_right fun hq => ⟨q, hopens, hq⟩
  cases form with
  | dataSet => exact (toDataSet_refused (Fault.of?_eq_some_iff.1 h)).elim (opened .whole) Or.inl
  | put =>
    rcases toPut_refused (Fault.of?_eq_some_iff.1 h) with h | h | ⟨members, v, hload, hv, h⟩
    · exact opened .whole h
    · exact Or.inl h
    · exact opened (.within rfl hload hv) h
  | patch => exact (toPatch_refused (Fault.of?_eq_some_iff.1 h)).elim (opened .whole) Or.inl
  | removal => exact (toRemoval_refused (Fault.of?_eq_some_iff.1 h)).elim (opened .whole) Or.inl

/-- Decoding comes to data or to a refusal as invalid data exactly for the payloads that are
readable. -/
theorem refused_as_invalid_iff (p : Payload) (form : Form) :
    (∀ fault, p.refusal? form = some fault → fault.IsInvalid) ↔
      ∀ fault, ¬ p.UnreadableAs form fault := by
  constructor
  · intro h fault hunreadable
    rcases hunreadable with ⟨q, hopens, hq⟩
    exact hq.not_isInvalid (h fault (UnreadableAs.refusal? ⟨q, hopens, hq⟩))
  · intro h fault hrefusal
    rcases refusal?_refused hrefusal with hinvalid | hunreadable
    · exact hinvalid
    · exact absurd hunreadable (h fault)

end Payload

/-! ## Messages -/

namespace Message

/-- What the payload of a message is decoded as. -/
def form : Message → Payload.Form
  | put => .put
  | patch => .patch
  | delete => .removal

/-- A message with an unreadable payload is not read. -/
theorem read_of_unreadable {m : Message} {p : Payload} {fault : Fault}
    (h : p.UnreadableAs m.form fault) : m.read p = .error fault := by
  have hrefusal := h.refusal?
  cases m with
  | put =>
    rw [read, Fault.of?_eq_some_iff.1 hrefusal]
    rfl
  | patch =>
    rw [read, Fault.of?_eq_some_iff.1 hrefusal]
    rfl
  | delete =>
    rw [read, Fault.of?_eq_some_iff.1 hrefusal]
    rfl

/-- A message is refused as invalid data unless its payload is unreadable. -/
theorem read_unreadable {m : Message} {p : Payload} {fault : Fault} (h : m.read p = .error fault) :
    fault.IsInvalid ∨ p.UnreadableAs m.form fault := by
  have refused : p.refusal? m.form = some fault →
      fault.IsInvalid ∨ p.UnreadableAs m.form fault := Payload.refusal?_refused
  cases m with
  | put =>
    rcases Except.of_bind_eq_error h with h | ⟨data, -, h⟩
    · exact refused (Fault.of?_eq_some_iff.2 h)
    · exact absurd h (by simp [pure, Except.pure])
  | patch =>
    rcases Except.of_bind_eq_error h with h | ⟨patch, -, h⟩
    · exact refused (Fault.of?_eq_some_iff.2 h)
    · exact Or.inl (Patch.reading_refused h)
  | delete =>
    rcases Except.of_bind_eq_error h with h | ⟨removal, -, h⟩
    · exact refused (Fault.of?_eq_some_iff.2 h)
    · exact absurd h (by simp [pure, Except.pure])

end Message

end FlagReplica
