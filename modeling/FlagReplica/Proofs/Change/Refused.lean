import FlagReplica.Proofs.Change.Decoded

/-!
# Refused payloads

Why decoding refuses a payload that is a text or a value. There are only two sorts of reason, so
that whoever meets such a fault need not think of the others.
-/

namespace FlagReplica

open Json (Value Members)

/-- If a sequence of two steps fails, one of them does. -/
theorem Except.of_bind_eq_error {ε α β : Type} {x : Except ε α} {f : α → Except ε β} {e : ε}
    (h : x >>= f = .error e) : x = .error e ∨ ∃ a, x = .ok a ∧ f a = .error e := by
  cases x with
  | error e' => exact Or.inl (congrArg Except.error (Except.error.inj h))
  | ok a => exact Or.inr ⟨a, rfl, h⟩

/-- If a list of steps fails, one of them does. -/
theorem Except.of_mapM_eq_error {ε α β : Type} {f : α → Except ε β} {l : List α} {e : ε}
    (h : l.mapM f = .error e) : ∃ a ∈ l, f a = .error e := by
  induction l with
  | nil => exact absurd h (by simp [pure, Except.pure])
  | cons a l ih =>
    rw [List.mapM_cons] at h
    rcases of_bind_eq_error h with h | ⟨b, -, h⟩
    · exact ⟨a, by simp, h⟩
    · rcases of_bind_eq_error h with h | ⟨bs, -, h⟩
      · rcases ih h with ⟨a', ha', hfault⟩
        exact ⟨a', List.mem_cons_of_mem _ ha', hfault⟩
      · exact absurd h (by simp [pure, Except.pure])

/-- A fault that tells of data that do not fit. -/
def Fault.IsInvalid (fault : Fault) : Prop :=
  ∃ reason, fault = .invalidData reason

/-- A fault that decoding meets: data that do not fit, or a number that is too long to be read. -/
inductive Fault.OfDecoding : Fault → Prop where
  | invalidData (reason : InvalidData) : OfDecoding (.invalidData reason)
  | tooManyDigits (count : Nat) : OfDecoding (.tooManyDigits count)

theorem Fault.IsInvalid.ofDecoding {fault : Fault} (h : fault.IsInvalid) : fault.OfDecoding := by
  rcases h with ⟨reason, rfl⟩
  exact .invalidData reason

namespace Payload

/-! ## What a loaded value is refused for -/

theorem membersOf_refused {part : Part} {v : Value} {fault : Fault}
    (h : membersOf part v = .error fault) : fault.IsInvalid := by
  unfold membersOf at h
  split at h
  · exact absurd h (by simp)
  · exact ⟨_, (Except.error.inj h).symm⟩

theorem descriptorOf_refused {kind : Kind} {v : Value} {fault : Fault}
    (h : descriptorOf kind v = .error fault) : fault.IsInvalid := by
  unfold descriptorOf at h
  split at h
  · exact absurd h (by simp)
  · exact ⟨_, (Except.error.inj h).symm⟩

theorem pathOf_refused {m : Message} {members : Members} {fault : Fault}
    (h : pathOf m members = .error fault) : fault.IsInvalid := by
  unfold pathOf at h
  split at h
  · exact absurd h (by simp)
  · exact ⟨_, (Except.error.inj h).symm⟩

theorem entry_refused {kind : Kind} {e : Text × Value} {fault : Fault}
    (h : (do
      let d ← descriptorOf kind e.2
      return (e.1, d)) = .error fault) : fault.IsInvalid := by
  rcases Except.of_bind_eq_error h with h | ⟨d, -, h⟩
  · exact descriptorOf_refused h
  · exact absurd h (by simp [pure, Except.pure])

theorem collectionOf_refused {members : Members} {kind : Kind} {fault : Fault}
    (h : collectionOf members kind = .error fault) : fault.IsInvalid := by
  unfold collectionOf at h
  dsimp only at h
  split at h
  · rcases Except.of_bind_eq_error h with h | ⟨entries, -, h⟩
    · exact membersOf_refused h
    · rcases Except.of_mapM_eq_error h with ⟨e, -, he⟩
      exact entry_refused he
  · -- an absent collection has no entries
    rcases Except.of_mapM_eq_error h with ⟨e, -, he⟩
    exact entry_refused he

/-- Where the members of an object are wanted, the payload cannot be loaded, or does not fit, or its
members are refused. -/
theorem members_refused {p : Payload} {part : Part} {α : Type} {f : Members → Except Fault α}
    {fault : Fault} (h : (do f (← membersOf part (← p.load))) = .error fault) :
    p.load = .error fault ∨ fault.IsInvalid ∨
      ∃ members, p.load = .ok (.object members) ∧ f members = .error fault := by
  rcases Except.of_bind_eq_error h with h | ⟨v, hload, h⟩
  · exact Or.inl h
  · rcases Except.of_bind_eq_error h with h | ⟨members, hmembers, h⟩
    · exact Or.inr (Or.inl (membersOf_refused h))
    · rw [membersOf_eq_ok hmembers] at hload
      exact Or.inr (Or.inr ⟨members, hload, h⟩)

/-! ## What a payload is refused for -/

theorem toDataSet_refused {p : Payload} {fault : Fault} (h : p.toDataSet = .error fault) :
    p.load = .error fault ∨ fault.IsInvalid := by
  rcases members_refused h with h | h | ⟨members, -, h⟩
  · exact Or.inl h
  · exact Or.inr h
  · rcases Except.of_mapM_eq_error h with ⟨kind, -, hkind⟩
    rcases Except.of_bind_eq_error hkind with h | ⟨collection, -, h⟩
    · exact Or.inr (collectionOf_refused h)
    · exact absurd h (by simp [pure, Except.pure])

/-- A full data set may come as text within the payload, which is loaded on its own. -/
theorem toPut_refused {p : Payload} {fault : Fault} (h : p.toPut = .error fault) :
    p.load = .error fault ∨ fault.IsInvalid ∨
      ∃ members v, p.load = .ok (.object members) ∧
        Table.get? members ("data" : Text) = some v ∧ (value v).load = .error fault := by
  rcases members_refused h with h | h | ⟨members, hload, h⟩
  · exact Or.inl h
  · exact Or.inr (Or.inl h)
  · split at h
    · rename_i v hv
      rcases toDataSet_refused h with h | h
      · exact Or.inr (Or.inr ⟨members, v, hload, hv, h⟩)
      · exact Or.inr (Or.inl h)
    · exact Or.inr (Or.inl ⟨_, (Except.error.inj h).symm⟩)

/-- The events about one item: their path is read first, and `f` is what they say of the item. -/
theorem located_refused {p : Payload} {m : Message} {α : Type}
    {f : Members → Text → Except Fault α} {fault : Fault}
    (h : (do
      let members ← membersOf (.message m) (← p.load)
      let path ← pathOf m members
      f members path) = .error fault)
    (hf : ∀ {members : Members} {path : Text}, f members path = .error fault → fault.IsInvalid) :
    p.load = .error fault ∨ fault.IsInvalid := by
  rcases members_refused h with h | h | ⟨members, -, h⟩
  · exact Or.inl h
  · exact Or.inr h
  · rcases Except.of_bind_eq_error h with h | ⟨path, -, h⟩
    · exact Or.inr (pathOf_refused h)
    · exact Or.inr (hf h)

theorem toPatch_refused {p : Payload} {fault : Fault} (h : p.toPatch = .error fault) :
    p.load = .error fault ∨ fault.IsInvalid := by
  refine located_refused h fun {members path} h => ?_
  split at h
  · exact absurd h (by simp [pure, Except.pure])
  · exact ⟨_, (Except.error.inj h).symm⟩

theorem toRemoval_refused {p : Payload} {fault : Fault} (h : p.toRemoval = .error fault) :
    p.load = .error fault ∨ fault.IsInvalid := by
  refine located_refused h fun {members path} h => ?_
  split at h
  · exact absurd h (by simp [pure, Except.pure])
  · exact ⟨_, (Except.error.inj h).symm⟩

/-! ## Payloads that are not octets -/

/-- A payload that is not a sequence of octets. -/
inductive Legible : Payload → Prop where
  | text (t : Text) : Legible (.text t)
  | value (v : Value) : Legible (.value v)

theorem ofRead_refused {r : Except Json.ReadError Value} {fault : Fault}
    (h : ofRead r = .error fault) : fault.OfDecoding := by
  unfold ofRead at h
  split at h
  · exact absurd h (by simp)
  · rcases Except.error.inj h with rfl
    exact .invalidData _
  · rcases Except.error.inj h with rfl
    exact .tooManyDigits _

theorem Legible.load_refused {p : Payload} (hp : p.Legible) {fault : Fault}
    (h : p.load = .error fault) : fault.OfDecoding := by
  cases hp with
  | text t => exact ofRead_refused h
  | value v =>
    cases v with
    | text t => exact ofRead_refused h
    | _ => exact absurd h (by simp [load])

/-- Whether it is the loading that fails or what is loaded that does not fit. -/
theorem Legible.refused {p : Payload} (hp : p.Legible) {fault : Fault}
    (h : p.load = .error fault ∨ fault.IsInvalid) : fault.OfDecoding := by
  rcases h with h | h
  · exact hp.load_refused h
  · exact h.ofDecoding

theorem Legible.toDataSet_refused {p : Payload} (hp : p.Legible) {fault : Fault}
    (h : p.toDataSet = .error fault) : fault.OfDecoding :=
  hp.refused (Payload.toDataSet_refused h)

theorem Legible.toPut_refused {p : Payload} (hp : p.Legible) {fault : Fault}
    (h : p.toPut = .error fault) : fault.OfDecoding := by
  rcases Payload.toPut_refused h with h | h | ⟨members, v, -, -, h⟩
  · exact hp.load_refused h
  · exact h.ofDecoding
  · exact (Legible.value v).load_refused h

end Payload

/-- The item of a new version is decoded only after its path has told of which kind it is. -/
theorem Patch.reading_refused {p : Patch} {fault : Fault} (h : p.reading = .error fault) :
    fault.IsInvalid := by
  unfold Patch.reading at h
  split at h
  · exact absurd h (by simp)
  · split at h
    · exact absurd h (by simp)
    · rename_i hd
      rcases Except.error.inj h with rfl
      exact Payload.descriptorOf_refused hd

/-- Reading a message fails over its payload only. -/
theorem Message.read_refused {m : Message} {p : Payload} (hp : p.Legible) {fault : Fault}
    (h : m.read p = .error fault) : fault.OfDecoding := by
  cases m with
  | put =>
    rcases Except.of_bind_eq_error h with h | ⟨data, -, h⟩
    · exact hp.toPut_refused h
    · exact absurd h (by simp [pure, Except.pure])
  | patch =>
    rcases Except.of_bind_eq_error h with h | ⟨patch, -, h⟩
    · exact hp.refused (Payload.toPatch_refused h)
    · exact (Patch.reading_refused h).ofDecoding
  | delete =>
    rcases Except.of_bind_eq_error h with h | ⟨removal, -, h⟩
    · exact hp.refused (Payload.toRemoval_refused h)
    · exact absurd h (by simp [pure, Except.pure])

end FlagReplica
