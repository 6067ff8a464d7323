import FlagReplica.Json.Reader
import FlagReplica.Proofs.Lookup

/-!
# Distinct names

The reader keeps one member for each name of an object. So in a value that was read no object, at
any depth, has two members of one name, and what is found under a name does not depend on the order
of the members.
-/

namespace FlagReplica

/-- A chain of steps succeeds only if each of them does. -/
theorem Except.of_bind_eq_ok {ε α β : Type} {x : Except ε α} {f : α → Except ε β} {b : β}
    (h : x >>= f = .ok b) : ∃ a, x = .ok a ∧ f a = .ok b := by
  cases x with
  | error e => exact absurd h (by simp [bind, Except.bind])
  | ok a => exact ⟨a, rfl, h⟩

namespace Json

/-- A value in which no object has two members of one name. -/
inductive Value.Distinct : Value → Prop where
  | null : Distinct .null
  | boolean (b : Bool) : Distinct (.boolean b)
  | number (n : Number) : Distinct (.number n)
  | text (t : Text) : Distinct (.text t)
  | array {items : List Value} (h : ∀ v ∈ items, Distinct v) : Distinct (.array items)
  | object {members : Members} (names : members.keys.Nodup)
      (h : ∀ m ∈ members, Distinct m.2) : Distinct (.object members)

namespace Value.Distinct

theorem names {members : Members} (h : Distinct (.object members)) : members.keys.Nodup := by
  cases h with
  | object names _ => exact names

theorem get? {members : Members} (h : Distinct (.object members)) {name : Text} {v : Value}
    (hv : Table.get? members name = some v) : v.Distinct := by
  cases h with
  | object _ h => exact h _ (Table.mem_of_get? hv)

/-- An object that is written member by member has distinct names. -/
theorem ofEntries {members : List (Text × Value)} (h : ∀ m ∈ members, m.2.Distinct) :
    Distinct (.object (Table.ofEntries members)) := by
  refine .object (Table.ofEntries_keys_nodup members) ?_
  intro m hm
  exact h m (Table.mem_of_mem_ofEntries hm)

end Value.Distinct

/-- Literals have no members. -/
theorem readLiteral?_distinct {s rest : Text} {v : Value}
    (h : readLiteral? s = some (v, rest)) : v.Distinct := by
  rcases List.exists_of_findSome?_eq_some h with ⟨⟨word, w⟩, hmem, hw⟩
  rcases Option.map_eq_some_iff.1 hw with ⟨rest', -, heq⟩
  rcases Prod.mk.inj heq with ⟨rfl, -⟩
  simp only [literals, List.mem_cons, Prod.mk.injEq, List.not_mem_nil, or_false] at hmem
  rcases hmem with ⟨-, rfl⟩ | ⟨-, rfl⟩ | ⟨-, rfl⟩ | ⟨-, rfl⟩ | ⟨-, rfl⟩ | ⟨-, rfl⟩
  · exact .null
  · exact .boolean true
  · exact .boolean false
  · exact .number _
  · exact .number _
  · exact .number _

/-- What the three parts of the reader, which call each other, give with some fuel. -/
structure ReadsDistinct (fuel : Nat) : Prop where
  value : ∀ {s v rest}, readValue fuel s = .ok (v, rest) → v.Distinct
  items : ∀ {s items rest}, readItems fuel s = .ok (items, rest) → ∀ v ∈ items, v.Distinct
  members : ∀ {s members rest}, readMembers fuel s = .ok (members, rest) →
    ∀ m ∈ members, m.2.Distinct

namespace ReadsDistinct

variable {fuel : Nat}

theorem readValue_succ (ih : ReadsDistinct fuel) {s rest : Text} {v : Value}
    (h : readValue (fuel + 1) s = .ok (v, rest)) : v.Distinct := by
  unfold readValue at h
  split at h
  · -- a string
    rcases Except.of_bind_eq_ok h with ⟨⟨t, rest₁⟩, -, h⟩
    rcases Prod.mk.inj (Except.ok.inj h) with ⟨rfl, -⟩
    exact .text t
  · -- an array
    split at h
    · rcases Prod.mk.inj (Except.ok.inj h) with ⟨rfl, -⟩
      exact .array (by simp)
    · rcases Except.of_bind_eq_ok h with ⟨⟨items, rest₁⟩, hitems, h⟩
      rcases Prod.mk.inj (Except.ok.inj h) with ⟨rfl, -⟩
      exact .array (ih.items hitems)
  · -- an object
    split at h
    · rcases Prod.mk.inj (Except.ok.inj h) with ⟨rfl, -⟩
      exact .object (by simp [Table.keys]) (by simp)
    · rcases Except.of_bind_eq_ok h with ⟨⟨members, rest₁⟩, hmembers, h⟩
      rcases Prod.mk.inj (Except.ok.inj h) with ⟨rfl, -⟩
      exact .ofEntries (ih.members hmembers)
  · -- a literal or a number
    split at h
    · rename_i w rest₁ hliteral
      rcases Prod.mk.inj (Except.ok.inj h) with ⟨rfl, -⟩
      exact readLiteral?_distinct hliteral
    · rcases Except.of_bind_eq_ok h with ⟨⟨n, rest₁⟩, -, h⟩
      rcases Prod.mk.inj (Except.ok.inj h) with ⟨rfl, -⟩
      exact .number n

theorem readItems_succ (ih : ReadsDistinct fuel) {s rest : Text} {items : List Value}
    (h : readItems (fuel + 1) s = .ok (items, rest)) : ∀ v ∈ items, v.Distinct := by
  unfold readItems at h
  rcases Except.of_bind_eq_ok h with ⟨⟨first, rest₁⟩, hfirst, h⟩
  dsimp only at h
  split at h
  · -- the last item
    rcases Prod.mk.inj (Except.ok.inj h) with ⟨rfl, -⟩
    simpa using ih.value hfirst
  · rcases Except.of_bind_eq_ok h with ⟨⟨others, rest₂⟩, hothers, h⟩
    rcases Prod.mk.inj (Except.ok.inj h) with ⟨rfl, -⟩
    intro v hv
    rcases List.mem_cons.1 hv with rfl | hv
    · exact ih.value hfirst
    · exact ih.items hothers v hv
  · exact absurd h (by simp)

theorem readMembers_succ (ih : ReadsDistinct fuel) {s rest : Text}
    {members : List (Text × Value)} (h : readMembers (fuel + 1) s = .ok (members, rest)) :
    ∀ m ∈ members, m.2.Distinct := by
  unfold readMembers at h
  split at h
  · rcases Except.of_bind_eq_ok h with ⟨⟨name, rest₁⟩, -, h⟩
    dsimp only at h
    split at h
    · rcases Except.of_bind_eq_ok h with ⟨⟨first, rest₂⟩, hfirst, h⟩
      dsimp only at h
      split at h
      · -- the last member
        rcases Prod.mk.inj (Except.ok.inj h) with ⟨rfl, -⟩
        simpa using ih.value hfirst
      · rcases Except.of_bind_eq_ok h with ⟨⟨others, rest₃⟩, hothers, h⟩
        rcases Prod.mk.inj (Except.ok.inj h) with ⟨rfl, -⟩
        intro m hm
        rcases List.mem_cons.1 hm with rfl | hm
        · exact ih.value hfirst
        · exact ih.members hothers m hm
      · exact absurd h (by simp)
    · exact absurd h (by simp)
  · exact absurd h (by simp)

end ReadsDistinct

/-- The induction is on the fuel, which every call to another part takes from. -/
theorem readsDistinct (fuel : Nat) : ReadsDistinct fuel := by
  induction fuel with
  | zero =>
    constructor
    · intro s v rest h
      exact absurd h (by simp [readValue])
    · intro s items rest h
      exact absurd h (by simp [readItems])
    · intro s members rest h
      exact absurd h (by simp [readMembers])
  | succ fuel ih => exact ⟨ih.readValue_succ, ih.readItems_succ, ih.readMembers_succ⟩

/-- A value that was read has distinct names. -/
theorem read_distinct {t : Text} {v : Value} (h : read t = .ok v) : v.Distinct := by
  have decoded : ∀ {v : Value}, readDecoded t = .ok v → v.Distinct := by
    intro v h
    unfold readDecoded at h
    split at h
    · rename_i w hwhole
      rcases Except.ok.inj h with rfl
      unfold readWholeText at hwhole
      rcases Except.of_bind_eq_ok hwhole with ⟨⟨u, rest⟩, hread, hrest⟩
      dsimp only at hrest
      split at hrest
      · rcases Except.ok.inj hrest with rfl
        exact (readsDistinct _).value hread
      · exact absurd hrest (by simp)
    · exact absurd h (by simp)
    · exact absurd h (by simp)
  unfold read at h
  split at h
  · exact absurd h (by simp)
  · exact decoded h

end Json

end FlagReplica
