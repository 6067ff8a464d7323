import FlagReplica.Store.Repository
import Mathlib

/-!
# Updates in any order

What a store in memory holds after updates depends on which updates there were, and neither on their
order nor on how often each came. A write raises the version at its key to the greater of the two,
as `version_upsert` says, so that a run of updates leaves each key at the greatest version it has
seen. `Settled` is that, and no two stores settle differently, as long as no two of the updates
disagree about what a version of an item is.
-/

namespace FlagReplica

/-- A descriptor for the item of a kind at a key. -/
structure Update where
  kind : Kind
  key : Text
  descriptor : Descriptor

namespace Store

/-- The version that is stored at a key, which is below every other where nothing is. -/
def version (s : Store) (kind : Kind) (key : Text) : WithBot Int :=
  match s.get? kind key with
  | some d => d.version
  | none => ⊥

/-- Makes updates one after another, and tells of each whether it was newer. -/
def upsertAll (s : Store) : List Update → List Bool × Store
  | [] => ([], s)
  | u :: us =>
    let (newer, s) := s.upsert u.kind u.key u.descriptor
    let (rest, s) := s.upsertAll us
    (newer :: rest, s)

variable {s s₁ s₂ : Store} {us us₁ us₂ : List Update} {kind other : Kind} {key key' : Text}
  {d : Descriptor}

/-! ## One update -/

@[simp] theorem version_of_some (h : s.get? kind key = some d) :
    s.version kind key = d.version := by
  simp [version, h]

/-- A descriptor is newer exactly if its version is above the one that is stored. -/
theorem isNewer_iff : s.isNewer kind key d = true ↔ s.version kind key < d.version := by
  unfold isNewer version
  cases s.get? kind key with
  | none => simp [WithBot.bot_lt_coe]
  | some old => simp [WithBot.coe_lt_coe]

theorem upsert_fst : (s.upsert kind key d).1 = s.isNewer kind key d := by
  unfold upsert
  split <;> simp [*]

/-- What is not newer leaves the store as it is. -/
theorem upsert_of_outdated (h : d.version ≤ s.version kind key) :
    s.upsert kind key d = (false, s) := by
  have hn : s.isNewer kind key d = false := by
    rw [← Bool.not_eq_true, isNewer_iff]
    exact not_lt_of_ge h
  simp [upsert, hn]

/-- The version at a key after a write to it is the greater of the two, and no other changes. -/
theorem version_upsert :
    (s.upsert kind key d).2.version other key' =
      if kind = other ∧ key = key' then max (s.version kind key) d.version
      else s.version other key' := by
  unfold version
  rw [get?_upsert]
  by_cases hat : kind = other ∧ key = key'
  · rcases hat with ⟨rfl, rfl⟩
    cases hn : s.isNewer kind key d with
    | true =>
      have hlt := isNewer_iff.1 hn
      rw [version] at hlt
      simpa using (max_eq_right hlt.le).symm
    | false =>
      have hle : (d.version : WithBot Int) ≤ s.version kind key := by
        rw [← not_lt, ← isNewer_iff, hn]
        decide
      rw [version] at hle
      simpa using (max_eq_left hle).symm
  · have hnot : ¬ (s.isNewer kind key d = true ∧ kind = other ∧ key = key') := fun h => hat h.2
    rw [if_neg hnot, if_neg hat]

/-- A write lowers no version. -/
theorem version_le_upsert :
    s.version other key' ≤ (s.upsert kind key d).2.version other key' := by
  rw [version_upsert]
  split
  · rename_i hat
    rcases hat with ⟨rfl, rfl⟩
    exact le_max_left _ _
  · exact le_rfl

/-- What is at a key after a write was there before, or it is what was written, and newer. -/
theorem get?_upsert_cases :
    (s.upsert kind key d).2.get? other key' = s.get? other key' ∨
      kind = other ∧ key = key' ∧ s.version other key' < d.version ∧
        (s.upsert kind key d).2.get? other key' = some d := by
  rw [get?_upsert]
  split
  · rename_i hat
    rcases hat with ⟨hn, rfl, rfl⟩
    exact Or.inr ⟨rfl, rfl, isNewer_iff.1 hn, rfl⟩
  · exact Or.inl rfl

/-- Where nothing is stored, whatever comes is newer. -/
theorem isNewer_of_absent (h : s.get? kind key = none) : s.isNewer kind key d = true := by
  rw [isNewer_iff, version, h]
  exact WithBot.bot_lt_coe _

/-- All that a write does. It is told to be newer exactly if its version is above the one that is
stored, in particular where nothing is, and the key holds the greater of the two versions
afterwards, so that the answer is `true` exactly if the version at the key goes up. What is newer is
stored; else nothing changes. No other key changes, of this kind or of another. -/
theorem upsert_spec (s : Store) (kind : Kind) (key : Text) (d : Descriptor) :
    ((s.upsert kind key d).1 = true ↔ s.version kind key < d.version) ∧
      (s.get? kind key = none → (s.upsert kind key d).1 = true) ∧
      ((s.upsert kind key d).1 = true ↔
        s.version kind key < (s.upsert kind key d).2.version kind key) ∧
      (s.upsert kind key d).2.version kind key = max (s.version kind key) d.version ∧
      ((s.upsert kind key d).1 = true → (s.upsert kind key d).2.get? kind key = some d) ∧
      ((s.upsert kind key d).1 = false → (s.upsert kind key d).2 = s) ∧
      ∀ other key', (other, key') ≠ (kind, key) →
        (s.upsert kind key d).2.get? other key' = s.get? other key' := by
  have hversion : (s.upsert kind key d).2.version kind key =
      max (s.version kind key) d.version := by
    rw [version_upsert, if_pos ⟨rfl, rfl⟩]
  have hanswer : (s.upsert kind key d).1 = true ↔ s.version kind key < d.version := by
    rw [upsert_fst, isNewer_iff]
  refine ⟨hanswer, ?_, ?_, hversion, ?_, ?_, ?_⟩
  · intro habsent
    rw [upsert_fst]
    exact isNewer_of_absent habsent
  · -- the maximum is above the stored version exactly if the incoming one is
    rw [hanswer, hversion, lt_max_iff]
    simp
  · intro hn
    rw [upsert_fst] at hn
    simp [get?_upsert, hn]
  · intro hn
    rw [upsert_fst] at hn
    simp [upsert, hn]
  · intro other key' hne
    have hnot : ¬ (s.isNewer kind key d = true ∧ kind = other ∧ key = key') := by
      rintro ⟨-, rfl, rfl⟩
      exact hne rfl
    rw [get?_upsert, if_neg hnot]

/-! ## A run of updates -/

/-- What a store has settled on after updates: each key holds what it held before, or an update that
is newer than that, and no update is newer than what its key holds. -/
structure Settled (s : Store) (us : List Update) (s' : Store) : Prop where
  initialized : s'.initialized = s.initialized
  origin : ∀ kind key, s'.get? kind key = s.get? kind key ∨
    ∃ u ∈ us, u.kind = kind ∧ u.key = key ∧ s.version kind key < u.descriptor.version ∧
      s'.get? kind key = some u.descriptor
  newest : ∀ u ∈ us, u.descriptor.version ≤ s'.version u.kind u.key
  mono : ∀ kind key, s.version kind key ≤ s'.version kind key

theorem settled_upsertAll (s : Store) (us : List Update) : s.Settled us (s.upsertAll us).2 := by
  induction us generalizing s with
  | nil => exact ⟨rfl, fun _ _ => Or.inl rfl, by simp, fun _ _ => le_rfl⟩
  | cons u us ih =>
    have h := ih (s.upsert u.kind u.key u.descriptor).2
    refine ⟨h.initialized.trans initialized_upsert, ?_, ?_, ?_⟩
    · intro kind key
      rcases h.origin kind key with hold | ⟨u', hu', hkind, hkey, hlt, hget⟩
      · rcases get?_upsert_cases with hsame | ⟨hkind, hkey, hlt, hget⟩
        · exact Or.inl (hold.trans hsame)
        · exact Or.inr ⟨u, List.mem_cons_self, hkind, hkey, hlt, hold.trans hget⟩
      · exact Or.inr ⟨u', List.mem_cons_of_mem _ hu', hkind, hkey,
          version_le_upsert.trans_lt hlt, hget⟩
    · intro u' hu'
      rcases List.mem_cons.1 hu' with rfl | hu'
      · refine le_trans ?_ (h.mono _ _)
        rw [version_upsert, if_pos ⟨rfl, rfl⟩]
        exact le_max_right _ _
      · exact h.newest u' hu'
    · intro kind key
      exact version_le_upsert.trans (h.mono kind key)

/-- Updates that are in the store already change nothing. -/
theorem upsertAll_of_outdated (h : ∀ u ∈ us, u.descriptor.version ≤ s.version u.kind u.key) :
    s.upsertAll us = (List.replicate us.length false, s) := by
  induction us with
  | nil => rfl
  | cons u us ih =>
    rcases List.forall_mem_cons.1 h with ⟨hu, hus⟩
    simp only [upsertAll, upsert_of_outdated hu, ih hus, List.length_cons, List.replicate_succ]

/-- If a store settles on an update where the other one has kept what it held, then the other has
not seen that update. -/
theorem Settled.not_kept (h : s.Settled us s₂) {u : Update} (hu : u ∈ us)
    (hlt : s.version u.kind u.key < u.descriptor.version) :
    s₂.get? u.kind u.key ≠ s.get? u.kind u.key := by
  intro hkept
  have hversion : s₂.version u.kind u.key = s.version u.kind u.key := by
    simp only [version, hkept]
  exact absurd (h.newest u hu) (not_le_of_gt (hversion ▸ hlt))

/-- Two stores that have seen the same updates hold the same descriptors, as far as the updates
agree about what a version of an item is. -/
theorem Settled.alike {alike : Descriptor → Descriptor → Prop} (h₁ : s.Settled us₁ s₁)
    (h₂ : s.Settled us₂ s₂) (hsame : ∀ u, u ∈ us₁ ↔ u ∈ us₂) (hrefl : ∀ d, alike d d)
    (hone : ∀ u ∈ us₁, ∀ u' ∈ us₁, u.kind = u'.kind → u.key = u'.key →
      u.descriptor.version = u'.descriptor.version → alike u.descriptor u'.descriptor)
    (kind : Kind) (key : Text) : Option.Rel alike (s₁.get? kind key) (s₂.get? kind key) := by
  rcases h₁.origin kind key with hkept₁ | ⟨u₁, hu₁, rfl, rfl, hlt₁, hget₁⟩
  · rcases h₂.origin kind key with hkept₂ | ⟨u₂, hu₂, rfl, rfl, hlt₂, -⟩
    · rw [hkept₁, hkept₂]
      cases s.get? kind key with
      | none => exact .none
      | some old => exact .some (hrefl old)
    · exact absurd hkept₁ (h₁.not_kept ((hsame u₂).2 hu₂) hlt₂)
  · rcases h₂.origin u₁.kind u₁.key with hkept₂ | ⟨u₂, hu₂, hkind, hkey, -, hget₂⟩
    · exact absurd hkept₂ (h₂.not_kept ((hsame u₁).1 hu₁) hlt₁)
    · -- each of the two updates has been seen by the other store as well
      have hle₁ := h₁.newest u₂ ((hsame u₂).2 hu₂)
      have hle₂ := h₂.newest u₁ ((hsame u₁).1 hu₁)
      rw [hkind, hkey, version_of_some hget₁, WithBot.coe_le_coe] at hle₁
      rw [version_of_some hget₂, WithBot.coe_le_coe] at hle₂
      rw [hget₁, hget₂]
      exact .some (hone u₁ hu₁ u₂ ((hsame u₂).2 hu₂) hkind.symm hkey.symm (le_antisymm hle₂ hle₁))

/-- A store in memory converges. Whatever it holds, two lists of the same updates, in any order and
with any repetitions, leave it with the same descriptors, where two descriptors count as the same if
they are `alike`; no two updates for one version of an item may be unlike. Updates that have been
made already change nothing any more, and none of them is told to be newer. No version goes down.
A single update is told to be newer exactly if its version is above the one that is stored, or
nothing is stored at its key; then it is stored and the version at the key goes up, and else nothing
changes. It touches no other key. Only a full data set forgets: it leaves its own descriptors and
nothing of what was there. -/
theorem upsertAll_converges (s : Store) (us : List Update) :
    (∀ (us' : List Update) (alike : Descriptor → Descriptor → Prop), (∀ u, u ∈ us ↔ u ∈ us') →
        (∀ d, alike d d) →
        (∀ u ∈ us, ∀ u' ∈ us, u.kind = u'.kind → u.key = u'.key →
          u.descriptor.version = u'.descriptor.version → alike u.descriptor u'.descriptor) →
        (s.upsertAll us).2.initialized = (s.upsertAll us').2.initialized ∧
          ∀ kind key, Option.Rel alike ((s.upsertAll us).2.get? kind key)
            ((s.upsertAll us').2.get? kind key)) ∧
      (∀ again ⊆ us, (s.upsertAll us).2.upsertAll again =
        (List.replicate again.length false, (s.upsertAll us).2)) ∧
      (∀ kind key, s.version kind key ≤ (s.upsertAll us).2.version kind key) ∧
      (∀ kind key d,
        ((s.upsert kind key d).1 = true ↔ s.version kind key < d.version) ∧
        (s.get? kind key = none → (s.upsert kind key d).1 = true) ∧
        ((s.upsert kind key d).1 = true ↔
          s.version kind key < (s.upsert kind key d).2.version kind key) ∧
        (s.upsert kind key d).2.version kind key = max (s.version kind key) d.version ∧
        ((s.upsert kind key d).1 = true → (s.upsert kind key d).2.get? kind key = some d) ∧
        ((s.upsert kind key d).1 = false → (s.upsert kind key d).2 = s) ∧
        ∀ other key', (other, key') ≠ (kind, key) →
          (s.upsert kind key d).2.get? other key' = s.get? other key') ∧
      ∀ (m : Memory) (data : DataSet), m.outage = none → ∀ kind key,
        (Repository.init m data).state.store.get? kind key = (data.collection kind).get? key := by
  have hsettled := s.settled_upsertAll us
  refine ⟨?_, ?_, hsettled.mono, s.upsert_spec, ?_⟩
  · intro us' alike hsame hrefl hone
    have hsettled' := s.settled_upsertAll us'
    exact ⟨hsettled.initialized.trans hsettled'.initialized.symm,
      hsettled.alike hsettled' hsame hrefl hone⟩
  · intro again hagain
    exact upsertAll_of_outdated fun u hu => hsettled.newest u (hagain hu)
  · intro m data hup kind key
    simp only [Repository.init, Memory.serve, hup]
    cases kind <;> rfl

/-! ### A late update -/

/-- A flag. -/
def aFlag : Item :=
  { kind := .flag, key := "f", version := 2, deleted := false, prerequisites := [], members := [] }

/-- A new version of a flag, its deletion, and the deletion of a segment that was never there. -/
def inOrder : List Update :=
  [⟨.flag, "f", .ofItem aFlag⟩, ⟨.flag, "f", .tombstone 3⟩, ⟨.segment, "f", .tombstone 1⟩]

/-- The same updates, where the deletion comes twice and the new version late. -/
def late : List Update :=
  [⟨.flag, "f", .tombstone 3⟩, ⟨.segment, "f", .tombstone 1⟩, ⟨.flag, "f", .ofItem aFlag⟩,
    ⟨.flag, "f", .tombstone 3⟩]

/-- The late version of the flag is not newer than its deletion, and both runs end alike. Nothing of
either counts again. -/
theorem upsertAll_converges_of_late :
    (upsertAll {} inOrder).1 = [true, true, true] ∧
      (upsertAll {} late).1 = [true, true, false, false] ∧
      (∀ kind key, (upsertAll {} inOrder).2.get? kind key = (upsertAll {} late).2.get? kind key) ∧
      ((upsertAll {} late).2.upsertAll inOrder).1 = [false, false, false] := by
  have hsame : ∀ u, u ∈ inOrder ↔ u ∈ late := by
    intro u
    simp only [inOrder, late, List.mem_cons, List.not_mem_nil, or_false]
    tauto
  have hone : ∀ u ∈ inOrder, ∀ u' ∈ inOrder, u.kind = u'.kind → u.key = u'.key →
      u.descriptor.version = u'.descriptor.version → u.descriptor = u'.descriptor := by
    simp [inOrder, Descriptor.ofItem, Descriptor.tombstone, aFlag]
  rcases upsertAll_converges {} inOrder with ⟨hconverges, -, -, -, -⟩
  rcases upsertAll_converges {} late with ⟨-, hagain, -, -, -⟩
  refine ⟨by rfl, by rfl, ?_, ?_⟩
  · intro kind key
    rcases hconverges late (· = ·) hsame (fun _ => rfl) hone with ⟨-, hget⟩
    have heq : ∀ a b : Option Descriptor, Option.Rel (· = ·) a b → a = b := by
      rintro _ _ (rfl | _) <;> rfl
    exact heq _ _ (hget kind key)
  · rw [hagain inOrder fun u hu => (hsame u).1 hu]
    rfl

end Store

end FlagReplica
