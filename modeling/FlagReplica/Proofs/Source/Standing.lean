import FlagReplica.Proofs.Status.Report
import FlagReplica.Readiness

/-!
# Where a source stands

A source that keeps a store in step carries three variables that are written one by one: whether it
runs, the state of its status, and the signal of its start. They move together all the same. A
`Standing` is the three of them, and a source only ever makes three moves: it is interrupted, it has
stored a full data set, or it ends. Each of them keeps a standing coherent. Which move a happening
makes depends on whether it ends the source and whether it stores a full data set, and so the
standing after a whole run can be told from what has happened.
-/

namespace FlagReplica

/-- Something of one sort has happened, and nothing of the other sort before it. -/
def Foremost {α : Type} (sort other : α → Prop) (past : List α) : Prop :=
  ∃ before a after, past = before ++ a :: after ∧ sort a ∧ ∀ b ∈ before, ¬ other b

namespace Foremost

variable {α : Type} {sort other : α → Prop}

theorem not_nil : ¬ Foremost sort other [] := by
  rintro ⟨before, a, after, h, -, -⟩
  simp at h

/-- One more thing that happens matters only if it is of the one sort and nothing so far was of the
other. -/
theorem snoc {past : List α} {a : α} :
    Foremost sort other (past ++ [a]) ↔
      Foremost sort other past ∨ (sort a ∧ ∀ b ∈ past, ¬ other b) := by
  constructor
  · rintro ⟨before, b, after, h, hb, hbefore⟩
    have hprefix : before ++ [b] <+: past ++ [a] := ⟨after, by simp [h]⟩
    rcases List.prefix_concat_iff.1 hprefix with heq | ⟨later, rfl⟩
    · -- it is the latest that counts
      rcases List.append_inj' heq rfl with ⟨rfl, hab⟩
      obtain rfl : b = a := by simpa using hab
      exact Or.inr ⟨hb, hbefore⟩
    · exact Or.inl ⟨before, b, later, by simp, hb, hbefore⟩
  · rintro (⟨before, b, after, rfl, hb, hbefore⟩ | ⟨ha, hpast⟩)
    · exact ⟨before, b, after ++ [a], by simp, hb, hbefore⟩
    · exact ⟨past, a, [], rfl, ha, hpast⟩

end Foremost

namespace Readiness

/-- The signal after a resolution. -/
def settled (r : Readiness) (success : Bool) : Readiness :=
  (r.resolve success).2

theorem settled_ne_pending (r : Readiness) (success : Bool) : r.settled success ≠ .pending := by
  cases r <;> cases success <;> simp [settled, resolve]

/-- A resolved signal stays as it is. -/
theorem settled_of_resolved {r : Readiness} (h : r ≠ .pending) (success : Bool) :
    r.settled success = r := by
  rw [settled, resolve_of_resolved h]

end Readiness

/-- Whether a source runs, its state, and the signal of its start. -/
structure Standing where
  running : Bool
  state : SyncState
  readiness : Readiness

namespace Standing

/-- What keeping in step failed at is being retried. -/
def interrupted (c : Standing) : Standing :=
  { c with state := c.state.after .interrupted }

/-- A full data set has been stored. -/
def synced (c : Standing) : Standing :=
  { c with state := .valid, readiness := c.readiness.settled true }

/-- The source ends for good. -/
def ended (c : Standing) : Standing :=
  { running := false, state := .off, readiness := c.readiness.settled false }

/-- The signal is pending as long as the state is the first one, the state is the last one as soon
as the source does not run, and only an end makes the signal fail. -/
structure Coherent (c : Standing) : Prop where
  pending_iff : c.readiness = .pending ↔ c.state = .initializing
  off_iff : c.state = .off ↔ c.running = false
  off_of_failed : c.readiness = .failed → c.state = .off

/-- One move, or none. Only a source that runs stores a full data set. -/
inductive Move (c : Standing) : Standing → Prop where
  | keep : Move c c
  | interrupt : Move c c.interrupted
  | sync (h : c.running = true) : Move c c.synced
  | finish : Move c c.ended

namespace Coherent

variable {c d : Standing}

/-- An interruption keeps what is pending and what is over. -/
theorem interrupted (h : c.Coherent) : c.interrupted.Coherent := by
  constructor
  · simpa [Standing.interrupted, SyncState.after_interrupted_eq_iff] using h.pending_iff
  · simpa [Standing.interrupted, SyncState.after_interrupted_eq_iff] using h.off_iff
  · simpa [Standing.interrupted, SyncState.after_interrupted_eq_iff] using h.off_of_failed

/-- A source that runs has not failed, so that its signal is or becomes a success. -/
theorem readiness_of_running (h : c.Coherent) (hr : c.running = true) :
    c.readiness.settled true = .succeeded := by
  have hoff : c.state ≠ .off := by
    intro hs
    rw [h.off_iff, hr] at hs
    exact absurd hs (by decide)
  cases hc : c.readiness with
  | pending => rfl
  | succeeded => rfl
  | failed => exact absurd (h.off_of_failed hc) hoff

theorem synced (h : c.Coherent) (hr : c.running = true) : c.synced.Coherent := by
  have hready := h.readiness_of_running hr
  constructor
  · simp [Standing.synced, hready]
  · simp [Standing.synced, hr]
  · simp [Standing.synced, hready]

theorem ended (c : Standing) : c.ended.Coherent := by
  constructor
  · simp [Standing.ended, Readiness.settled_ne_pending]
  · simp [Standing.ended]
  · intro _
    rfl

/-- Every move keeps a standing coherent. -/
theorem move (h : c.Coherent) (hm : c.Move d) : d.Coherent := by
  cases hm with
  | keep => exact h
  | interrupt => exact h.interrupted
  | sync hr => exact h.synced hr
  | finish => exact Coherent.ended c

/-- A resolved signal never changes. -/
theorem readiness_move (hm : c.Move d) (hr : c.readiness ≠ .pending) :
    d.readiness = c.readiness := by
  cases hm with
  | keep => rfl
  | interrupt => rfl
  | sync _ => exact Readiness.settled_of_resolved hr true
  | finish => exact Readiness.settled_of_resolved hr false

/-- The last state is never left. -/
theorem off_move (h : c.Coherent) (hm : c.Move d) (hs : c.state = .off) : d.state = .off := by
  cases hm with
  | keep => exact hs
  | interrupt => simp [Standing.interrupted, hs]
  | sync hr =>
    -- a source that is off does not run
    rw [h.off_iff, hr] at hs
    exact absurd hs (by decide)
  | finish => rfl

/-- The first state is never entered again. -/
theorem initializing_move (hm : c.Move d) (hs : d.state = .initializing) :
    c.state = .initializing := by
  cases hm with
  | keep => exact hs
  | interrupt =>
    have hc : c.state.after .interrupted = .initializing := hs
    rwa [SyncState.after_interrupted_eq_iff (by decide) (by decide)] at hc
  | sync _ => exact absurd hs (by simp [Standing.synced])
  | finish => exact absurd hs (by simp [Standing.ended])

/-- A source is interrupted only after a success. -/
theorem succeeded_of_interrupted (h : c.Coherent) (hs : c.state = .interrupted) :
    c.readiness = .succeeded := by
  cases hr : c.readiness with
  | pending =>
    rw [h.pending_iff, hs] at hr
    exact absurd hr (by decide)
  | succeeded => rfl
  | failed =>
    have := h.off_of_failed hr
    rw [hs] at this
    exact absurd this (by decide)

end Coherent

/-! ## What a happening does -/

/-- What a happening does to a standing, by whether it ends the source and whether it stores a full
data set. A source that does not run may be left as it is. -/
inductive Effect (ends stores : Prop) (c : Standing) : Standing → Prop where
  | ended (h : ends) : Effect ends stores c c.ended
  | synced (h : stores) (running : c.running = true) : Effect ends stores c c.synced
  | unmoved (stopped : c.running = false) : Effect ends stores c c
  | kept (goesOn : ¬ ends) (storesNot : ¬ stores) : Effect ends stores c c
  | interrupted (goesOn : ¬ ends) (storesNot : ¬ stores) : Effect ends stores c c.interrupted

namespace Effect

variable {ends stores : Prop} {c d : Standing}

theorem move (h : Effect ends stores c d) : c.Move d := by
  cases h with
  | ended _ => exact .finish
  | synced _ hr => exact .sync hr
  | unmoved _ => exact .keep
  | kept _ _ => exact .keep
  | interrupted _ _ => exact .interrupt

/-- A source stops running only over what ends it. -/
theorem running_iff (h : Effect ends stores c d) (hstores : stores → ¬ ends) :
    d.running = false ↔ c.running = false ∨ ends := by
  cases h with
  | ended he => simp [Standing.ended, he]
  | synced hs hr => simp [Standing.synced, hstores hs]
  | unmoved hr => simp [hr]
  | kept he hs => simp [he]
  | interrupted he hs => simp [Standing.interrupted, he]

/-- The signal becomes a success only over a full data set that is stored while the source runs. -/
theorem succeeded_iff (h : Effect ends stores c d) (hc : c.Coherent) (hstores : stores → ¬ ends) :
    d.readiness = .succeeded ↔ c.readiness = .succeeded ∨ (stores ∧ c.running = true) := by
  cases h with
  | ended he =>
    have hs : ¬ stores := fun hs => hstores hs he
    cases hread : c.readiness <;>
      simp [Standing.ended, hread, hs, Readiness.settled, Readiness.resolve]
  | synced hs hr =>
    rw [Standing.synced, hc.readiness_of_running hr]
    simp [hs, hr]
  | unmoved hr => simp [hr]
  | kept he hs => simp [hs]
  | interrupted he hs => simp [Standing.interrupted, hs]

end Effect

end Standing

end FlagReplica
