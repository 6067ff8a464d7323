import FlagReplica.Proofs.Health.Turns

/-!
# Who is left asking

A watcher goes on asking until it is stopped, and a recovery or a stop from outside stops the
current one only. That is enough: every watcher that has not been stopped is the current one, and
there is none while the store counts as available. `Guarded` says so, and every request and every
answer keeps it; so a stop leaves nobody asking, in whatever state it finds the store.
-/

namespace FlagReplica.WatchedStore

variable {σ α : Type} {w w' : WatchedStore σ}

/-- Every watcher has been stopped. -/
def Unasked (w : WatchedStore σ) : Prop :=
  ∀ watcher ∈ w.watchers, watcher.stopped = true

/-- A watcher that has not been stopped is the current one, and there is none unless the store
counts as unavailable. -/
structure Guarded (w : WatchedStore σ) : Prop where
  current : ∀ watcher ∈ w.watchers, watcher.stopped = false → w.current = some watcher.id
  unasked : w.available = true → w.Unasked

/-- A stop of the current watcher is a stop of all. -/
theorem Guarded.dismiss_unasked (h : w.Guarded) : w.dismiss.Unasked := by
  intro watcher hw
  rcases List.mem_map.1 hw with ⟨before, hbefore, rfl⟩
  split
  · rfl
  · rename_i hother
    -- one that is not the current one has been stopped before
    cases hstopped : before.stopped with
    | true => rfl
    | false => exact absurd (h.current before hbefore hstopped) hother

/-- Where everybody has been stopped nobody needs to be the current one. -/
theorem Unasked.guarded (h : w.Unasked) : w.Guarded := by
  refine ⟨?_, fun _ => h⟩
  intro watcher hw hgoes
  rw [h watcher hw] at hgoes
  exact absurd hgoes (by decide)

namespace Guarded

/-- Only the watchers and the flag matter. -/
theorem congr (h : w.Guarded) (hwatchers : w'.watchers = w.watchers)
    (hcurrent : w'.current = w.current) (havailable : w'.available = w.available) :
    w'.Guarded := by
  refine ⟨?_, ?_⟩
  · intro watcher hw
    rw [hcurrent]
    exact h.current watcher (hwatchers ▸ hw)
  · intro hup watcher hw
    exact h.unasked (havailable.symm.trans hup) watcher (hwatchers ▸ hw)

theorem dismiss (h : w.Guarded) : w.dismiss.Guarded :=
  h.dismiss_unasked.guarded

/-- A watcher is set only where nobody is asking. -/
theorem onFailure (h : w.Guarded) : w.onFailure.2.Guarded := by
  unfold WatchedStore.onFailure
  split
  · rename_i hnew
    have hunasked : w.Unasked := h.unasked (Bool.and_eq_true_iff.1 hnew).2
    refine ⟨?_, fun hup => absurd hup (by simp [setWatcher, lapse])⟩
    intro watcher hw hgoes
    rcases List.mem_append.1 hw with hold | hset
    · rw [hunasked watcher hold] at hgoes
      exact absurd hgoes (by decide)
    · rcases List.mem_singleton.1 hset with rfl
      rfl
  · exact h

theorem onRecovery (h : w.Guarded) : w.onRecovery.2.Guarded := by
  unfold WatchedStore.onRecovery
  split
  · exact h
  · have hrevived : w.revive.dismiss.Unasked := h.dismiss_unasked
    exact hrevived.guarded

/-- A watcher that has ended asks no more. -/
theorem release (h : w.Guarded) (id : Nat) : (w.release id).Guarded := by
  refine ⟨?_, ?_⟩
  · intro watcher hw
    exact h.current watcher (List.mem_filter.1 hw).1
  · intro hup watcher hw
    exact h.unasked hup watcher (List.mem_filter.1 hw).1

theorem answer (h : w.Guarded) (id : Nat) (reply : Except Fault Json.Value) :
    (w.answer id reply).2.Guarded := by
  cases hverdict : (Occasion.checked reply).verdict? with
  | none =>
    rw [answer_of_unknown hverdict]
    exact h.release id
  | some verdict =>
    rw [(answer_of_verdict hverdict w id).2]
    exact h.onRecovery.release id

theorem hear (h : w.Guarded) {reply : Except Fault Json.Value} {notices : List Notice}
    (heard : w.hear reply = some (notices, w')) : w'.Guarded := by
  rcases hear_cases heard with ⟨watcher, -, rfl⟩
  exact h.answer watcher.id reply

section Requests

variable [Repository σ]

theorem ask (h : w.Guarded) (c : Call α) : (c.ask w).state.Guarded := by
  rcases ask_cases c w with ⟨inner, ⟨-, hstate⟩ | ⟨-, hstate⟩⟩
  · rw [hstate]
    exact h.congr rfl rfl rfl
  · have hinner : ({ w with inner } : WatchedStore σ).Guarded := h.congr rfl rfl rfl
    rw [hstate]
    exact hinner.onFailure

theorem request (h : w.Guarded) (c : Change) : (Gateway.request w c).state.Guarded := by
  cases c with
  | replace data => exact h.ask (.init data)
  | upsert kind key d => exact h.ask (.upsert kind key d)

end Requests

end Guarded

end FlagReplica.WatchedStore
