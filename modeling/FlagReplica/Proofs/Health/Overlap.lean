import FlagReplica.Proofs.Health.Watch
import Mathlib.Logic.Relation

/-!
# Outages and recoveries that overlap

Dealing with an outage or a recovery takes several changes, and others may come in between: requests
of other users of the store, answers to other watchers, and requests that a listener makes while it
hears of the very recovery. So a recovery may come to stop the watcher of the outage after it. The
store is watched all the same: in that case the watcher that noticed the recovery has been passed
over, and nobody stops it any more.

`Step` takes the changes one by one and lets everything come in between. What nobody disturbs is as
`WatchedStore.onFailure` and `WatchedStore.answer` have it. The invariant has two sides. As long as
the watchers are `Orderly`, the only one that asks is the current one; once that is lost some
watcher is `Spare` for ever.
-/

namespace FlagReplica

variable {σ : Type}

/-! ## One change at a time -/

/-- What has been published is the latest health, whether it is a change or not. -/
theorem HealthFeed.publish_current (f : HealthFeed) (health : Health) :
    (f.publish health).current = health := by
  unfold publish
  split
  · rename_i hsame
    exact hsame.symm
  · rfl

namespace WatchedStore

/-- Publishes a health. -/
def tell (w : WatchedStore σ) (health : Health) : WatchedStore σ :=
  { w with feed := w.feed.publish health }

/-- The current watcher is taken away to be stopped. -/
def relieve (w : WatchedStore σ) : WatchedStore σ :=
  { w with current := none }

/-- Stops a watcher, if one is given. -/
def halt (w : WatchedStore σ) (relieved : Option Nat) : WatchedStore σ :=
  { w with
    watchers := w.watchers.map fun watcher =>
      if relieved = some watcher.id then { watcher with stopped := true } else watcher }

variable {w : WatchedStore σ} {id : Nat}

theorem lapse_eq : w.lapse = { w with available := false }.tell ⟨false, false⟩ := rfl

theorem revive_eq : w.revive = { w with available := true }.tell ⟨true, w.staleOnRecovery⟩ := rfl

theorem dismiss_eq : w.dismiss = w.relieve.halt w.current := rfl

/-- Somebody who is not stopped goes on asking. -/
theorem mem_halt_release {relieved : Option Nat} {watcher : Watcher} (hw : watcher ∈ w.watchers)
    (hgoes : watcher.stopped = false) (hother : relieved ≠ some watcher.id) :
    watcher ∈ ((w.halt relieved).release id).watchers := by
  refine List.mem_filter.2 ⟨List.mem_map.2 ⟨watcher, hw, if_neg hother⟩, ?_⟩
  simp [hgoes]

/-- A watcher that stops itself is the only one that is gone. -/
theorem halt_release_watchers (w : WatchedStore σ) (id : Nat) :
    ((w.halt (some id)).release id).watchers = w.watchers.filter (·.id ≠ id) := by
  simp only [halt, release]
  induction w.watchers with
  | nil => rfl
  | cons watcher rest ih =>
    by_cases h : id = watcher.id
    · rcases h with rfl
      simpa using ih
    · have hne : watcher.id ≠ id := Ne.symm h
      simpa [h, hne] using ih

end WatchedStore

/-- How far an outage has been dealt with. When it has been published, a watcher is set. -/
inductive Outage where
  | marked
  | published

/-- How far a recovery has been dealt with by the watcher that was told of it. -/
inductive Recovery where
  | marked (watcher : Nat)
  | published (watcher : Nat)
  /-- The watcher that was current is going to be stopped. -/
  | relieving (watcher : Nat) (relieved : Option Nat)

/-- The watcher that deals with a recovery. -/
def Recovery.watcher : Recovery → Nat
  | marked watcher | published watcher | relieving watcher _ => watcher

/-- A store under watch, and the outages and recoveries that are being dealt with. -/
structure Overlap (σ : Type) where
  store : WatchedStore σ
  outages : List Outage := []
  recoveries : List Recovery := []

namespace Overlap

/-- A request has failed. The first to fail marks an outage. -/
def failed (o : Overlap σ) : Overlap σ :=
  if o.store.watched && o.store.available then
    { o with store := { o.store with available := false }, outages := .marked :: o.outages }
  else o

/-- A watcher has its answer. The first to be told that the store is available marks a recovery;
any other ends if it has been stopped, and else asks again. -/
def told (o : Overlap σ) (id : Nat) (reply : Except Fault Json.Value) : Overlap σ :=
  if (WatchedStore.Occasion.checked reply).verdict? = some true ∧ o.store.available = false then
    { o with
      store := { o.store with available := true }
      recoveries := .marked id :: o.recoveries }
  else { o with store := o.store.release id }

/-- The next change, by whomever. A watcher that deals with a recovery asks nothing. -/
inductive Step : Overlap σ → Overlap σ → Prop where
  | fail (o : Overlap σ) : Step o o.failed
  | hear {o : Overlap σ} {watcher : Watcher} (asks : watcher ∈ o.store.watchers)
      (free : ∀ r ∈ o.recoveries, r.watcher ≠ watcher.id) (reply : Except Fault Json.Value) :
      Step o (o.told watcher.id reply)
  | publishOutage {o : Overlap σ} {others : List Outage}
      (next : o.outages.Perm (.marked :: others)) :
      Step o { o with
        store := o.store.tell ⟨false, false⟩
        outages := .published :: others }
  | setWatcher {o : Overlap σ} {others : List Outage}
      (next : o.outages.Perm (.published :: others)) :
      Step o { o with store := o.store.setWatcher, outages := others }
  | publishRecovery {o : Overlap σ} {id : Nat} {others : List Recovery}
      (next : o.recoveries.Perm (.marked id :: others)) :
      Step o { o with
        store := o.store.tell ⟨true, o.store.staleOnRecovery⟩
        recoveries := .published id :: others }
  | relieve {o : Overlap σ} {id : Nat} {others : List Recovery}
      (next : o.recoveries.Perm (.published id :: others)) :
      Step o { o with
        store := o.store.relieve
        recoveries := .relieving id o.store.current :: others }
  | halt {o : Overlap σ} {id : Nat} {relieved : Option Nat} {others : List Recovery}
      (next : o.recoveries.Perm (.relieving id relieved :: others)) :
      Step o { o with
        store := (o.store.halt relieved).release id
        recoveries := others }
  /-- The store within changes, and the listeners hear or change. -/
  | elapse (o : Overlap σ) (inner : σ) (audience : Audience Health) :
      Step o { o with store := { o.store with inner, feed := { o.store.feed with audience } } }

/-- Changes one after another. -/
abbrev Run (o o' : Overlap σ) : Prop :=
  Relation.ReflTransGen Step o o'

/-! ## What nobody disturbs -/

section Alone

variable (w : WatchedStore σ)

/-- An outage that nobody disturbs. -/
theorem run_onFailure : Run ⟨w, [], []⟩ ⟨w.onFailure.2, [], []⟩ := by
  have hfail : Run ⟨w, [], []⟩ (failed ⟨w, [], []⟩) := .single (.fail _)
  unfold failed at hfail
  unfold WatchedStore.onFailure
  split
  · rename_i hnew
    rw [if_pos hnew] at hfail
    rw [WatchedStore.lapse_eq]
    exact (hfail.tail (.publishOutage (.refl _))).tail (.setWatcher (.refl _))
  · exact .refl

/-- An answer, and a recovery if it tells of one, that nobody disturbs. -/
theorem run_answer {watcher : Watcher} (asks : watcher ∈ w.watchers)
    (reply : Except Fault Json.Value) :
    Run ⟨w, [], []⟩ ⟨(w.answer watcher.id reply).2, [], []⟩ := by
  have hhear : Run ⟨w, [], []⟩ (told ⟨w, [], []⟩ watcher.id reply) :=
    .single (.hear asks (by simp) reply)
  unfold told at hhear
  cases hverdict : (WatchedStore.Occasion.checked reply).verdict? with
  | none =>
    rw [WatchedStore.answer_of_unknown hverdict]
    simpa [hverdict] using hhear
  | some verdict =>
    rcases WatchedStore.answer_of_verdict hverdict w watcher.id with ⟨rfl, hanswer⟩
    rw [hanswer]
    -- news that the store is back is only worth a recovery if the store counted as unavailable
    cases havailable : w.available with
    | true =>
      rw [WatchedStore.onRecovery_of_available havailable]
      simpa [hverdict, havailable] using hhear
    | false =>
      rw [WatchedStore.onRecovery_of_outage havailable, WatchedStore.dismiss_eq,
        WatchedStore.revive_eq]
      rw [if_pos ⟨hverdict, havailable⟩] at hhear
      exact ((hhear.tail (.publishRecovery (.refl _))).tail (.relieve (.refl _))).tail
        (.halt (.refl _))

/-- The store changes by itself, or its listeners do. -/
theorem run_elapse (inner : σ) (audience : Audience Health) :
    Run ⟨w, [], []⟩ ⟨{ w with inner, feed := { w.feed with audience } }, [], []⟩ :=
  .single (.elapse _ inner audience)

variable {w}

/-- Whatever happens to a store under watch without any overlap can happen here. -/
theorem run_of_undisturbed_step [Repository σ] {w' : WatchedStore σ} {a : WatchedStore.Occasion}
    (h : w.Step a w') : Run ⟨w, [], []⟩ ⟨w', [], []⟩ := by
  cases h with
  | ask w c =>
    rcases WatchedStore.ask_cases c w with ⟨inner, ⟨-, hstate⟩ | ⟨-, hstate⟩⟩
    · rw [hstate]
      exact run_elapse w inner w.feed.audience
    · rw [hstate]
      exact (run_elapse w inner w.feed.audience).trans (run_onFailure _)
  | @check _ _ reply notices heard =>
    rcases WatchedStore.hear_cases heard with ⟨watcher, hasks, rfl⟩
    exact run_answer w hasks reply
  | deliver hstep => exact run_elapse w w.inner _
  | elapse _ inner => exact run_elapse w inner w.feed.audience

theorem run_of_undisturbed [Repository σ] {w' : WatchedStore σ} {past : List WatchedStore.Occasion}
    (h : w.Run past w') : Run ⟨w, [], []⟩ ⟨w', [], []⟩ := by
  induction h with
  | nil => exact .refl
  | snoc _ step ih => exact ih.trans (run_of_undisturbed_step step)

end Alone

/-! ## What every change preserves -/

variable {o o' : Overlap σ}

/-- Watchers are numbered as they are set, and each deals with one recovery at a time. -/
structure Sound (o : Overlap σ) : Prop where
  numbered : ∀ watcher ∈ o.store.watchers, watcher.id < o.store.watchersSet
  present : ∀ r ∈ o.recoveries, ∃ watcher ∈ o.store.watchers, watcher.id = r.watcher
  distinct : (o.recoveries.map Recovery.watcher).Nodup

/-- A watcher asks that nobody is ever going to stop. -/
def Spare (o : Overlap σ) : Prop :=
  ∃ watcher ∈ o.store.watchers, watcher.stopped = false ∧ o.store.current ≠ some watcher.id ∧
    ∀ id, .relieving id (some watcher.id) ∉ o.recoveries

/-- A stop from outside does not reach a watcher that is left over. -/
theorem Spare.stop (h : o.Spare) : Spare { o with store := o.store.stop } := by
  rcases h with ⟨x, hx, hgoes, hcurrent, hvictim⟩
  refine ⟨x, List.mem_map.2 ⟨x, hx, if_neg hcurrent⟩, hgoes, ?_, hvictim⟩
  simp [WatchedStore.stop, WatchedStore.dismiss]

/-- Nobody asks whether the store is available: there is no current watcher, or it deals with a
recovery. -/
def Silent (o : Overlap σ) : Prop :=
  ∀ id, o.store.current = some id → ∃ r ∈ o.recoveries, r.watcher = id

/-- How the flag, the published health and the current watcher agree as long as the watchers are
orderly. -/
inductive Phase (o : Overlap σ) : Prop where
  | up (available : o.store.available = true) (outages : o.outages = []) (silent : o.Silent)
      (published : o.store.feed.current.available = true ∨ ∃ id, .marked id ∈ o.recoveries)
  | falling (available : o.store.available = false) (outage : Outage)
      (outages : o.outages = [outage]) (silent : o.Silent)
  | down (available : o.store.available = false) (outages : o.outages = []) (watcher : Watcher)
      (asks : watcher ∈ o.store.watchers) (current : o.store.current = some watcher.id)
      (free : ∀ r ∈ o.recoveries, r.watcher ≠ watcher.id)

/-- Every watcher is the current one or about to stop itself, and only these deal with
recoveries. -/
structure Orderly (o : Overlap σ) : Prop where
  going : ∀ watcher ∈ o.store.watchers, watcher.stopped = false ∧
    (o.store.current = some watcher.id ∨
      .relieving watcher.id (some watcher.id) ∈ o.recoveries)
  own : ∀ id relieved, .relieving id relieved ∈ o.recoveries →
    relieved = some id ∧ o.store.current ≠ some id
  current : ∀ id, .marked id ∈ o.recoveries ∨ .published id ∈ o.recoveries →
    o.store.current = some id
  phase : o.Phase

namespace Sound

/-- A recovery that is dealt with further is still dealt with by its watcher. -/
theorem replace (h : o.Sound) {r r' : Recovery} {others : List Recovery}
    (next : o.recoveries.Perm (r :: others)) (hrecoveries : o'.recoveries = r' :: others)
    (hsame : r'.watcher = r.watcher)
    (hwatchers : o'.store.watchers = o.store.watchers)
    (hset : o'.store.watchersSet = o.store.watchersSet) : o'.Sound := by
  refine ⟨?_, ?_, ?_⟩
  · rw [hwatchers, hset]
    exact h.numbered
  · -- the new recovery is of the same watcher, and the others have been there before
    intro r'' hr
    rw [hwatchers]
    rw [hrecoveries] at hr
    rcases List.mem_cons.1 hr with rfl | hr
    · rw [hsame]
      exact h.present r (next.mem_iff.2 (List.mem_cons_self ..))
    · exact h.present r'' (next.mem_iff.2 (List.mem_cons_of_mem _ hr))
  · have hdistinct := (next.map Recovery.watcher).nodup_iff.1 h.distinct
    rw [hrecoveries]
    simpa [hsame] using hdistinct

/-- Nobody else deals with a recovery that its watcher deals with. -/
theorem ne_of_others (h : o.Sound) {r r' : Recovery} {others : List Recovery}
    (next : o.recoveries.Perm (r :: others)) (hr : r' ∈ others) : r'.watcher ≠ r.watcher := by
  have hdistinct := (next.map Recovery.watcher).nodup_iff.1 h.distinct
  rw [List.map_cons, List.nodup_cons] at hdistinct
  intro hsame
  exact hdistinct.1 (hsame ▸ List.mem_map_of_mem hr)

theorem step (h : o.Sound) (hs : o.Step o') : o'.Sound := by
  cases hs with
  | fail =>
    unfold failed
    split
    · exact ⟨h.numbered, h.present, h.distinct⟩
    · exact h
  | @hear watcher asks free reply =>
    unfold told
    split
    · refine ⟨h.numbered, ?_, ?_⟩
      · intro r hr
        rcases List.mem_cons.1 hr with rfl | hr
        · exact ⟨watcher, asks, rfl⟩
        · exact h.present r hr
      · -- a watcher that is free works at no other recovery, so that their watchers stay distinct
        refine List.nodup_cons.2 ⟨?_, h.distinct⟩
        intro hbusy
        rcases List.mem_map.1 hbusy with ⟨r, hr, hsame⟩
        exact free r hr hsame
    · -- a watcher that has been halted leaves, and no recovery is of it
      refine ⟨fun x hx => h.numbered x (List.mem_filter.1 hx).1, ?_, h.distinct⟩
      intro r hr
      rcases h.present r hr with ⟨x, hx, hid⟩
      have hne : x.id ≠ watcher.id := hid ▸ free r hr
      exact ⟨x, List.mem_filter.2 ⟨hx, by simp [hne]⟩, hid⟩
  | publishOutage next => exact ⟨h.numbered, h.present, h.distinct⟩
  | setWatcher next =>
    refine ⟨?_, ?_, h.distinct⟩
    · intro x hx
      rcases List.mem_append.1 hx with hx | hx
      · -- the new watcher takes the next number
        exact Nat.lt_succ_of_lt (h.numbered x hx)
      · rcases List.mem_singleton.1 hx with rfl
        exact Nat.lt_succ_self _
    · intro r hr
      rcases h.present r hr with ⟨x, hx, hid⟩
      exact ⟨x, List.mem_append_left _ hx, hid⟩
  | publishRecovery next => exact h.replace next rfl rfl rfl rfl
  | relieve next => exact h.replace next rfl rfl rfl rfl
  | @halt id relieved others next =>
    -- halting changes no numbers and releasing takes only watchers away
    have hkept (x : Watcher) (hx : x ∈ ((o.store.halt relieved).release id).watchers) :
        ∃ y ∈ o.store.watchers, y.id = x.id := by
      rcases List.mem_map.1 (List.mem_filter.1 hx).1 with ⟨y, hy, rfl⟩
      refine ⟨y, hy, ?_⟩
      split <;> rfl
    refine ⟨?_, ?_, ?_⟩
    · intro x hx
      rcases hkept x hx with ⟨y, hy, hid⟩
      exact hid ▸ h.numbered y hy
    · intro r hr
      rcases h.present r (next.mem_iff.2 (List.mem_cons_of_mem _ hr)) with ⟨x, hx, hid⟩
      have hne : x.id ≠ id := hid ▸ h.ne_of_others next hr
      refine ⟨_, List.mem_filter.2 ⟨List.mem_map_of_mem hx, ?_⟩, ?_⟩
      · split <;> simp [hne]
      · split <;> exact hid
    · have hdistinct := (next.map Recovery.watcher).nodup_iff.1 h.distinct
      exact (List.nodup_cons.1 hdistinct).2
  | elapse => exact ⟨h.numbered, h.present, h.distinct⟩

end Sound

/-- Whoever is left over stays so. -/
theorem Spare.step (h : o.Spare) (hsound : o.Sound) (hs : o.Step o') : o'.Spare := by
  rcases h with ⟨x, hx, hgoes, hcurrent, hvictim⟩
  cases hs with
  | fail =>
    unfold failed
    split
    · exact ⟨x, hx, hgoes, hcurrent, hvictim⟩
    · exact ⟨x, hx, hgoes, hcurrent, hvictim⟩
  | @hear watcher asks free reply =>
    unfold told
    split
    · refine ⟨x, hx, hgoes, hcurrent, fun id hid => ?_⟩
      rcases List.mem_cons.1 hid with heq | hid
      · exact absurd heq (by simp)
      · exact hvictim id hid
    · exact ⟨x, List.mem_filter.2 ⟨hx, by simp [hgoes]⟩, hgoes, hcurrent, hvictim⟩
  | publishOutage next => exact ⟨x, hx, hgoes, hcurrent, hvictim⟩
  | setWatcher next =>
    -- the new watcher has a number of its own
    have hnumber : o.store.watchersSet ≠ x.id := Ne.symm (Nat.ne_of_lt (hsound.numbered x hx))
    exact ⟨x, List.mem_append_left _ hx, hgoes, fun he => hnumber (Option.some.inj he), hvictim⟩
  | publishRecovery next =>
    refine ⟨x, hx, hgoes, hcurrent, fun id hid => ?_⟩
    rcases List.mem_cons.1 hid with heq | hid
    · exact absurd heq (by simp)
    · exact hvictim id (next.mem_iff.2 (List.mem_cons_of_mem _ hid))
  | relieve next =>
    refine ⟨x, hx, hgoes, fun he => absurd he (by simp [WatchedStore.relieve]), fun id hid => ?_⟩
    rcases List.mem_cons.1 hid with heq | hid
    · -- it is the current watcher that is relieved
      exact hcurrent (Recovery.relieving.inj heq).2.symm
    · exact hvictim id (next.mem_iff.2 (List.mem_cons_of_mem _ hid))
  | @halt id relieved others next =>
    have hother : relieved ≠ some x.id := by
      rintro rfl
      exact hvictim id (next.mem_iff.2 (List.mem_cons_self ..))
    exact ⟨x, WatchedStore.mem_halt_release hx hgoes hother, hgoes, hcurrent,
      fun id' hid => hvictim id' (next.mem_iff.2 (List.mem_cons_of_mem _ hid))⟩
  | elapse => exact ⟨x, hx, hgoes, hcurrent, hvictim⟩

namespace Orderly

/-- Whoever may ask is the current watcher, and asks during an outage that has been dealt with. -/
theorem down_of_free (h : o.Orderly) {watcher : Watcher} (asks : watcher ∈ o.store.watchers)
    (free : ∀ r ∈ o.recoveries, r.watcher ≠ watcher.id) :
    o.store.current = some watcher.id ∧ o.store.available = false ∧ o.outages = [] := by
  have hcurrent : o.store.current = some watcher.id := by
    rcases (h.going watcher asks).2 with hcurrent | hrelieving
    · exact hcurrent
    · exact absurd rfl (free _ hrelieving)
  -- a free watcher goes on asking, so that the outage is neither over nor about to be told
  have hasked : ¬ o.Silent := by
    intro hsilent
    rcases hsilent watcher.id hcurrent with ⟨r, hr, hid⟩
    exact free r hr hid
  cases h.phase with
  | up _ _ hsilent _ => exact absurd hsilent hasked
  | falling _ _ _ hsilent => exact absurd hsilent hasked
  | down available outages => exact ⟨hcurrent, available, outages⟩

/-- While an outage is dealt with nobody asks. -/
theorem falling_of_outage (h : o.Orderly) {outage : Outage} {others : List Outage}
    (next : o.outages.Perm (outage :: others)) :
    others = [] ∧ o.store.available = false ∧ o.Silent := by
  -- an outage section is under way in one phase only, and there it is the only one
  cases h.phase with
  | up _ outages =>
    rw [outages] at next
    exact absurd next.symm.eq_nil (by simp)
  | falling available outage' outages silent =>
    rw [outages] at next
    exact ⟨(List.cons.inj (List.perm_singleton.1 next.symm)).2, available, silent⟩
  | down _ outages =>
    rw [outages] at next
    exact absurd next.symm.eq_nil (by simp)

theorem fail (h : o.Orderly) : o.failed.Orderly := by
  unfold failed
  split
  · rename_i hnew
    have havailable : o.store.available = true := (Bool.and_eq_true_iff.1 hnew).2
    refine ⟨h.going, h.own, h.current, ?_⟩
    -- a new outage begins only where the store counted as available
    cases h.phase with
    | up _ outages silent _ =>
      exact .falling rfl .marked (congrArg _ outages) silent
    | falling available => exact absurd (available.symm.trans havailable) (by decide)
    | down available => exact absurd (available.symm.trans havailable) (by decide)
  · exact h

/-- Only the current watcher is told of a recovery. -/
theorem told (h : o.Orderly) {watcher : Watcher} (asks : watcher ∈ o.store.watchers)
    (free : ∀ r ∈ o.recoveries, r.watcher ≠ watcher.id) (reply : Except Fault Json.Value) :
    (o.told watcher.id reply).Orderly := by
  -- only the outage that is going on can end here, since its watcher is the only free one
  rcases h.down_of_free asks free with ⟨hcurrent, havailable, houtages⟩
  unfold Overlap.told
  split
  · refine ⟨?_, ?_, ?_, ?_⟩
    · intro x hx
      rcases h.going x hx with ⟨hgoes, hcurrent | hrelieving⟩
      · exact ⟨hgoes, .inl hcurrent⟩
      · exact ⟨hgoes, .inr (List.mem_cons_of_mem _ hrelieving)⟩
    · intro id relieved hid
      exact h.own id relieved (by simpa using hid)
    · intro id hid
      by_cases hsame : id = watcher.id
      · exact hsame ▸ hcurrent
      · exact h.current id (by simpa [hsame] using hid)
    · refine .up rfl houtages ?_ (.inr ⟨watcher.id, List.mem_cons_self ..⟩)
      intro id hid
      exact ⟨.marked watcher.id, List.mem_cons_self .., Option.some.inj (hcurrent.symm.trans hid)⟩
  · rw [WatchedStore.release_of_going fun x hx => (h.going x hx).1]
    exact h

/-- The first watcher to be set since everybody was stopped is the only one that asks. If somebody
is still about to stop the current one, that is going to be the new one instead of it. -/
theorem setWatcher (h : o.Orderly) (hsound : o.Sound) {others : List Outage}
    (next : o.outages.Perm (.published :: others)) :
    Spare { o with store := o.store.setWatcher, outages := others } ∨
      Orderly { o with store := o.store.setWatcher, outages := others } := by
  rcases h.falling_of_outage next with ⟨rfl, havailable, hsilent⟩
  have hnumber : ∀ r ∈ o.recoveries, r.watcher ≠ o.store.watchersSet := by
    intro r hr
    rcases hsound.present r hr with ⟨x, hx, hid⟩
    exact hid ▸ Nat.ne_of_lt (hsound.numbered x hx)
  cases hcurrent : o.store.current with
  | none =>
    refine .inr ⟨?_, ?_, ?_, .down havailable rfl ⟨o.store.watchersSet, false⟩ ?_ rfl hnumber⟩
    · intro x hx
      rcases List.mem_append.1 hx with hx | hx
      · rcases h.going x hx with ⟨hgoes, hcurrent' | hrelieving⟩
        · rw [hcurrent] at hcurrent'
          exact absurd hcurrent' (by simp)
        · exact ⟨hgoes, .inr hrelieving⟩
      · rcases List.mem_singleton.1 hx with rfl
        exact ⟨rfl, .inl rfl⟩
    · intro id relieved hid
      refine ⟨(h.own id relieved hid).1, fun hsame => ?_⟩
      exact hnumber _ hid (Option.some.inj hsame).symm
    · intro id hid
      have := h.current id hid
      rw [hcurrent] at this
      exact absurd this (by simp)
    · exact List.mem_append_right _ (List.mem_singleton_self _)
  | some id =>
    -- the watcher that deals with the recovery is passed over
    rcases hsilent id hcurrent with ⟨r, hr, hid⟩
    rcases hsound.present r hr with ⟨x, hx, hsame⟩
    refine .inl ⟨x, List.mem_append_left _ hx, (h.going x hx).1, ?_, ?_⟩
    · intro hnew
      exact hnumber r hr (hsame.symm.trans (Option.some.inj hnew).symm)
    · intro id' hvictim
      rcases h.own id' _ hvictim with ⟨hown, hother⟩
      exact hother (by rw [hcurrent, ← hid, ← hsame, hown])

/-- While the current watcher deals with a recovery, there is no outage but perhaps one that has yet
to be dealt with. -/
theorem phase_of_busy (h : o.Orderly) {r : Recovery} (hr : r ∈ o.recoveries)
    (hcurrent : o.store.current = some r.watcher) :
    (o.store.available = true ∧ o.outages = [] ∧
        (o.store.feed.current.available = true ∨ ∃ id, .marked id ∈ o.recoveries)) ∨
      (o.store.available = false ∧ ∃ outage, o.outages = [outage]) := by
  cases h.phase with
  | up available outages _ published => exact .inl ⟨available, outages, published⟩
  | falling available outage outages => exact .inr ⟨available, outage, outages⟩
  | down _ _ watcher _ current free =>
    exact absurd (Option.some.inj (hcurrent.symm.trans current)) (free r hr)

theorem publishRecovery (h : o.Orderly) {id : Nat} {others : List Recovery}
    (next : o.recoveries.Perm (.marked id :: others)) :
    Orderly { o with
      store := o.store.tell ⟨true, o.store.staleOnRecovery⟩
      recoveries := .published id :: others } := by
  have hmem : Recovery.marked id ∈ o.recoveries := next.mem_iff.2 (List.mem_cons_self ..)
  have hcurrent := h.current id (.inl hmem)
  have hothers : ∀ r ∈ others, r ∈ o.recoveries :=
    fun r hr => next.mem_iff.2 (List.mem_cons_of_mem _ hr)
  refine ⟨?_, ?_, ?_, ?_⟩
  · intro x hx
    rcases h.going x hx with ⟨hgoes, hcurrent | hrelieving⟩
    · exact ⟨hgoes, .inl hcurrent⟩
    · refine ⟨hgoes, .inr (List.mem_cons_of_mem _ ?_)⟩
      simpa using next.mem_iff.1 hrelieving
  · intro id' relieved hid
    exact h.own id' relieved (hothers _ (by simpa using hid))
  · intro id' hid
    by_cases hsame : id' = id
    · exact hsame ▸ hcurrent
    · refine h.current id' (hid.imp (fun hid => ?_) (fun hid => ?_))
      · exact hothers _ (by simpa using hid)
      · exact hothers _ (by simpa [hsame] using hid)
  · have hsilent : Silent { o with
        store := o.store.tell ⟨true, o.store.staleOnRecovery⟩
        recoveries := .published id :: others } := by
      intro id' hid
      exact ⟨_, List.mem_cons_self .., Option.some.inj (hcurrent.symm.trans hid)⟩
    -- a failure may have come meanwhile, so that the next outage is about to be told already
    rcases h.phase_of_busy hmem hcurrent with ⟨available, outages, -⟩ | ⟨available, outage, outages⟩
    · exact .up available outages hsilent (.inl (by
        simp [WatchedStore.tell, HealthFeed.publish_current]))
    · exact .falling available outage outages hsilent

theorem relieve (h : o.Orderly) (hsound : o.Sound) {id : Nat} {others : List Recovery}
    (next : o.recoveries.Perm (.published id :: others)) :
    Orderly { o with
      store := o.store.relieve
      recoveries := .relieving id o.store.current :: others } := by
  have hmem : Recovery.published id ∈ o.recoveries := next.mem_iff.2 (List.mem_cons_self ..)
  have hcurrent := h.current id (.inr hmem)
  have hothers : ∀ r ∈ others, r ∈ o.recoveries :=
    fun r hr => next.mem_iff.2 (List.mem_cons_of_mem _ hr)
  -- it was the only recovery that had yet to relieve the current watcher
  have honly : ∀ id', .marked id' ∉ others ∧ .published id' ∉ others := by
    intro id'
    have hne : ∀ r ∈ others, r.watcher = id' → o.store.current ≠ some id' := by
      intro r hr hid hcurrent'
      refine hsound.ne_of_others next hr ?_
      rw [hid]
      exact Option.some.inj (hcurrent'.symm.trans hcurrent)
    exact ⟨fun hm => hne _ hm rfl (h.current id' (.inl (hothers _ hm))),
      fun hm => hne _ hm rfl (h.current id' (.inr (hothers _ hm)))⟩
  refine ⟨?_, ?_, ?_, ?_⟩
  · intro x hx
    rcases h.going x hx with ⟨hgoes, hcurrent' | hrelieving⟩
    · have hid : id = x.id := Option.some.inj (hcurrent.symm.trans hcurrent')
      exact ⟨hgoes, .inr (by simp [hcurrent, hid])⟩
    · refine ⟨hgoes, .inr (List.mem_cons_of_mem _ ?_)⟩
      simpa using next.mem_iff.1 hrelieving
  · intro id' relieved hid
    refine ⟨?_, by simp [WatchedStore.relieve]⟩
    rcases List.mem_cons.1 hid with heq | hid
    · rcases Recovery.relieving.inj heq with ⟨rfl, rfl⟩
      exact hcurrent
    · exact (h.own id' relieved (hothers _ hid)).1
  · intro id' hid
    exfalso
    rcases hid with hid | hid
    · exact (honly id').1 (by simpa using hid)
    · exact (honly id').2 (by simpa using hid)
  · have hsilent : Silent { o with
        store := o.store.relieve
        recoveries := .relieving id o.store.current :: others } := by
      intro id' hid
      exact absurd hid (by simp [WatchedStore.relieve])
    rcases h.phase_of_busy hmem hcurrent with
      ⟨available, outages, published⟩ | ⟨available, outage, outages⟩
    · refine .up available outages hsilent (.inl (published.resolve_right ?_))
      rintro ⟨id', hid⟩
      exact (honly id').1 (by simpa using next.mem_iff.1 hid)
    · exact .falling available outage outages hsilent

/-- Whoever is about to stop a watcher stops itself. -/
theorem halt (h : o.Orderly) {id : Nat} {relieved : Option Nat} {others : List Recovery}
    (next : o.recoveries.Perm (.relieving id relieved :: others)) :
    Orderly { o with
      store := (o.store.halt relieved).release id
      recoveries := others } := by
  rcases h.own id relieved (next.mem_iff.2 (List.mem_cons_self ..)) with ⟨rfl, hcurrent⟩
  have hothers : ∀ r ∈ others, r ∈ o.recoveries :=
    fun r hr => next.mem_iff.2 (List.mem_cons_of_mem _ hr)
  have hleft : ∀ r ∈ o.recoveries, r.watcher ≠ id → r ∈ others := by
    intro r hr hne
    rcases List.mem_cons.1 (next.mem_iff.1 hr) with rfl | hr
    · exact absurd rfl hne
    · exact hr
  have hwatchers : ∀ x, x ∈ ((o.store.halt (some id)).release id).watchers ↔
      x ∈ o.store.watchers ∧ x.id ≠ id := by
    intro x
    rw [WatchedStore.halt_release_watchers, List.mem_filter, decide_eq_true_eq]
  -- the recovery that ends here was of another watcher than the present one
  have hsilent : o.Silent → Silent { o with
      store := (o.store.halt (some id)).release id
      recoveries := others } := by
    intro hsilent id' hid
    rcases hsilent id' hid with ⟨r, hr, rfl⟩
    refine ⟨r, hleft r hr ?_, rfl⟩
    -- the watcher that is halted is not the one of a new outage
    rintro rfl
    exact hcurrent hid
  refine ⟨?_, ?_, ?_, ?_⟩
  · intro x hx
    rcases (hwatchers x).1 hx with ⟨hx, hne⟩
    rcases h.going x hx with ⟨hgoes, hcurrent | hrelieving⟩
    · exact ⟨hgoes, .inl hcurrent⟩
    · exact ⟨hgoes, .inr (hleft _ hrelieving hne)⟩
  · intro id' relieved hid
    exact h.own id' relieved (hothers _ hid)
  · intro id' hid
    exact h.current id' (hid.imp (hothers _) (hothers _))
  · cases h.phase with
    | up available outages silent published =>
      refine .up available outages (hsilent silent) (published.imp_right ?_)
      rintro ⟨id', hid⟩
      exact ⟨id', by simpa using next.mem_iff.1 hid⟩
    | falling available outage outages silent =>
      exact .falling available outage outages (hsilent silent)
    | down available outages watcher asks current free =>
      refine .down available outages watcher ((hwatchers watcher).2 ⟨asks, ?_⟩) current
        (fun r hr => free r (hothers r hr))
      rintro rfl
      exact hcurrent current

end Orderly

/-- The watchers stay orderly until one of them is left over for good. -/
theorem spare_or_orderly_step (h : o.Spare ∨ o.Orderly) (hsound : o.Sound) (hs : o.Step o') :
    o'.Spare ∨ o'.Orderly := by
  -- one case for each section; what two sections have in common is the invariant
  rcases h with hspare | h
  · exact .inl (hspare.step hsound hs)
  · cases hs with
    | fail => exact .inr h.fail
    | hear asks free reply => exact .inr (h.told asks free reply)
    | publishOutage next =>
      rcases h.falling_of_outage next with ⟨rfl, available, silent⟩
      exact .inr ⟨h.going, h.own, h.current, .falling available .published rfl silent⟩
    | setWatcher next => exact h.setWatcher hsound next
    | publishRecovery next => exact .inr (h.publishRecovery next)
    | relieve next => exact .inr (h.relieve hsound next)
    | halt next => exact .inr (h.halt next)
    | elapse inner audience =>
      refine .inr ⟨h.going, h.own, h.current, ?_⟩
      cases h.phase with
      | up available outages silent published => exact .up available outages silent published
      | falling available outage outages silent =>
        exact .falling available outage outages silent
      | down available outages watcher asks current free =>
        exact .down available outages watcher asks current free

/-! ## Every outage is watched -/

/-- A store that nothing has happened to since it was put under watch. -/
structure Untouched (w : WatchedStore σ) : Prop where
  available : w.available = true
  watchers : w.watchers = []
  current : w.current = none
  published : w.feed.current.available = true

theorem Untouched.sound {w : WatchedStore σ} (h : Untouched w) : Sound ⟨w, [], []⟩ :=
  ⟨by simp [h.watchers], by simp, List.nodup_nil⟩

theorem Untouched.orderly_start {w : WatchedStore σ} (h : Untouched w) : Orderly ⟨w, [], []⟩ := by
  refine ⟨by simp [h.watchers], by simp, by simp, .up h.available rfl ?_ (.inl h.published)⟩
  intro id hid
  exact absurd (h.current.symm.trans hid) (by simp)

/-- However outages and recoveries overlap, the watchers are orderly or one of them is left over. -/
theorem Untouched.run {w : WatchedStore σ} (h : Untouched w) (run : Run ⟨w, [], []⟩ o) :
    o.Sound ∧ (o.Spare ∨ o.Orderly) := by
  induction run with
  | refl => exact ⟨h.sound, .inr h.orderly_start⟩
  | tail _ step ih => exact ⟨ih.1.step step, spare_or_orderly_step ih.2 ih.1 step⟩

/-- No outage is left unwatched, however outages and recoveries overlap. Whenever none of them is
being dealt with and the store counts as unavailable, or has been published to be, there is a
watcher that has not been stopped. -/
theorem Run.none_unwatched {w : WatchedStore σ} (h : Untouched w) (run : Run ⟨w, [], []⟩ o)
    (houtages : o.outages = []) (hrecoveries : o.recoveries = [])
    (hout : o.store.available = false ∨ o.store.feed.current.available = false) :
    ∃ watcher ∈ o.store.watchers, watcher.stopped = false := by
  rcases (h.run run).2 with ⟨x, hx, hgoes, -⟩ | horderly
  · exact ⟨x, hx, hgoes⟩
  · cases horderly.phase with
    | up available _ _ published =>
      -- nothing is being dealt with, and so nothing tells of an outage
      rw [hrecoveries] at published
      rcases published with published | ⟨id, hid⟩
      · rw [available, published] at hout
        simp at hout
      · exact absurd hid List.not_mem_nil
    | falling _ outage outages => exact absurd (outages.symm.trans houtages) (by simp)
    | down _ _ watcher asks => exact ⟨watcher, asks, (horderly.going watcher asks).1⟩

/-! ## A request that fails while a recovery is heard of -/

/-- A store in memory under watch. -/
def sample : WatchedStore Memory :=
  { inner := {}, watched := true, feed := .create none }

theorem sample_untouched : Untouched sample :=
  ⟨rfl, rfl, rfl, rfl⟩

/-- The store during its first outage. -/
def lostSample : WatchedStore Memory :=
  sample.lapse.setWatcher

/-- A listener hears of a recovery and makes a request, which fails. The watcher of that outage is
set before the recovery has stopped the current one, so that the new one is stopped and the old one
goes on asking. -/
theorem Run.none_unwatched_of_failure_during_recovery :
    ∃ o : Overlap Memory, Run ⟨sample, [], []⟩ o ∧ o.outages = [] ∧ o.recoveries = [] ∧
      o.store.available = false ∧ o.store.current = none ∧
      o.store.watchers = [⟨0, false⟩, ⟨1, true⟩] ∧
      ∃ watcher ∈ o.store.watchers, watcher.stopped = false := by
  have hlost : Run ⟨sample, [], []⟩ ⟨lostSample, [], []⟩ := run_onFailure sample
  have hasks : (⟨0, false⟩ : Watcher) ∈ lostSample.watchers := List.mem_singleton_self _
  -- the watcher is told that the store is available, and the recovery is published
  have hheard := Step.hear (o := ⟨lostSample, [], []⟩) hasks
    (fun r hr => absurd hr List.not_mem_nil) (.ok (.boolean true))
  have hmarked : Run ⟨sample, [], []⟩
      ⟨{ lostSample with available := true }, [], [.marked 0]⟩ := hlost.tail hheard
  have hfound : Run ⟨sample, [], []⟩ ⟨lostSample.revive, [], [.published 0]⟩ :=
    hmarked.tail (.publishRecovery (.refl _))
  -- the request of the listener fails, and that is dealt with before the recovery
  have hfailed : Run ⟨sample, [], []⟩
      ⟨{ lostSample.revive with available := false }, [.marked], [.published 0]⟩ :=
    hfound.tail (.fail _)
  have hagain : Run ⟨sample, [], []⟩
      ⟨lostSample.revive.lapse.setWatcher, [], [.published 0]⟩ :=
    (hfailed.tail (.publishOutage (.refl _))).tail (.setWatcher (.refl _))
  have hrun : Run ⟨sample, [], []⟩
      ⟨lostSample.revive.lapse.setWatcher.dismiss.release 0, [], []⟩ :=
    (hagain.tail (.relieve (.refl _))).tail (.halt (.refl _))
  exact ⟨_, hrun, rfl, rfl, rfl, rfl, rfl,
    Run.none_unwatched sample_untouched hrun rfl rfl (.inl rfl)⟩

end Overlap

end FlagReplica
