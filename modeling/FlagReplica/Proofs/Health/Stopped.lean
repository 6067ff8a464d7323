import FlagReplica.Proofs.Health.Guard
import FlagReplica.Proofs.Health.Watch

/-!
# After a stop of the watch

A stop from outside leaves nobody asking, in whatever state it finds the store. It does not say that
nobody is to be set any more: the flag stays as it is, and so the first request that fails while the
store counts as available sets a watcher again. `Run.rested_iff` says that this is the only way
back. The answers that come until then are those that were awaited at the stop.
-/

namespace FlagReplica.WatchedStore

variable {σ α : Type} {w w' : WatchedStore σ} {a : WatchedStore.Occasion}
  {later : List WatchedStore.Occasion}

/-- A watcher has its answer. -/
def Occasion.isAnswer : Occasion → Bool
  | checked _ => true
  | _ => false

/-- A store after any use since it was put under watch, stops from outside included. -/
inductive Reached [Repository σ] : WatchedStore σ → Prop where
  | fresh {w : WatchedStore σ} (watchers : w.watchers = []) : Reached w
  | step {w w' : WatchedStore σ} {a : Occasion} (before : Reached w) (step : w.Step a w') :
      Reached w'
  | stop {w : WatchedStore σ} (before : Reached w) : Reached w.stop

/-- What has been told about a store since its flag was seen last, that included. -/
def verdicts (w : WatchedStore σ) (later : List Occasion) : List Bool :=
  w.available :: later.filterMap Occasion.verdict?

/-- The store was told to be available, or counted as such, and a request has failed later. -/
def Relapses (w : WatchedStore σ) (later : List Occasion) : Prop :=
  w.watched = true ∧ [true, false].Sublist (w.verdicts later)

/-- What is left of the watch when a store has been stopped and other things have happened: nobody
asks and nobody has been set, and every answer since then was awaited at the stop. -/
structure Rested (w : WatchedStore σ) (later : List Occasion) (w' : WatchedStore σ) : Prop where
  unasked : w'.Unasked
  set : w'.watchersSet = w.watchersSet
  answers : later.countP Occasion.isAnswer + w'.watchers.length ≤ w.watchers.length

/-! ## One occasion -/

/-- A failure is a relapse where the store counts as available. -/
theorem onFailure_marked (w : WatchedStore σ) :
    w.onFailure.2.watched = w.watched ∧ w.watchersSet ≤ w.onFailure.2.watchersSet ∧
      (w.watched = true → w.onFailure.2.available = false) := by
  unfold onFailure
  split
  · exact ⟨rfl, Nat.le_succ _, fun _ => rfl⟩
  · rename_i hold
    exact ⟨rfl, Nat.le_refl _, fun hwatched => by simpa [hwatched] using hold⟩

/-- An answer sets nobody. -/
theorem answer_marked (w : WatchedStore σ) (id : Nat) (reply : Except Fault Json.Value) :
    (w.answer id reply).2.watched = w.watched ∧
      (w.answer id reply).2.watchersSet = w.watchersSet ∧
      (w.answer id reply).2.available = (Occasion.checked reply).verdict?.getD w.available := by
  cases hverdict : (Occasion.checked reply).verdict? with
  | none =>
    rw [answer_of_unknown hverdict]
    exact ⟨rfl, rfl, rfl⟩
  | some verdict =>
    rcases answer_of_verdict hverdict w id with ⟨rfl, hanswer⟩
    rw [hanswer]
    cases havailable : w.available with
    | true =>
      rw [onRecovery_of_available havailable]
      exact ⟨rfl, rfl, havailable⟩
    | false =>
      rw [onRecovery_of_outage havailable]
      exact ⟨rfl, rfl, rfl⟩

/-- Where everybody has been stopped a recovery stops nobody. -/
theorem Unasked.onRecovery_watchers (h : w.Unasked) : w.onRecovery.2.watchers = w.watchers := by
  unfold onRecovery
  split
  · rfl
  · refine (List.map_congr_left fun watcher hw => ?_).trans (List.map_id _)
    have hstopped : { watcher with stopped := true } = watcher := by
      rw [← h watcher hw]
    split
    · exact hstopped
    · rfl

/-- Where everybody has been stopped, whoever has an answer ends. -/
theorem Unasked.answer (h : w.Unasked) {watcher : Watcher} (asks : watcher ∈ w.watchers)
    (reply : Except Fault Json.Value) :
    (w.answer watcher.id reply).2.Unasked ∧
      1 + (w.answer watcher.id reply).2.watchers.length ≤ w.watchers.length := by
  have hwatchers : (w.answer watcher.id reply).2.watchers = (w.release watcher.id).watchers := by
    cases hverdict : (Occasion.checked reply).verdict? with
    | none => rw [answer_of_unknown hverdict]
    | some verdict =>
      rw [(answer_of_verdict hverdict w watcher.id).2]
      simp only [release, h.onRecovery_watchers]
  refine ⟨fun x hx => h x ?_, ?_⟩
  · rw [hwatchers] at hx
    exact (List.mem_filter.1 hx).1
  · rw [hwatchers, Nat.add_comm]
    exact List.length_filter_lt_length_iff_exists.2
      ⟨watcher, asks, by simp [h watcher asks]⟩

section Steps

variable [Repository σ]

theorem Guarded.step (h : w.Guarded) (hs : w.Step a w') : w'.Guarded := by
  cases hs with
  | ask w c => exact h.ask c
  | check heard => exact h.hear heard
  | deliver _ => exact h.congr rfl rfl rfl
  | elapse _ inner => exact h.congr rfl rfl rfl

/-- Wherever a store has come to, whoever asks is the current watcher. -/
theorem Reached.guarded (h : w.Reached) : w.Guarded := by
  induction h with
  | @fresh w watchers =>
    have hunasked : w.Unasked := by
      intro watcher hw
      rw [watchers] at hw
      exact absurd hw List.not_mem_nil
    exact hunasked.guarded
  | step _ step ih => exact ih.step step
  | stop _ ih => exact ih.dismiss

/-- The flag of a store that is watched is what has been told last. -/
theorem Step.marked (hs : w.Step a w') :
    w'.watched = w.watched ∧ w.watchersSet ≤ w'.watchersSet ∧
      (w.watched = true → w'.available = a.verdict?.getD w.available) := by
  cases hs with
  | ask w c =>
    rcases ask_cases c w with ⟨inner, ⟨hok, hstate⟩ | ⟨hok, hstate⟩⟩
    · rw [hok, hstate]
      exact ⟨rfl, Nat.le_refl _, fun _ => rfl⟩
    · rw [hok, hstate]
      exact onFailure_marked _
  | check heard =>
    rcases hear_cases heard with ⟨watcher, -, rfl⟩
    rcases w.answer_marked watcher.id _ with ⟨hwatched, hset, havailable⟩
    exact ⟨hwatched, Nat.le_of_eq hset.symm, fun _ => havailable⟩
  | deliver _ => exact ⟨rfl, Nat.le_refl _, fun _ => rfl⟩
  | elapse => exact ⟨rfl, Nat.le_refl _, fun _ => rfl⟩

/-- A request that fails while the store counts as available sets a watcher. -/
theorem Step.sets (hs : w.Step a w') (hfails : a.verdict? = some false)
    (hwatched : w.watched = true) (havailable : w.available = true) : w.watchersSet < w'.watchersSet := by
  cases hs with
  | ask w c =>
    rcases ask_cases c w with ⟨inner, ⟨hok, -⟩ | ⟨-, hstate⟩⟩
    · rw [hok] at hfails
      exact absurd hfails (by simp [Occasion.verdict?])
    · have hlost : ({ w with inner } : WatchedStore σ).onFailure.2 =
          ({ w with inner } : WatchedStore σ).lapse.setWatcher :=
        onFailure_of_available hwatched havailable
      rw [hstate, hlost]
      exact Nat.lt_succ_self _
  | check _ => exact absurd (answer_of_verdict hfails w 0).1 (by decide)
  | deliver _ => exact absurd hfails (by simp [Occasion.verdict?])
  | elapse => exact absurd hfails (by simp [Occasion.verdict?])

/-- Nothing else does, and where everybody has been stopped nobody asks again. -/
theorem Step.rests (hs : w.Step a w') (hunasked : w.Unasked)
    (hquiet : a.verdict? = some false → ¬ (w.watched = true ∧ w.available = true)) :
    w'.Unasked ∧ w'.watchersSet = w.watchersSet ∧
      [a].countP Occasion.isAnswer + w'.watchers.length ≤ w.watchers.length := by
  cases hs with
  | ask w c =>
    have hsame (inner : σ) : ({ w with inner } : WatchedStore σ).Unasked ∧
        ({ w with inner } : WatchedStore σ).watchersSet = w.watchersSet ∧
        [Occasion.asked (c.ask w).result.isOk].countP Occasion.isAnswer +
          w.watchers.length ≤ w.watchers.length :=
      ⟨hunasked, rfl, by simp [Occasion.isAnswer]⟩
    rcases ask_cases c w with ⟨inner, ⟨-, hstate⟩ | ⟨hok, hstate⟩⟩
    · rw [hstate]
      exact hsame inner
    · -- a failure changes a store only where it is watched and taken to be available
      have hold : ¬ (w.watched = true ∧ w.available = true) := by
        rw [hok] at hquiet
        exact hquiet rfl
      have hfailure : ({ w with inner } : WatchedStore σ).onFailure.2 = { w with inner } := by
        simp [onFailure, hold]
      rw [hstate, hfailure]
      exact hsame inner
  | @check _ _ reply _ heard =>
    rcases hear_cases heard with ⟨watcher, hasks, rfl⟩
    rcases hunasked.answer hasks reply with ⟨hunasked', hlength⟩
    refine ⟨hunasked', (w.answer_marked watcher.id reply).2.1, ?_⟩
    simpa [Occasion.isAnswer] using hlength
  | deliver _ => exact ⟨hunasked, rfl, by simp [Occasion.isAnswer]⟩
  | elapse => exact ⟨hunasked, rfl, by simp [Occasion.isAnswer]⟩

end Steps

/-! ## Every run after a stop -/

theorem verdicts_concat (w : WatchedStore σ) (later : List Occasion) (a : Occasion) :
    w.verdicts (later ++ [a]) = w.verdicts later ++ a.verdict?.toList := by
  cases h : a.verdict? <;> simp [verdicts, h]

/-- A store relapses over a request that fails after it was told to be available. -/
theorem relapses_concat :
    w.Relapses (later ++ [a]) ↔
      w.Relapses later ∨
        (w.watched = true ∧ a.verdict? = some false ∧ true ∈ w.verdicts later) := by
  have hsublist (l : List Bool) (last : Bool) : [true, false].Sublist (l ++ [last]) ↔
      [true, false].Sublist l ∨ (last = false ∧ true ∈ l) := by
    have hback : [true, false].Sublist l ↔ [false, true].Sublist l.reverse :=
      List.reverse_sublist.symm
    rw [← List.reverse_sublist, hback]
    simp [List.sublist_cons_iff, and_assoc]
  rw [Relapses, Relapses, verdicts_concat, ← and_or_left]
  refine and_congr_right fun _ => ?_
  cases a.verdict? with
  | none => simp
  | some verdict =>
    rw [Option.toList_some, hsublist, Option.some.injEq]

section Runs

variable [Repository σ]

/-- What every occasion after a stop preserves. -/
structure Settled (w : WatchedStore σ) (later : List Occasion) (w' : WatchedStore σ) : Prop where
  watched : w'.watched = w.watched
  relapsed : w.Relapses later → w.watchersSet < w'.watchersSet
  rested : ¬ w.Relapses later → w.Rested later w'
  available : ¬ w.Relapses later → w.watched = true →
    (w'.available = true ↔ true ∈ w.verdicts later)

theorem Settled.step (h : w.Settled later w') {w'' : WatchedStore σ} (hs : w'.Step a w'') :
    w.Settled (later ++ [a]) w'' := by
  rcases hs.marked with ⟨hwatched, hmono, hmarked⟩
  have hsplit : w.Relapses (later ++ [a]) ↔ _ := relapses_concat
  refine ⟨hwatched.trans h.watched, ?_, ?_, ?_⟩
  · rw [hsplit]
    intro hrelapses
    -- the relapse is older than this step, or it is this step
    by_cases hbefore : w.Relapses later
    · exact Nat.lt_of_lt_of_le (h.relapsed hbefore) hmono
    · rcases hrelapses.resolve_left hbefore with ⟨hw, hfails, htold⟩
      have hsets := hs.sets hfails (h.watched.trans hw) ((h.available hbefore hw).2 htold)
      rwa [(h.rested hbefore).set] at hsets
  · rw [hsplit, not_or]
    rintro ⟨hbefore, hnext⟩
    have hrested := h.rested hbefore
    -- a failure here would be a relapse unless the outage was already known
    have hquiet : a.verdict? = some false → ¬ (w'.watched = true ∧ w'.available = true) := by
      rintro hfails ⟨hw, havailable⟩
      have hw' : w.watched = true := h.watched.symm.trans hw
      exact hnext ⟨hw', hfails, (h.available hbefore hw').1 havailable⟩
    rcases hs.rests hrested.unasked hquiet with ⟨hunasked, hset, hanswers⟩
    refine ⟨hunasked, hset.trans hrested.set, ?_⟩
    have hbound := hrested.answers
    rw [List.countP_append]
    omega
  · rw [hsplit, not_or]
    rintro ⟨hbefore, hnext⟩ hw
    have hold := h.available hbefore hw
    rw [verdicts_concat, hmarked (h.watched.trans hw)]
    -- only a call with a verdict can change what the store is taken to be
    cases hverdict : a.verdict? with
    | none => simpa using hold
    | some verdict =>
      cases verdict with
      | true => simp
      | false =>
        have htold : true ∉ w.verdicts later := fun htold => hnext ⟨hw, hverdict, htold⟩
        simpa using htold

/-- What becomes of a store after a stop from outside, in whatever state it was: nobody is set and
nobody asks any more, and every answer since then was awaited at the stop, unless the watch has
relapsed. It relapses exactly if the store is watched and a request fails after the store was told
to be available, or counted as available at the stop. -/
theorem Run.rested_iff (reached : w.Reached) (run : Run w.stop later w') :
    w.Rested later w' ↔ ¬ w.Relapses later := by
  have hsettled : w.Settled later w' := by
    induction run with
    | nil =>
      have hnot : ¬ w.Relapses [] := by
        rintro ⟨-, hlong⟩
        exact absurd hlong.length_le (by simp [verdicts])
      refine ⟨rfl, fun h => absurd h hnot, fun _ => ?_, fun _ _ => ?_⟩
      · exact ⟨reached.guarded.dismiss_unasked, rfl, by simp [stop, dismiss]⟩
      · show w.available = true ↔ true ∈ [w.available]
        rw [List.mem_singleton, eq_comm]
    | snoc _ step ih => exact ih.step step
  refine ⟨fun hrested hrelapses => ?_, hsettled.rested⟩
  exact Nat.ne_of_gt (hsettled.relapsed hrelapses) hrested.set

end Runs

/-! ## A stop during an outage, and a stop before one -/

theorem Run.reached [Repository σ] {past : List Occasion} (h : w.Reached) (run : Run w past w') :
    w'.Reached := by
  induction run with
  | nil => exact h
  | snoc _ step ih => exact ih.step step

/-- A medium that refuses everything. -/
def brokenSample : WatchedStore Memory :=
  sample.withOutage (some (.other (Text.ofChars ['E']) (Text.ofChars ['e'])))

/-- The watch is stopped while its watcher waits for an answer. Another request fails, and then the
answer comes that tells of a recovery: the watcher is gone, and nobody has been set. -/
theorem Run.rested_iff_of_late_answer :
    ∃ (w w' : WatchedStore Memory) (later : List Occasion), Run brokenSample [.asked false] w ∧
      w.watchers = [⟨0, false⟩] ∧ Run w.stop later w' ∧
      later = [.asked false, .checked (.ok (.boolean true))] ∧ w.Rested later w' ∧
      w'.watchers = [] := by
  let lost : WatchedStore Memory := ((Call.all .segment).ask brokenSample).state
  have hasked : Run brokenSample [.asked false] lost := Run.nil.snoc (.ask _ (.all .segment))
  have hrefused : Run lost.stop [.asked false] _ := Run.nil.snoc (.ask _ (.all .segment))
  have hlater := hrefused.snoc (.check (show hear _ (.ok (.boolean true)) = some _ from rfl))
  have hreached : lost.Reached := hasked.reached (.fresh rfl)
  refine ⟨lost, _, _, hasked, rfl, hlater, rfl, (Run.rested_iff hreached hlater).2 ?_, rfl⟩
  rintro ⟨-, hrelapse⟩
  exact absurd hrelapse (by decide)

/-- The watch is stopped while the store is available and the next request fails: a watcher asks. -/
theorem relapse_after_stop :
    ∃ w', Reached brokenSample ∧ Run brokenSample.stop [.asked false] w' ∧
      ¬ brokenSample.Rested [.asked false] w' ∧ w'.watchers = [⟨0, false⟩] := by
  have hasked : Run brokenSample.stop [.asked false] _ := Run.nil.snoc (.ask _ (.all .segment))
  refine ⟨_, .fresh rfl, hasked, fun hrested => ?_, rfl⟩
  exact absurd hrested.set (by decide)

end FlagReplica.WatchedStore
