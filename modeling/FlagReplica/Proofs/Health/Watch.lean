import FlagReplica.Proofs.Audience.Prospect
import FlagReplica.Proofs.Health.Turns

/-!
# The watch over a store

What can happen to a store under watch, until the watch is stopped from outside: requests, answers
to its watcher, deliveries to its listeners. Requests pass through unchanged. Whoever listens from
the start hears of every turn as it is published, and a watcher is set exactly during an outage. The
invariant is `Watching`; `Watching.step` says what each occasion does to it.
-/

namespace FlagReplica

namespace WatchedStore

variable {σ α : Type} {w w' : WatchedStore σ} {stale : Bool} {t : Bool × Nat}

/-! ## Runs -/

/-- One occasion. -/
inductive Step [Repository σ] : WatchedStore σ → Occasion → WatchedStore σ → Prop where
  | ask {α : Type} (w : WatchedStore σ) (c : Call α) :
      Step w (.asked (c.ask w).result.isOk) (c.ask w).state
  | check {w w' : WatchedStore σ} {reply : Except Fault Json.Value} {notices : List Notice}
      (heard : w.hear reply = some (notices, w')) : Step w (.checked reply) w'
  | deliver {w : WatchedStore σ} {audience : Audience Health}
      (step : w.feed.audience.step = some audience) :
      Step w .delivered { w with feed := { w.feed with audience } }
  | elapse (w : WatchedStore σ) (inner : σ) : Step w .elapsed { w with inner }

/-- Occasions one after another, the latest at the end. -/
inductive Run [Repository σ] (w : WatchedStore σ) : List Occasion → WatchedStore σ → Prop where
  | nil : Run w [] w
  | snoc {past : List Occasion} {w' w'' : WatchedStore σ} {a : Occasion}
      (run : Run w past w') (step : Step w' a w'') : Run w (past ++ [a]) w''

/-- A store that nothing has happened to since it was put under watch, with a mute audience in which
one listener of a name is registered, once. -/
structure Fresh (w : WatchedStore σ) (probe : HealthProbe) (name : Text) : Prop where
  watched : w.watched = probe.isWatched
  available : w.available = true
  watchers : w.watchers = []
  current : w.feed.current = ⟨true, false⟩
  mute : w.feed.audience.Mute
  prompt : w.feed.audience.Prompt
  once : w.feed.audience.registered.count name = 1
  prospect : w.feed.audience.prospect name = []

/-! ## What every run preserves -/

theorem records_follows (name : Text) : Audience.Records (Audience.Follows name) :=
  fun health h => h.tell health

variable {name : Text}

/-- A store under watch after so many turns, which the listener of a name hears of: a watcher is set
exactly while the store does not count as available. -/
structure Watching (w : WatchedStore σ) (name : Text) (stale : Bool) (t : Bool × Nat) : Prop where
  turned : w.Turned (Audience.Follows name) stale t
  idle : t.1 = true → w.watchers = []
  asking : t.1 = false → ∃ id, w.watchers = [⟨id, false⟩] ∧ w.current = some id

namespace Watching

/-- Watchers are left alone where nothing turns. -/
theorem congr {t' : Bool × Nat} (h : w.Watching name stale t)
    (hturned : w'.Turned (Audience.Follows name) stale t') (hsame : t'.1 = t.1)
    (hwatchers : w'.watchers = w.watchers) (hcurrent : w'.current = w.current) :
    w'.Watching name stale t' := by
  refine ⟨hturned, ?_, ?_⟩
  · intro havailable
    rw [hwatchers]
    exact h.idle (hsame.symm.trans havailable)
  · intro hout
    rw [hwatchers, hcurrent]
    exact h.asking (hsame.symm.trans hout)

/-- The first failure sets a watcher, and only the first. -/
theorem onFailure (h : w.Watching name stale t) :
    w.onFailure.2.Watching name stale ((Occasion.asked false).count t) := by
  have hturned := h.turned.onFailure (records_follows name)
  rcases t with ⟨available, turns⟩
  cases available with
  | true =>
    refine ⟨hturned, fun hup => absurd hup Bool.false_ne_true, fun _ => ⟨w.watchersSet, ?_, ?_⟩⟩
    · rw [onFailure_of_available h.turned.watched h.turned.marked]
      simp [setWatcher, lapse, h.idle rfl]
    · rw [onFailure_of_available h.turned.watched h.turned.marked]
      rfl
  | false =>
    rw [onFailure_of_outage h.turned.marked] at hturned ⊢
    exact h.congr hturned rfl rfl rfl

theorem ask [Repository σ] (h : w.Watching name stale t) (c : Call α) :
    (c.ask w).state.Watching name stale ((Occasion.asked (c.ask w).result.isOk).count t) := by
  rcases ask_cases c w with ⟨inner, ⟨hok, hstate⟩ | ⟨hok, hstate⟩⟩
  · rw [hok, hstate]
    exact h.congr (h.turned.congr rfl rfl rfl rfl) rfl rfl rfl
  · have hinner : ({ w with inner } : WatchedStore σ).Watching name stale t :=
      h.congr (h.turned.congr rfl rfl rfl rfl) rfl rfl rfl
    rw [hok, hstate]
    exact hinner.onFailure

/-- The answer that tells of a recovery is the last that is wanted. -/
theorem hear (h : w.Watching name stale t) {reply : Except Fault Json.Value}
    {notices : List Notice} (heard : w.hear reply = some (notices, w')) :
    w'.Watching name stale ((Occasion.checked reply).count t) := by
  rcases t with ⟨available, turns⟩
  cases available with
  | true =>
    -- nobody asks
    rw [WatchedStore.hear, h.idle rfl] at heard
    exact absurd heard (by simp)
  | false =>
    rcases h.asking rfl with ⟨id, hasks, hcurrent⟩
    rw [WatchedStore.hear, hasks] at heard
    have hanswer : (w.answer id reply).2 = w' := congrArg Prod.snd (Option.some.inj heard)
    have hturned := h.turned.answer (records_follows name) id reply
    rw [hanswer] at hturned
    cases hverdict : (Occasion.checked reply).verdict? with
    | none =>
      -- the watcher goes on asking
      have hgoes : ∀ watcher ∈ w.watchers, watcher.stopped = false := by
        simp [hasks]
      rw [answer_of_unknown hverdict, release_of_going hgoes] at hanswer
      rw [Occasion.count_of_none hverdict] at hturned ⊢
      exact h.congr hturned rfl (by rw [hanswer]) (by rw [hanswer])
    | some verdict =>
      rcases answer_of_verdict hverdict w id with ⟨rfl, hyes⟩
      rw [hyes, onRecovery_of_outage h.turned.marked] at hanswer
      simp only [Occasion.count, hverdict] at hturned ⊢
      refine ⟨hturned, fun _ => ?_, fun hout => absurd hout.symm Bool.false_ne_true⟩
      rw [← hanswer]
      simp [release, dismiss, revive, hasks, hcurrent]

/-- Every occasion counts for what it tells about the store. -/
theorem step [Repository σ] {a : Occasion} (h : w.Watching name stale t) (hs : w.Step a w') :
    w'.Watching name stale (a.count t) := by
  cases hs with
  | ask w c => exact h.ask c
  | check heard => exact h.hear heard
  | deliver hstep =>
    have hfollows := h.turned.recorded
    have hdelivers := hfollows.mute.step_delivers hstep
    refine h.congr ⟨h.turned.watched, h.turned.marked, h.turned.staleOnRecovery, h.turned.parity,
      ⟨hdelivers.mute, ?_, ?_, ?_⟩, h.turned.current⟩ rfl rfl rfl
    · intro hd
      exact absurd (hdelivers.dispatcher.symm.trans hd) (hfollows.prompt.step hstep)
    · rw [hdelivers.registered, hfollows.once]
    · rw [hdelivers.prospect, hfollows.prospect]
      rfl
  | elapse _ inner => exact h.congr (h.turned.congr rfl rfl rfl rfl) rfl rfl rfl

end Watching

/-! ## A store that is not watched -/

/-- A store that is not watched: nothing is published and nobody asks. -/
structure Unwatched (w : WatchedStore σ) (name : Text) : Prop where
  watched : w.watched = false
  watchers : w.watchers = []
  mute : w.feed.audience.Mute
  prospect : w.feed.audience.prospect name = []
  current : w.feed.current = ⟨true, false⟩

theorem Unwatched.step [Repository σ] {a : Occasion} (h : w.Unwatched name) (hs : w.Step a w') :
    w'.Unwatched name := by
  cases hs with
  | ask w c =>
    have hinner (inner : σ) : ({ w with inner } : WatchedStore σ).Unwatched name :=
      ⟨h.watched, h.watchers, h.mute, h.prospect, h.current⟩
    rcases ask_cases c w with ⟨inner, ⟨-, hstate⟩ | ⟨-, hstate⟩⟩
    · rw [hstate]
      exact hinner inner
    · have hquiet : ({ w with inner } : WatchedStore σ).onFailure.2 = { w with inner } := by
        simp [onFailure, h.watched]
      rw [hstate, hquiet]
      exact hinner inner
  | check heard =>
    rw [WatchedStore.hear, h.watchers] at heard
    exact absurd heard (by simp)
  | deliver hstep =>
    have hdelivers := h.mute.step_delivers hstep
    refine ⟨h.watched, h.watchers, hdelivers.mute, ?_, h.current⟩
    rw [hdelivers.prospect, h.prospect]
  | elapse _ inner => exact ⟨h.watched, h.watchers, h.mute, h.prospect, h.current⟩

/-! ## Every run -/

section Runs

variable [Repository σ] {w₀ : WatchedStore σ} {probe : HealthProbe} {past : List Occasion}

theorem Run.watching (hfresh : w₀.Fresh probe name) (hprobe : probe.isWatched = true)
    (run : w₀.Run past w) :
    w.Watching name w₀.staleOnRecovery (tally past) := by
  induction run with
  | nil =>
    refine ⟨⟨hfresh.watched.trans hprobe, hfresh.available, rfl, rfl, ?_, hfresh.current⟩,
      fun _ => hfresh.watchers, fun h => absurd h (by decide)⟩
    exact ⟨hfresh.mute, hfresh.prompt, hfresh.once, hfresh.prospect⟩
  | snoc _ step ih =>
    rw [tally_concat]
    exact ih.step step

theorem Run.unwatched (hfresh : w₀.Fresh probe name) (hprobe : probe.isWatched = false)
    (run : w₀.Run past w) : w.Unwatched name := by
  induction run with
  | nil =>
    exact ⟨hfresh.watched.trans hprobe, hfresh.watchers, hfresh.mute, hfresh.prospect,
      hfresh.current⟩
  | snoc _ step ih => exact ih.step step

/-- Whatever happens to a store under watch until the watch is stopped from outside: every request
comes to what it comes to in the store within, its answer or its failure. If the store is watched,
outages and recoveries are published in turn, one whenever what is told about the store changes, and
a listener registered from the start hears them as they are published; the published health is the
latest of them; and a watcher, which has not been stopped, is set exactly while it tells of an
outage. If it is not, nothing is ever published and no watcher ever set. -/
theorem Run.health (hfresh : w₀.Fresh probe name) (run : w₀.Run past w) :
    (∀ {α : Type} (c : Call α), (c.ask w).result = (c.handedOver.ask w.inner).result ∧
      (c.ask w).state.inner = (c.handedOver.ask w.inner).state) ∧
    (probe.isWatched = true →
      w.feed.audience.prospect name = Health.alternating w₀.staleOnRecovery (tally past).2 ∧
      w.feed.audience.heardBy name =
        Health.alternating w₀.staleOnRecovery (w.feed.audience.heardBy name).length ∧
      (w.feed.audience.dispatcher = none →
        w.feed.audience.heardBy name = w.feed.audience.prospect name) ∧
      w.feed.current = (w.feed.audience.prospect name).getLast?.getD ⟨true, false⟩ ∧
      w.feed.current.available = (tally past).1 ∧
      (w.feed.current.available = true → w.watchers = []) ∧
      (w.feed.current.available = false → ∃ id, w.watchers = [⟨id, false⟩])) ∧
    (probe.isWatched = false →
      w.feed.audience.prospect name = [] ∧ w.feed.audience.heardBy name = [] ∧
      w.feed.current = ⟨true, false⟩ ∧ w.watchers = []) := by
  refine ⟨?_, ?_, ?_⟩
  · intro α c
    rw [ask_eq]
    exact ⟨passOn_result w _, passOn_inner w _⟩
  · intro hprobe
    have h := run.watching hfresh hprobe
    have hcurrent := h.turned.current_available
    have hfollows := h.turned.recorded
    -- the listener may lag behind what was published, never run ahead of it
    have hheard : w.feed.audience.heardBy name <+:
        Health.alternating w₀.staleOnRecovery (tally past).2 := by
      rw [← hfollows.prospect]
      exact Audience.heardBy_prefix _ name
    refine ⟨hfollows.prospect, Health.eq_alternating_of_prefix hheard,
      fun hd => hfollows.prompt.heardBy_eq hd name, ?_, hcurrent, ?_, ?_⟩
    · rw [hfollows.prospect]
      exact h.turned.current
    · intro havailable
      exact h.idle (hcurrent.symm.trans havailable)
    · intro hout
      rcases h.asking (hcurrent.symm.trans hout) with ⟨id, hasks, -⟩
      exact ⟨id, hasks⟩
  · intro hprobe
    have h := run.unwatched hfresh hprobe
    have hheard := Audience.heardBy_prefix w.feed.audience name
    rw [h.prospect] at hheard
    exact ⟨h.prospect, List.prefix_nil.1 hheard, h.current, h.watchers⟩

end Runs

/-! ## Two outages -/

/-- A store in memory under watch, which one listener hears of. -/
def sample : WatchedStore Memory :=
  { inner := {}
    watched := true
    feed := { audience := (HealthFeed.create none).audience.add "main" } }

theorem sample_fresh : sample.Fresh ⟨some true, true⟩ "main" := by
  have hfollows : Audience.Follows "main" [] sample.feed.audience :=
    .of_add rfl rfl rfl rfl rfl "main"
  exact ⟨rfl, rfl, rfl, rfl, hfollows.mute, hfollows.prompt, hfollows.once, hfollows.prospect⟩

/-- The store when its medium refuses everything, or nothing any more. -/
def withOutage (w : WatchedStore Memory) (outage : Option Fault) : WatchedStore Memory :=
  { w with inner := { w.inner with outage } }

/-- Two requests fail during one outage, and the watcher is told first nothing, then that the store
is available: the listener has heard of one outage and one recovery, and the watcher is gone. -/
theorem Run.health_of_outage :
    ∃ past w, sample.Run past w ∧
      w.feed.audience.heardBy "main" = [⟨false, false⟩, ⟨true, true⟩] ∧
      w.feed.current = ⟨true, true⟩ ∧ w.watchers = [] := by
  let gone : Fault := .other "OSError" "gone"
  -- the medium fails, two requests are refused, a question goes wrong
  have hfails := Run.nil.snoc (.elapse sample (sample.withOutage (some gone)).inner)
  have hasked := (hfails.snoc (.ask _ (.get .flag "a"))).snoc (.ask _ (.all .segment))
  have hunknown := hasked.snoc (.check (show hear _ (.error gone) = some _ from rfl))
  -- the medium is back, and the next question is answered
  have hback := hunknown.snoc (.elapse _ (sample.withOutage none).inner)
  have hrun := hback.snoc (.check (show hear _ (.ok (.boolean true)) = some _ from rfl))
  rcases hrun.health sample_fresh with ⟨-, hwatched, -⟩
  rcases hwatched rfl with ⟨hprospect, -, hdirect, hcurrent, -, hidle, -⟩
  rw [hprospect] at hcurrent
  exact ⟨_, _, hrun, (hdirect rfl).trans hprospect, hcurrent, hidle (congrArg _ hcurrent)⟩

end WatchedStore

end FlagReplica
