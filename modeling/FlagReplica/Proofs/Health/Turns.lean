import FlagReplica.Health.Watch
import FlagReplica.Status.Gateway

/-!
# The turns of a store's health

Requests and answers tell about a store whether it is available. Each time what they tell changes is
a turn, and every turn is published: outages and recoveries in turn, beginning with an outage. The
lemmas here say so of each operation of a store under watch, for any audience and any way to record
what it is told.
-/

namespace FlagReplica

variable {σ α : Type}

/-! ## Requests -/

/-- A request, by the type of its answer. -/
inductive Call : Type → Type where
  | init (data : DataSet) : Call Unit
  | upsert (kind : Kind) (key : Text) (d : Descriptor) : Call Bool
  | get (kind : Kind) (key : Text) : Call (Option Descriptor)
  | all (kind : Kind) : Call Collection

namespace Call

/-- Makes a request. -/
def ask [Repository σ] : Call α → σ → Reply σ α
  | init data, store => Repository.init store data
  | upsert kind key d, store => Repository.upsert store kind key d
  | get kind key, store => Repository.get store kind key
  | all kind, store => Repository.all store kind

/-- The request as it is handed over to the store within: a full data set in writing order. -/
def handedOver : Call α → Call α
  | init data => init data.arranged
  | c => c

end Call

namespace WatchedStore

variable {w w' : WatchedStore σ}

/-- Every request is handed over and its reply passed on. -/
theorem ask_eq [Repository σ] (c : Call α) (w : WatchedStore σ) :
    c.ask w = w.passOn (c.handedOver.ask w.inner) := by
  cases c <;> rfl

/-- What was answered or refused within is passed on as it is. -/
theorem passOn_result (w : WatchedStore σ) (reply : Reply σ α) :
    (w.passOn reply).result = reply.result := by
  unfold passOn
  dsimp only
  split <;> simp_all

theorem onFailure_inner (w : WatchedStore σ) : w.onFailure.2.inner = w.inner := by
  unfold onFailure
  split <;> rfl

theorem passOn_inner (w : WatchedStore σ) (reply : Reply σ α) :
    (w.passOn reply).state.inner = reply.state := by
  unfold passOn
  dsimp only
  split
  · rfl
  · exact onFailure_inner _

/-- A request changes the store within, and if it fails that is taken note of. -/
theorem ask_cases [Repository σ] (c : Call α) (w : WatchedStore σ) :
    ∃ inner, ((c.ask w).result.isOk = true ∧ (c.ask w).state = { w with inner }) ∨
      ((c.ask w).result.isOk = false ∧
        (c.ask w).state = ({ w with inner } : WatchedStore σ).onFailure.2) := by
  refine ⟨(c.handedOver.ask w.inner).state, ?_⟩
  rw [ask_eq, passOn]
  dsimp only
  cases (c.handedOver.ask w.inner).result with
  | ok answer => exact .inl ⟨rfl, rfl⟩
  | error fault => exact .inr ⟨rfl, rfl⟩

/-- The watcher that has waited longest is the one that has the answer. -/
theorem hear_cases {reply : Except Fault Json.Value} {notices : List Notice}
    (heard : w.hear reply = some (notices, w')) :
    ∃ watcher ∈ w.watchers, (w.answer watcher.id reply).2 = w' := by
  unfold hear at heard
  split at heard
  · exact absurd heard (by simp)
  · rename_i watcher rest hwatchers
    exact ⟨watcher, hwatchers ▸ List.mem_cons_self .., congrArg Prod.snd (Option.some.inj heard)⟩

/-! ## Parts of the watch -/

/-- The first failure of a store that is watched is an outage, and sets a watcher. -/
theorem onFailure_of_available (hwatched : w.watched = true) (h : w.available = true) :
    w.onFailure.2 = w.lapse.setWatcher := by
  simp [onFailure, hwatched, h]

/-- Another failure in an outage is no news. -/
theorem onFailure_of_outage (h : w.available = false) : w.onFailure.2 = w := by
  simp [onFailure, h]

theorem onRecovery_of_available (h : w.available = true) : w.onRecovery.2 = w := by
  simp [onRecovery, h]

/-- A recovery ends the outage, and stops the watcher. -/
theorem onRecovery_of_outage (h : w.available = false) :
    w.onRecovery.2 = w.revive.dismiss := by
  simp [onRecovery, h]

/-- Where nobody has been stopped nobody ends. -/
theorem release_of_going (h : ∀ watcher ∈ w.watchers, watcher.stopped = false) (id : Nat) :
    w.release id = w := by
  have hkept : (w.watchers.filter fun watcher => !(watcher.id == id && watcher.stopped)) =
      w.watchers := by
    refine List.filter_eq_self.2 fun watcher hw => ?_
    simp [h watcher hw]
  rw [release, hkept]

/-! ## What occasions tell -/

/-- What happens to a store under watch. -/
inductive Occasion where
  /-- A request was made, and answered or refused. -/
  | asked (answered : Bool)
  /-- The watcher has its answer. -/
  | checked (reply : Except Fault Json.Value)
  /-- A listener is told something, or fails over it. -/
  | delivered
  /-- The store within changes. -/
  | elapsed

/-- What an occasion tells about the store: whether it is available, if it tells that. -/
def Occasion.verdict? : Occasion → Option Bool
  | asked false => some false
  | checked (.ok v) => if v.isTruthy then some true else none
  | _ => none

/-- An answer that tells nothing leaves the store as it is. -/
theorem answer_of_unknown {reply : Except Fault Json.Value}
    (h : (Occasion.checked reply).verdict? = none) {id : Nat} :
    (w.answer id reply).2 = w.release id := by
  cases reply with
  | error fault => rfl
  | ok v =>
    have hv : v.isTruthy = false := by
      simpa [Occasion.verdict?] using h
    simp only [answer, hv, Bool.false_eq_true, if_false]

/-- Every other answer tells of a store that is available. -/
theorem answer_of_verdict {reply : Except Fault Json.Value} {verdict : Bool}
    (h : (Occasion.checked reply).verdict? = some verdict) (w : WatchedStore σ) (id : Nat) :
    verdict = true ∧ (w.answer id reply).2 = w.onRecovery.2.release id := by
  cases reply with
  | error fault => exact absurd h (by simp [Occasion.verdict?])
  | ok v =>
    cases hv : v.isTruthy with
    | false => exact absurd h (by simp [Occasion.verdict?, hv])
    | true =>
      simp only [Occasion.verdict?, hv, if_true, Option.some.injEq] at h
      refine ⟨h.symm, ?_⟩
      simp only [answer, hv, if_true]

/-- Counts an occasion: whether the store counts as available after it, and how often that has
changed. -/
def Occasion.count (a : Occasion) (t : Bool × Nat) : Bool × Nat :=
  match a.verdict? with
  | some verdict => (verdict, if verdict = t.1 then t.2 else t.2 + 1)
  | none => t

/-- Whether a store that was available before counts as available after some occasions, and how
often that has changed. -/
def tally (past : List Occasion) : Bool × Nat :=
  past.foldl (fun t a => a.count t) (true, 0)

theorem tally_concat (past : List Occasion) (a : Occasion) :
    tally (past ++ [a]) = a.count (tally past) := by
  rw [tally, List.foldl_append]
  rfl

/-- An occasion that tells nothing about the store counts for nothing. -/
theorem Occasion.count_of_none {a : Occasion} (h : a.verdict? = none) (t : Bool × Nat) :
    a.count t = t := by
  simp only [count, h]

end WatchedStore

namespace Health

/-- What is published at a turn: an outage and a recovery in turn, beginning with an outage. A store
that comes back is stale or not. -/
def ofTurn (stale : Bool) (turn : Nat) : Health :=
  if turn % 2 = 0 then ⟨false, false⟩ else ⟨true, stale⟩

/-- What is published at so many turns. -/
def alternating (stale : Bool) (turns : Nat) : List Health :=
  (List.range turns).map (ofTurn stale)

/-- The health after so many turns. -/
def after (stale : Bool) (turns : Nat) : Health :=
  (alternating stale turns).getLast?.getD ⟨true, false⟩

theorem alternating_succ (stale : Bool) (turns : Nat) :
    alternating stale (turns + 1) = alternating stale turns ++ [ofTurn stale turns] := by
  simp [alternating, List.range_succ]

theorem after_succ (stale : Bool) (turns : Nat) :
    after stale (turns + 1) = ofTurn stale turns := by
  rw [after, alternating_succ, List.getLast?_concat, Option.getD_some]

/-- A store is available after every other turn. -/
theorem after_available (stale : Bool) (turns : Nat) :
    (after stale turns).available = (turns % 2 == 0) := by
  cases turns with
  | zero => rfl
  | succ turns =>
    rw [after_succ, ofTurn]
    split
    · simp; omega
    · simp; omega

/-- Every turn is news. -/
theorem ofTurn_ne_after (stale : Bool) (turns : Nat) : ofTurn stale turns ≠ after stale turns := by
  intro hsame
  have havailable := after_available stale turns
  rw [← hsame, ofTurn] at havailable
  split at havailable
  · simp at havailable; omega
  · simp at havailable; omega

/-- Every beginning of such a sequence is one itself. -/
theorem eq_alternating_of_prefix {stale : Bool} {turns : Nat} {l : List Health}
    (h : l <+: alternating stale turns) : l = alternating stale l.length := by
  rw [List.prefix_iff_eq_take] at h
  have hle : l.length ≤ turns := by
    have hlength := congrArg List.length h
    simp [alternating] at hlength
    omega
  calc l = (alternating stale turns).take l.length := h
    _ = alternating stale l.length := by
      rw [alternating, ← List.map_take, List.take_range, Nat.min_eq_left hle, alternating]

/-- What comes after some turns is the next one. -/
theorem eq_ofTurn_of_append {stale : Bool} {turns : Nat} {l rest : List Health} {health : Health}
    (h : l ++ health :: rest = alternating stale turns) :
    l = alternating stale l.length ∧ health = ofTurn stale l.length := by
  have hprefix : l ++ [health] <+: alternating stale turns := ⟨rest, by rw [← h]; simp⟩
  have hall := eq_alternating_of_prefix hprefix
  rw [List.length_append, List.length_singleton, alternating_succ] at hall
  rcases List.append_inj' hall rfl with ⟨hl, hhealth⟩
  exact ⟨hl, List.singleton_inj.1 hhealth⟩

/-- A turn is a recovery exactly if a store comes back, and it is stale then if every store is that
comes back. -/
theorem recovers_iff (turns : Nat) :
    (!(after true turns).available && (ofTurn true turns).available) =
      ((ofTurn true turns).available && (ofTurn true turns).stale) := by
  rw [after_available, ofTurn]
  split
  · simp
  · rename_i hodd
    simp [hodd]

end Health

/-! ## Turns -/

/-- A way to record what an audience is told, the latest last. -/
def Audience.Records (record : List Health → Audience Health → Prop) : Prop :=
  ∀ {told : List Health} {a : Audience Health} (health : Health),
    record told a → record (told ++ [health]) (a.tell health)

namespace WatchedStore

variable {w w' : WatchedStore σ} {record : List Health → Audience Health → Prop} {stale : Bool}
  {t : Bool × Nat}

/-- A store under watch that counts as available or not after so many turns, all of which have been
published. -/
structure Turned (w : WatchedStore σ) (record : List Health → Audience Health → Prop)
    (stale : Bool) (t : Bool × Nat) : Prop where
  watched : w.watched = true
  marked : w.available = t.1
  staleOnRecovery : w.staleOnRecovery = stale
  parity : t.1 = (t.2 % 2 == 0)
  recorded : record (Health.alternating stale t.2) w.feed.audience
  current : w.feed.current = Health.after stale t.2

namespace Turned

/-- The published health says whether the store counts as available. -/
theorem current_available (h : w.Turned record stale t) : w.feed.current.available = t.1 := by
  rw [h.current, Health.after_available, h.parity]

/-- The store within and its watchers make no difference. -/
theorem congr (h : w.Turned record stale t) (hwatched : w'.watched = w.watched)
    (hmarked : w'.available = w.available) (hstale : w'.staleOnRecovery = w.staleOnRecovery)
    (hfeed : w'.feed = w.feed) : w'.Turned record stale t :=
  ⟨hwatched.trans h.watched, hmarked.trans h.marked, hstale.trans h.staleOnRecovery, h.parity,
    hfeed ▸ h.recorded, hfeed ▸ h.current⟩

/-- The next turn is published and recorded. -/
theorem publish (h : w.Turned record stale t) (hrecord : Audience.Records record) :
    record (Health.alternating stale (t.2 + 1))
        (w.feed.publish (Health.ofTurn stale t.2)).audience ∧
      (w.feed.publish (Health.ofTurn stale t.2)).current = Health.after stale (t.2 + 1) := by
  have hnews : Health.ofTurn stale t.2 ≠ w.feed.current := by
    rw [h.current]
    exact Health.ofTurn_ne_after stale t.2
  rw [HealthFeed.publish, if_neg hnews, Health.alternating_succ, Health.after_succ]
  exact ⟨hrecord _ h.recorded, rfl⟩

/-- An outage is a turn. -/
theorem lapse (h : w.Turned record stale t) (hrecord : Audience.Records record)
    (havailable : t.1 = true) : w.lapse.Turned record stale (false, t.2 + 1) := by
  have heven : t.2 % 2 = 0 := by
    simpa [havailable] using h.parity.symm
  have hturn : Health.ofTurn stale t.2 = ⟨false, false⟩ := if_pos heven
  rcases hturn ▸ h.publish hrecord with ⟨hrecorded, hcurrent⟩
  refine ⟨h.watched, rfl, h.staleOnRecovery, ?_, hrecorded, hcurrent⟩
  symm
  simp
  omega

/-- So is a recovery. -/
theorem revive (h : w.Turned record stale t) (hrecord : Audience.Records record)
    (hout : t.1 = false) : w.revive.Turned record stale (true, t.2 + 1) := by
  have hodd : ¬ t.2 % 2 = 0 := by
    simpa [hout] using h.parity.symm
  have hturn : Health.ofTurn stale t.2 = ⟨true, w.staleOnRecovery⟩ := by
    rw [h.staleOnRecovery]
    exact if_neg hodd
  rcases hturn ▸ h.publish hrecord with ⟨hrecorded, hcurrent⟩
  refine ⟨h.watched, rfl, h.staleOnRecovery, ?_, hrecorded, hcurrent⟩
  symm
  simp
  omega

/-- A failure counts as it tells about the store. -/
theorem onFailure (h : w.Turned record stale t) (hrecord : Audience.Records record) :
    w.onFailure.2.Turned record stale ((Occasion.asked false).count t) := by
  rcases t with ⟨available, turns⟩
  cases available with
  | true =>
    rw [onFailure_of_available h.watched h.marked]
    exact (h.lapse hrecord rfl).congr rfl rfl rfl rfl
  | false =>
    rw [onFailure_of_outage h.marked]
    exact h

/-- So does a request. -/
theorem ask [Repository σ] (h : w.Turned record stale t) (hrecord : Audience.Records record)
    (c : Call α) :
    (c.ask w).state.Turned record stale ((Occasion.asked (c.ask w).result.isOk).count t) := by
  rcases ask_cases c w with ⟨inner, ⟨hok, hstate⟩ | ⟨hok, hstate⟩⟩
  · rw [hok, hstate]
    exact h.congr rfl rfl rfl rfl
  · have hinner : ({ w with inner } : WatchedStore σ).Turned record stale t :=
      h.congr rfl rfl rfl rfl
    rw [hok, hstate]
    exact hinner.onFailure hrecord

/-- So does a write. -/
theorem request [Repository σ] (h : w.Turned record stale t) (hrecord : Audience.Records record)
    (c : Change) :
    (Gateway.request w c).state.Turned record stale
      ((Occasion.asked (Gateway.request w c).result.isOk).count t) := by
  cases c with
  | replace data =>
    have hasked := h.ask hrecord (.init data)
    have hanswer : (Gateway.request w (.replace data)).result.isOk =
        ((Call.init data).ask w).result.isOk := by
      show (((Call.init data).ask w).result.map fun _ => true).isOk = _
      cases ((Call.init data).ask w).result <;> rfl
    rw [hanswer]
    exact hasked
  | upsert kind key d => exact h.ask hrecord (.upsert kind key d)

/-- So does an answer. -/
theorem answer (h : w.Turned record stale t) (hrecord : Audience.Records record) (id : Nat)
    (reply : Except Fault Json.Value) :
    (w.answer id reply).2.Turned record stale ((Occasion.checked reply).count t) := by
  -- an answer that says nothing about the store leaves the turns alone
  cases hverdict : (Occasion.checked reply).verdict? with
  | none =>
    rw [answer_of_unknown hverdict, Occasion.count_of_none hverdict]
    exact h.congr rfl rfl rfl rfl
  | some verdict =>
    rcases t with ⟨available, turns⟩
    simp only [Occasion.count, hverdict]
    rcases answer_of_verdict hverdict w id with ⟨rfl, hanswer⟩
    rw [hanswer]
    cases available with
    | true =>
      rw [onRecovery_of_available h.marked]
      exact h.congr rfl rfl rfl rfl
    | false =>
      -- the store counted as unavailable, so that this is the next turn
      rw [onRecovery_of_outage h.marked]
      exact (h.revive hrecord rfl).congr rfl rfl rfl rfl

end Turned

end WatchedStore

end FlagReplica
