import FlagReplica.Proofs.Audience.Prospect
import FlagReplica.Proofs.Status.Report
import Mathlib

/-!
# The history of a status

Where the status of a source comes from. Its error is the latest record there is, its time is that
of the last call that led into another state, and an interruption has always been valid before.
Whoever listens from the start hears every value that the status takes, each different from the one
before. `Responds` is what any single event does to a gateway, and the history is put together from
that alone.
-/

namespace FlagReplica

/-- What happens at a gateway. -/
inductive GatewayEvent (σ : Type) where
  /-- The status is updated to a state, perhaps with a failure and the time at which it was met. -/
  | updated (state : SyncState) (failure? : Option (Failure × Millis))
  /-- A change is written to the store. -/
  | written (c : Change)
  /-- Time passes, and with the store happens what may. -/
  | elapsed (now : Millis) (store : σ)

/-- A status that another one may be followed by: it differs in its state or in its record, and only
what has been valid is interrupted. -/
def Status.Precedes (s s' : Status) : Prop :=
  (s.state ≠ s'.state ∨ s.error.map (·.serial) ≠ s'.error.map (·.serial)) ∧
    (s'.state = .interrupted → s.state = .valid ∨ s.state = .interrupted)

namespace Gateway

open Audience (Follows)

variable {σ : Type} {g g' : Gateway σ} {name : Text} {told : List Status}

/-! ## One event -/

/-- What an event does to a gateway, with the record that comes of it, if one does: the status holds
that record, its time moves with its state, and the audience is told of it if it is another. -/
structure Responds (g : Gateway σ) (brought : Option ErrorRecord) (g' : Gateway σ) : Prop where
  serial : ∀ record ∈ brought, record.serial = g.failures
  failures : g'.failures = g.failures + brought.toList.length
  error : g'.status.error = brought.or g.status.error
  since : g'.status.since =
    if g'.status.state = g.status.state then g.status.since else g.now
  interrupts : g'.status.state = .interrupted →
    g.status.state = .valid ∨ g.status.state = .interrupted
  audience : g'.audience =
    if g'.status = g.status then g.audience else (g.audience.tell g'.status).takeNotices.2

namespace Responds

variable {brought : Option ErrorRecord}

/-- Nothing comes of what leaves status, failures and audience alone. -/
theorem of_same (hstatus : g'.status = g.status) (hfailures : g'.failures = g.failures)
    (haudience : g'.audience = g.audience) : g.Responds none g' := by
  refine ⟨by simp, hfailures, ?_, ?_, ?_, ?_⟩
  · rw [hstatus, Option.none_or]
  · rw [hstatus, if_pos rfl]
  · rw [hstatus]
    exact Or.inr
  · rw [if_pos hstatus, haudience]

/-- The next record is numbered after the present one. -/
theorem recorded (h : g.Responds brought g') (hg : g.Recorded) : g'.Recorded := by
  intro record he
  rw [h.error] at he
  rw [h.failures]
  cases brought with
  | none => exact hg record he
  | some r =>
    have hr : r = record := Option.some.inj he
    rw [← hr, h.serial r rfl]
    exact Nat.lt_succ_self _

/-- Another status is in another state or has another record. -/
theorem differs (h : g.Responds brought g') (hg : g.Recorded) (hne : g'.status ≠ g.status) :
    g.status.state ≠ g'.status.state ∨
      g.status.error.map (·.serial) ≠ g'.status.error.map (·.serial) := by
  by_cases hstate : g'.status.state = g.status.state
  · right
    cases hb : brought with
    | none =>
      -- then nothing has changed at all
      have herror : g'.status.error = g.status.error := by
        rw [h.error, hb, Option.none_or]
      have hsince : g'.status.since = g.status.since := by
        rw [h.since, if_pos hstate]
      have hsame : g'.status = g.status := by
        cases hs : g.status
        cases hs' : g'.status
        simp_all
      exact absurd hsame hne
    | some record =>
      have herror : g'.status.error = some record := by
        rw [h.error, hb, Option.some_or]
      have hserial := h.serial record hb
      intro heq
      rw [herror, Option.map_some, Option.map_eq_some_iff] at heq
      rcases heq with ⟨old, hold, hsame⟩
      have hlt := hg old hold
      omega
  · exact Or.inl (Ne.symm hstate)

/-- The listener is told of every status that is another. -/
theorem follows (h : g.Responds brought g') (hf : Follows name told g.audience) :
    Follows name (told ++ if g'.status = g.status then [] else [g'.status]) g'.audience := by
  rw [h.audience]
  split
  · simpa using hf
  · exact (hf.tell _).takeNotices

end Responds

/-- What an update does. -/
theorem responds_update (hg : g.Recorded) (state : SyncState) {error? : Option ErrorRecord}
    (hserial : ∀ record ∈ error?, record.serial = g.failures) :
    g.Responds error? (g.update state error?).2 := by
  rw [update_eq]
  split
  · rename_i h
    rw [h.2]
    exact .of_same rfl rfl rfl
  · rename_i h
    have hne : (g.announcing state error?).status ≠ g.status := by
      intro heq
      have hstate : g.status.state.after state = g.status.state := congrArg Status.state heq
      have herror : error?.or g.status.error = g.status.error := congrArg Status.error heq
      cases error? with
      | none => exact h ⟨hstate, rfl⟩
      | some record =>
        -- a new record is never the old one
        have hlt := hg record herror.symm
        have hnew := hserial record rfl
        omega
    refine ⟨hserial, ?_, rfl, rfl, SyncState.of_after_eq_interrupted, ?_⟩
    · cases error? <;> rfl
    · rw [if_neg hne]
      rfl

section Events

variable [Repository σ]

/-- The gateway after an event. The record of a failure gets the next serial number. -/
def perform (g : Gateway σ) : GatewayEvent σ → Gateway σ
  | .updated state failure? =>
    (g.update state (failure?.map fun met => ⟨g.failures, met.1, met.2⟩)).2
  | .written c => (g.write c).gateway
  | .elapsed now store => { g with now, store }

/-- The record that comes of an event: of the failure that the status is updated with, or of the
store's. -/
def brings (g : Gateway σ) : GatewayEvent σ → Option ErrorRecord
  | .updated _ failure? => failure?.map fun met => ⟨g.failures, met.1, met.2⟩
  | .written c =>
    match (request g.store c).result with
    | .ok _ => none
    | .error fault => some (g.record (storeFailure fault))
  | .elapsed _ _ => none

theorem responds_write_of_error (hg : g.Recorded) {c : Change} {fault : Fault}
    (h : (request g.store c).result = .error fault) :
    g.Responds (some (g.record (storeFailure fault))) (g.write c).gateway := by
  let noted : Gateway σ := { g with
    store := (request g.store c).state
    journal := g.journal ++ (request g.store c).notices }.note (.storeFailed fault)
  have hserial : ∀ record ∈ some (g.record (storeFailure fault)), record.serial = g.failures := by
    intro record hrecord
    rw [← Option.some.inj hrecord]
    rfl
  -- what is noted before the report is no part of what the report looks at
  have hreport : noted.Responds (some (g.record (storeFailure fault)))
      (noted.update .interrupted (some (g.record (storeFailure fault)))).2 :=
    responds_update (g := noted) hg .interrupted hserial
  rw [write_of_error h]
  exact ⟨hreport.serial, hreport.failures, hreport.error, hreport.since, hreport.interrupts,
    hreport.audience⟩

/-- What any event does. -/
theorem responds_perform (hg : g.Recorded) (e : GatewayEvent σ) :
    g.Responds (g.brings e) (g.perform e) := by
  -- only a report and a refused write report anything
  cases e with
  | updated state failure? =>
    refine responds_update hg state ?_
    intro record hrecord
    rcases Option.map_eq_some_iff.1 hrecord with ⟨met, -, rfl⟩
    rfl
  | written c =>
    cases hres : (request g.store c).result with
    | ok changed =>
      simp only [brings, perform, hres, write_of_ok hres]
      exact .of_same rfl rfl rfl
    | error fault =>
      simp only [brings, perform, hres]
      exact responds_write_of_error hg hres
  | elapsed now store => exact .of_same rfl rfl rfl

/-! ## A whole history -/

/-- The gateway after events, one after another. -/
def after (g : Gateway σ) (es : List (GatewayEvent σ)) : Gateway σ :=
  es.foldl perform g

/-- The values of the status, before the first event and after each. -/
def statuses (g : Gateway σ) (es : List (GatewayEvent σ)) : List Status :=
  (es.scanl perform g).map (·.status)

/-- The records that come of events, in order. -/
def records (g : Gateway σ) : List (GatewayEvent σ) → List ErrorRecord
  | [] => []
  | e :: es => (g.brings e).toList ++ (g.perform e).records es

/-- The times of the events that lead into another state, in order. -/
def turns (g : Gateway σ) : List (GatewayEvent σ) → List Millis
  | [] => []
  | e :: es =>
    if (g.perform e).status.state = g.status.state then (g.perform e).turns es
    else g.now :: (g.perform e).turns es

/-- A gateway that the listener of a name hears of directly, and what it has heard. -/
structure Attended (g : Gateway σ) (name : Text) (told : List Status) : Prop where
  recorded : g.Recorded
  direct : g.audience.dispatcher = none
  follows : Follows name told g.audience

/-- The listener hears of the new status exactly if it is another. -/
theorem Attended.perform (h : g.Attended name told) (e : GatewayEvent σ) :
    (g.perform e).Attended name
      (told ++ if (g.perform e).status = g.status then [] else [(g.perform e).status]) := by
  have hresponds := responds_perform h.recorded e
  refine ⟨hresponds.recorded h.recorded, ?_, hresponds.follows h.follows⟩
  rw [hresponds.audience]
  split
  · exact h.direct
  · have htold := h.follows.mute.tell h.follows.prompt (g.perform e).status
    exact htold.dispatcher.trans h.direct

theorem statuses_cons (g : Gateway σ) (e : GatewayEvent σ) (es : List (GatewayEvent σ)) :
    g.statuses (e :: es) = g.status :: (g.perform e).statuses es := by
  simp [statuses]

/-- The first value is the present one. -/
theorem statuses_eq_cons (g : Gateway σ) (es : List (GatewayEvent σ)) :
    ∃ rest, g.statuses es = g.status :: rest := by
  cases es with
  | nil => exact ⟨[], rfl⟩
  | cons e es => exact ⟨_, statuses_cons g e es⟩

/-- The listener hears every value that the status takes, and each may follow the one before. -/
theorem Attended.hears (h : g.Attended name told) (es : List (GatewayEvent σ)) :
    ∃ heard, (g.after es).Attended name (told ++ heard) ∧
      g.status :: heard = (g.statuses es).destutter (· ≠ ·) ∧
      (g.status :: heard).IsChain Status.Precedes := by
  -- by induction on the events, where the first one is compared with the status before all
  induction es generalizing g told with
  | nil => exact ⟨[], by simpa [after] using h, rfl, .singleton _⟩
  | cons e es ih =>
    have hresponds := responds_perform h.recorded e
    rcases ih (h.perform e) with ⟨heard, hattended, hdestutter, hchain⟩
    rcases statuses_eq_cons (g.perform e) es with ⟨rest, hrest⟩
    rw [hrest, List.destutter_cons'] at hdestutter
    rw [statuses_cons, hrest, List.destutter_cons_cons]
    -- an event that leaves the status as it is tells nobody anything
    by_cases hsame : (g.perform e).status = g.status
    · rw [if_pos hsame, List.append_nil] at hattended
      rw [hsame] at hdestutter hchain
      refine ⟨heard, hattended, ?_, hchain⟩
      rw [if_neg (not_not_intro hsame.symm)]
      exact hdestutter
    · rw [if_neg hsame, List.append_assoc] at hattended
      refine ⟨(g.perform e).status :: heard, hattended, ?_, ?_⟩
      · rw [if_pos (Ne.symm hsame), hdestutter]
      · exact .cons_cons ⟨hresponds.differs h.recorded hsame, hresponds.interrupts⟩ hchain

/-- The error is the latest record there is. -/
theorem error_after (hg : g.Recorded) (es : List (GatewayEvent σ)) :
    (g.after es).status.error = (g.records es).getLast?.or g.status.error := by
  induction es generalizing g with
  | nil => rfl
  | cons e es ih =>
    have hresponds := responds_perform hg e
    have hlast : (g.brings e).toList.getLast? = g.brings e := by
      cases g.brings e <;> rfl
    calc (g.after (e :: es)).status.error
        = ((g.perform e).records es).getLast?.or (g.perform e).status.error :=
          ih (hresponds.recorded hg)
      _ = ((g.perform e).records es).getLast?.or ((g.brings e).or g.status.error) := by
          rw [hresponds.error]
      _ = (g.records (e :: es)).getLast?.or g.status.error := by
          rw [records, List.getLast?_append, hlast, Option.or_assoc]

/-- The records are numbered one after another, so that no two are the same. -/
theorem serial_records (hg : g.Recorded) (es : List (GatewayEvent σ)) :
    (g.records es).map (·.serial) = List.range' g.failures (g.records es).length := by
  induction es generalizing g with
  | nil => rfl
  | cons e es ih =>
    have hresponds := responds_perform hg e
    have hrest := ih (hresponds.recorded hg)
    rw [hresponds.failures] at hrest
    cases hb : g.brings e with
    | none => simpa [records, hb] using hrest
    | some record =>
      have hserial := hresponds.serial record hb
      simpa [records, hb, List.range'_succ, hserial] using hrest

/-- The time of the status is that of the last event that led into another state. -/
theorem since_after (hg : g.Recorded) (es : List (GatewayEvent σ)) :
    (g.after es).status.since = (g.turns es).getLast?.getD g.status.since := by
  induction es generalizing g with
  | nil => rfl
  | cons e es ih =>
    have hresponds := responds_perform hg e
    have hrest : (g.after (e :: es)).status.since =
        ((g.perform e).turns es).getLast?.getD (g.perform e).status.since :=
      ih (hresponds.recorded hg)
    rw [hrest, hresponds.since, turns]
    split
    · rfl
    · rw [List.getLast?_cons, Option.getD_some]

/-- Everything there is to know about a status. Whatever happens at a gateway that a listener hears
of directly from the start: the listener hears exactly the values that the status takes, one after
another. Each of them is in another state than the one before or has another record, and only what
has been valid is interrupted. The error is the latest record of a failure, whether it came with an
update or from the store, and the records are numbered one after another. The time is that of the
last event that led into another state. A write that the store answers comes to that answer and
changes no status. One that it refuses comes to a fault that is caused by the store's, and leaves
one new record of it, which the listener hears of once. -/
theorem history (h : g.Attended name []) (herror : g.status.error = none)
    (es : List (GatewayEvent σ)) :
    g.status :: (g.after es).audience.heardBy name = (g.statuses es).destutter (· ≠ ·) ∧
      (g.status :: (g.after es).audience.heardBy name).IsChain Status.Precedes ∧
      (g.after es).status.error = (g.records es).getLast? ∧
      (g.records es).map (·.serial) = List.range' g.failures (g.records es).length ∧
      (g.after es).status.since = (g.turns es).getLast?.getD g.status.since ∧
      ∀ c,
        (∀ changed, (request (g.after es).store c).result = .ok changed →
          ((g.after es).write c).result = .ok changed ∧
            ((g.after es).write c).gateway.status = (g.after es).status ∧
            ((g.after es).write c).gateway.failures = (g.after es).failures ∧
            ((g.after es).write c).gateway.audience = (g.after es).audience) ∧
        ∀ fault, (request (g.after es).store c).result = .error fault →
          ((g.after es).write c).result = .error (.storeUpdate fault.text (some fault)) ∧
            ((g.after es).write c).gateway.status.error =
              some ⟨(g.after es).failures, ⟨.store, 0, some fault.text⟩, (g.after es).now⟩ ∧
            ((g.after es).write c).gateway.failures = (g.after es).failures + 1 ∧
            ((g.after es).write c).gateway.audience.heardBy name =
              (g.after es).audience.heardBy name ++ [((g.after es).write c).gateway.status] := by
  rcases h.hears es with ⟨heard, hattended, hdestutter, hchain⟩
  rw [List.nil_append] at hattended
  have hheard : (g.after es).audience.heardBy name = heard :=
    hattended.follows.heardBy_eq hattended.direct
  refine ⟨?_, ?_, ?_, serial_records h.recorded es, since_after h.recorded es, ?_⟩
  · rw [hheard, hdestutter]
  · rw [hheard]
    exact hchain
  · rw [error_after h.recorded, herror, Option.or_none]
  · intro c
    refine ⟨?_, ?_⟩
    · intro changed hres
      rw [write_of_ok hres]
      exact ⟨rfl, rfl, rfl, rfl⟩
    · intro fault hres
      have hresponds := responds_write_of_error hattended.recorded hres
      have hwritten : ((g.after es).write c).gateway.Attended name _ :=
        hattended.perform (.written c)
      -- a refusal is a new failure, so that the status differs from the one before
      have hne : ((g.after es).write c).gateway.status ≠ (g.after es).status := by
        intro heq
        have hrecord := hresponds.error
        rw [heq] at hrecord
        exact hattended.recorded.record_ne _ hrecord.symm
      refine ⟨?_, hresponds.error, hresponds.failures, ?_⟩
      · rw [write_of_error hres]
        rfl
      · rw [hwritten.follows.heardBy_eq hwritten.direct, hheard]
        exact congrArg _ (if_neg hne)

end Events

/-! ## A refused write -/

/-- A gateway of a store in memory, with one listener. -/
def sample : Gateway Memory :=
  let created := Gateway.create {} none 0
  { created with audience := created.audience.add "main" }

theorem sample_attended : sample.Attended "main" [] := by
  refine ⟨?_, rfl, .of_add rfl rfl rfl rfl rfl "main"⟩
  intro record he
  exact absurd he (by simp [sample, create])

/-- A failure to connect. -/
def refused : Failure := ⟨.network, 0, some "refused"⟩

/-- A failure before the first success, a success, a failed write, an end, and a late failure. -/
def upsAndDowns : List (GatewayEvent Memory) :=
  [.updated .interrupted (some (refused, 0)), .elapsed 5 {}, .updated .valid none,
    .elapsed 7 { outage := some (.other "OSError" "gone") },
    .written (.upsert .flag "f" (.tombstone 1)), .updated .off none,
    .updated .interrupted (some (refused, 6))]

/-- The listener hears of all five, and the two failures to connect are not the same. -/
theorem history_of_refused_write :
    (sample.after upsAndDowns).audience.heardBy "main" =
      [⟨.initializing, 0, some ⟨0, refused, 0⟩⟩, ⟨.valid, 5, some ⟨0, refused, 0⟩⟩,
        ⟨.interrupted, 7, some ⟨1, ⟨.store, 0, some "gone"⟩, 7⟩⟩,
        ⟨.off, 7, some ⟨1, ⟨.store, 0, some "gone"⟩, 7⟩⟩,
        ⟨.off, 7, some ⟨2, refused, 6⟩⟩] ∧
      (sample.after upsAndDowns).status.error = some ⟨2, refused, 6⟩ ∧
      (sample.after upsAndDowns).status.since = 7 := by
  rcases history sample_attended rfl upsAndDowns with ⟨hheard, -, herror, -, hsince, -⟩
  refine ⟨(List.cons.inj hheard).2.trans ?_, herror.trans rfl, hsince.trans rfl⟩
  rfl

end Gateway

end FlagReplica
