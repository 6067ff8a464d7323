import FlagReplica.Health.Watch
import FlagReplica.Proofs.Change.Decoded
import FlagReplica.Proofs.Stream.Events
import Mathlib

/-!
# What a stream of events leaves in the store

What a store in memory holds after any events can be told from the events alone. Only the last full
data set counts, with the updates that came after it, and for each key the highest version among
them, the earliest on a tie. `Holds` is that, and each event preserves it.
-/

namespace FlagReplica

/-! ## The events alone -/

namespace StreamEvent

/-- The full data set that an event brings, if it brings one that can be decoded. -/
def dataSet? (e : StreamEvent) : Option DataSet :=
  match Message.ofName? e.name with
  | some .put => (Payload.text e.data).toPut.toOption
  | _ => none

/-- The item that an event is about and the descriptor that it brings for it: a new version or a
tombstone. Either has to be decodable and to name an item of a known kind. -/
def update? (e : StreamEvent) : Option (ItemPath × Descriptor) :=
  match Message.ofName? e.name with
  | some .patch => do
    let patch ← (Payload.text e.data).toPatch.toOption
    let target ← ItemPath.parse? patch.path
    let d ← (Payload.descriptorOf target.kind patch.content).toOption
    return (target, d)
  | some .delete => do
    let removal ← (Payload.text e.data).toRemoval.toOption
    let target ← ItemPath.parse? removal.path
    return (target, .tombstone removal.version)
  | _ => none

/-- The descriptor that an event brings for an item, if it is about that item. -/
def updateFor? (e : StreamEvent) (item : ItemPath) : Option Descriptor :=
  match e.update? with
  | some (target, d) => if target = item then some d else none
  | none => none

/-- The last full data set, empty if there is none. -/
def lastDataSet (events : List StreamEvent) : DataSet :=
  ((events.filterMap dataSet?).getLast?).getD []

/-- The events after the last full data set. -/
def sinceLastDataSet (events : List StreamEvent) : List StreamEvent :=
  events.rtakeWhile fun e => e.dataSet?.isNone

/-- All descriptors that an item might be stored with, in the order in which they came. -/
def candidates (events : List StreamEvent) (kind : Kind) (key : Text) : List Descriptor :=
  (((lastDataSet events).collection kind).get? key).toList ++
    (sinceLastDataSet events).filterMap (·.updateFor? ⟨kind, key⟩)

section Concat

variable {events : List StreamEvent} {e : StreamEvent} {kind : Kind} {key : Text}

/-- A full data set makes everything before it irrelevant. -/
theorem candidates_concat_of_dataSet {data : DataSet} (h : e.dataSet? = some data) :
    candidates (events ++ [e]) kind key = ((data.collection kind).get? key).toList := by
  have hlast : lastDataSet (events ++ [e]) = data := by
    simp [lastDataSet, h]
  have hsince : sinceLastDataSet (events ++ [e]) = [] := by
    simp [sinceLastDataSet, h]
  simp [candidates, hlast, hsince]

/-- Every other event adds one candidate at most. -/
theorem candidates_concat (h : e.dataSet? = none) :
    candidates (events ++ [e]) kind key =
      candidates events kind key ++ (e.updateFor? ⟨kind, key⟩).toList := by
  have hlast : lastDataSet (events ++ [e]) = lastDataSet events := by
    simp [lastDataSet, h]
  have hsince : sinceLastDataSet (events ++ [e]) = sinceLastDataSet events ++ [e] := by
    simp [sinceLastDataSet, h]
  rw [candidates, hlast, hsince, List.filterMap_append, ← List.append_assoc]
  cases hu : e.updateFor? ⟨kind, key⟩ <;> simp [candidates, hu]

end Concat

/-- An event asks for a change exactly if it brings a full data set or an update. -/
theorem change?_eq (e : StreamEvent) :
    e.change? = (e.dataSet?.map .replace).or
      (e.update?.map fun u => .upsert u.1.kind u.1.key u.2) := by
  -- each message is decoded in its own way; where a step fails, both sides are `none`
  cases hm : Message.ofName? e.name with
  | none => simp [change?, reading?, dataSet?, update?, hm]
  | some m =>
    cases m with
    | put =>
      cases hput : (Payload.text e.data).toPut <;>
        simp [change?, reading?, dataSet?, update?, hm, Message.read, hput, Except.toOption,
          bind, Except.bind, pure, Except.pure]
    | patch =>
      cases hpatch : (Payload.text e.data).toPatch with
      | error fault =>
        simp [change?, reading?, dataSet?, update?, hm, Message.read, hpatch, Except.toOption,
          bind, Except.bind]
      | ok patch =>
        cases htarget : ItemPath.parse? patch.path with
        | none =>
          simp [change?, reading?, dataSet?, update?, hm, Message.read, hpatch, Except.toOption,
            bind, Except.bind, Patch.reading, htarget]
        | some target =>
          cases hd : Payload.descriptorOf target.kind patch.content <;>
            simp [change?, reading?, dataSet?, update?, hm, Message.read, hpatch,
              Except.toOption, bind, Except.bind, Patch.reading, htarget, hd, pure]
    | delete =>
      cases hremoval : (Payload.text e.data).toRemoval with
      | error fault =>
        simp [change?, reading?, dataSet?, update?, hm, Message.read, hremoval, Except.toOption,
          bind, Except.bind]
      | ok removal =>
        cases htarget : ItemPath.parse? removal.path <;>
          simp [change?, reading?, dataSet?, update?, hm, Message.read, hremoval,
            Except.toOption, bind, Except.bind, Removal.reading, htarget, pure, Except.pure]

/-- A full data set that an event brings holds no key twice. -/
theorem dataSet?_distinct {e : StreamEvent} {data : DataSet} (h : e.dataSet? = some data) :
    data.Distinct := by
  unfold dataSet? at h
  split at h
  · cases hput : (Payload.text e.data).toPut with
    | error fault => exact absurd h (by simp [hput, Except.toOption])
    | ok data' =>
      rw [hput] at h
      rcases Option.some.inj h with rfl
      exact Payload.toPut_distinct hput
  · exact absurd h (by simp)

end StreamEvent

/-! ## The store -/

open StreamEvent (candidates)

namespace Store

/-- The store holds what the events say, each key once. -/
structure Holds (store : Store) (events : List StreamEvent) : Prop where
  get? : ∀ kind key,
    store.get? kind key = (candidates events kind key).argmax Descriptor.version
  keys : ∀ kind, (store.collection kind).keys.Nodup
  initialized : store.initialized = true ↔ ∃ e ∈ events, e.dataSet?.isSome = true

namespace Holds

variable {store : Store} {events : List StreamEvent} {e : StreamEvent}

theorem empty : Holds {} [] := by
  constructor
  · intro kind key
    cases kind <;> rfl
  · intro kind
    cases kind <;> simp [collection, Table.keys]
  · simp

/-- An event that brings nothing changes nothing. -/
theorem unasked (h : store.Holds events) (hd : e.dataSet? = none) (hu : e.update? = none) :
    store.Holds (events ++ [e]) := by
  constructor
  · intro kind key
    rw [StreamEvent.candidates_concat hd, StreamEvent.updateFor?, hu]
    simpa using h.get? kind key
  · exact h.keys
  · rw [h.initialized]
    simp [hd]

/-- A full data set replaces everything, in whatever order it is written. -/
theorem replaced {data : DataSet} (hd : e.dataSet? = some data) :
    (Store.init data.arranged).Holds (events ++ [e]) := by
  have hdistinct := StreamEvent.dataSet?_distinct hd
  -- sorting for the write moves entries and changes none
  have hcollection : ∀ kind,
      (Store.init data.arranged).collection kind = data.arranged.collection kind := by
    intro kind
    cases kind <;> rfl
  constructor
  · intro kind key
    rw [StreamEvent.candidates_concat_of_dataSet hd, Store.get?, hcollection,
      DataSet.get?_arranged hdistinct]
    cases (data.collection kind).get? key <;> rfl
  · intro kind
    rw [hcollection]
    exact DataSet.arranged_keys_nodup hdistinct kind
  · refine ⟨fun _ => ⟨e, by simp, by simp [hd]⟩, fun _ => rfl⟩

/-- An update counts at its item if its version is higher than that of every candidate so far. -/
theorem upserted (h : store.Holds events) (hd : e.dataSet? = none) {target : ItemPath}
    {d : Descriptor} (hu : e.update? = some (target, d)) :
    (store.upsert target.kind target.key d).2.Holds (events ++ [e]) := by
  constructor
  · intro kind key
    rw [get?_upsert, StreamEvent.candidates_concat hd, StreamEvent.updateFor?, hu]
    dsimp only
    by_cases ht : target = ⟨kind, key⟩
    · subst ht
      rw [if_pos rfl, Option.toList_some, List.argmax_concat, ← h.get? kind key]
      -- `argmax` keeps the earlier of two descriptors of one version, and so does the store
      cases hold : store.get? kind key with
      | none => simp [isNewer, hold]
      | some old => by_cases hlt : old.version < d.version <;> simp [isNewer, hold, hlt]
    · -- the update is about another item
      have hother : ¬ (store.isNewer target.kind target.key d = true ∧ target.kind = kind ∧
          target.key = key) := by
        rintro ⟨-, rfl, rfl⟩
        exact ht rfl
      rw [if_neg hother, if_neg ht]
      simpa using h.get? kind key
  · intro kind
    unfold upsert
    split
    · rw [collection_setCollection]
      split
      · rename_i hkind
        exact Table.keys_insert_nodup (h.keys _) _ _
      · exact h.keys kind
    · exact h.keys kind
  · rw [initialized_upsert, h.initialized]
    simp [hd]

end Holds

end Store

/-! ## The store under watch -/

namespace WatchedStore

variable {w : WatchedStore Memory}

/-- A store in memory that works takes a full data set in writing order. -/
theorem request_replace (h : w.inner.outage = none) (data : DataSet) :
    (Gateway.request w (.replace data)).state.inner.store = .init data.arranged ∧
      (Gateway.request w (.replace data)).state.inner.outage = none := by
  simp [Gateway.request, Repository.init, passOn, Memory.serve, h]

/-- It takes an update if it is newer. -/
theorem request_upsert (h : w.inner.outage = none) (kind : Kind) (key : Text) (d : Descriptor) :
    (Gateway.request w (.upsert kind key d)).state.inner.store =
        (w.inner.store.upsert kind key d).2 ∧
      (Gateway.request w (.upsert kind key d)).state.inner.outage = none := by
  simp [Gateway.request, Repository.upsert, passOn, Memory.serve, h]

end WatchedStore

/-! ## The source -/

namespace StreamSource

/-- The source writes to a store in memory that works and holds what the events say. -/
structure Reflects (s : StreamSource (WatchedStore Memory)) (events : List StreamEvent) :
    Prop where
  holds : s.gateway.store.inner.store.Holds events
  outage : s.gateway.store.inner.outage = none

/-- One more event is reflected as soon as it has been handled. -/
theorem Reflects.concat {s s' : StreamSource (WatchedStore Memory)} {events : List StreamEvent}
    {e : StreamEvent} (h : s.Reflects events)
    (hstore : s'.gateway.store = e.storeAfter s.gateway.store) :
    s'.Reflects (events ++ [e]) := by
  rw [StreamEvent.storeAfter, StreamEvent.change?_eq] at hstore
  -- an event asks for a full data set, or for one update, or for nothing
  cases hd : e.dataSet? with
  | some data =>
    rcases WatchedStore.request_replace h.outage data with ⟨hinit, hup⟩
    simp only [hd, Option.map_some, Option.some_or] at hstore
    constructor
    · -- a full data set makes everything before it irrelevant
      rw [hstore, hinit]
      exact Store.Holds.replaced hd
    · rw [hstore, hup]
  | none =>
    cases hu : e.update? with
    | none =>
      simp only [hd, hu, Option.map_none, Option.or_none] at hstore
      constructor
      · rw [hstore]
        exact h.holds.unasked hd hu
      · rw [hstore, h.outage]
    | some u =>
      rcases WatchedStore.request_upsert h.outage u.1.kind u.1.key u.2 with ⟨hupsert, hup⟩
      simp only [hd, hu, Option.map_none, Option.map_some, Option.none_or] at hstore
      constructor
      · rw [hstore, hupsert]
        exact h.holds.upserted hd hu
      · rw [hstore, hup]

/-- A source whose line is open handles all events, and its store reflects them all. -/
theorem Reflects.deliverAll {s : StreamSource (WatchedStore Memory)} (hs : s.Serving)
    (ho : s.line.phase = .open) (h : s.Reflects []) (events : List StreamEvent) :
    ∃ s', s.deliverAll events = some s' ∧ s'.Serving ∧ s'.line.phase = .open ∧
      s'.Reflects events := by
  -- on the last event: the store after the others reflects the others
  induction events using List.reverseRecOn with
  | nil => exact ⟨s, rfl, hs, ho, h⟩
  | append_singleton events e ih =>
    rcases ih with ⟨t, hdelivered, ht, hopen, hreflects⟩
    rcases ht.deliver e with ⟨s', g, _, _, hevent, hhandled, hstore⟩
    rcases hhandled.serving hopen with ⟨hs', hopen'⟩
    refine ⟨s', ?_, hs', hopen', hreflects.concat ?_⟩
    · rw [deliverAll_concat, hdelivered, Option.bind_some, hevent]
    · rw [hhandled.gateway, hstore]

/-- After any events a source that began with an empty store in memory has a store that can be told
from the events alone. For every item it holds, of the descriptor in the last full data set and all
later ones, the one of the highest version, and of several with that version the earliest; and it is
initialized exactly if there was a full data set. -/
theorem deliverAll_contents {s : StreamSource (WatchedStore Memory)} (hs : s.Serving)
    (ho : s.line.phase = .open) (hempty : s.gateway.store.inner.store = {})
    (hup : s.gateway.store.inner.outage = none) (events : List StreamEvent) :
    ∃ s', s.deliverAll events = some s' ∧
      (∀ kind key, s'.gateway.store.inner.store.get? kind key =
        (candidates events kind key).argmax Descriptor.version) ∧
      (∀ kind, (s'.gateway.store.inner.store.collection kind).keys.Nodup) ∧
      (Repository.initialized s'.gateway.store = true ↔
        ∃ e ∈ events, e.dataSet?.isSome = true) := by
  have hstart : s.Reflects [] := by
    constructor
    · rw [hempty]
      exact Store.Holds.empty
    · exact hup
  rcases hstart.deliverAll hs ho events with ⟨s', hdelivered, -, -, hreflects⟩
  exact ⟨s', hdelivered, hreflects.holds.get?, hreflects.holds.keys,
    hreflects.holds.initialized⟩

end StreamSource

/-! ## A late update -/

/-- Two deletions of the flag `a`, the second of which comes late. -/
def StreamEvent.removals : List StreamEvent :=
  [⟨"delete", "\x7b\"path\":\"/flags/a\",\"version\":2\x7d"⟩,
    ⟨"delete", "\x7b\"path\":\"/flags/a\",\"version\":1\x7d"⟩]

namespace StreamSource

/-- A source that writes to a store in memory and tells nobody. -/
def watchedSample : StreamSource (WatchedStore Memory) :=
  { gateway := .create { inner := {}, watched := false, feed := .create none } none 0
    uri := "http://localhost/all" }

open StreamEvent (removals)

theorem candidates_removals :
    candidates (.emptyPut :: removals) .flag "a" = [.tombstone 2, .tombstone 1] := by
  have hall : StreamEvent.emptyPut.dataSet? = some [(.flag, []), (.segment, [])] := by cbv
  have hdata : removals.map StreamEvent.dataSet? = [none, none] := by cbv
  have hupdates : removals.map (·.updateFor? ⟨.flag, "a"⟩) =
      [some (.tombstone 2), some (.tombstone 1)] := by cbv
  simp only [removals, List.map_cons, List.map_nil, List.cons.injEq, and_true] at hdata hupdates
  simp [candidates, StreamEvent.lastDataSet, StreamEvent.sinceLastDataSet, List.rtakeWhile,
    removals, hall, hdata, hupdates, DataSet.collection, Table.get?]

/-- A deletion that comes late changes nothing. -/
theorem deliverAll_contents_of_late_removal :
    ∃ s', watchedSample.start.2.deliverAll (.emptyPut :: removals) = some s' ∧
      s'.gateway.store.inner.store.get? .flag "a" = some (.tombstone 2) ∧
      Repository.initialized s'.gateway.store = true := by
  have hserving : watchedSample.start.2.Serving := ⟨rfl, rfl, rfl, rfl, rfl⟩
  rcases deliverAll_contents hserving rfl rfl rfl (.emptyPut :: removals)
      with ⟨s', hdelivered, hget, -, hinit⟩
  refine ⟨s', hdelivered, ?_, ?_⟩
  · rw [hget, candidates_removals]
    rfl
  · refine hinit.2 ⟨.emptyPut, by simp, ?_⟩
    cbv

end StreamSource

end FlagReplica
