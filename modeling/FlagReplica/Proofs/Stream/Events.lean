import FlagReplica.Proofs.Stream.Run

/-!
# What a delivered event comes to

An event is read first and written afterwards. Reading tells which change it asks for, if it asks
for one; it does not look at the store. For a source that waits for the next delivery there is one
lemma here for each way in which an event can turn out.
-/

namespace FlagReplica

/-- Each message is found by its own name. -/
theorem Message.ofName?_word (m : Message) : Message.ofName? (m.word : Text) = some m := by
  cases m <;> decide

namespace StreamEvent

/-- What an event asks for; `none` if its name is unknown. -/
def reading? (e : StreamEvent) : Option (Except Fault Reading) :=
  (Message.ofName? e.name).map fun m => m.read (.text e.data)

/-- The change that an event asks for. An event of another name, one that cannot be decoded, and one
about an item of an unknown kind ask for none. -/
def change? (e : StreamEvent) : Option Change :=
  match e.reading? with
  | some (.ok (.change c)) => some c
  | _ => none

/-- What a store becomes by an event: whatever it answers, unless nothing is asked of it. -/
def storeAfter {σ : Type} [Repository σ] (e : StreamEvent) (store : σ) : σ :=
  match e.change? with
  | some c => (Gateway.request store c).state
  | none => store

end StreamEvent

namespace StreamSource

variable {σ : Type} {s : StreamSource σ} {e : StreamEvent}

/-- A source that runs and whose worker waits for the next delivery. No listener of its status stops
it. -/
structure Serving (s : StreamSource σ) : Prop where
  running : s.running = true
  worker : s.worker = .running
  writing : s.writing = none
  address : s.line.address.isSome = true
  stopsUpon : s.stopsUpon = none

/-- The source when the line has handed the worker something. -/
def handed (s : StreamSource σ) : StreamSource σ :=
  { s with line := s.line.deliver }

theorem Serving.handed (h : s.Serving) : s.handed.Serving :=
  ⟨h.running, h.worker, h.writing, h.address, h.stopsUpon⟩

theorem Serving.note (h : s.Serving) (n : Notice) : (s.note n).Serving :=
  ⟨h.running, h.worker, h.writing, h.address, h.stopsUpon⟩

/-- An open line stays as it is when it delivers. -/
theorem handed_of_open (h : s.line.phase = .open) : s.handed = s := by
  have hline : s.line.deliver = s.line := by
    -- only a line that has been closed changes its phase
    unfold Line.deliver
    rw [if_pos h, ← h]
  rw [StreamSource.handed, hline]

/-- A worker that writes goes on. -/
theorem settle_of_writing {c : Change} (h : s.writing = some c) : s.settle = s := by
  simp [settle, h]

/-! ## Reading -/

theorem receive_of_unknown (h : e.reading? = none) :
    s.receive e = (.ok (), s.note (.eventUnknown e.name)) := by
  rw [StreamEvent.reading?, Option.map_eq_none_iff] at h
  simp only [receive, h]

theorem receive_of_error {fault : Fault} (h : e.reading? = some (.error fault)) :
    s.receive e = s.eventFailed fault := by
  rcases Option.map_eq_some_iff.1 h with ⟨m, hm, hread⟩
  simp only [receive, hm, hread]

theorem receive_of_skip {m : Message} {path : Text} (h : e.reading? = some (.ok (.skip m path))) :
    s.receive e = (.ok (), s.note (.unknownPath m path)) := by
  rcases Option.map_eq_some_iff.1 h with ⟨m', hm, hread⟩
  simp only [receive, hm, hread]

theorem receive_of_change {c : Change} (h : e.change? = some c) :
    s.receive e = (.ok (), { s with writing := some c }) := by
  unfold StreamEvent.change? at h
  split at h
  · rename_i c' hreading
    rcases Option.some.inj h with rfl
    rcases Option.map_eq_some_iff.1 hreading with ⟨m, hm, hread⟩
    simp only [receive, hm, hread]
  · exact absurd h (by simp)

/-- An event that asks for no change is of another name, cannot be decoded, or names an unknown
kind. -/
theorem reading_of_unasked (h : e.change? = none) :
    e.reading? = none ∨ (∃ fault, e.reading? = some (.error fault)) ∨
      ∃ m path, e.reading? = some (.ok (.skip m path)) := by
  cases hreading : e.reading? with
  | none => exact Or.inl rfl
  | some reading =>
    right
    cases reading with
    | error fault => exact Or.inl ⟨fault, rfl⟩
    | ok r =>
      cases r with
      | skip m path => exact Or.inr ⟨m, path, rfl⟩
      | change c => exact absurd h (by simp [StreamEvent.change?, hreading])

/-! ## Reading and writing -/

/-- Where nothing is being written there is no write to end. -/
theorem write_of_idle [Repository σ] (h : s.writing = none) : s.write = (.ok (), s) := by
  simp only [write, h]

/-- What a source has become by handling an event to the end: it still runs, with a gateway, a
signal and as many interruptions of its line as are given. Where its line was open it waits for the
next delivery. -/
structure Handled (s s' : StreamSource σ) (g : Gateway σ) (readiness : Readiness)
    (interrupts : Nat) : Prop where
  running : s'.running = true
  gateway : s'.gateway = g
  readiness : s'.readiness = readiness
  interrupts : s'.line.interrupts = s.line.interrupts + interrupts
  serving : s.line.phase = .open → s'.Serving ∧ s'.line.phase = .open

/-- A worker that settles afterwards makes no difference. -/
theorem Handled.of_settle {t : StreamSource σ} {g : Gateway σ} {readiness : Readiness}
    {interrupts : Nat} (ht : t.Serving) (hphase : t.line.phase = s.line.deliver.phase)
    (hg : t.gateway = g) (hr : t.readiness = readiness)
    (hi : t.line.interrupts = s.line.interrupts + interrupts) :
    Handled s t.settle g readiness interrupts := by
  refine ⟨?_, ?_, ?_, ?_, ?_⟩
  · rw [settle_running, ht.running]
  · rw [settle_gateway, hg]
  · rw [settle_readiness, hr]
  · rw [settle_interrupts, hi]
  · -- an open line stays open, and then there is nothing to settle
    intro ho
    have hopen : t.line.phase = .open := by
      rw [hphase, Line.deliver, if_pos ho]
    rw [settle_of_open hopen]
    exact ⟨ht, hopen⟩

section Deliver

variable [Repository σ] {fault : Fault} {c : Change}

/-- An event that begins no write is done with as soon as it has been read. -/
theorem Serving.deliver_read (hs : s.Serving) {t : StreamSource σ} {interrupts : Nat}
    (hread : (s.handed.receive e).2 = t) (ht : t.Serving)
    (hphase : t.line.phase = s.line.deliver.phase)
    (hi : t.line.interrupts = s.line.interrupts + interrupts) :
    ∃ s', s.deliver (.event e) = some s' ∧ Handled s s' t.gateway t.readiness interrupts := by
  have haccept : s.accept (.event e) = some t.settle := by
    rw [← hread]
    exact accept_of_running hs.worker hs.running _
  have hidle : t.settle.writing = none := by
    rw [settle_writing, ht.writing]
  refine ⟨t.settle, ?_, .of_settle ht hphase rfl rfl hi⟩
  rw [deliver, haccept, Option.map_some, write_of_idle hidle]

/-- The source when it has begun to write a change. -/
def begun (s : StreamSource σ) (c : Change) : StreamSource σ :=
  { s.handed with writing := some c }

/-- An event that asks for a change is done with when the change has been written. -/
theorem Serving.deliver_written (hs : s.Serving) (h : e.change? = some c) {t : StreamSource σ}
    {interrupts : Nat} (hwrite : (s.begun c).write.2 = t.settle) (ht : t.Serving)
    (hphase : t.line.phase = s.line.deliver.phase)
    (hi : t.line.interrupts = s.line.interrupts + interrupts) :
    ∃ s', s.deliver (.event e) = some s' ∧ Handled s s' t.gateway t.readiness interrupts := by
  have haccept : s.accept (.event e) = some (s.begun c) := by
    have hreceived : (s.handed.receive e).2 = s.begun c := by
      rw [receive_of_change h]
      rfl
    have hgoes : (s.begun c).settle = s.begun c := settle_of_writing rfl
    rw [← hgoes, ← hreceived]
    exact accept_of_running hs.worker hs.running _
  refine ⟨t.settle, ?_, .of_settle ht hphase rfl rfl hi⟩
  rw [deliver, haccept, Option.map_some, hwrite]

/-- A source that has begun to write serves again as soon as the store has answered. -/
theorem Serving.answered (hs : s.Serving) (c : Change) : ((s.begun c).answered c).Serving :=
  ⟨hs.running, hs.worker, rfl, hs.address, hs.stopsUpon⟩

/-- An event of an unknown name is noted. -/
theorem Serving.deliver_unknown (hs : s.Serving) (h : e.reading? = none) :
    ∃ s', s.deliver (.event e) = some s' ∧
      Handled s s' (s.gateway.note (.eventUnknown e.name)) s.readiness 0 := by
  have hread : (s.handed.receive e).2 = s.handed.note (.eventUnknown e.name) := by
    rw [receive_of_unknown h]
  exact hs.deliver_read hread (hs.handed.note _) rfl rfl

/-- An event about an item of an unknown kind is noted. -/
theorem Serving.deliver_skipped (hs : s.Serving) {m : Message} {path : Text}
    (h : e.reading? = some (.ok (.skip m path))) :
    ∃ s', s.deliver (.event e) = some s' ∧
      Handled s s' (s.gateway.note (.unknownPath m path)) s.readiness 0 := by
  have hread : (s.handed.receive e).2 = s.handed.note (.unknownPath m path) := by
    rw [receive_of_skip h]
  exact hs.deliver_read hread (hs.handed.note _) rfl rfl

/-- An event that cannot be decoded fails. -/
theorem Serving.deliver_misread (hs : s.Serving) (h : e.reading? = some (.error fault)) :
    ∃ s', s.deliver (.event e) = some s' ∧
      Handled s s' (s.gateway.afterFailedEvent fault) s.readiness 1 := by
  have hfailed := eventFailed_eq hs.handed.running hs.handed.address hs.handed.stopsUpon fault
  rw [← receive_of_error h] at hfailed
  refine hs.deliver_read (congrArg Prod.snd hfailed) ?_ rfl rfl
  exact ⟨hs.running, hs.worker, hs.writing, hs.address, hs.stopsUpon⟩

/-- A change that the store refuses fails. -/
theorem Serving.deliver_refused (hs : s.Serving) (h : e.change? = some c)
    (hres : (Gateway.request s.gateway.store c).result = .error fault) :
    ∃ s', s.deliver (.event e) = some s' ∧
      Handled s s' ((s.gateway.write c).gateway.afterFailedEvent (Gateway.storeFault fault))
        s.readiness 1 := by
  have hwriting : (s.begun c).writing = some c := rfl
  have hgoing := hs.answered c
  have hwrite := congrArg Prod.snd (write_of_error hwriting hs.stopsUpon hres)
  -- the gateway has reported the refusal, and the source runs, so that it restarts its line
  rw [eventFailed_eq hgoing.running hgoing.address hgoing.stopsUpon] at hwrite
  refine hs.deliver_written h hwrite ?_ rfl rfl
  exact ⟨hs.running, hs.worker, rfl, hs.address, hs.stopsUpon⟩

/-- A full data set that the store takes makes the source ready. -/
theorem Serving.deliver_stored (hs : s.Serving) {data : DataSet}
    (h : e.change? = some (.replace data)) {changed : Bool}
    (hres : (Gateway.request s.gateway.store (.replace data)).result = .ok changed) :
    ∃ s', s.deliver (.event e) = some s' ∧
      Handled s s'
        ((s.gateway.write (.replace data)).gateway.afterData s.readiness .streamReady)
        (s.readiness.settled true) 0 := by
  have hwriting : (s.begun (.replace data)).writing = some (.replace data) := rfl
  have hgoing := hs.answered (.replace data)
  have hwrite := congrArg Prod.snd (write_of_ok hwriting hs.stopsUpon hres)
  dsimp only at hwrite
  rw [dataStored_eq hgoing.running hgoing.stopsUpon] at hwrite
  refine hs.deliver_written h hwrite ?_ rfl rfl
  exact ⟨hs.running, hs.worker, rfl, hs.address, hs.stopsUpon⟩

/-- A single update that the store takes, or knows to be old, has no consequences. -/
theorem Serving.deliver_updated (hs : s.Serving) {kind : Kind} {key : Text} {d : Descriptor}
    (h : e.change? = some (.upsert kind key d)) {changed : Bool}
    (hres : (Gateway.request s.gateway.store (.upsert kind key d)).result = .ok changed) :
    ∃ s', s.deliver (.event e) = some s' ∧
      Handled s s' (s.gateway.write (.upsert kind key d)).gateway s.readiness 0 := by
  have hwriting : (s.begun (.upsert kind key d)).writing = some (.upsert kind key d) := rfl
  have hwrite := congrArg Prod.snd (write_of_ok hwriting hs.stopsUpon hres)
  exact hs.deliver_written h hwrite (hs.answered _) rfl rfl

/-- Every event is handled to the end. Only one that asks for a change makes a request of the
store. -/
theorem Serving.deliver (hs : s.Serving) (e : StreamEvent) :
    ∃ s' g readiness interrupts, s.deliver (.event e) = some s' ∧
      Handled s s' g readiness interrupts ∧ g.store = e.storeAfter s.gateway.store := by
  unfold StreamEvent.storeAfter
  cases h : e.change? with
  | none =>
    rcases reading_of_unasked h with hr | ⟨fault, hr⟩ | ⟨m, path, hr⟩
    · rcases hs.deliver_unknown hr with ⟨s', hdelivered, hhandled⟩
      exact ⟨s', _, _, _, hdelivered, hhandled, rfl⟩
    · rcases hs.deliver_misread hr with ⟨s', hdelivered, hhandled⟩
      exact ⟨s', _, _, _, hdelivered, hhandled, Gateway.afterFailedEvent_store _ _⟩
    · rcases hs.deliver_skipped hr with ⟨s', hdelivered, hhandled⟩
      exact ⟨s', _, _, _, hdelivered, hhandled, rfl⟩
  | some c =>
    have hstore := Gateway.write_store s.gateway c
    cases hres : (Gateway.request s.gateway.store c).result with
    | error fault =>
      rcases hs.deliver_refused h hres with ⟨s', hdelivered, hhandled⟩
      refine ⟨s', _, _, _, hdelivered, hhandled, ?_⟩
      rw [Gateway.afterFailedEvent_store, hstore]
    | ok changed =>
      -- what is announced after a write depends on the change, the store only on its answer
      cases c with
      | replace data =>
        rcases hs.deliver_stored h hres with ⟨s', hdelivered, hhandled⟩
        refine ⟨s', _, _, _, hdelivered, hhandled, ?_⟩
        rw [Gateway.afterData_store, hstore]
      | upsert kind key d =>
        rcases hs.deliver_updated h hres with ⟨s', hdelivered, hhandled⟩
        exact ⟨s', _, _, _, hdelivered, hhandled, hstore⟩

/-- Delivers events one after another. `none` if there was no worker to take one of them. -/
def deliverAll (s : StreamSource σ) (events : List StreamEvent) : Option (StreamSource σ) :=
  events.foldlM (fun s e => s.deliver (.event e)) s

/-- One more event is delivered after the others. -/
theorem deliverAll_concat (s : StreamSource σ) (events : List StreamEvent) (e : StreamEvent) :
    s.deliverAll (events ++ [e]) = (s.deliverAll events).bind fun s => s.deliver (.event e) := by
  simp only [deliverAll, List.foldlM_append, List.foldlM_cons, List.foldlM_nil, bind_pure]
  rfl

end Deliver

end StreamSource

end FlagReplica
