import FlagReplica.Proofs.Source.Advance

/-!
# Sources that do not run

A source that does not run stands where it stands: whatever happens to it, it makes no move, opens
no line, begins no attempt to connect and no fetch, and takes up nothing to be written. All it still
does is to end what has begun. A stop finds it stopped already and changes nothing at all.
-/

namespace FlagReplica

variable {σ : Type}

namespace Standing.Coherent

variable {c d : Standing}

/-- The signal of a source that does not run is resolved. -/
theorem resolved_of_stopped (h : c.Coherent) (hr : c.running = false) : c.readiness ≠ .pending := by
  intro hpending
  have hstate := h.pending_iff.1 hpending
  rw [h.off_iff.2 hr] at hstate
  exact absurd hstate (by decide)

/-- A source that does not run makes no move. -/
theorem eq_of_stopped (h : c.Coherent) (hr : c.running = false) (hm : c.Move d) : d = c := by
  have hoff := h.off_iff.2 hr
  cases hm with
  | keep => rfl
  | interrupt => rw [Standing.interrupted, hoff, SyncState.off_after_interrupted, ← hoff]
  | sync hruns =>
    rw [hr] at hruns
    exact absurd hruns (by decide)
  | finish =>
    rw [Standing.ended, Readiness.settled_of_resolved (h.resolved_of_stopped hr), ← hr, ← hoff]

end Standing.Coherent

/-- A gateway whose state is off already has nothing to report about the end. -/
theorem Gateway.report_off {g : Gateway σ} (h : g.status.state = .off) :
    g.report .off none = (none, g) := by
  rw [report_eq, SyncState.after_off, h]
  simp

/-! ## A stream -/

namespace StreamSource

variable {s t u : StreamSource σ}

/-- What becomes of a stream without a line being opened or broken off, without an attempt to
connect, and without anything new to write. -/
structure Still (s t : StreamSource σ) : Prop where
  address : t.line.address = s.line.address
  interrupts : t.line.interrupts = s.line.interrupts
  attemptStart : t.attemptStart = s.attemptStart
  worker : t.worker = s.worker ∨ t.worker = .ended
  writing : t.writing = s.writing ∨ t.writing = none

namespace Still

theorem refl (s : StreamSource σ) : Still s s :=
  ⟨rfl, rfl, rfl, .inl rfl, .inl rfl⟩

theorem trans (h : Still s t) (h' : Still t u) : Still s u := by
  refine ⟨h'.address.trans h.address, h'.interrupts.trans h.interrupts,
    h'.attemptStart.trans h.attemptStart, ?_, ?_⟩
  · rcases h'.worker with hworker | hworker
    · exact hworker ▸ h.worker
    · exact .inr hworker
  · rcases h'.writing with hwriting | hwriting
    · exact hwriting ▸ h.writing
    · exact .inr hwriting

theorem endWorker (s : StreamSource σ) : Still s s.endWorker := by
  unfold StreamSource.endWorker
  split
  · exact ⟨rfl, rfl, rfl, .inr rfl, .inl rfl⟩
  · exact .refl s

theorem settle (s : StreamSource σ) : Still s s.settle := by
  rcases s.settle_eq with h | h
  · rw [h]
    exact .refl s
  · rw [h]
    exact .endWorker s

theorem halted (s : StreamSource σ) : Still s s.halted := by
  have hclosed : Still s
      { s with line := if s.line.address.isSome then s.line.close else s.line } := by
    split <;> exact ⟨rfl, rfl, rfl, .inl rfl, .inl rfl⟩
  unfold StreamSource.halted
  split
  · exact ⟨hclosed.address, hclosed.interrupts, rfl, .inl rfl, .inl rfl⟩
  · exact .refl s

theorem stopWith (s : StreamSource σ) (failure? : Option Failure) :
    Still s (s.stopWith failure?) := by
  have hhalted := halted s
  rw [stopWith_halted]
  refine Still.trans ?_ (.settle _)
  exact ⟨hhalted.address, hhalted.interrupts, hhalted.attemptStart, hhalted.worker,
    hhalted.writing⟩

/-- What is delivered to a stopped source only ends its worker. -/
theorem accept (hr : s.running = false) {d : Delivered} (h : s.accept d = some t) : Still s t := by
  by_cases hw : s.worker = .running
  · rw [accept_of_stopped hw hr] at h
    rw [← Option.some.inj h]
    exact .endWorker s
  · rw [accept_of_idle hw] at h
    exact absurd h (by simp)

/-- A listener stops the source, or does not. -/
theorem heed (s : StreamSource σ) (announced : Option Status) : Still s (s.heed announced) := by
  unfold StreamSource.heed
  split
  · exact .refl s
  · split
    · have hheeded : Still s { s with stopsUpon := none } := ⟨rfl, rfl, rfl, .inl rfl, .inl rfl⟩
      exact hheeded.trans (.stopWith _ none)
    · exact .refl s

end Still

/-- A listener who stops a stopped source moves nothing. -/
theorem standing_heed (hr : s.running = false) (hc : s.standing.Coherent)
    (announced : Option Status) : (s.heed announced).standing = s.standing := by
  unfold heed
  split
  · rfl
  · split
    · rw [standing_stopWith]
      exact hc.eq_of_stopped hr .finish
    · rfl

theorem stopWith_writing (s : StreamSource σ) (failure? : Option Failure) :
    (s.stopWith failure?).writing = s.writing := by
  rw [stopWith_halted, settle_writing]
  unfold halted
  split <;> rfl

theorem heed_writing (s : StreamSource σ) (announced : Option Status) :
    (s.heed announced).writing = s.writing := by
  unfold heed
  split
  · rfl
  · split
    · exact stopWith_writing _ none
    · rfl

section Write

variable [Repository σ] {c : Change}

theorem standing_answered (hr : s.running = false) (hc : s.standing.Coherent) (c : Change) :
    (s.answered c).standing = s.standing := by
  have hoff : s.gateway.status.state = .off := hc.off_iff.2 hr
  refine standing_congr rfl ?_ rfl
  show (s.gateway.write c).gateway.status.state = s.gateway.status.state
  cases hres : (Gateway.request s.gateway.store c).result with
  | ok changed => rw [Gateway.write_of_ok hres]
  | error fault => simp [Gateway.write_of_error hres, hoff]

/-- The answer to a write that has begun means nothing to a stopped source, whoever listens. -/
theorem write_of_stopped (hr : s.running = false) (hc : s.standing.Coherent)
    (writing : s.writing = some c) :
    s.write.2.standing = s.standing ∧ s.Still s.write.2 ∧ s.write.2.writing = none := by
  have hanswered := standing_answered hr hc c
  have hstands : ((s.answered c).heed (s.gateway.write c).announced).standing = s.standing := by
    refine (standing_heed (s := s.answered c) hr ?_ _).trans hanswered
    rw [hanswered]
    exact hc
  have hstopped : ((s.answered c).heed (s.gateway.write c).announced).running = false :=
    (congrArg Standing.running hstands).trans hr
  -- whatever the store has answered, a stopped source draws no conclusion from it
  have hwrite : s.write.2 = ((s.answered c).heed (s.gateway.write c).announced).settle := by
    simp only [write, writing]
    cases hres : (s.gateway.write c).result with
    | ok changed =>
      cases c with
      | replace data => exact congrArg settle (dataStored_of_stopped hstopped)
      | upsert kind key d => rfl
    | error fault =>
      exact congrArg (fun r => r.2.settle) (eventFailed_of_stopped hstopped fault)
  have hstill : s.Still (s.answered c) := ⟨rfl, rfl, rfl, .inl rfl, .inr rfl⟩
  rw [hwrite, standing_settle, settle_writing, heed_writing]
  exact ⟨hstands, hstill.trans ((Still.heed _ _).trans (.settle _)), rfl⟩

end Write

/-- News of the store's health means nothing to a stopped source. -/
theorem hearHealth_of_stopped (hr : s.running = false) (health : Health) :
    s.hearHealth health = (.ok (), s) := by
  simp [hearHealth, hr]

theorem hearPublished_of_stopped (hr : s.running = false) (health : Health) :
    s.hearPublished health = s := by
  unfold hearPublished
  induction List.range s.subscriptions with
  | nil => rfl
  | cons n rest ih =>
    rw [List.foldl_cons, hearHealth_of_stopped hr]
    exact ih

/-- Which gateway a worker has does not matter for whether it ends. -/
theorem settle_withGateway (s : StreamSource σ) (g : Gateway σ) :
    { s with gateway := g }.settle = { s.settle with gateway := g } := by
  have hended : { s with gateway := g }.endWorker = { s.endWorker with gateway := g } := by
    unfold endWorker
    dsimp only
    split <;> rfl
  unfold settle
  dsimp only
  split
  · exact hended
  · rfl

/-- A worker that has been settled is settled. -/
theorem settle_settle (s : StreamSource σ) : s.settle.settle = s.settle := by
  by_cases h : s.line.phase = .closed ∧ s.writing.isNone
  · have hsettled : s.settle = s.endWorker := if_pos h
    have hended : s.endWorker.endWorker = s.endWorker := by
      by_cases hw : s.worker = .running <;> simp [endWorker, hw]
    rw [hsettled]
    rcases s.endWorker.settle_eq with hsame | hagain
    · exact hsame
    · rw [hagain, hended]
  · have hsettled : s.settle = s := if_neg h
    rw [hsettled, hsettled]

/-- Stopping a stopped source only settles its worker. -/
theorem stop_of_stopped (hr : s.running = false) (hoff : s.gateway.status.state = .off)
    (hready : s.readiness ≠ .pending) : s.stop = s.settle := by
  have hhalted : s.halted = s := by
    simp [halted, hr]
  rw [stop, stopWith_halted, hhalted, Gateway.report_off hoff,
    Readiness.resolve_of_resolved hready]
  simp

/-- A second stop changes nothing about a stream, whatever its gateway has become meanwhile. -/
theorem stop_stop (s : StreamSource σ) (g : Gateway σ) (hoff : g.status.state = .off) :
    { s.stop with gateway := g }.stop = { s.stop with gateway := g } := by
  have hended : s.stop.standing.Coherent ∧ s.stop.standing.running = false := by
    rw [stop, s.standing_stopWith none]
    exact ⟨.ended _, rfl⟩
  have hr : s.stop.running = false := hended.2
  have hready : s.stop.readiness ≠ .pending := hended.1.resolved_of_stopped hended.2
  -- all that is left to do is to settle the worker, which the first stop has done
  have hsettled : s.stop.settle = s.stop := by
    rw [stop, stopWith_halted, settle_settle]
  have hagain := stop_of_stopped (s := { s.stop with gateway := g }) hr hoff hready
  rw [hagain, settle_withGateway, hsettled]

end StreamSource

/-! ## Polls -/

namespace PollSource

variable {s : PollSource σ}

/-- Once a poll of a stopped source is over no other begins. -/
theorem Over.fetches_of_stopped {s' : PollSource σ} (h : s.Over s') (hc : s.standing.Coherent)
    (hr : s.standing.running = false) (hmove : s.standing.Move s'.standing) :
    s'.fetches = s.fetches := by
  have hr' : s'.standing.running = false := by
    rw [hc.eq_of_stopped hr hmove]
    exact hr
  have hstopped : s'.stopped = true := by
    simpa [standing] using hr'
  rw [h.fetches, if_pos hstopped]

/-- Stopping a stopped source changes nothing. -/
theorem stop_of_stopped (hs : s.stopped = true) (hoff : s.gateway.status.state = .off)
    (hready : s.readiness ≠ .pending) : s.stop = s := by
  have hreported : s.report .off none = s := by
    rw [report, Gateway.report_off hoff]
  rw [stop, stopWith, if_pos hs, hreported, Readiness.resolve_of_resolved hready]

end PollSource

/-! ## Either source -/

namespace Source

variable {source source' source'' : Source σ}

/-- What becomes of a source without anything being begun. A stream that is made and refused its
line begins nothing. -/
def Still : Source σ → Source σ → Prop
  | idle _, idle _ | idle _, refused _ | refused _, refused _ => True
  | streaming s, streaming t => s.Still t
  | polling s, polling t => t.fetches = s.fetches
  | _, _ => False

namespace Still

theorem refl (source : Source σ) : Still source source := by
  cases source with
  | idle g => exact trivial
  | refused s => exact trivial
  | streaming s => exact StreamSource.Still.refl s
  | polling s => exact rfl

theorem trans (h : Still source source') (h' : Still source' source'') : Still source source'' := by
  -- a source stays of its kind, and every other pair of kinds is ruled out
  cases source with
  | idle g =>
    cases source' with
    | idle g' => cases source'' <;> exact h'
    | refused s' =>
      cases source'' with
      | refused s'' => exact trivial
      | _ => exact h'.elim
    | _ => exact h.elim
  | refused s =>
    cases source' with
    | refused s' => cases source'' <;> exact h'
    | _ => exact h.elim
  | streaming s =>
    cases source' with
    | streaming s' =>
      cases source'' with
      | streaming s'' => exact StreamSource.Still.trans h h'
      | _ => exact h'.elim
    | _ => exact h.elim
  | polling s =>
    cases source' with
    | polling s' =>
      cases source'' with
      | polling s'' => exact Eq.trans h' h
      | _ => exact h'.elim
    | _ => exact h.elim

/-- Another gateway begins nothing. -/
theorem withGateway (source : Source σ) (g : Gateway σ) : Still source (source.withGateway g) := by
  cases source with
  | idle gateway => exact trivial
  | refused s => exact trivial
  | streaming s => exact ⟨rfl, rfl, rfl, .inl rfl, .inl rfl⟩
  | polling s => exact rfl

theorem stop (source : Source σ) : Still source source.stop := by
  cases source with
  | idle gateway => exact trivial
  | refused s => exact trivial
  | streaming s => exact .stopWith s none
  | polling s => exact (PollSource.Keeps.stopWith s none).fetches

/-- A source that does not run is deaf. -/
theorem hearPublished (hr : source.standing.running = false) (health : Health) :
    Still source (source.hearPublished health) := by
  cases source with
  | idle gateway => exact trivial
  | refused s => exact trivial
  | streaming s =>
    rw [Source.hearPublished, StreamSource.hearPublished_of_stopped hr]
    exact StreamSource.Still.refl s
  | polling s => exact rfl

end Still

/-- A stop changes nothing about a source that has been stopped. -/
theorem stop_stop (source : Source σ) (g : Gateway σ) (hoff : g.status.state = .off) :
    (source.stop.withGateway g).stop = source.stop.withGateway g := by
  cases source with
  | idle gateway => rfl
  | refused s => exact congrArg refused (s.stop_stop g hoff)
  | streaming s => exact congrArg streaming (s.stop_stop g hoff)
  | polling s =>
    have hended : s.stop.standing.Coherent ∧ s.stop.standing.running = false := by
      rw [PollSource.stop, s.standing_stopWith none]
      exact ⟨.ended _, rfl⟩
    have hs : s.stop.stopped = true := by
      simpa [PollSource.standing] using hended.2
    have hready : s.stop.readiness ≠ .pending := hended.1.resolved_of_stopped hended.2
    -- what a second stop looks at is as the first one left it
    have hagain := PollSource.stop_of_stopped (s := { s.stop with gateway := g }) hs hoff hready
    show polling { s.stop with gateway := g }.stop = polling { s.stop with gateway := g }
    rw [hagain]

end Source

end FlagReplica
