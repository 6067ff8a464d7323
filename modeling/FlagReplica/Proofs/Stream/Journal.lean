import FlagReplica.Proofs.Stream.Operations

/-!
# The journal is written and never read

What a source notes makes no difference to what it does. Two sources are twins if nothing but their
journals tells them apart; whatever is done to both leaves them twins and comes to the same result.
There is one lemma for each operation, and together they say so of a delivery.
-/

namespace FlagReplica

/-! ## Gateways -/

namespace Gateway

variable {σ : Type} {g h : Gateway σ}

/-- The gateway with another journal. -/
def withJournal (g : Gateway σ) (journal : List Notice) : Gateway σ :=
  { g with journal }

/-- Nothing but its journal tells the second gateway from the first. -/
def Twin (g h : Gateway σ) : Prop :=
  ∃ journal, h = g.withJournal journal

namespace Twin

theorem note (ht : g.Twin h) (n : Notice) : (g.note n).Twin (h.note n) := by
  rcases ht with ⟨journal, rfl⟩
  exact ⟨_, rfl⟩

/-- Twins report alike. -/
theorem report (ht : g.Twin h) (state : SyncState) (failure? : Option Failure) :
    (g.report state failure?).1 = (h.report state failure?).1 ∧
      (g.report state failure?).2.Twin (h.report state failure?).2 := by
  rcases ht with ⟨journal, rfl⟩
  have hstatus : (g.withJournal journal).status = g.status := rfl
  rw [report_eq, report_eq, hstatus]
  split
  · exact ⟨rfl, _, rfl⟩
  · exact ⟨rfl, _, rfl⟩

/-- Twins write alike. -/
theorem write [Repository σ] (ht : g.Twin h) (c : Change) :
    (g.write c).result = (h.write c).result ∧ (g.write c).announced = (h.write c).announced ∧
      (g.write c).gateway.Twin (h.write c).gateway := by
  have hstore : h.store = g.store := by
    rcases ht with ⟨journal, rfl⟩
    rfl
  -- the twins share their store, so the same answer decides both writes
  cases hres : (request g.store c).result with
  | ok changed =>
    rw [write_of_ok hres, write_of_ok (hstore ▸ hres)]
    rcases ht with ⟨journal, rfl⟩
    exact ⟨rfl, rfl, _, rfl⟩
  | error fault =>
    rw [write_of_error hres, write_of_error (hstore ▸ hres)]
    have hasked : Twin
        { g with
          store := (request g.store c).state
          journal := g.journal ++ (request g.store c).notices }
        { h with
          store := (request h.store c).state
          journal := h.journal ++ (request h.store c).notices } := by
      rcases ht with ⟨journal, rfl⟩
      exact ⟨_, rfl⟩
    have hreport := (hasked.note (.storeFailed fault)).report .interrupted
      (some (storeFailure fault))
    exact ⟨rfl, hreport.1, hreport.2⟩

end Twin

end Gateway

/-! ## Sources -/

namespace StreamSource

variable {σ : Type} {s t : StreamSource σ}

/-- The source with another journal. -/
def withJournal (s : StreamSource σ) (journal : List Notice) : StreamSource σ :=
  { s with gateway := s.gateway.withJournal journal }

/-- Nothing but its journal tells the second source from the first. -/
def Twin (s t : StreamSource σ) : Prop :=
  ∃ journal, t = s.withJournal journal

/-- Two operations have come to the same result and to twins. -/
def TwinResults {α : Type} (r r' : α × StreamSource σ) : Prop :=
  r.1 = r'.1 ∧ r.2.Twin r'.2

/-- The line reconnects, if there is one. -/
def reconnect (s : StreamSource σ) : Except Fault Unit × StreamSource σ :=
  match s.line.address with
  | none => (.error (.noLine "interrupt"), s)
  | some _ => { s with line := s.line.interrupt }.beginAttempt

/-- A restart has the line of a source that runs reconnect. -/
theorem restart_reconnect (s : StreamSource σ) (isFailure : Bool) :
    s.restart isFailure =
      if !s.running then (.ok (), s)
      else (if isFailure then s.recordAttempt true else s).reconnect :=
  rfl

namespace Twin

theorem gateway (h : s.Twin t) : s.gateway.Twin t.gateway := by
  rcases h with ⟨journal, rfl⟩
  exact ⟨journal, rfl⟩

theorem running (h : s.Twin t) : t.running = s.running := by
  rcases h with ⟨journal, rfl⟩
  rfl

/-- A notice makes a twin. -/
theorem of_note (s : StreamSource σ) (n : Notice) : s.Twin (s.note n) :=
  ⟨_, rfl⟩

theorem note (h : s.Twin t) (n : Notice) : (s.note n).Twin (t.note n) := by
  rcases h with ⟨journal, rfl⟩
  exact ⟨_, rfl⟩

/-! ### Parts of the work -/

/-- Twins take the same branch. -/
theorem ite {p q : Prop} [Decidable p] [Decidable q] {s' t' : StreamSource σ} (hpq : p ↔ q)
    (h : s.Twin t) (h' : s'.Twin t') : (if p then s else s').Twin (if q then t else t') := by
  by_cases hp : p
  · rw [if_pos hp, if_pos (hpq.1 hp)]
    exact h
  · rw [if_neg hp, if_neg (mt hpq.2 hp)]
    exact h'

theorem endWorker (h : s.Twin t) : s.endWorker.Twin t.endWorker := by
  rcases h with ⟨journal, rfl⟩
  exact .ite Iff.rfl ⟨journal, rfl⟩ ⟨journal, rfl⟩

theorem settle (h : s.Twin t) : s.settle.Twin t.settle := by
  have hends := h.endWorker
  rcases h with ⟨journal, rfl⟩
  exact .ite Iff.rfl hends ⟨journal, rfl⟩

theorem halted (h : s.Twin t) : s.halted.Twin t.halted := by
  rcases h with ⟨journal, rfl⟩
  exact .ite Iff.rfl ⟨_, rfl⟩ ⟨journal, rfl⟩

theorem stopWith (h : s.Twin t) (failure? : Option Failure) :
    (s.stopWith failure?).Twin (t.stopWith failure?) := by
  have hhalted := h.halted
  rw [stopWith_halted, stopWith_halted]
  refine settle ?_
  rcases hhalted.gateway.report .off failure? with ⟨hannounced, journal', hgateway⟩
  rw [← hannounced, hgateway]
  rcases hhalted with ⟨journal, heq⟩
  rw [heq]
  exact ⟨journal', rfl⟩

theorem heed (h : s.Twin t) (announced : Option Status) :
    (s.heed announced).Twin (t.heed announced) := by
  cases announced with
  | none => exact h
  | some status =>
    rcases h with ⟨journal, rfl⟩
    exact .ite Iff.rfl (stopWith ⟨journal, rfl⟩ none) ⟨journal, rfl⟩

theorem report (h : s.Twin t) (state : SyncState) (failure? : Option Failure) :
    (s.report state failure?).Twin (t.report state failure?) := by
  rcases h.gateway.report state failure? with ⟨hannounced, journal', hgateway⟩
  simp only [StreamSource.report]
  rw [← hannounced, hgateway]
  rcases h with ⟨journal, rfl⟩
  exact heed ⟨journal', rfl⟩ _

theorem recordAttempt (h : s.Twin t) (failed : Bool) :
    (s.recordAttempt failed).Twin (t.recordAttempt failed) := by
  rcases h with ⟨journal, rfl⟩
  exact ⟨journal, rfl⟩

theorem beginAttempt (h : s.Twin t) : TwinResults s.beginAttempt t.beginAttempt := by
  rcases h with ⟨journal, rfl⟩
  have hline : (s.withJournal journal).line = s.line := rfl
  unfold StreamSource.beginAttempt
  rw [hline]
  split
  · exact ⟨rfl, journal, rfl⟩
  · exact ⟨rfl, journal, rfl⟩

theorem reconnect (h : s.Twin t) : TwinResults s.reconnect t.reconnect := by
  rcases h with ⟨journal, rfl⟩
  have hline : (s.withJournal journal).line = s.line := rfl
  unfold StreamSource.reconnect
  rw [hline]
  split
  · exact ⟨rfl, journal, rfl⟩
  · exact beginAttempt ⟨journal, rfl⟩

theorem restart (h : s.Twin t) (isFailure : Bool) :
    TwinResults (s.restart isFailure) (t.restart isFailure) := by
  rw [restart_reconnect, restart_reconnect, h.running]
  split
  · exact ⟨rfl, h⟩
  · exact (Twin.ite Iff.rfl (h.recordAttempt true) h).reconnect

/-! ### Events -/

theorem eventFailed (h : s.Twin t) (fault : Fault) :
    TwinResults (s.eventFailed fault) (t.eventFailed fault) := by
  simp only [StreamSource.eventFailed, h.running]
  split
  · exact ⟨rfl, h⟩
  · split
    · exact (h.note _).restart true
    · exact ((h.note _).report _ _).restart true
    · exact ((h.note _).report _ _).restart true

theorem dataStored (h : s.Twin t) : s.dataStored.Twin t.dataStored := by
  simp only [StreamSource.dataStored, h.running]
  split
  · exact h
  · rcases (h.recordAttempt false).report .valid none with ⟨journal, heq⟩
    rw [heq]
    exact .ite Iff.rfl ⟨_, rfl⟩ ⟨_, rfl⟩

theorem receive (h : s.Twin t) (e : StreamEvent) : TwinResults (s.receive e) (t.receive e) := by
  unfold StreamSource.receive
  split
  · exact ⟨rfl, h.note _⟩
  · split
    · exact h.eventFailed _
    · exact ⟨rfl, h.note _⟩
    · rcases h with ⟨journal, rfl⟩
      exact ⟨rfl, journal, rfl⟩

theorem write [Repository σ] (h : s.Twin t) : TwinResults s.write t.write := by
  have hwriting : t.writing = s.writing := by
    rcases h with ⟨journal, rfl⟩
    rfl
  unfold StreamSource.write
  rw [hwriting]
  split
  · exact ⟨rfl, h⟩
  · rename_i c _
    rcases h.gateway.write c with ⟨hresult, hannounced, journal', hgateway⟩
    have hheeded : ({ s with writing := none, gateway := (s.gateway.write c).gateway }.heed
          (s.gateway.write c).announced).Twin
        ({ t with writing := none, gateway := (t.gateway.write c).gateway }.heed
          (t.gateway.write c).announced) := by
      rw [← hannounced, hgateway]
      rcases h with ⟨journal, rfl⟩
      exact heed ⟨journal', rfl⟩ _
    dsimp only
    rw [← hresult]
    split
    · exact ⟨(hheeded.eventFailed _).1, (hheeded.eventFailed _).2.settle⟩
    · exact ⟨rfl, hheeded.dataStored.settle⟩
    · exact ⟨rfl, hheeded.settle⟩

/-! ### Connection errors -/

theorem retry (h : s.Twin t) (failure : Failure) :
    TwinResults (s.retry failure) (t.retry failure) := by
  have hbegun := (h.report .interrupted (some failure)).beginAttempt
  exact ⟨congrArg (Except.map fun _ => true) hbegun.1, hbegun.2⟩

theorem handleError (h : s.Twin t) (fault : Fault) :
    TwinResults (s.handleError fault) (t.handleError fault) := by
  simp only [StreamSource.handleError, h.running]
  split
  · exact ⟨rfl, h⟩
  · split
    · split
      · exact ((h.recordAttempt true).note _).retry _
      · exact ⟨rfl, ((h.recordAttempt true).note _).stopWith _⟩
    · exact ((h.recordAttempt true).note _).retry _

/-! ### Deliveries -/

theorem concluded {r r' : Except Fault Bool × StreamSource σ} (h : TwinResults r r') :
    (concluded r).Twin (concluded r') := by
  rcases r with ⟨result, s⟩
  rcases r' with ⟨result', t⟩
  rcases h with ⟨hresult, htwin⟩
  rcases hresult with rfl
  cases result with
  | error fault => exact htwin.endWorker
  | ok goesOn =>
    cases goesOn with
    | false => exact htwin.endWorker
    | true => exact htwin.settle

theorem handled (h : s.Twin t) (d : Delivered) : (s.handled d).Twin (t.handled d) := by
  unfold StreamSource.handled
  split
  · exact (h.receive _).2.settle
  · exact concluded (h.handleError _)
  · exact h.settle

/-- Whoever takes what is delivered to one twin takes it for the other. -/
theorem accept (h : s.Twin t) (d : Delivered) : Option.Rel Twin (s.accept d) (t.accept d) := by
  have hworker : t.worker = s.worker := by
    rcases h with ⟨journal, rfl⟩
    rfl
  by_cases hw : s.worker = .running
  · cases hr : s.running with
    | false =>
      rw [accept_of_stopped hw hr, accept_of_stopped (hworker.trans hw) (h.running.trans hr)]
      exact .some h.endWorker
    | true =>
      rw [accept_of_running hw hr, accept_of_running (hworker.trans hw) (h.running.trans hr)]
      refine .some (handled ?_ d)
      rcases h with ⟨journal, rfl⟩
      exact ⟨journal, rfl⟩
  · rw [accept_of_idle hw, accept_of_idle (hworker ▸ hw)]
    exact .none

/-- Twins handle alike what is delivered. -/
theorem deliver [Repository σ] (h : s.Twin t) (d : Delivered) :
    Option.Rel Twin (s.deliver d) (t.deliver d) := by
  have haccept := h.accept d
  unfold StreamSource.deliver
  generalize s.accept d = taken at haccept ⊢
  generalize t.accept d = taken' at haccept ⊢
  cases haccept with
  | none => exact .none
  | some htwin => exact .some htwin.write.2

end Twin

end StreamSource

end FlagReplica
