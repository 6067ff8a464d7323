import FlagReplica.Proofs.Stream.Interrupts

/-!
# A write, part by part

The store answers, the gateway reports a refusal, the source draws its conclusions. Other things may
happen in between, so the three are taken apart here; one after another they are what a source does
when it ends a write.
-/

namespace FlagReplica.StreamSource

variable {σ : Type} {s : StreamSource σ}

/-- The source when the store has answered. -/
def asking [Repository σ] (s : StreamSource σ) (c : Change) : StreamSource σ :=
  { s with
    gateway :=
      { s.gateway with
        store := (Gateway.request s.gateway.store c).state
        journal := s.gateway.journal ++ (Gateway.request s.gateway.store c).notices } }

/-- The source when the answer, if it is a refusal, has been reported. -/
def reporting (s : StreamSource σ) : Except Fault Bool → StreamSource σ
  | .ok _ => s
  | .error fault =>
    (s.note (.storeFailed fault)).report .interrupted (some (Gateway.storeFailure fault))

/-- The source when the write is over and it has drawn its conclusions from the answer. -/
def concluding (s : StreamSource σ) : Change → Except Fault Bool → StreamSource σ
  | .replace _, .ok _ => { s with writing := none }.dataStored.settle
  | .upsert _ _ _, .ok _ => { s with writing := none }.settle
  | _, .error fault => ({ s with writing := none }.eventFailed (Gateway.storeFault fault)).2.settle

/-- A write goes on while it is reported. -/
theorem reporting_writing (hn : s.stopsUpon = none) (answer : Except Fault Bool) :
    (s.reporting answer).writing = s.writing := by
  cases answer with
  | ok changed => rfl
  | error fault =>
    have hnoted : (s.note (.storeFailed fault)).stopsUpon = none := hn
    rw [reporting, report_of_unstopped hnoted]
    rfl

theorem concluding_of_error (c : Change) (fault : Fault) :
    s.concluding c (.error fault) =
      ({ s with writing := none }.eventFailed (Gateway.storeFault fault)).2.settle := by
  cases c <;> rfl

/-- A write is these three parts one after another. -/
theorem write_parts [Repository σ] {c : Change} (hw : s.writing = some c)
    (hn : s.stopsUpon = none) {answer : Except Fault Bool}
    (hanswer : (Gateway.request s.gateway.store c).result = answer) :
    s.write.2 = ((s.asking c).reporting answer).concluding c answer := by
  cases answer with
  | ok changed =>
    have hsame : { (s.asking c).reporting (.ok changed) with writing := none } =
        s.answered c := by
      rw [StreamSource.answered, Gateway.write_of_ok hanswer]
      rfl
    rw [write_of_ok hw hn hanswer]
    cases c with
    | replace data => rw [concluding, hsame]
    | upsert kind key d => rw [concluding, hsame]
  | error fault =>
    have hnoted : ((s.asking c).note (.storeFailed fault)).stopsUpon = none := hn
    have hsame : { (s.asking c).reporting (.error fault) with writing := none } =
        s.answered c := by
      rw [StreamSource.answered, Gateway.write_of_error hanswer, reporting,
        report_of_unstopped hnoted]
      rfl
    rw [write_of_error hw hn hanswer, concluding_of_error, hsame]

namespace Works

/-- A report of a refusal breaks nothing off. -/
theorem reporting (h : s.Sound) (answer : Except Fault Bool) :
    Works s (s.reporting answer) 0 := by
  cases answer with
  | ok changed => exact .refl h
  | error fault =>
    have hnoted : Works s (s.note (.storeFailed fault)) 0 := .note h _
    exact hnoted.before (.report hnoted.sound _ _)

/-- A source that runs breaks the line off once over a refusal. -/
theorem concluding (h : s.Sound) (hl : s.Linked) (c : Change) (answer : Except Fault Bool) :
    Works s (s.concluding c answer) (if s.running && !answer.isOk then 1 else 0) := by
  have hended : Works s { s with writing := none } 0 :=
    ⟨⟨h.stopsUpon, h.address, h.recorded⟩, rfl, rfl, rfl, id, id⟩
  cases answer with
  | ok changed =>
    have hkept : (s.running && !(Except.ok changed : Except Fault Bool).isOk) = false := by
      simp [Except.isOk, Except.toBool]
    rw [hkept]
    cases c with
    | replace data =>
      have hstored := hended.before (.dataStored hended.sound)
      exact hstored.before (.settle hstored.sound)
    | upsert kind key d => exact hended.before (.settle hended.sound)
  | error fault =>
    have hfailed : (s.running && !(Except.error fault : Except Fault Bool).isOk) = s.running := by
      simp [Except.isOk, Except.toBool]
    have hevent := eventFailed hended.sound (hended.linked hl) (Gateway.storeFault fault)
    rw [hfailed, concluding_of_error]
    exact (hevent.before (.settle hevent.sound)).after hended

end Works

end FlagReplica.StreamSource
