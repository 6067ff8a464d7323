import FlagReplica.Proofs.Change.Refused
import FlagReplica.Proofs.Poll.Operations
import FlagReplica.Proofs.Status.Alike
import FlagReplica.Proofs.Stream.Losses
import Mathlib

/-!
# Streams and polls agree

A full data set can reach a source as an event of a stream or as the outcome of a fetch, and so can
a failure. Both sources make the same of it. They are run side by side here, each with its own clock
and its own gateway, and after every turn nothing but times and journals tells them apart. The
relation that each turn preserves is `Agree`.
-/

namespace FlagReplica

open Json (Value)

/-! ## Outcomes -/

/-- The text of an event that has a value for its data. -/
def Text.Brings (t : Text) (d : Value) : Prop :=
  ∃ members, Json.read t = .ok (.object members) ∧ Table.get? members ("data" : Text) = some d

/-- A fault that is neither an answer with an error status nor a failure of the store. -/
def Fault.IsPlain : Fault → Prop
  | .streamRejected _ | .fetchRejected _ | .storeUpdate _ _ => False
  | _ => True

/-- How an attempt to get a full data set turns out. -/
inductive Outcome where
  /-- A value is offered as the data set, fit for one or not. -/
  | offered (d : Value) (text : Text) (brings : text.Brings d)
  /-- The server answers with an error status. -/
  | rejected (status : Int)
  /-- There is no answer. -/
  | failed (fault : Fault) (plain : fault.IsPlain)

namespace Outcome

/-- The event with which a value is offered on a stream. -/
def putOf (text : Text) : StreamEvent :=
  ⟨Message.put.word, text⟩

/-- The outcome as the line of a stream delivers it. -/
def delivered : Outcome → Delivered
  | offered _ text _ => .event (putOf text)
  | rejected status => .lost (some (.streamRejected status))
  | failed fault _ => .lost (some fault)

/-- The outcome as a fetch has it. -/
def fetched : Outcome → Except Fault Payload
  | offered d _ _ => .ok (.value d)
  | rejected status => .error (.fetchRejected status)
  | failed fault _ => .error fault

end Outcome

/-- One turn of both sources: the store may have become another one meanwhile, each clock shows what
it shows, and then there is an outcome. -/
structure Turn (σ : Type) where
  disturb : σ → σ
  streamNow : Millis
  pollNow : Millis
  outcome : Outcome

variable {σ : Type}

/-- A streaming source when a turn begins. -/
def StreamSource.disturbed (s : StreamSource σ) (t : Turn σ) : StreamSource σ :=
  { s with gateway := { s.gateway with store := t.disturb s.gateway.store, now := t.streamNow } }

/-- A turn of a streaming source. One whose worker has ended takes nothing. -/
def StreamSource.turn [Repository σ] (s : StreamSource σ) (t : Turn σ) : StreamSource σ :=
  ((s.disturbed t).deliver t.outcome.delivered).getD (s.disturbed t)

/-- A polling source when a turn begins. -/
def PollSource.disturbed (p : PollSource σ) (t : Turn σ) : PollSource σ :=
  { p with gateway := { p.gateway with store := t.disturb p.gateway.store, now := t.pollNow } }

/-- A turn of a polling source. One that has stopped fetches nothing. -/
def PollSource.turn [Repository σ] (p : PollSource σ) (t : Turn σ) : PollSource σ :=
  if p.fetching then (p.disturbed t).poll t.outcome.fetched else p.disturbed t

/-! ## What an event offers -/

/-- An event offers the value that its text brings. -/
theorem Text.Brings.toPut_eq {t : Text} {d : Value} (h : t.Brings d) :
    (Payload.text t).toPut = (Payload.value d).toDataSet := by
  rcases h with ⟨members, hread, hdata⟩
  simp [Payload.toPut, Payload.load, hread, Payload.ofRead, Payload.membersOf, hdata, bind,
    Except.bind]

theorem Outcome.reading?_putOf (t : Text) :
    (putOf t).reading? = some (Message.read .put (.text t)) := by
  rw [StreamEvent.reading?, putOf, Message.ofName?_word]
  rfl

/-- A plain fault is noted, and reported as an interruption. -/
theorem Gateway.afterFailedPoll_of_plain (g : Gateway σ) {fault : Fault} (h : fault.IsPlain) :
    ∃ n, g.afterFailedPoll fault =
      ((g.note n).report .interrupted (some (.ofFault fault))).2 := by
  cases fault <;> first | exact h.elim | exact ⟨_, rfl⟩

theorem Gateway.afterFailedEvent_of_plain (g : Gateway σ) {fault : Fault} (h : fault.IsPlain) :
    ∃ n, g.afterFailedEvent fault =
      ((g.note n).report .interrupted (some (.ofFault fault))).2 := by
  cases fault <;> first | exact h.elim | exact ⟨_, rfl⟩

theorem Fault.OfDecoding.isPlain {fault : Fault} (h : fault.OfDecoding) : fault.IsPlain := by
  cases h <;> exact trivial

/-! ## The relation between the two sources -/

/-- Nothing but times and journals tells what the two sources have told the world apart. -/
structure Matching (s : StreamSource σ) (p : PollSource σ) : Prop where
  gateway : s.gateway.Alike p.gateway
  readiness : s.readiness = p.readiness

/-- Both sources wait for the next outcome. -/
structure BothGoing (s : StreamSource σ) (p : PollSource σ) : Prop extends Matching s p where
  serving : s.Serving
  line : s.line.phase = .open
  fetching : p.Fetching

/-- Both sources have ended for good. -/
structure BothEnded (s : StreamSource σ) (p : PollSource σ) : Prop extends Matching s p where
  stream : s.Ended
  poll : p.Ended

/-- The sources agree in what they have told the world and in whether they go on. -/
def Agree (s : StreamSource σ) (p : PollSource σ) : Prop :=
  BothGoing s p ∨ BothEnded s p

namespace BothGoing

open StreamSource

variable {s : StreamSource σ} {p : PollSource σ}

/-- What an event and a poll have in common that both sources go on after. -/
theorem of_handled {s' : StreamSource σ} {p' : PollSource σ} {g : Gateway σ}
    {readiness : Readiness} {interrupts : Nat} (h : BothGoing s p)
    (hs : Handled s s' g readiness interrupts) (hp : p'.Fetching) (hg : g.Alike p'.gateway)
    (hr : readiness = p'.readiness) : BothGoing s' p' := by
  rcases hs.serving h.line with ⟨hserving, hopen⟩
  refine ⟨⟨?_, ?_⟩, hserving, hopen, hp⟩
  · rw [hs.gateway]
    exact hg
  · rw [hs.readiness, hr]

variable [Repository σ]

/-- A value that is no data set interrupts both. -/
theorem unfit (h : BothGoing s p) {d : Value} {text : Text} (brings : text.Brings d)
    {fault : Fault} (hd : (Payload.value d).toDataSet = .error fault) :
    ∃ s', s.deliver (.event (Outcome.putOf text)) = some s' ∧
      BothGoing s' (p.poll (.ok (.value d))) := by
  -- what decoded data is refused for is nothing that only one of the two sources meets
  have hplain : fault.IsPlain := ((Payload.Legible.value d).toDataSet_refused hd).isPlain
  have hreading : (Outcome.putOf text).reading? = some (.error fault) := by
    rw [Outcome.reading?_putOf, Message.read, brings.toPut_eq, hd]
    rfl
  have hretried : ∀ status, fault = .fetchRejected status →
      Rejection.isRecoverable status = true := by
    rintro status rfl
    exact hplain.elim
  rcases s.gateway.afterFailedEvent_of_plain hplain with ⟨n, hn⟩
  rcases p.gateway.afterFailedPoll_of_plain hplain with ⟨m, hm⟩
  rcases h.serving.deliver_misread hreading with ⟨s', hdelivered, hhandled⟩
  refine ⟨s', hdelivered, ?_⟩
  have hfetched : (Except.ok (Payload.value d) : Except Fault Payload).bind Payload.toDataSet =
      .error fault := hd
  rw [PollSource.poll_of_error h.fetching hfetched hretried]
  refine h.of_handled hhandled ⟨h.fetching.stopped, rfl, h.fetching.writing⟩ ?_ h.readiness
  -- each source notes it in its own words, and the reports that follow are the same
  rw [hn, hm]
  exact (h.gateway.note n m).report _ _

/-- The store answers a data set to both alike. -/
theorem fit (h : BothGoing s p) {d : Value} {text : Text} (brings : text.Brings d)
    {data : DataSet} (hd : (Payload.value d).toDataSet = .ok data) :
    ∃ s', s.deliver (.event (Outcome.putOf text)) = some s' ∧
      BothGoing s' (p.poll (.ok (.value d))) := by
  have hasked : (Outcome.putOf text).change? = some (.replace data) := by
    have hreading : (Outcome.putOf text).reading? = some (.ok (.change (.replace data))) := by
      rw [Outcome.reading?_putOf, Message.read, brings.toPut_eq, hd]
      rfl
    simp [StreamEvent.change?, hreading]
  have hfetched : (Except.ok (Payload.value d) : Except Fault Payload).bind Payload.toDataSet =
      .ok data := hd
  have hwritten := h.gateway.write (.replace data)
  have hfetching : ∀ q : PollSource σ, q.stopped = p.stopped → q.fetching = true →
      q.writing = none → q.Fetching := by
    intro q hstopped hfetching hidle
    exact ⟨hstopped.trans h.fetching.stopped, hfetching, hidle⟩
  -- both gateways ask the same of the same store
  cases hres : (Gateway.request s.gateway.store (.replace data)).result with
  | ok changed =>
    have hres' : (Gateway.request p.gateway.store (.replace data)).result = .ok changed :=
      h.gateway.store ▸ hres
    rcases h.serving.deliver_stored hasked hres with ⟨s', hdelivered, hhandled⟩
    refine ⟨s', hdelivered, ?_⟩
    rw [PollSource.poll_of_stored h.fetching hfetched hres']
    refine h.of_handled hhandled (hfetching _ rfl rfl rfl) ?_ ?_
    · rw [h.readiness]
      exact hwritten.afterData _ _ _
    · rw [h.readiness]
  | error fault =>
    have hres' : (Gateway.request p.gateway.store (.replace data)).result = .error fault :=
      h.gateway.store ▸ hres
    rcases h.serving.deliver_refused hasked hres with ⟨s', hdelivered, hhandled⟩
    refine ⟨s', hdelivered, ?_⟩
    rw [PollSource.poll_of_refused h.fetching hfetched hres']
    refine h.of_handled hhandled (hfetching _ rfl rfl rfl) ?_ h.readiness
    -- the gateway has reported the failure already
    exact hwritten.note _ _

/-- A failure that is worth retrying interrupts both. `pollFault` is how the fetch has it. -/
theorem retried (h : BothGoing s p) {fault pollFault : Fault} (hstream : IsRetried fault)
    (hpoll : ∀ status, pollFault = .fetchRejected status → Rejection.isRecoverable status = true)
    (hfailure : Failure.ofFault pollFault = Failure.ofFault fault)
    (hnoted : ∃ n, p.gateway.afterFailedPoll pollFault =
      ((p.gateway.note n).report .interrupted (some (.ofFault pollFault))).2) :
    ∃ s', s.deliver (.lost (some fault)) = some s' ∧ BothGoing s' (p.poll (.error pollFault)) := by
  have hs := h.serving
  rcases hnoted with ⟨n, hn⟩
  -- both report one failure, whatever each of them notes
  refine ⟨_, deliver_of_retried hs h.line hstream, ?_⟩
  rw [PollSource.poll_of_error h.fetching rfl hpoll]
  refine ⟨⟨?_, h.readiness⟩, ⟨hs.running, hs.worker, hs.writing, hs.address, hs.stopsUpon⟩,
    h.line, ⟨h.fetching.stopped, rfl, h.fetching.writing⟩⟩
  dsimp only
  rw [hn, hfailure]
  exact (h.gateway.note _ _).report _ _

/-- A rejection of the credentials ends both. -/
theorem rejected (h : BothGoing s p) {status : Int}
    (hrejected : Rejection.isRecoverable status = false) :
    ∃ s', s.deliver (.lost (some (.streamRejected status))) = some s' ∧
      BothEnded s' (p.poll (.error (.fetchRejected status))) := by
  rcases deliver_of_rejected h.serving h.line hrejected
      with ⟨s', hdelivered, hended, hready, hgateway⟩
  refine ⟨s', hdelivered, ?_⟩
  rw [PollSource.poll_of_rejected h.fetching hrejected]
  refine ⟨⟨?_, ?_⟩, hended, ⟨rfl, rfl, h.fetching.writing⟩⟩
  · dsimp only
    rw [hgateway]
    exact ((h.gateway.note _ _).note _ _).report _ _
  · dsimp only
    rw [hready, h.readiness]

end BothGoing

/-! ## One turn -/

/-- What happens before an outcome happens to both. -/
theorem BothGoing.disturbed {s : StreamSource σ} {p : PollSource σ} (h : BothGoing s p)
    (t : Turn σ) : BothGoing (s.disturbed t) (p.disturbed t) := by
  refine ⟨⟨h.gateway.disturb _ _ _, h.readiness⟩, ?_, h.line, ?_⟩
  · exact ⟨h.serving.running, h.serving.worker, h.serving.writing, h.serving.address,
      h.serving.stopsUpon⟩
  · exact ⟨h.fetching.stopped, h.fetching.fetching, h.fetching.writing⟩

theorem BothEnded.disturbed {s : StreamSource σ} {p : PollSource σ} (h : BothEnded s p)
    (t : Turn σ) : BothEnded (s.disturbed t) (p.disturbed t) := by
  refine ⟨⟨h.gateway.disturb _ _ _, h.readiness⟩, ?_, ?_⟩
  · exact ⟨h.stream.running, h.stream.worker⟩
  · exact ⟨h.poll.stopped, h.poll.fetching, h.poll.writing⟩

section Turn

variable [Repository σ] {s : StreamSource σ} {p : PollSource σ}

/-- Whatever the outcome is, both sources make the same of it. -/
theorem BothGoing.outcome (h : BothGoing s p) (o : Outcome) :
    ∃ s', s.deliver o.delivered = some s' ∧ Agree s' (p.poll o.fetched) := by
  -- what can be stored or not, what rejects the credentials or not, and every other failure
  cases o with
  | offered d text brings =>
    cases hd : (Payload.value d).toDataSet with
    | error fault =>
      rcases h.unfit brings hd with ⟨s', hdelivered, hgoing⟩
      exact ⟨s', hdelivered, Or.inl hgoing⟩
    | ok data =>
      rcases h.fit brings hd with ⟨s', hdelivered, hgoing⟩
      exact ⟨s', hdelivered, Or.inl hgoing⟩
  | rejected status =>
    cases hrec : Rejection.isRecoverable status with
    | false =>
      rcases h.rejected hrec with ⟨s', hdelivered, hended⟩
      exact ⟨s', hdelivered, Or.inr hended⟩
    | true =>
      have hstream : StreamSource.IsRetried (.streamRejected status) := by
        rintro status' ⟨⟩
        exact hrec
      have hpoll : ∀ status', Fault.fetchRejected status = .fetchRejected status' →
          Rejection.isRecoverable status' = true := by
        rintro status' ⟨⟩
        exact hrec
      rcases h.retried hstream hpoll rfl ⟨_, rfl⟩ with ⟨s', hdelivered, hgoing⟩
      exact ⟨s', hdelivered, Or.inl hgoing⟩
  | failed fault plain =>
    have hstream : StreamSource.IsRetried fault := by
      rintro status rfl
      exact plain.elim
    have hpoll : ∀ status, fault = .fetchRejected status →
        Rejection.isRecoverable status = true := by
      rintro status rfl
      exact plain.elim
    rcases h.retried hstream hpoll rfl (p.gateway.afterFailedPoll_of_plain plain)
        with ⟨s', hdelivered, hgoing⟩
    exact ⟨s', hdelivered, Or.inl hgoing⟩

/-- A turn leaves sources in agreement that agreed before. -/
theorem Agree.turn (h : Agree s p) (t : Turn σ) : Agree (s.turn t) (p.turn t) := by
  rcases h with h | h
  · rcases (h.disturbed t).outcome t.outcome with ⟨s', hdelivered, hagree⟩
    rw [StreamSource.turn, PollSource.turn, if_pos h.fetching.fetching, hdelivered,
      Option.getD_some]
    exact hagree
  · -- neither source takes anything any more
    have hworker : (s.disturbed t).worker ≠ .running := by
      rw [(h.disturbed t).stream.worker]
      decide
    have hidle : (s.disturbed t).deliver t.outcome.delivered = none := by
      rw [StreamSource.deliver, StreamSource.accept_of_idle hworker, Option.map_none]
    have hnot : ¬ p.fetching = true := by
      rw [h.poll.fetching]
      decide
    rw [StreamSource.turn, PollSource.turn, if_neg hnot, hidle, Option.getD_none]
    exact Or.inr (h.disturbed t)

/-- So does every sequence of turns. -/
theorem Agree.turns (h : Agree s p) (turns : List (Turn σ)) :
    Agree (turns.foldl StreamSource.turn s) (turns.foldl PollSource.turn p) := by
  -- on the turns, with sources that agree at the start of each
  induction turns generalizing s p with
  | nil => exact h
  | cons t turns ih => exact ih (h.turn t)

end Turn

/-! ## Both sources from the beginning -/

/-- Two sources that nothing has happened to yet: each with a gateway of its own, to stores and
audiences that are the same. The audience answers nothing, and the line can be opened. -/
structure Paired (s : StreamSource σ) (p : PollSource σ) : Prop where
  stream : s.Fresh
  poll : p.Fresh
  store : s.gateway.store = p.gateway.store
  audience : s.gateway.audience = p.gateway.audience
  quiet : s.gateway.audience.Quiet
  refusal : s.refusal = none
  line : s.line.phase = .open

/-- Two fresh sources agree as soon as they have been started. -/
theorem Paired.start {s : StreamSource σ} {p : PollSource σ} (h : Paired s p) :
    Agree s.start.2 p.start.2 := by
  have halike : s.gateway.Alike p.gateway := by
    refine ⟨h.store, ?_, ?_⟩
    · simp [Status.untimed, h.stream.state, h.stream.error, h.poll.state, h.poll.error]
    · rw [← h.audience]
      exact ⟨h.quiet, h.quiet, rfl, rfl, rfl, rfl⟩
  rw [StreamSource.start_of_unstarted h.refusal h.stream.worker,
    PollSource.start_of_unbegun h.poll.begun h.poll.stopped]
  left
  refine ⟨⟨halike.note _ _, ?_⟩, ⟨rfl, rfl, h.stream.writing, rfl, h.stream.stopsUpon⟩, h.line,
    ⟨h.poll.stopped, rfl, h.poll.writing⟩⟩
  exact h.stream.readiness.trans h.poll.readiness.symm

/-- A streaming and a polling source that are fed the same outcomes, with whatever answers of their
stores, are in the same state, have the same failure on record, have told their listeners the same,
have the same signal and the same store, and either both go on or both have stopped for good. -/
theorem Paired.agreement [Repository σ] {s₀ : StreamSource σ} {p₀ : PollSource σ}
    (h : Paired s₀ p₀) (turns : List (Turn σ)) :
    let s := turns.foldl StreamSource.turn s₀.start.2
    let p := turns.foldl PollSource.turn p₀.start.2
    s.gateway.status.state = p.gateway.status.state ∧
      s.gateway.status.error.map (·.failure) = p.gateway.status.error.map (·.failure) ∧
      s.gateway.audience.heard.map (Prod.map id Status.untimed) =
        p.gateway.audience.heard.map (Prod.map id Status.untimed) ∧
      s.gateway.audience.queue.map Status.untimed = p.gateway.audience.queue.map Status.untimed ∧
      s.readiness = p.readiness ∧
      s.gateway.store = p.gateway.store ∧
      s.running = !p.stopped := by
  intro s p
  have hagree : Agree s p := h.start.turns turns
  have hmatching : Matching s p := by
    rcases hagree with hgoing | hended
    · exact hgoing.toMatching
    · exact hended.toMatching
  -- the two either go on both or have both ended
  have hstopped : s.running = !p.stopped := by
    rcases hagree with hgoing | hended
    · rw [hgoing.serving.running, hgoing.fetching.stopped]
      rfl
    · rw [hended.stream.running, hended.poll.stopped]
      rfl
  have hgateway := hmatching.gateway
  exact ⟨hgateway.state, hgateway.failure, hgateway.audience.heard, hgateway.audience.queue,
    hmatching.readiness, hgateway.store, hstopped⟩

/-! ## Three turns -/

/-- A gateway to a store in memory, with one listener that only hears. -/
def Gateway.overheard : Gateway Memory :=
  { Gateway.create {} none 0 with
    audience := (Gateway.create (σ := Memory) {} none 0).audience.add "watch" }

def StreamSource.overheard : StreamSource Memory :=
  { gateway := .overheard, uri := "http://localhost/all" }

def PollSource.overheard : PollSource Memory :=
  { gateway := .overheard
    interval := .integer 30
    fetcher := ⟨"http://localhost/latest-all", [], none⟩ }

theorem overheard_paired : Paired StreamSource.overheard PollSource.overheard := by
  refine ⟨⟨rfl, rfl, rfl, rfl, rfl, rfl, rfl⟩, ⟨rfl, rfl, rfl, rfl, rfl, rfl⟩, rfl, rfl,
    ⟨?_, fun _ => rfl, fun _ => rfl⟩, rfl, rfl⟩
  intro _ c hc past value
  have hsilent : c = .silent "watch" := by
    simpa [StreamSource.overheard, Gateway.overheard, Audience.add, Audience.describe,
      Gateway.create] using hc
  rw [hsilent]
  rfl

/-- An empty data set is offered. -/
def Outcome.empty : Outcome :=
  .offered (.object []) StreamEvent.emptyPut.data ⟨[("data", .object [])], by cbv, by cbv⟩

/-- A data set, then a server that fails, then one that rejects the credentials. -/
def Turn.three : List (Turn Memory) :=
  [.empty, .rejected 503, .rejected 401].map fun outcome => ⟨id, 1, 2, outcome⟩

/-- The stream has stopped with the polls, and has told its listener three things as they have. -/
theorem Paired.agreement_of_three_turns :
    (Turn.three.foldl StreamSource.turn StreamSource.overheard.start.2).readiness = .succeeded ∧
      (Turn.three.foldl StreamSource.turn StreamSource.overheard.start.2).running = false ∧
      (Turn.three.foldl StreamSource.turn
        StreamSource.overheard.start.2).gateway.audience.heard.map (Prod.map id Status.untimed) =
          ([("watch", .valid, none),
            ("watch", .interrupted, some (.ofFault (.streamRejected 503))),
            ("watch", .off, some (.ofFault (.streamRejected 401)))] :
            List (Text × SyncState × Option Failure)) := by
  rcases overheard_paired.agreement Turn.three with ⟨-, -, hheard, -, hready, -, hrunning⟩
  refine ⟨?_, ?_, ?_⟩
  · rw [hready]
    cbv
  · rw [hrunning]
    cbv
  · rw [hheard]
    cbv

end FlagReplica
