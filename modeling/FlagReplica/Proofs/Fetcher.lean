import FlagReplica.Fetcher
import FlagReplica.Proofs.Json.Distinct
import Mathlib

/-!
# Fetching as if nothing were kept

A server holds a body, and perhaps a tag for it, and answers "not modified" only to a request that
is conditional on that tag. As long as equal tags mean equal bodies, nobody can tell from what is
fetched that a body is kept: every fetch comes to what it would come to if the server always sent
the whole body. The invariant is `Keeping`: what is kept came with its tag in an earlier answer, and
that was the latest answer fit to be kept.
-/

namespace FlagReplica

open Json (Value)

/-! ## Requests -/

/-- The name of the header that makes a request conditional. -/
def FetchRequest.conditionName : Text := "If-None-Match"

/-- Whether a header of that name makes a request conditional, whatever the case of its letters. -/
def FetchRequest.IsCondition (name : Text) : Prop :=
  foldedName name = foldedName conditionName

instance (name : Text) : Decidable (FetchRequest.IsCondition name) :=
  inferInstanceAs (Decidable (_ = _))

/-- What headers make a request conditional on. -/
def FetchRequest.conditionsOf (headers : Headers) : List Value :=
  (headers.filter fun h => IsCondition h.1).map (·.2)

/-- What a request is conditional on. -/
def FetchRequest.conditions (r : FetchRequest) : List Value :=
  conditionsOf r.headers

/-- The names of the headers that settings lead to. -/
theorem Settings.requestHeaders_names (s : Settings) :
    ∀ h ∈ s.requestHeaders, h.1 ∈ (["Authorization", "User-Agent", "X-LaunchDarkly-Tags",
      "X-LaunchDarkly-Wrapper", "Content-Type"] : List Text) := by
  intro h hh
  simp only [requestHeaders, baseHeaders, List.mem_append] at hh
  rcases hh with ((halways | htags) | hwrapper) | htype
  · rcases List.mem_pair.1 halways with rfl | rfl <;> simp
  · split at htags
    · exact absurd htags (by simp)
    · rcases List.mem_singleton.1 htags with rfl
      simp
  · split at hwrapper
    · rcases List.mem_singleton.1 hwrapper with rfl
      simp
    · exact absurd hwrapper (by simp)
  · rcases List.mem_singleton.1 htype with rfl
    simp

/-- Settings make no request conditional. -/
theorem Settings.requestHeaders_unconditional (s : Settings) :
    FetchRequest.conditionsOf s.requestHeaders = [] := by
  have hnames : ∀ name ∈ (["Authorization", "User-Agent", "X-LaunchDarkly-Tags",
      "X-LaunchDarkly-Wrapper", "Content-Type"] : List Text),
      ¬ FetchRequest.IsCondition name := by
    decide
  rw [FetchRequest.conditionsOf, List.map_eq_nil_iff, List.filter_eq_nil_iff]
  intro h hh
  simpa using hnames _ (s.requestHeaders_names h hh)

/-- A request is conditional on the tag that is kept, and on nothing else. -/
theorem Fetcher.request_conditions {f : Fetcher}
    (h : FetchRequest.conditionsOf f.headers = []) :
    f.request.conditions = (f.kept.map fun kept => Value.text kept.tag).toList := by
  have hform : ¬ FetchRequest.IsCondition "Accept-Encoding" := by decide
  have hcondition : FetchRequest.IsCondition "If-None-Match" := by decide
  have happend : ∀ headers : Headers,
      FetchRequest.conditionsOf (f.headers ++ headers) = FetchRequest.conditionsOf headers := by
    intro headers
    rw [FetchRequest.conditionsOf, List.filter_append, List.map_append]
    exact (congrArg (· ++ _) h).trans (List.nil_append _)
  simp only [FetchRequest.conditions, request, List.append_assoc, happend]
  cases f.kept <;> simp [FetchRequest.conditionsOf, hform, hcondition]

/-! ## A server -/

/-- What a server holds at one moment: a body, and perhaps a tag for it. -/
structure Served where
  body : List UInt8
  tag : Option Text

/-- What decoding the whole body comes to. -/
def Served.decode (s : Served) : Except Fault Value :=
  Response.decode { status := 200, headers := [], body := s.body }

/-- How a server answers a request: with an error, with "not modified" if the request is conditional
on the tag of what it holds, or with what it holds. -/
inductive Served.Answers (s : Served) (request : FetchRequest) : Response → Prop where
  | refused {r : Response} (status : 400 ≤ r.status) : Answers s request r
  | notModified {r : Response} {tag : Text} (status : r.status = 304) (tagged : s.tag = some tag)
      (conditional : .text tag ∈ request.conditions) : Answers s request r
  | full {r : Response} (status : r.status = 200) (body : r.body = s.body)
      (tag : r.header? "ETag" = s.tag) : Answers s request r

/-- An answer, and what the server held when it gave it. -/
structure Exchange where
  served : Served
  answer : Response

namespace Exchange

/-- What the fetch would come to if nothing were kept and the server always sent the whole body. -/
def direct (e : Exchange) : Except Fault Value :=
  if 400 ≤ e.answer.status then .error (.fetchRejected e.answer.status)
  else e.served.decode

/-- The tag of an answer that came with one and with a body that can be decoded. -/
def tag? (e : Exchange) : Option Text :=
  if e.answer.status = 200 ∧ e.answer.decode.isOk then e.answer.header? "ETag" else none

/-- The tag of the latest such answer. -/
def latestTag? (past : List Exchange) : Option Text :=
  (past.filterMap tag?).getLast?

/-- Wherever the server held bodies of one tag they were one body. -/
def Consistent (past : List Exchange) : Prop :=
  ∀ e ∈ past, ∀ e' ∈ past, ∀ tag, e.served.tag = some tag → e'.served.tag = some tag →
    e.served.body = e'.served.body

end Exchange

open Exchange (latestTag? Consistent)

namespace Fetcher

/-- Fetches one after another, each answered by the server, the latest at the end. -/
inductive Session (f : Fetcher) : List Exchange → Fetcher → Prop where
  | nil : Session f [] f
  | snoc {past : List Exchange} {g : Fetcher} {e : Exchange} (session : Session f past g)
      (answers : e.served.Answers g.request e.answer) :
      Session f (past ++ [e]) (g.receive e.answer).2

/-- What a fetcher keeps came with its tag in an earlier answer, which was the latest one fit to be
kept. -/
structure Keeping (past : List Exchange) (f : Fetcher) : Prop where
  headers : FetchRequest.conditionsOf f.headers = []
  tag : f.kept.map (·.tag) = latestTag? past
  body : ∀ kept, f.kept = some kept → ∃ e ∈ past, e.served.tag = some kept.tag ∧
    e.served.decode = .ok kept.body

/-! ## One fetch -/

section Receive

variable {f : Fetcher} {r : Response} {past : List Exchange} {e : Exchange}

theorem receive_of_refused (h : 400 ≤ r.status) :
    f.receive r = (.error (.fetchRejected r.status), f) := by
  simp [receive, Rejection.isRejection, h]

/-- What is kept stands for what has not been modified. -/
theorem receive_of_notModified {kept : Tagged} (hkept : f.kept = some kept)
    (h : r.status = 304) : f.receive r = (.ok kept.body, f) := by
  simp [receive, Rejection.isRejection, h, hkept, notModified]

/-- A whole body is decoded, whatever is kept. -/
theorem receive_of_full (h : r.status = 200) : f.receive r = f.decodeAndKeep r := by
  cases hkept : f.kept <;> simp [receive, Rejection.isRejection, h, hkept, notModified]

theorem decodeAndKeep_fst : (f.decodeAndKeep r).1 = r.decode := by
  unfold decodeAndKeep
  split
  · rename_i hdecode
    exact hdecode.symm
  · rename_i hdecode
    split <;> exact hdecode.symm

/-- A fetch that brings the whole body comes to what decoding that body comes to. -/
theorem decode_of_full {s : Served} (h : r.body = s.body) : r.decode = s.decode := by
  simp [Response.decode, Served.decode, h]

/-- The latest answer fit to be kept is this one or an earlier one. -/
theorem latestTag?_snoc (past : List Exchange) (e : Exchange) :
    latestTag? (past ++ [e]) = e.tag?.or (latestTag? past) := by
  rw [latestTag?, List.filterMap_append]
  cases htag : e.tag? <;> simp [latestTag?, htag]

namespace Keeping

/-- What is kept stays kept over an answer that is not fit to be. -/
theorem unchanged (h : f.Keeping past) (htag : e.tag? = none) : f.Keeping (past ++ [e]) := by
  refine ⟨h.headers, ?_, ?_⟩
  · rw [latestTag?_snoc, htag]
    exact h.tag
  · intro kept hkept
    rcases h.body kept hkept with ⟨e', he', hserved⟩
    exact ⟨e', List.mem_append_left _ he', hserved⟩

/-- A whole body is kept with its tag if it has one and can be decoded. -/
theorem full (h : f.Keeping past) (status : e.answer.status = 200)
    (body : e.answer.body = e.served.body) (tag : e.answer.header? "ETag" = e.served.tag) :
    (f.receive e.answer).2.Keeping (past ++ [e]) := by
  have hdecode : e.answer.decode = e.served.decode := decode_of_full body
  rw [receive_of_full status, decodeAndKeep]
  cases hd : e.answer.decode with
  | error fault => exact h.unchanged (by simp [Exchange.tag?, hd, Except.isOk, Except.toBool])
  | ok v =>
    cases ht : e.answer.header? "ETag" with
    | none => exact h.unchanged (by simp [Exchange.tag?, ht])
    | some t =>
      refine ⟨h.headers, ?_, ?_⟩
      · rw [latestTag?_snoc]
        simp [Exchange.tag?, status, hd, ht, Except.isOk, Except.toBool]
      · intro kept hkept
        rcases Option.some.inj hkept with rfl
        exact ⟨e, by simp, tag.symm.trans ht, hdecode.symm.trans hd⟩

/-- A conditional request is conditional on the tag that is kept. -/
theorem conditional (h : f.Keeping past) {tag : Text} (hc : .text tag ∈ f.request.conditions) :
    ∃ kept, f.kept = some kept ∧ kept.tag = tag := by
  rw [request_conditions h.headers] at hc
  cases hkept : f.kept with
  | none => exact absurd hc (by simp [hkept])
  | some kept =>
    have htag : Value.text kept.tag = .text tag := by simpa [hkept, eq_comm] using hc
    exact ⟨kept, rfl, Value.text.inj htag⟩

/-- Every answer leaves the latest one that is fit to be kept. -/
theorem receive (h : f.Keeping past) (ha : e.served.Answers f.request e.answer) :
    (f.receive e.answer).2.Keeping (past ++ [e]) := by
  cases ha with
  | refused status =>
    rw [receive_of_refused status]
    exact h.unchanged (by simp [Exchange.tag?]; omega)
  | notModified status tagged conditional =>
    rcases h.conditional conditional with ⟨kept, hkept, -⟩
    rw [receive_of_notModified hkept status]
    exact h.unchanged (by simp [Exchange.tag?, status])
  | full status body tag => exact h.full status body tag

/-- Every fetch comes to what it would come to if nothing were kept. -/
theorem direct (h : f.Keeping past) (ha : e.served.Answers f.request e.answer)
    (hc : Consistent (past ++ [e])) : (f.receive e.answer).1 = e.direct := by
  cases ha with
  | refused status => rw [receive_of_refused status, Exchange.direct, if_pos status]
  | @notModified tag status tagged conditional =>
    rcases h.conditional conditional with ⟨kept, hkept, rfl⟩
    rcases h.body kept hkept with ⟨e', he', htag, hbody⟩
    -- the body that is kept came with the tag that the server's body has now
    have hsame : e.served.body = e'.served.body :=
      hc e (by simp) e' (List.mem_append_left _ he') kept.tag tagged htag
    have hserved : e.served.decode = .ok kept.body := by
      rw [Served.decode, hsame]
      exact hbody
    rw [receive_of_notModified hkept status, Exchange.direct, if_neg (by omega), hserved]
  | full status body tag =>
    rw [receive_of_full status, decodeAndKeep_fst, decode_of_full body, Exchange.direct,
      if_neg (by omega)]

end Keeping

end Receive

/-! ## A whole session -/

variable {f g : Fetcher} {past : List Exchange}

/-- A fetcher that settings ask for keeps nothing. -/
theorem create_keeping {settings : Settings} {refusal : Option SettingFault}
    (h : create settings refusal = .ok f) : f.Keeping [] := by
  cases refusal with
  | some fault => exact absurd h (by simp [create])
  | none =>
    rcases Except.of_bind_eq_ok h with ⟨uri, -, h⟩
    rcases Except.ok.inj h with rfl
    exact ⟨settings.requestHeaders_unconditional, rfl, fun kept hkept => absurd hkept (by simp)⟩

theorem Session.keeping (h : f.Keeping []) (session : Session f past g) : g.Keeping past := by
  induction session with
  | nil => exact h
  | snoc session answers ih => exact ih.receive answers

/-- A server that answers "not modified" only to a request which is conditional on the tag of what
it holds, and that holds one body under one tag, might as well be asked for the whole body each
time: whatever has been fetched before, the next fetch comes to the same. The request for it is
conditional exactly if some earlier answer came with a tag and a body that can be decoded, and then
on the tag of the latest of these. It does not matter how it is found out whether connections are
refused to the settings. -/
theorem Session.transparent {settings : Settings} {refusal : Option SettingFault}
    (hf : create settings refusal = .ok f) (session : Session f past g) :
    g.request.conditions = ((latestTag? past).map Value.text).toList ∧
      ∀ e : Exchange, e.served.Answers g.request e.answer → Consistent (past ++ [e]) →
        (g.receive e.answer).1 = e.direct := by
  have hkeeping := session.keeping (create_keeping hf)
  refine ⟨?_, fun e hanswers hconsistent => hkeeping.direct hanswers hconsistent⟩
  rw [request_conditions hkeeping.headers, ← hkeeping.tag, Option.map_map]
  rfl

end Fetcher

/-! ## A body that cannot be decoded -/

/-- An empty object under a tag. -/
def Served.sound : Served :=
  ⟨[0x7b, 0x7d], some ("v1" : Text)⟩

/-- A body under another tag that is no JSON. -/
def Served.broken : Served :=
  ⟨[0x7b], some ("v2" : Text)⟩

/-- A server that sends the empty object, then the body that cannot be decoded, then an error. -/
def Exchange.faulty : List Exchange :=
  [⟨.sound, 200, [("etag", "v1")], [0x7b, 0x7d]⟩, ⟨.broken, 200, [("ETag", "v2")], [0x7b]⟩,
    ⟨.sound, 503, [], []⟩]

/-- The settings that a key alone leads to. -/
def Settings.plain : Settings :=
  (Settings.ofOptions { sdkKey := .string "key" }).1

namespace Fetcher

theorem latestTag?_faulty : latestTag? Exchange.faulty = some ("v1" : Text) := by
  cbv

/-- Only the empty object is kept, and "not modified" stands for it after the error. -/
theorem Session.transparent_of_faulty :
    ∃ f g, create .plain none = .ok f ∧ Session f Exchange.faulty g ∧
      g.request.conditions = [.text "v1"] ∧
      (g.receive ⟨304, [], []⟩).1 = .ok (.object []) := by
  obtain ⟨f, hf⟩ : ∃ f, create .plain none = .ok f := ⟨_, rfl⟩
  obtain ⟨g, session⟩ : ∃ g, Session f Exchange.faulty g :=
    ⟨_, .snoc (.snoc (.snoc .nil (.full rfl rfl (by cbv))) (.full rfl rfl (by cbv)))
      (.refused (by decide))⟩
  rcases session.transparent hf with ⟨hconditions, hdirect⟩
  have hv1 : g.request.conditions = [.text "v1"] := by
    rw [hconditions, latestTag?_faulty]
    rfl
  have hanswers : Served.sound.Answers g.request ⟨304, [], []⟩ :=
    .notModified rfl rfl (by rw [hv1]; simp)
  have hserved : ∀ e ∈ Exchange.faulty ++ [⟨.sound, 304, [], []⟩],
      e.served = .sound ∨ e.served = .broken := by
    simp [Exchange.faulty]
  have htags : Served.sound.tag ≠ Served.broken.tag := by decide
  -- the two contents carry different tags, so equal tags mean equal contents
  have hconsistent : Consistent (Exchange.faulty ++ [⟨.sound, 304, [], []⟩]) := by
    intro e he e' he' tag htag htag'
    have hsame : e.served.tag = e'.served.tag := htag.trans htag'.symm
    rcases hserved e he with h | h <;> rcases hserved e' he' with h' | h'
    · rw [h, h']
    · exact absurd (h ▸ h' ▸ hsame) htags
    · exact absurd (h ▸ h' ▸ hsame.symm) htags
    · rw [h, h']
  refine ⟨f, g, hf, session, hv1, ?_⟩
  rw [hdirect ⟨.sound, 304, [], []⟩ hanswers hconsistent]
  cbv

end Fetcher

end FlagReplica
