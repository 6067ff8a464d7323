import FlagReplica.Proofs.Text.FormEncoding
import FlagReplica.Settings.Address
import FlagReplica.Settings.Basic
import Mathlib.Data.List.TakeDrop

/-!
# Addresses of the two services

The address of a service is the base without the slashes at its end, the service's path, and for a
filter a query that holds its encoding. The filter can be read from the query, and as the encoding
has none of the marks that separate or end parameters, a query has the same parameters whatever the
filter: its encoding belongs to the value of the last one (`exists_parameters_append`).
-/

namespace FlagReplica

open Json (Value)

/-! ## Parameters -/

namespace Address

variable {e : Char} {s : Text}

theorem cut_eq (e : Char) (t : Text) :
    cut [e] t = (t.takeWhile (· ≠ .scalar e), t.dropWhile (· ≠ .scalar e)) := by
  simp [cut, List.span_eq_takeWhile_dropWhile]

theorem forall_ne_of_not_mem (h : .scalar e ∉ s) :
    ∀ c ∈ s, decide (c ≠ .scalar e) = true := by
  intro c hc
  rw [decide_eq_true_iff]
  rintro rfl
  exact h hc

/-- A text without the mark is not cut. -/
theorem cut_of_not_mem (h : .scalar e ∉ s) : cut [e] s = (s, []) := by
  have hs := forall_ne_of_not_mem h
  rw [cut_eq, List.takeWhile_eq_self_iff.2 hs, List.dropWhile_eq_nil_iff.2 hs]

theorem cut_append_cons (h : .scalar e ∉ s) (t : Text) :
    cut [e] (s ++ .scalar e :: t) = (s, .scalar e :: t) := by
  have hs := forall_ne_of_not_mem h
  rw [cut_eq, List.takeWhile_append_of_pos hs, List.dropWhile_append_of_pos hs]
  simp

/-- What comes after a mark makes no difference to where the text is cut. -/
theorem exists_cut_append (e : Char) (s : Text) :
    ∃ before after, (.scalar e ∉ s → before = s ∧ after = []) ∧
      ∀ t, cut [e] (s ++ .scalar e :: t) = (before, .scalar e :: (after ++ t)) := by
  by_cases h : .scalar e ∈ s
  · obtain ⟨before, after, rfl, hbefore⟩ := List.eq_append_cons_of_mem h
    refine ⟨before, after ++ [.scalar e], fun hnot => absurd h hnot, ?_⟩
    intro t
    simp [cut_append_cons hbefore]
  · exact ⟨s, [], fun _ => ⟨rfl, rfl⟩, cut_append_cons h⟩

/-- The query of an address: what stands between its first question mark and its first number
sign. -/
def query (address : Text) : Text :=
  (cut ['?'] (cut ['#'] address).1).2.drop 1

/-- A parameter as it is written: what stands before and after the first equals sign. -/
def parameter (t : Text) : Text × Text :=
  ((cut ['='] t).1, (cut ['='] t).2.drop 1)

/-- The parameters of a query. -/
def parametersOf (query : Text) : List (Text × Text) :=
  ((Text.splitOn (.scalar '&') query).filter (· ≠ [])).map parameter

/-- The parameters in the query of an address. -/
def parameters (address : Text) : List (Text × Text) :=
  parametersOf (query address)

/-- What comes after the number sign is no part of the query. -/
theorem query_append_of_mem (h : .scalar '#' ∈ s) (t : Text) : query (s ++ t) = query s := by
  obtain ⟨before, after, rfl, hbefore⟩ := List.eq_append_cons_of_mem h
  rw [List.append_assoc, List.cons_append, query, query, cut_append_cons hbefore,
    cut_append_cons hbefore]

/-- What comes after a question mark belongs to the query, up to the number sign. -/
theorem exists_query_append (hs : .scalar '#' ∉ s) :
    ∃ after, (.scalar '?' ∉ s → after = []) ∧
      ∀ t, .scalar '#' ∉ t → query (s ++ .scalar '?' :: t) = after ++ t := by
  obtain ⟨before, after, hplain, hcut⟩ := exists_cut_append '?' s
  refine ⟨after, fun h => (hplain h).2, ?_⟩
  intro t ht
  have hwhole : .scalar '#' ∉ s ++ .scalar '?' :: t := by
    simp [hs, ht]
  rw [query, cut_of_not_mem hwhole, hcut]
  rfl

/-- What comes after an equals sign belongs to the value of the last parameter. -/
theorem exists_parametersOf_append (q : Text) :
    ∃ before name value,
      (.scalar '&' ∉ q → .scalar '=' ∉ q → before = [] ∧ name = q ∧ value = []) ∧
      ∀ t, .scalar '&' ∉ t →
        parametersOf (q ++ .scalar '=' :: t) = before ++ [(name, value ++ t)] := by
  obtain ⟨before, last, hone, hsplit⟩ := Text.exists_splitOn_append (.scalar '&') q
  obtain ⟨name, value, hplain, hcut⟩ := exists_cut_append '=' last
  refine ⟨(before.filter (· ≠ [])).map parameter, name, value, ?_, ?_⟩
  · intro hq hequals
    obtain ⟨rfl, rfl⟩ := hone hq
    exact ⟨rfl, hplain hequals⟩
  · intro t ht
    have hrest : .scalar '&' ∉ .scalar '=' :: t := by
      simp [ht]
    have hparameter : parameter (last ++ .scalar '=' :: t) = (name, value ++ t) := by
      rw [parameter, hcut]
      rfl
    rw [parametersOf, hsplit _ hrest, List.filter_append, List.map_append]
    simp [hparameter]

/-- What follows the name of a query's parameter belongs to the value of the last parameter, unless
it ends that or the query. -/
theorem exists_parameters_append (hs : .scalar '#' ∉ s) :
    ∃ (before : List (Text × Text)) (name value : Text),
      (.scalar '?' ∉ s → before = [] ∧ name = "filter" ∧ value = []) ∧
      ∀ t, .scalar '#' ∉ t → .scalar '&' ∉ t →
        parameters (s ++ ("?filter=" ++ t)) = before ++ [(name, value ++ t)] := by
  obtain ⟨after, hnone, hquery⟩ := exists_query_append hs
  -- what the base already has of a query stands before the name
  obtain ⟨before, name, value, hplain, hparameters⟩ :=
    exists_parametersOf_append (after ++ "filter")
  refine ⟨before, name, value, ?_, ?_⟩
  · intro hmark
    rw [hnone hmark] at hplain
    exact hplain (by decide) (by decide)
  · intro t hfragment hseparator
    have hrest : .scalar '#' ∉ ("filter" : Text) ++ .scalar '=' :: t := by
      rw [List.mem_append, List.mem_cons, not_or, not_or]
      exact ⟨by decide, by decide, hfragment⟩
    have hfound := hquery _ hrest
    rw [← List.append_assoc] at hfound
    rw [← hparameters t hseparator, ← hfound]
    rfl

end Address

/-! ## Services -/

/-- The two services that data come from. -/
inductive Service where
  | stream
  | poll

namespace Service

/-- The address that options give for the service. -/
def base : Service → Options → Text
  | stream, o => o.streamUri
  | poll, o => o.baseUri

/-- What a service's address goes on with. -/
def path : Service → Text
  | stream => "/all"
  | poll => "/sdk/latest-all"

/-- The address that requests to the service go to. -/
def address : Service → Settings → Except SettingFault Text
  | stream, s => s.streamAddress
  | poll, s => s.pollAddress

/-- The address that options lead to with another filter, or with none. -/
def uri (service : Service) (o : Options) (filter : Option String) : Except SettingFault Text :=
  service.address (Settings.ofOptions { o with filter := (filter.map Value.string).getD .null }).1

/-- The query that selects a filter. -/
def query : Option String → Text
  | none => []
  | some filter => "?filter=" ++ FormEncoding.written filter

theorem query_ofOptions (o : Options) (filter : Option String) :
    (Settings.ofOptions { o with filter := (filter.map Value.string).getD .null }).1.query =
      .ok (query filter) := by
  cases filter with
  | none => rfl
  | some filter =>
    obtain ⟨encoded, hencoded, hwritten⟩ := FormEncoding.encode_ofString filter
    have hshown : (Value.string filter).shown = (filter : Text) := rfl
    simp only [Settings.query, Settings.ofOptions, Option.map_some, Option.getD_some, hshown,
      hencoded, hwritten, query]

theorem query_inj {filter filter' : Option String} :
    query filter = query filter' ↔ filter = filter' := by
  refine ⟨?_, fun h => h ▸ rfl⟩
  intro h
  cases filter <;> cases filter'
  case none.none => rfl
  case none.some => cases h
  case some.none => cases h
  case some.some filter filter' =>
    rw [FormEncoding.written_inj.1 (List.append_cancel_left h)]

/-- The address is made of the base without the slashes at its end, the path and the query. -/
theorem uri_eq (service : Service) (o : Options) (filter : Option String) :
    service.uri o filter =
      .ok (Settings.withoutSlashes (service.base o) ++ service.path ++ query filter) := by
  cases service with
  | stream =>
    -- the slashes are taken off twice, and the second time there are none
    have htwice : Settings.withoutSlashes (Settings.withoutSlashes o.streamUri) =
        Settings.withoutSlashes o.streamUri :=
      Text.trimEnd_of_getLast? (Text.getLast?_trimEnd _ _)
    rw [uri, address, Settings.streamAddress, query_ofOptions]
    simp only [Settings.ofOptions, htwice]
    rfl
  | poll =>
    rw [uri, address, Settings.pollAddress, query_ofOptions]
    rfl

/-- The base is a stem and some slashes, and the address goes on from the stem. -/
theorem exists_stem (service : Service) (o : Options) :
    ∃ stem slashes, service.base o = stem ++ List.replicate slashes (.scalar '/') ∧
      stem.getLast? ≠ some (.scalar '/') ∧
      ∀ filter, service.uri o filter = .ok (stem ++ service.path ++ query filter) := by
  obtain ⟨slashes, hbase⟩ := Text.exists_trimEnd (.scalar '/') (service.base o)
  exact ⟨_, slashes, hbase, Text.getLast?_trimEnd _ _, uri_eq service o⟩

/-- Slashes at the end of a base hold no other mark. -/
theorem mem_append_slashes_iff {m : Char} (hm : m ≠ '/') {stem : Text} {n : Nat} :
    .scalar m ∈ stem ++ List.replicate n (.scalar '/') ↔ .scalar m ∈ stem := by
  simp [hm]

theorem not_mem_written {m : Char} (hm : ¬ FormEncoding.IsWritten (.scalar m)) (filter : String) :
    .scalar m ∉ FormEncoding.written filter :=
  fun h => hm (FormEncoding.isWritten_of_mem_written h)

theorem not_mem_path (service : Service) :
    .scalar '#' ∉ service.path ∧ .scalar '?' ∉ service.path := by
  cases service <;> decide

variable {service : Service} {o : Options}

/-- The slashes at the end of the base make no difference to the address. -/
theorem uri_congr {o' : Options} {stem : Text} {m n : Nat}
    (h : service.base o = stem ++ List.replicate m (.scalar '/'))
    (h' : service.base o' = stem ++ List.replicate n (.scalar '/')) (filter : Option String) :
    service.uri o filter = service.uri o' filter := by
  rw [uri_eq, uri_eq, h, h', Settings.withoutSlashes, Settings.withoutSlashes,
    Text.trimEnd_append_replicate, Text.trimEnd_append_replicate]

/-- The query's own mark begins it unless the base has one, and what is written for the filter comes
at the end of the last value. -/
theorem exists_parameters_uri (h : .scalar '#' ∉ service.base o) :
    ∃ (before : List (Text × Text)) (name value : Text),
      (.scalar '?' ∉ service.base o → before = [] ∧ name = "filter" ∧ value = []) ∧
      ∀ filter, ∃ uri, service.uri o (some filter) = .ok uri ∧
        Address.parameters uri = before ++ [(name, value ++ FormEncoding.written filter)] := by
  obtain ⟨stem, slashes, hbase, -, huri⟩ := exists_stem service o
  -- neither mark is in the slashes or in the path, so only the stem can have one
  rw [hbase, mem_append_slashes_iff (by decide)] at h
  rw [hbase, mem_append_slashes_iff (by decide)]
  have hfragment : .scalar '#' ∉ stem ++ service.path := by
    simp [h, not_mem_path service]
  obtain ⟨before, name, value, hplain, hparameters⟩ := Address.exists_parameters_append hfragment
  refine ⟨before, name, value, ?_, ?_⟩
  · intro hmark
    apply hplain
    simp [hmark, not_mem_path service]
  · intro filter
    exact ⟨_, huri _, hparameters _ (not_mem_written (by decide) filter)
      (not_mem_written (by decide) filter)⟩

/-- The query has ended in the base. -/
theorem exists_parameters_uri_of_mem (h : .scalar '#' ∈ service.base o) (filter : Option String) :
    ∃ uri, service.uri o filter = .ok uri ∧
      Address.parameters uri = Address.parameters (service.base o) := by
  obtain ⟨stem, slashes, hbase, -, huri⟩ := exists_stem service o
  rw [hbase, mem_append_slashes_iff (by decide)] at h
  refine ⟨_, huri filter, ?_⟩
  rw [hbase, Address.parameters, Address.parameters, List.append_assoc,
    Address.query_append_of_mem h, Address.query_append_of_mem h]

/-- The address of a service is the stem of its base, the path and the query of the filter, so that
the slashes at the end of the base make no difference to it. The encoding of a filter is of letters,
digits and six marks, and the filter can be read from it, so that over the same base different
filters lead to different addresses. No filter adds a parameter to the query or ends one: apart from
the value of the last parameter, where the encoding comes at the end, the parameters are the same
for all filters, and all are those of the base if it has a number sign. -/
theorem uri_tells_filter (service : Service) (o o' : Options) :
    (∃ stem slashes, service.base o = stem ++ List.replicate slashes (.scalar '/') ∧
      stem.getLast? ≠ some (.scalar '/') ∧
      ∀ filter, service.uri o filter = .ok (stem ++ service.path ++ query filter)) ∧
    (∀ stem m n, service.base o = stem ++ List.replicate m (.scalar '/') →
      service.base o' = stem ++ List.replicate n (.scalar '/') →
      ∀ filter, service.uri o filter = service.uri o' filter) ∧
    (∀ filter : String,
      (∀ c ∈ FormEncoding.written filter, c.IsAlphanumeric ∨ c ∈ ("_.~+%-" : Text)) ∧
      FormEncoding.decode (FormEncoding.written filter) = .ok filter) ∧
    (service.base o = service.base o' → ∀ filter filter',
      service.uri o filter = service.uri o' filter' ↔ filter = filter') ∧
    (.scalar '#' ∉ service.base o → ∃ (before : List (Text × Text)) (name value : Text),
      (.scalar '?' ∉ service.base o → before = [] ∧ name = "filter" ∧ value = []) ∧
      ∀ filter, ∃ uri, service.uri o (some filter) = .ok uri ∧
        Address.parameters uri = before ++ [(name, value ++ FormEncoding.written filter)]) ∧
    (.scalar '#' ∈ service.base o → ∀ filter, ∃ uri, service.uri o filter = .ok uri ∧
      Address.parameters uri = Address.parameters (service.base o)) := by
  refine ⟨exists_stem service o, ?_, ?_, ?_, exists_parameters_uri,
    exists_parameters_uri_of_mem⟩
  · intro stem m n
    exact uri_congr
  · intro filter
    exact ⟨fun c => FormEncoding.isWritten_of_mem_written, FormEncoding.decode_written filter⟩
  · intro hsame filter filter'
    rw [uri_eq, uri_eq, hsame, Except.ok.injEq, List.append_cancel_left_eq, query_inj]

/-- Options with slashes at the end of one address and a number sign in the other. -/
def marked : Options where
  sdkKey := .string "key"
  streamUri := "https://x.example/ctx//"
  baseUri := "https://x.example?a=b#c"

/-- A filter that looks like the end of a parameter, another one and a fragment is all of the value
of one parameter, whether the base has slashes at its end or not, and no part of a query that has
ended before. -/
theorem uri_tells_filter_of_marks :
    stream.uri marked (some "a&filter=é#/") =
        .ok "https://x.example/ctx/all?filter=a%26filter%3D%C3%A9%23%2F" ∧
      stream.uri marked (some "a&filter=é#/") =
        stream.uri { marked with streamUri := "https://x.example/ctx" } (some "a&filter=é#/") ∧
      FormEncoding.decode "a%26filter%3D%C3%A9%23%2F" = .ok "a&filter=é#/" ∧
      (∀ filter ≠ some "a&filter=é#/",
        stream.uri marked filter ≠ stream.uri marked (some "a&filter=é#/")) ∧
      Address.parameters "https://x.example/ctx/all?filter=a%26filter%3D%C3%A9%23%2F" =
        [(("filter" : Text), ("a%26filter%3D%C3%A9%23%2F" : Text))] ∧
      ∀ filter, ∃ uri, poll.uri marked filter = .ok uri ∧
        Address.parameters uri = [(("a" : Text), ("b" : Text))] := by
  have hwritten : FormEncoding.written "a&filter=é#/" = ("a%26filter%3D%C3%A9%23%2F" : Text) := by
    decide
  have huri : stream.uri marked (some "a&filter=é#/") =
      .ok "https://x.example/ctx/all?filter=a%26filter%3D%C3%A9%23%2F" := by
    rfl
  obtain ⟨-, hslashes, hread, -, hquery, -⟩ :=
    uri_tells_filter stream marked { marked with streamUri := "https://x.example/ctx" }
  obtain ⟨-, -, -, hdiffer, -, -⟩ := uri_tells_filter stream marked marked
  obtain ⟨-, -, -, -, -, hended⟩ := uri_tells_filter poll marked marked
  refine ⟨huri, hslashes "https://x.example/ctx" 2 0 rfl rfl _, ?_, ?_, ?_, ?_⟩
  · rw [← hwritten]
    exact (hread _).2
  · intro filter hne hsame
    exact hne ((hdiffer rfl filter _).1 hsame)
  · obtain ⟨before, name, value, hplain, hparameters⟩ := hquery (by decide)
    obtain ⟨rfl, rfl, rfl⟩ := hplain (by decide)
    obtain ⟨uri, hok, hfound⟩ := hparameters "a&filter=é#/"
    rw [huri] at hok
    rw [Except.ok.inj hok, hfound, hwritten]
    rfl
  · exact hended (by decide)

end Service

end FlagReplica
