import FlagReplica.Settings.Connection

/-!
# Fetching full data sets

Each fetch is one request. If an answer came with an entity tag, its decoded body is kept, and the
next request is made conditional on the tag, so that an answer "not modified" stands for the kept
body. An answer that cannot be decoded leaves what is kept alone.
-/

namespace FlagReplica

open Json (Value)

/-- An answer of the server. -/
structure Response where
  status : Int
  headers : Table Text Text
  body : List UInt8

/-- A request to the server. -/
structure FetchRequest where
  uri : Text
  headers : Headers

/-- A tag and the body that came with it. -/
structure Tagged where
  tag : Text
  body : Value

/-- The state of fetching: where from, with which headers, and the body kept from the last answer
with a tag. -/
structure Fetcher where
  uri : Text
  headers : Headers
  kept : Option Tagged := none

/-- The letters of a header name in lower case. -/
def foldedName (name : Text) : Text :=
  name.map fun
    | .scalar c => .scalar c.toLower
    | c => c

/-- A header of an answer, whatever the case of its name. Several of one name are joined. -/
def Response.header? (r : Response) (name : Text) : Option Text :=
  match r.headers.filter fun (n, _) => foldedName n = foldedName name with
  | [] => none
  | found => some (Text.joinWith ", " (found.map (·.2)))

/-- The decoded body of an answer. -/
def Response.decode (r : Response) : Except Fault Value :=
  match (Octets.utf8 false).decode 0 r.body with
  | .error refusal => .error (.invalidData (.undecodableResponse refusal))
  | .ok text =>
    match Json.read text with
    | .ok v => .ok v
    | .error (.misread m) => .error (.invalidData (.malformedResponse m))
    | .error (.tooManyDigits count) => .error (.tooManyDigits count)

namespace Fetcher

/-- The fetcher that settings ask for. Its connections are set up first, unless whoever sets them up
refuses. -/
def create (s : Settings) (refusal : Option SettingFault) : Except SettingFault Fetcher :=
  match refusal with
  | some fault => .error fault
  | none => do return { uri := ← s.pollAddress, headers := s.requestHeaders }

/-- The fetcher that settings ask for, over connections that are set up as they say. -/
def ofSettings (s : Settings) : Except SettingFault Fetcher :=
  create s s.http.refusal?

/-- The next request, conditional if a body is kept. -/
def request (f : Fetcher) : FetchRequest :=
  { uri := f.uri
    headers :=
      let form : Headers := [("Accept-Encoding", .string "gzip")]
      let condition : Headers := match f.kept with
        | some kept => [("If-None-Match", .text kept.tag)]
        | none => []
      f.headers ++ form ++ condition }

/-- The answer "not modified". -/
def notModified : Int := 304

/-- Decodes a body, and keeps it if it came with a tag. -/
def decodeAndKeep (f : Fetcher) (r : Response) : Except Fault Value × Fetcher :=
  match r.decode with
  | .error fault => (.error fault, f)
  | .ok body =>
    match r.header? "ETag" with
    | some tag => (.ok body, { f with kept := some ⟨tag, body⟩ })
    | none => (.ok body, f)

/-- Takes the server's answer to a request. -/
def receive (f : Fetcher) (r : Response) : Except Fault Value × Fetcher :=
  if Rejection.isRejection r.status then (.error (.fetchRejected r.status), f)
  else match f.kept with
    | some kept => if r.status = notModified then (.ok kept.body, f) else f.decodeAndKeep r
    | none => f.decodeAndKeep r

end Fetcher

end FlagReplica
