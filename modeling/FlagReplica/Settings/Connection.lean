import FlagReplica.Settings.Duration
import FlagReplica.Settings.Proxy

/-!
# Connections

What the settings mean for the connections to a service: timeouts, certificates, the way through a
proxy, and for the stream the pace of reconnecting.
-/

namespace FlagReplica

/-- How the certificate of a server is checked. -/
inductive Certificates where
  | unchecked
  | bundled
  | file (path : Json.Value)

/-- A set of connections to one service. -/
structure Pool where
  certificates : Certificates
  proxy : Option Proxy

/-- The two timeouts in seconds, for a connection and for an answer, where there is one. -/
structure Timeouts where
  connect : Option Number
  read : Option Number

/-- Connections and the timeouts that apply to them. -/
structure Transport where
  timeouts : Timeouts
  pool : Pool

namespace HttpSettings

/-- How certificates are checked: not at all, by a given bundle, or by the one that comes along. -/
def certificateCheck (http : HttpSettings) : Certificates :=
  if http.skipsVerification then .unchecked
  else if http.certificates.isTruthy then .file http.certificates
  else .bundled

/-- The timeouts in the settings, or with another one for answers. -/
def timeouts (http : HttpSettings) (readTimeout? : Option Json.Value) :
    Except SettingFault Timeouts := do
  return {
    connect := ← http.connectTimeout.timeout "connect"
    read := ← (readTimeout?.getD http.readTimeout).timeout "read" }

/-- The connections that settings ask for. A read timeout given here goes before the one in the
settings. -/
def transport (http : HttpSettings) (readTimeout? : Option Json.Value) :
    Except SettingFault Transport := do
  let timeouts ← http.timeouts readTimeout?
  let proxy ← Proxy.ofValue http.proxy
  return { timeouts, pool := { certificates := http.certificateCheck, proxy } }

/-- Why connections are refused to the settings, if they are. -/
def refusal? (http : HttpSettings) : Option SettingFault :=
  match http.transport none with
  | .error fault => some fault
  | .ok _ => none

end HttpSettings

/-- How a stream is connected and reconnected. Times are in seconds. -/
structure StreamConnection where
  uri : Text
  headers : Headers
  transport : Transport
  /-- The delay before the first reconnect, as it was given. -/
  initialRetryDelay : Json.Value
  greatestRetryDelay : Number
  backoff : Number
  jitter : Number
  resetThreshold : Number

namespace StreamConnection

/-- Seconds without a sign of life after which a stream counts as broken. -/
def readTimeout : Number := .integer 300

/-- The connection that settings ask for. The timeouts in the settings have to be good, although the
one for answers is replaced by a longer one. The delay before a reconnect doubles each time up to
half a minute, less a random half of it, and starts over after a minute of peace. -/
def ofSettings (s : Settings) : Except SettingFault StreamConnection := do
  let uri ← s.streamAddress
  let _ ← s.http.timeouts none
  let transport ← s.http.transport (some (.number readTimeout))
  return {
    uri
    headers := s.streamHeaders
    transport
    initialRetryDelay := s.initialReconnectDelay
    greatestRetryDelay := .integer 30
    backoff := .integer 2
    jitter := .binary (.finite false 1 (-1))
    resetThreshold := .integer 60 }

end StreamConnection

end FlagReplica
