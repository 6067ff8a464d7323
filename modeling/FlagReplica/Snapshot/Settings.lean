import FlagReplica.Snapshot.Basic

/-!
# Snapshots of settings

What settings and the connections that follow from them look like from outside.
-/

namespace FlagReplica

open Json (Value)

/-- The JSON form of a number in settings: a whole number is written without a point. -/
def Number.settingValue : Number → Value
  | .binary x =>
    if x.isIntegral then .number (.integer (x.truncate?.getD 0)) else .number (.binary x)
  | n => .number n

/-- The JSON form of an application. -/
def Application.value (a : Application) : Value :=
  .object [("id", .text a.id), ("version", .text a.version)]

/-- The JSON form of a time in settings. -/
def Json.Value.settingValue : Value → Value
  | number n => n.settingValue
  | v => v

/-- The JSON form of settings, with the addresses and headers that follow from them. -/
def Settings.members (s : Settings) : Except SettingFault Json.Members := do
  return [("sdk_key", s.sdkKey), ("base_uri", .text s.baseUri),
    ("stream_base_uri", .text s.streamUri), ("stream", s.stream),
    ("initial_reconnect_delay", s.initialReconnectDelay.settingValue),
    ("poll_interval", s.pollInterval.settingValue),
    ("payload_filter_key", s.filter),
    ("diagnostic_opt_out", s.diagnosticOptOut), ("wrapper_name", s.wrapperName),
    ("wrapper_version", s.wrapperVersion), ("application", s.application.value),
    ("stream_uri", .text (← s.streamAddress)), ("poll_uri", .text (← s.pollAddress)),
    ("base_headers", .object s.baseHeaders), ("headers", .object s.requestHeaders)]

/-- The JSON form of a set of connections. `bundle` is what the bundle that comes along is
called. -/
def Pool.value (bundle : Text) (p : Pool) : Value :=
  let (check, file) : String × Value := match p.certificates with
    | .unchecked => ("CERT_NONE", .null)
    | .bundled => ("CERT_REQUIRED", .text bundle)
    | .file path => ("CERT_REQUIRED", path)
  let certificates : Json.Members := [("cert_reqs", .string check), ("ca_certs", file)]
  match p.proxy with
  | none => .object (("type", .string "PoolManager") :: certificates)
  | some proxy =>
    .object (("type", .string "ProxyManager") :: ("scheme", .text proxy.scheme) ::
      ("host", .nullable .text proxy.host) :: ("port", .integer proxy.port) ::
      ("proxy_headers", .object proxy.headers) :: certificates)

/-- The JSON form of connections with their timeouts. -/
def Transport.members (bundle : Text) (t : Transport) : Json.Members :=
  [("connect", .nullable Number.settingValue t.timeouts.connect),
    ("read", .nullable Number.settingValue t.timeouts.read), ("pool", t.pool.value bundle)]

/-- The JSON form of a stream's connection. -/
def StreamConnection.value (bundle : Text) (c : StreamConnection) : Value :=
  let pace : Json.Members := [("backoff_multiplier", c.backoff.settingValue),
    ("jitter_multiplier", c.jitter.settingValue), ("max_delay", c.greatestRetryDelay.settingValue)]
  .object (("headers", .object c.headers) :: ("url", .text c.uri) ::
    ("initial_retry_delay", c.initialRetryDelay.settingValue) ::
    ("reset_threshold", c.resetThreshold.settingValue) :: ("retry", .object pace) ::
    c.transport.members bundle)

end FlagReplica
