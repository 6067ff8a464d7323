import FlagReplica.Settings.Address
import FlagReplica.Settings.Basic
import FlagReplica.Text.Base64

/-!
# Proxies

The way to a service through a proxy, as its address tells. The address may name a user, whose
credentials the proxy is then given with every request.
-/

namespace FlagReplica

/-- Where a proxy is and what it has to be told. An address may leave the host out. -/
structure Proxy where
  scheme : Text
  host : Option Text
  port : Nat
  headers : Headers

namespace Proxy

/-- The port that a scheme uses unless another is given. -/
def defaultPort (scheme : Text) : Nat :=
  if scheme = "https" then 443 else 80

/-- What a proxy is told about a user, who has to be known to it in Latin-1. -/
def authorization (user : Text) : Except SettingFault Headers := do
  let octets ← (Octets.encodeLatin1 user).mapError .unencodable
  return [("proxy-authorization", .text ("Basic " ++ Text.ofChars (Base64.encode octets)))]

/-- The proxy at an address that is a text. An address that cannot be taken apart is refused first,
then a user who cannot be told, then a scheme of no use. What looks like the scheme `localhost` is a
host. -/
def ofAddress (address : Text) : Except SettingFault Proxy :=
  match Address.parse? address with
  | none => .error (.proxyAddress address)
  | some parts => do
    let headers ← (parts.user.map authorization).getD (.ok [])
    match parts.scheme with
    | none => throw .proxyWithoutScheme
    | some scheme =>
      if scheme = "localhost" then throw .proxyWithoutScheme
      else if scheme ≠ "http" ∧ scheme ≠ "https" then throw (.proxyScheme scheme)
      else
        let port := parts.port.getD 0
        return {
          scheme
          host := parts.host
          port := if port = 0 then defaultPort scheme else port
          headers }

/-- The proxy that a value asks for: none for null. What counts as no is an empty address, and what
counts as yes has to be a text. -/
def ofValue : Json.Value → Except SettingFault (Option Proxy)
  | .null => .ok none
  | .text address => (ofAddress address).map some
  | v => if v.isTruthy then .error (.notText v.shape) else (ofAddress []).map some

end Proxy

end FlagReplica
