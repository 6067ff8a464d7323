import FlagReplica.Json.Shown
import FlagReplica.Text.Encoding
import FlagReplica.Text.Numeral

/-!
# Faults of settings

What can be wrong with settings. Options are given as an object, whose members may have any shape.
Some faults come to light when the options are read, others only when the settings are used: when an
address is put together, a connection is set up, or the setup is told.
-/

namespace FlagReplica

open Json (Shape)

/-- What is wrong with settings. -/
inductive SettingFault where
  -- Options as they are read.
  | unknownOption (owner : String) (name : Text)
  | notAddress (found : Shape)
  | notMembers (found : Shape)
  | notComparable (found : Shape)
  -- Times.
  | notTime (found : Shape)
  | notNumeral (t : Text)
  | tooManyDigits (count : Nat)
  | infiniteTime
  | noNumber
  | timeoutTruthValue
  | timeoutNotNumber (which : String) (shown : Text)
  | timeoutTooGreat
  | timeoutNotPositive (which : String) (shown : Text)
  -- Keys and addresses.
  | notSequence (found : Shape)
  | notText (found : Shape)
  | unencodable (u : Octets.Unencodable)
  | proxyWithoutScheme
  | proxyScheme (scheme : Text)
  | proxyAddress (address : Text)
deriving DecidableEq

namespace SettingFault

/-- The wording of a time of the wrong shape: a list can be repeated, but is no integer then, and
what is neither text nor number cannot even be repeated. -/
def timeText : Shape → String
  | .array => "int() argument must be a string, a bytes-like object or a real number, not 'list'"
  | found => "unsupported operand type(s) for *: '" ++ found.word ++ "' and 'int'"

/-- The wording of a fault. -/
def text : SettingFault → Text
  | unknownOption owner name =>
    owner ++ ".__init__() got an unexpected keyword argument '" ++ name ++ "'"
  | notAddress found => "'" ++ found.word ++ "' object has no attribute 'rstrip'"
  | notMembers found => "'" ++ found.word ++ "' object has no attribute 'get'"
  | notComparable found =>
    "'>' not supported between instances of 'float' and '" ++ found.word ++ "'"
  | notTime found => timeText found
  | notNumeral t => "invalid literal for int() with base 10: " ++ t.quoted.take 200
  | tooManyDigits count => digitLimitText count
  | infiniteTime => "cannot convert float infinity to integer"
  | noNumber => "cannot convert float NaN to integer"
  | timeoutTruthValue => "Timeout cannot be a boolean value. It must be an int, float or None."
  | timeoutNotNumber which shown =>
    "Timeout value " ++ which ++ " was " ++ shown ++ ", but it must be an int, float or None."
  | timeoutTooGreat => "int too large to convert to float"
  | timeoutNotPositive which shown =>
    "Attempted to set " ++ which ++ " timeout to " ++ shown
      ++ ", but the timeout cannot be set to a value less than or equal to 0."
  | notSequence .object => "unhashable type: 'slice'"
  | notSequence found => "'" ++ found.word ++ "' object is not subscriptable"
  | notText found => "expected string or bytes-like object, got '" ++ found.word ++ "'"
  | unencodable u => u.text
  | proxyWithoutScheme => "Proxy URL had no scheme, should start with http:// or https://"
  | proxyScheme scheme =>
    "Proxy URL had unsupported scheme " ++ scheme ++ ", should use http:// or https://"
  | proxyAddress address => "Failed to parse: " ++ address

end SettingFault

end FlagReplica
