import FlagReplica.Text.Octets
import FlagReplica.Text.Quoted
import FlagReplica.Json.Reader
import FlagReplica.Item.Basic
import FlagReplica.Fault.Rejection
import FlagReplica.Fault.Setting

/-!
# Faults

Everything that can go wrong while flags are kept in step, by cause. `Fault.text` is the wording of
each; whoever meets a fault decides by its constructor what to do.
-/

namespace FlagReplica

/-- The messages that a source decodes. -/
inductive Message where
  | put
  | patch
  | delete
deriving DecidableEq

/-- The name of a message. -/
def Message.word : Message → String
  | put => "put"
  | patch => "patch"
  | delete => "delete"

/-- The part of a payload that had to be an object. -/
inductive Part where
  | message (m : Message)
  | dataSet
  | collection (kind : Kind)
deriving DecidableEq

/-- What a part is called. -/
def Part.text : Part → String
  | message m => m.word ++ " event"
  | dataSet => "data set"
  | collection kind => s!"'{kind.collectionName}'"

/-- Why a payload cannot be used. -/
inductive InvalidData where
  | malformed (m : Json.Misread)
  | malformedResponse (m : Json.Misread)
  | undecodableResponse (r : Octets.Refusal)
  | notObject (part : Part)
  | noData (m : Message)
  | noPath (m : Message)
  | noVersion
  | badItem (kind : Kind) (fault : SchemaFault)
  /-- A refusal by somebody else's decoder, in its own words. -/
  | told (text : Text)
deriving DecidableEq

/-- The wording of a refusal. -/
def InvalidData.text : InvalidData → Text
  | malformed m => "malformed JSON: " ++ m.text
  | malformedResponse m => "malformed JSON in polling response: " ++ m.text
  | undecodableResponse r => "malformed JSON in polling response: " ++ r.text
  | notObject part => "expected " ++ part.text ++ " to be an object"
  | noData m => m.word ++ " event has no data"
  | noPath m => m.word ++ " event has no valid path"
  | noVersion => "delete event has no valid version"
  | badItem kind fault => "invalid " ++ kind.namespaceName ++ " item: " ++ fault.text
  | told text => text

/-- The ways in which a network operation fails: as the operating system tells them, and as the HTTP
client does. -/
inductive NetworkError where
  | system
  | blocked
  | brokenPipe
  | childProcess
  | connection
  | connectionAborted
  | connectionReset
  | connectionRefused
  | fileExists
  | fileNotFound
  | interrupted
  | isDirectory
  | notDirectory
  | permission
  | noProcess
  | timedOut
  | http
  | httpProtocol
  | httpTimedOut
  | httpTls
  | httpDecoding
  | httpHeader
deriving DecidableEq

/-- The sort of failure that the operating system tells by a number. -/
def NetworkError.ofNumber : Int → NetworkError
  | 1 | 13 => permission
  | 2 => fileNotFound
  | 3 => noProcess
  | 4 => interrupted
  | 10 => childProcess
  | 11 | 114 | 115 => blocked
  | 17 => fileExists
  | 20 => notDirectory
  | 21 => isDirectory
  | 32 | 108 => brokenPipe
  | 103 => connectionAborted
  | 104 => connectionReset
  | 110 => timedOut
  | 111 => connectionRefused
  | _ => system

/-- Something that went wrong. -/
inductive Fault where
  /-- The stream's server answered with an error status. -/
  | streamRejected (status : Int)
  /-- The server of full data sets answered with an error status. -/
  | fetchRejected (status : Int)
  | network (error : NetworkError) (number : Option Int) (text : Text)
  | invalidData (reason : InvalidData)
  | misread (m : Json.Misread)
  | undecodable (r : Octets.Refusal)
  | tooManyDigits (count : Nat)
  | badItem (fault : SchemaFault)
  | noSuchKey (key : Text)
  /-- The store failed while an update was applied to it. -/
  | storeUpdate (text : Text) (cause : Option Fault)
  | alreadyStarted
  /-- Something was wanted of a line that was never opened. -/
  | noLine (wanted : String)
  | wrongContent (contentType : Text)
  | badSetting (reason : SettingFault)
  /-- Any other failure, under the name by which it is known. -/
  | other (name text : Text)

namespace Fault

/-- The wording of a fault. -/
def text : Fault → Text
  | streamRejected status | fetchRejected status => "HTTP error " ++ Text.ofInt status
  | network _ (some number) text => "[Errno " ++ Text.ofInt number ++ "] " ++ text
  | network _ none text => text
  | invalidData reason => reason.text
  | misread m => m.text
  | undecodable r => r.text
  | tooManyDigits count => digitLimitText count
  | badItem fault => fault.text
  | noSuchKey key => key.quoted
  | storeUpdate text _ => text
  | alreadyStarted => "threads can only be started once"
  | noLine wanted => "'NoneType' object has no attribute '" ++ wanted ++ "'"
  | wrongContent contentType => "invalid content type \"" ++ contentType ++ "\""
  | badSetting reason => reason.text
  | other _ text => text

end Fault

end FlagReplica
