import FlagReplica.Fault.Setting

/-!
# Times in settings

A time is given in seconds, by a value of any shape, and nothing looks at it before it is used: as
whole milliseconds when the setup is told, as a timeout when a connection is set up. Truth values
count as one and zero in the first use and are refused in the second.
-/

namespace FlagReplica

open Json (Value)

namespace Number

/-- Whether a number is an integer beyond the 64-bit binary format. -/
def isTooGreat : Number → Bool
  | integer n => Binary.ofRatio false n.natAbs 1 = .infinite false
  | binary _ => false

/-- A number of seconds as whole milliseconds, cut toward zero. -/
def milliseconds : Number → Except SettingFault Int
  | integer n => .ok (n * 1000)
  | binary .notANumber => .error .noNumber
  | binary x =>
    match (x.scale 1000).truncate? with
    | some n => .ok n
    | none => .error .infiniteTime

end Number

namespace Json.Value

/-- A time as whole milliseconds, cut toward zero. A text is repeated as often as a number would be
multiplied, and has to be a numeral then, which it is if it was one before. -/
def milliseconds : Value → Except SettingFault Int
  | number n => n.milliseconds
  | boolean b => .ok (if b then 1000 else 0)
  | text t =>
    match t.digits? with
    | none => .error (.notNumeral (List.replicate 1000 t).flatten)
    | some digits =>
      let digits := (List.replicate 1000 digits).flatten
      if digits.length > digitLimit then .error (.tooManyDigits digits.length)
      else .ok (Text.ofDigits digits)
  | v => .error (.notTime v.shape)

/-- A timeout: a positive number, or none. -/
def timeout (which : String) : Value → Except SettingFault (Option Number)
  | null => .ok none
  | boolean _ => .error .timeoutTruthValue
  | number n =>
    if n.isTooGreat then .error .timeoutTooGreat
    else if n.isBelow 0 ∨ n.amount = .zero then .error (.timeoutNotPositive which n.shown)
    else .ok (some n)
  | v => .error (.timeoutNotNumber which v.shown)

end Json.Value

end FlagReplica
