import FlagReplica.Text.Quoted

/-!
# Text to octets

Encoding of text by a form that cannot encode every code point, with the exact place of a refusal:
the first run of code points that the form cannot encode. Whether a text is encoded is settled
before any of it is.
-/

namespace FlagReplica.Octets

/-- A refusal: the form that refused, why, how many code points came before, and the run. -/
structure Unencodable where
  form : String
  reason : String
  first : Nat
  run : Text
deriving DecidableEq

/-- One refused code point is shown; several are told by their first and last place. -/
def Unencodable.text (u : Unencodable) : Text :=
  let place : Text := match u.run with
    | [c] => "character '" ++ Text.ofChars (Text.numbered c.toNat) ++ "' in position "
      ++ Text.ofNat u.first
    | run => "characters in position " ++ Text.ofNat u.first ++ "-"
      ++ Text.ofNat (u.first + run.length - 1)
  "'" ++ u.form ++ "' codec can't encode " ++ place ++ ": " ++ u.reason

/-- The first run of refused code points, and how many came before it. -/
def firstRun? (refused : CodePoint → Bool) (t : Text) : Option (Nat × Text) :=
  let before := t.takeWhile fun c => !refused c
  match (t.drop before.length).takeWhile refused with
  | [] => none
  | run => some (before.length, run)

/-- The octets of a code point in UTF-8, by the rule for its size where it is half of a surrogate
pair. -/
def utf8Octets : CodePoint → List UInt8
  | .scalar c => String.utf8EncodeChar c
  | .surrogate offset =>
    [0xED, UInt8.ofNat (0xA0 + offset.val / 64), UInt8.ofNat (0x80 + offset.val % 64)]

/-- The octets of a text in UTF-8, which has none for half of a surrogate pair. -/
def encodeUtf8 (t : Text) : Except Unencodable (List UInt8) :=
  match firstRun? (fun c => c.isHighSurrogate || c.isLowSurrogate) t with
  | some (first, run) => .error ⟨"utf-8", "surrogates not allowed", first, run⟩
  | none => .ok (t.flatMap utf8Octets)

/-- The octets of a text in Latin-1, which has one for each of the first 256 code points. -/
def encodeLatin1 (t : Text) : Except Unencodable (List UInt8) :=
  match firstRun? (0x100 ≤ ·.toNat) t with
  | some (first, run) => .error ⟨"latin-1", "ordinal not in range(256)", first, run⟩
  | none => .ok (t.map fun c => UInt8.ofNat c.toNat)

end FlagReplica.Octets
