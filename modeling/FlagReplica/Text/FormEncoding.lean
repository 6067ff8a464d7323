import FlagReplica.Text.Encoding

/-!
# Form encoding

The encoding of a value in the query of a URI: letters, digits and four marks stand for themselves,
a space becomes a plus sign, and every other character is written as its UTF-8 octets, each a
percent sign with two upper-case hexadecimal digits.
-/

namespace FlagReplica.FormEncoding

/-- The octets that stand for themselves. -/
def isPlain (b : UInt8) : Bool :=
  let c := Char.ofNat b.toNat
  b < 0x80 && (c.isAlphanum || c == '_' || c == '.' || c == '-' || c == '~')

/-- An upper-case hexadecimal digit. -/
def upperHex (n : Nat) : Char :=
  (Nat.digitChar n).toUpper

/-- The encoding of an octet. -/
def encodeOctet (b : UInt8) : List Char :=
  if isPlain b then [Char.ofNat b.toNat]
  else if b = 0x20 then ['+']
  else ['%', upperHex (b.toNat / 16), upperHex (b.toNat % 16)]

/-- The encoding of a text, which has to have one in UTF-8. -/
def encode (t : Text) : Except Octets.Unencodable (List Char) := do
  return (← Octets.encodeUtf8 t).flatMap encodeOctet

end FlagReplica.FormEncoding
