import FlagReplica.Json.Value
import FlagReplica.Number.Shortest

/-!
# Writing JSON

The compact form of a value: no blanks, members in their own order, and nothing but ASCII. A code
point beyond ASCII is written by the escapes of its UTF-16 units in lower-case hexadecimal.
-/

namespace FlagReplica.Json

/-- The escape of a 16-bit unit. -/
def unitEscape (n : Nat) : List Char :=
  ['\\', 'u', Nat.digitChar (n / 0x1000 % 16), Nat.digitChar (n / 0x100 % 16),
    Nat.digitChar (n / 0x10 % 16), Nat.digitChar (n % 16)]

/-- A code point inside a string: as itself when printable ASCII, by a two-character escape where
there is one, and else by its UTF-16 units. -/
def written (c : CodePoint) : List Char :=
  match c with
  | .scalar '"' => ['\\', '"']
  | .scalar '\\' => ['\\', '\\']
  | .scalar '\n' => ['\\', 'n']
  | .scalar '\r' => ['\\', 'r']
  | .scalar '\t' => ['\\', 't']
  | .scalar '\x08' => ['\\', 'b']
  | .scalar '\x0c' => ['\\', 'f']
  | .scalar c =>
    if 0x20 ≤ c.toNat ∧ c.toNat < 0x7F then [c]
    else if c.toNat < 0x10000 then unitEscape c.toNat
    else
      let n := c.toNat - 0x10000
      unitEscape (0xD800 + n / 0x400) ++ unitEscape (0xDC00 + n % 0x400)
  | .surrogate offset => unitEscape (0xD800 + offset.val)

/-- A string between its quotes. -/
def quoted (t : Text) : List Char :=
  '"' :: (t.flatMap written ++ ['"'])

/-- An integer in decimal. -/
def decimal : Int → List Char
  | .ofNat n => Nat.toDigits 10 n
  | .negSucc n => '-' :: Nat.toDigits 10 (n + 1)

/-- A number: an integer in decimal, a binary number by its shortest decimal. -/
def numeral : Number → List Char
  | .integer n => decimal n
  | .binary x => x.text

namespace Value

mutual

/-- The compact form of a value. -/
def compact : Value → List Char
  | null => "null".toList
  | boolean true => "true".toList
  | boolean false => "false".toList
  | number n => numeral n
  | text t => quoted t
  | array items => '[' :: (compactItems items ++ [']'])
  | object members => '\x7b' :: (compactMembers members ++ ['\x7d'])

/-- The items of an array, a comma between each two. -/
def compactItems : List Value → List Char
  | [] => []
  | [v] => compact v
  | v :: w :: rest => compact v ++ ',' :: compactItems (w :: rest)

/-- The members of an object, a comma between each two. -/
def compactMembers : List (Text × Value) → List Char
  | [] => []
  | [(name, v)] => quoted name ++ ':' :: compact v
  | (name, v) :: m :: rest => quoted name ++ ':' :: (compact v ++ ',' :: compactMembers (m :: rest))

end

end Value

end FlagReplica.Json
