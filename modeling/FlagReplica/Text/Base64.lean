/-!
# Base64

Octets three at a time as four digits of base 64; one or two octets left over are padded with equals
signs.
-/

namespace FlagReplica.Base64

/-- The digit of a value below 64. -/
def digit (n : Nat) : Char :=
  if n < 26 then Char.ofNat (n + 'A'.toNat)
  else if n < 52 then Char.ofNat (n - 26 + 'a'.toNat)
  else if n < 62 then Char.ofNat (n - 52 + '0'.toNat)
  else if n = 62 then '+'
  else '/'

/-- The encoding of octets. -/
def encode : List UInt8 → List Char
  | [] => []
  | [a] =>
    let n := a.toNat * 0x100
    [digit (n / 0x400), digit (n / 0x10 % 64), '=', '=']
  | [a, b] =>
    let n := (a.toNat * 0x100 + b.toNat) * 0x100
    [digit (n / 0x40000), digit (n / 0x1000 % 64), digit (n / 0x40 % 64), '=']
  | a :: b :: c :: rest =>
    let n := (a.toNat * 0x100 + b.toNat) * 0x100 + c.toNat
    digit (n / 0x40000) :: digit (n / 0x1000 % 64) :: digit (n / 0x40 % 64) :: digit (n % 64)
      :: encode rest

end FlagReplica.Base64
