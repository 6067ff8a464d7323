import FlagReplica.Text.Basic

/-!
# Numerals

Natural numbers written with decimal digits. Any script of Unicode 14 may supply the digits, also
several in one numeral, and an underscore may stand between two of them. A numeral with more digits
than the limit is not worth its conversion and is refused, zeros at its front included.
-/

namespace FlagReplica

/-- The zeros of the scripts that have decimal digits, in ascending order. The other nine digits of
a script follow its zero in order. -/
def decimalZeros : List Nat :=
  [ 0x30, 0x660, 0x6F0, 0x7C0, 0x966, 0x9E6, 0xA66, 0xAE6, 0xB66, 0xBE6, 0xC66, 0xCE6, 0xD66, 0xDE6,
    0xE50, 0xED0, 0xF20, 0x1040, 0x1090, 0x17E0, 0x1810, 0x1946, 0x19D0, 0x1A80, 0x1A90, 0x1B50,
    0x1BB0, 0x1C40, 0x1C50, 0xA620, 0xA8D0, 0xA900, 0xA9D0, 0xA9F0, 0xAA50, 0xABF0, 0xFF10, 0x104A0,
    0x10D30, 0x11066, 0x110F0, 0x11136, 0x111D0, 0x112F0, 0x11450, 0x114D0, 0x11650, 0x116C0,
    0x11730, 0x118E0, 0x11950, 0x11C50, 0x11D50, 0x11DA0, 0x16A60, 0x16AC0, 0x16B50, 0x1D7CE,
    0x1D7D8, 0x1D7E2, 0x1D7EC, 0x1D7F6, 0x1E140, 0x1E2F0, 0x1E950, 0x1FBF0 ]

/-- The value of a decimal digit of any script. -/
def CodePoint.decimalDigit? (c : CodePoint) : Option Nat :=
  (decimalZeros.find? fun first => first ≤ c.toNat && c.toNat < first + 10).map (c.toNat - ·)

/-- The most digits that a numeral may have. -/
def digitLimit : Nat := 4300

/-- The refusal of a numeral with too many digits. -/
def digitLimitText (count : Nat) : Text :=
  "Exceeds the limit (" ++ Text.ofNat digitLimit
    ++ " digits) for integer string conversion: value has " ++ Text.ofNat count
    ++ " digits; use sys.set_int_max_str_digits() to increase the limit"

namespace Text

/-- The digits of a numeral: groups of at least one, with an underscore between each two. -/
def digits? (t : Text) : Option (List Nat) := do
  let groups ← (splitOn (.scalar '_') t).mapM fun group => group.mapM CodePoint.decimalDigit?
  if groups.any (·.isEmpty) then none else some groups.flatten

/-- The natural number that digits spell. -/
def ofDigits (digits : List Nat) : Nat :=
  digits.foldl (fun n d => n * 10 + d) 0

end Text

end FlagReplica
