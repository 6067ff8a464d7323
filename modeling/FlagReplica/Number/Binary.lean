/-!
# Binary floating point

The numbers of the 64-bit binary format, held exactly: an integer significand times a power of two.
`Binary.ofDecimal` rounds a decimal to the nearest of them, a tie to the even significand, and
`Binary.scale` does the same for a product with a natural number.
-/

namespace FlagReplica

/-- A number of the 64-bit binary format. `finite negative significand exponent` stands for
`± significand · 2 ^ exponent`; rounding keeps the significand below `2 ^ 53` and, where the least
exponent allows it, not below `2 ^ 52`. -/
inductive Binary where
  | finite (negative : Bool) (significand : Nat) (exponent : Int)
  | infinite (negative : Bool)
  | notANumber
deriving DecidableEq, Repr

namespace Binary

/-- The least exponent of the format. -/
def leastExponent : Int := -1074

/-- The greatest exponent of a significand of full length. -/
def greatestExponent : Int := 971

/-- The number of bits of a natural number: none for zero. -/
def bitLength (n : Nat) : Nat :=
  if n = 0 then 0 else n.log2 + 1

/-- `numerator / denominator` rounded to the nearest natural number, a tie to the even one. -/
def roundDiv (numerator denominator : Nat) : Nat :=
  let q := numerator / denominator
  let twice := 2 * (numerator % denominator)
  if twice < denominator then q
  else if denominator < twice then q + 1
  else q + q % 2

/-- `numerator / (denominator · 2 ^ exponent)` rounded to the nearest natural number. -/
def significandAt (numerator denominator : Nat) (exponent : Int) : Nat :=
  if 0 ≤ exponent then roundDiv numerator (denominator * Nat.pow 2 exponent.toNat)
  else roundDiv (numerator * Nat.pow 2 (-exponent).toNat) denominator

/-- The number nearest to `± numerator / denominator`. The first guess at the exponent is off by at
most one; a significand that comes out too long is halved by the next exponent. -/
def ofRatio (negative : Bool) (numerator denominator : Nat) : Binary :=
  if numerator = 0 then finite negative 0 leastExponent
  else
    let guess : Int := (bitLength numerator : Int) - bitLength denominator - 53
    let settle (exponent : Int) : Binary :=
      let significand := significandAt numerator denominator exponent
      if exponent > greatestExponent then infinite negative
      else finite negative significand exponent
    let exponent := max guess leastExponent
    if significandAt numerator denominator exponent < Nat.pow 2 53 then settle exponent
    else if significandAt numerator denominator (exponent + 1) < Nat.pow 2 53 then
      settle (exponent + 1)
    else settle (exponent + 2)

/-- The number of decimal digits of a natural number. -/
def decimalLength (n : Nat) : Nat :=
  (Nat.toDigits 10 n).length

/-- The number nearest to `± digits · 10 ^ exponent`. Beyond the stated bounds the answer is
infinity or zero whatever the digits are, and no power is formed. -/
def ofDecimal (negative : Bool) (digits : Nat) (exponent : Int) : Binary :=
  if digits = 0 then finite negative 0 leastExponent
  else
    let magnitude : Int := decimalLength digits + exponent
    if magnitude > 310 then infinite negative
    else if magnitude < -330 then finite negative 0 leastExponent
    else if 0 ≤ exponent then ofRatio negative (digits * Nat.pow 10 exponent.toNat) 1
    else ofRatio negative digits (Nat.pow 10 (-exponent).toNat)

/-- The product with a natural number, rounded to the nearest number of the format. -/
def scale (factor : Nat) : Binary → Binary
  | finite negative significand exponent =>
    if 0 ≤ exponent then ofRatio negative (significand * factor * Nat.pow 2 exponent.toNat) 1
    else ofRatio negative (significand * factor) (Nat.pow 2 (-exponent).toNat)
  | infinite negative => if factor = 0 then notANumber else infinite negative
  | notANumber => notANumber

/-- The integer part, toward zero; none for an infinity or for no number. -/
def truncate? : Binary → Option Int
  | finite negative significand exponent =>
    let whole : Nat :=
      if 0 ≤ exponent then significand * Nat.pow 2 exponent.toNat
      else significand / Nat.pow 2 (-exponent).toNat
    some (if negative then -(whole : Int) else whole)
  | _ => none

/-- Whether the number is an integer. -/
def isIntegral : Binary → Bool
  | finite _ significand exponent => 0 ≤ exponent || significand % Nat.pow 2 (-exponent).toNat = 0
  | _ => false

end Binary

end FlagReplica
