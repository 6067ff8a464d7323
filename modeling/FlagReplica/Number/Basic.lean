import FlagReplica.Number.Binary

/-!
# Numbers of a payload

A payload tells integers, of any size, from numbers of the 64-bit binary format. Where two numbers
are compared it is by amount: `Number.amount` forgets which of the two a number was.
-/

namespace FlagReplica

/-- An integer or a number of the 64-bit binary format. -/
inductive Number where
  | integer (n : Int)
  | binary (x : Binary)
deriving DecidableEq, Repr

/-- The exact amount of a number: zero, an odd integer times a power of two, an infinity, or the
one value that is no number. -/
inductive Amount where
  | zero
  | dyadic (negative : Bool) (oddPart : Nat) (exponent : Int)
  | infinite (negative : Bool)
  | notANumber
deriving DecidableEq, Repr

/-- Halves a positive number until it is odd, counting the halvings; `fuel` bounds them. -/
def halveToOdd : (fuel n : Nat) → Nat × Nat
  | 0, n => (n, 0)
  | fuel + 1, n =>
    if n % 2 = 0 then
      let (odd, halvings) := halveToOdd fuel (n / 2)
      (odd, halvings + 1)
    else (n, 0)

/-- The amount `± n · 2 ^ exponent`. -/
def Amount.ofScaled (negative : Bool) (n : Nat) (exponent : Int) : Amount :=
  if n = 0 then zero
  else
    let (odd, halvings) := halveToOdd n.log2 n
    dyadic negative odd (exponent + halvings)

/-- The amount of a number. -/
def Number.amount : Number → Amount
  | integer n => .ofScaled (n < 0) n.natAbs 0
  | binary (.finite negative significand exponent) => .ofScaled negative significand exponent
  | binary (.infinite negative) => .infinite negative
  | binary .notANumber => .notANumber

/-- Whether a number is less than an integer. -/
def Number.isBelow (bound : Int) : Number → Bool
  | integer n => n < bound
  | binary (.finite negative significand exponent) =>
    let n : Int := if negative then -(significand : Int) else significand
    if 0 ≤ exponent then n * (Nat.pow 2 exponent.toNat : Nat) < bound
    else n < bound * (Nat.pow 2 (-exponent).toNat : Nat)
  | binary (.infinite negative) => negative
  | binary .notANumber => false

end FlagReplica
