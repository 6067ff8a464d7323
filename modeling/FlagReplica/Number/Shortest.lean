import FlagReplica.Number.Binary

/-!
# Shortest decimals

Of all decimals that round to a given binary number, `Binary.shortest` takes one with the fewest
digits, and among those the nearest. `Binary.text` lays it out.
-/

namespace FlagReplica.Binary

/-- A decimal `digits · 10 ^ exponent`. -/
structure Decimal where
  digits : Nat
  exponent : Int
deriving DecidableEq, Repr

/-- `n · 10 ^ e · 2 ^ q` as a pair of numerator and denominator. -/
def ratio (n : Nat) (e q : Int) : Nat × Nat :=
  (n * Nat.pow 10 e.toNat * Nat.pow 2 q.toNat, Nat.pow 10 (-e).toNat * Nat.pow 2 (-q).toNat)

/-- Whether the first of two ratios is less than the second. -/
def ratioLt (a b : Nat × Nat) : Bool :=
  a.1 * b.2 < b.1 * a.2

/-- The significand and exponent brought to full length, as far as the least exponent allows. -/
def normalized (significand : Nat) (exponent : Int) : Nat × Int :=
  let shift := min (53 - bitLength significand) (exponent - leastExponent).toNat
  (significand * Nat.pow 2 shift, exponent - shift)

/-- Whether a decimal rounds to `m · 2 ^ q`, which is positive and of full length. The ends of the
interval of numbers that do are halfway to the two neighbours, of which the lower one is half as far
away below a power of two; they belong to the interval when `m` is even. -/
def roundsTo (m : Nat) (q : Int) (d : Decimal) : Bool :=
  let value := ratio d.digits d.exponent 0
  let narrow := m = Nat.pow 2 52 ∧ q > leastExponent
  let low := ratio (if narrow then 4 * m - 1 else 4 * m - 2) 0 (q - 2)
  let high := ratio (4 * m + 2) 0 (q - 2)
  if m % 2 = 0 then !ratioLt value low && !ratioLt high value
  else ratioLt low value && ratioLt value high

/-- The decimal exponent of `m · 2 ^ q`: the place of its first digit. -/
def leadingPlace (m : Nat) (q : Int) : Int :=
  let value := ratio m 0 q
  let guess : Int := decimalLength value.1 - decimalLength value.2
  if ratioLt value (ratio 1 guess 0) then guess - 1 else guess

/-- The nearest of the two decimals around `m · 2 ^ q` on the grid of a given place that round to
it, a tie to the even one. -/
def onGrid (m : Nat) (q : Int) (place : Int) : Option Decimal :=
  let value := ratio m (-place) q
  let below : Nat := value.1 / value.2
  let low : Decimal := ⟨below, place⟩
  let high : Decimal := ⟨below + 1, place⟩
  let nearer : Decimal := ⟨roundDiv value.1 value.2, place⟩
  match below != 0 && roundsTo m q low, roundsTo m q high with
  | true, true => some nearer
  | true, false => some low
  | false, true => some high
  | false, false => none

/-- The first hit on the grids of `count` places from a given one downward. -/
def firstOnGrids (m : Nat) (q : Int) : (count : Nat) → (place : Int) → Decimal
  | 0, place => ⟨roundDiv (ratio m (-place) q).1 (ratio m (-place) q).2, place⟩
  | count + 1, place =>
    match onGrid m q place with
    | some d => d
    | none => firstOnGrids m q count (place - 1)

/-- The decimal of fewest digits that rounds to `significand · 2 ^ exponent`. Seventeen digits are
always enough. -/
def shortest (significand : Nat) (exponent : Int) : Decimal :=
  if significand = 0 then ⟨0, 0⟩
  else
    let (m, q) := normalized significand exponent
    firstOnGrids m q 17 (leadingPlace m q)

/-- Drops the zeros at the end of a list of digits. -/
def dropTrailingZeros (digits : List Char) : List Char :=
  (digits.reverse.dropWhile (· == '0')).reverse

/-- Positional notation serves the first digits from `10 ^ (-4)` to below `10 ^ 16`, always with a
point and a digit after it; beyond, one digit stands before the point and the exponent has a sign
and at least two digits. -/
def layout (d : Decimal) : List Char :=
  let all := Nat.toDigits 10 d.digits
  let point : Int := all.length + d.exponent
  let digits := match dropTrailingZeros all with
    | [] => ['0']
    | significant => significant
  let zeros (n : Nat) := List.replicate n '0'
  if d.digits = 0 then ['0', '.', '0']
  else if -4 < point ∧ point ≤ 0 then '0' :: '.' :: (zeros (-point).toNat ++ digits)
  else if 0 < point ∧ point ≤ 16 then
    let whole := digits.take point.toNat
    let part := digits.drop point.toNat
    whole ++ zeros (point.toNat - whole.length) ++ '.' :: (if part.isEmpty then ['0'] else part)
  else
    let exponent := point - 1
    let width := Nat.toDigits 10 exponent.natAbs
    let mark := 'e' :: (if exponent < 0 then '-' else '+') :: (zeros (2 - width.length) ++ width)
    match digits with
    | first :: second :: rest => first :: '.' :: second :: rest ++ mark
    | short => short ++ mark

/-- The text of a number. -/
def text : Binary → List Char
  | finite negative significand exponent =>
    let magnitude := layout (shortest significand exponent)
    if negative then '-' :: magnitude else magnitude
  | infinite false => "Infinity".toList
  | infinite true => "-Infinity".toList
  | notANumber => "NaN".toList

end FlagReplica.Binary
