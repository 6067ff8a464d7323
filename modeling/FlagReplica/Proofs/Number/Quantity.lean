import FlagReplica.Number.Basic
import Mathlib.Data.Rat.Cast.Order
import Mathlib.Algebra.Order.Field.Rat
import Mathlib.Tactic.FieldSimp
import Mathlib.Tactic.Positivity
import Mathlib.Tactic.Ring

/-!
# What numbers stand for

The exact value of a number: a rational, or one of the two infinities. An amount is the normal form
of such a value, with an odd part and a power of two. `Number.amount_eq_iff` says that two numbers
have one amount exactly if they stand for the same, be they integers or binary numbers.
-/

namespace FlagReplica

/-- The exact value of a number. -/
inductive Quantity where
  | rational (q : ℚ)
  | infinite (negative : Bool)

/-- A rational with a sign before it. -/
def signed (negative : Bool) (q : ℚ) : ℚ :=
  if negative then -q else q

theorem signed_ne_zero {negative : Bool} {a : ℚ} (ha : 0 < a) : signed negative a ≠ 0 := by
  cases negative with
  | false => exact ne_of_gt ha
  | true => exact neg_ne_zero.2 (ne_of_gt ha)

/-- A sign and a positive rational can be told from each other. -/
theorem signed_inj {negative negative' : Bool} {a b : ℚ} (ha : 0 < a) (hb : 0 < b)
    (h : signed negative a = signed negative' b) : negative = negative' ∧ a = b := by
  have opposite : ∀ {a b : ℚ}, 0 < a → 0 < b → -a ≠ b := by
    intro a b ha hb hsame
    rw [← hsame] at hb
    exact lt_asymm ha (neg_pos.1 hb)
  cases negative with
  | false =>
    cases negative' with
    | false => exact ⟨rfl, h⟩
    | true => exact absurd h.symm (opposite hb ha)
  | true =>
    cases negative' with
    | false => exact absurd h (opposite ha hb)
    | true => exact ⟨rfl, neg_injective h⟩

/-- What a number stands for, if it is one. -/
def Number.quantity? : Number → Option Quantity
  | integer n => some (.rational n)
  | binary (.finite negative significand exponent) =>
    some (.rational (signed negative (significand * 2 ^ exponent)))
  | binary (.infinite negative) => some (.infinite negative)
  | binary .notANumber => none

/-! ## Odd parts -/

/-- Halving a positive number takes all twos out of it. -/
theorem halveToOdd_spec {fuel n : Nat} (hpos : n ≠ 0) (hfuel : n.log2 ≤ fuel) :
    (halveToOdd fuel n).1 * 2 ^ (halveToOdd fuel n).2 = n ∧ (halveToOdd fuel n).1 % 2 = 1 := by
  induction fuel generalizing n with
  | zero =>
    have hlt : n < 2 := (Nat.log2_lt hpos).1 (Nat.lt_succ_of_le hfuel)
    have hone : n = 1 := by omega
    subst hone
    decide
  | succ fuel ih =>
    unfold halveToOdd
    split
    · rename_i heven
      have hhalf : n / 2 ≠ 0 := by omega
      -- halving lowers the binary logarithm, which bounds the fuel
      have hlog : (n / 2).log2 ≤ fuel := by
        have hlt := (Nat.log2_lt hpos).1 (Nat.lt_succ_of_le hfuel)
        rw [← Nat.lt_succ_iff, Nat.log2_lt hhalf]
        rw [Nat.pow_succ] at hlt
        omega
      obtain ⟨hproduct, hodd⟩ := ih hhalf hlog
      refine ⟨?_, hodd⟩
      dsimp only
      rw [Nat.pow_succ, ← Nat.mul_assoc, hproduct]
      omega
    · rename_i hodd
      exact ⟨by simp, by omega⟩

/-- An odd number times a power of two determines both. -/
theorem odd_mul_zpow_inj {o o' : Nat} {e e' : Int} (ho : o % 2 = 1) (ho' : o' % 2 = 1)
    (h : (o : ℚ) * 2 ^ e = o' * 2 ^ e') : o = o' ∧ e = e' := by
  -- one of the exponents is the lesser one, and nothing is left of their difference
  have ordered : ∀ {o o' : Nat} {e e' : Int}, o % 2 = 1 → (o : ℚ) * 2 ^ e = o' * 2 ^ e' →
      e ≤ e' → o = o' ∧ e = e' := by
    intro o o' e e' ho h hle
    obtain ⟨d, rfl⟩ := Int.le.dest hle
    have hpow : (2 : ℚ) ^ (e + (d : Int)) = 2 ^ e * 2 ^ d := by
      rw [zpow_add₀ (by norm_num), zpow_natCast]
    have hcancel : (o : ℚ) = o' * 2 ^ d := by
      have hne : (2 : ℚ) ^ e ≠ 0 := zpow_ne_zero e (by norm_num)
      rw [hpow] at h
      apply mul_right_cancel₀ hne
      rw [h]
      ring
    have hnat : o = o' * 2 ^ d := by exact_mod_cast hcancel
    cases d with
    | zero => exact ⟨by simpa using hnat, by simp⟩
    | succ d =>
      rw [Nat.pow_succ, ← Nat.mul_assoc] at hnat
      omega
  rcases Int.le_total e e' with hle | hle
  · exact ordered ho h hle
  · obtain ⟨hodd, hexponent⟩ := ordered ho' h.symm hle
    exact ⟨hodd.symm, hexponent.symm⟩

/-! ## Amounts -/

namespace Amount

/-- What an amount stands for. -/
def quantity? : Amount → Option Quantity
  | zero => some (.rational 0)
  | dyadic negative oddPart exponent => some (.rational (signed negative (oddPart * 2 ^ exponent)))
  | infinite negative => some (.infinite negative)
  | notANumber => none

/-- The odd part of an amount is odd. -/
def Normal : Amount → Prop
  | dyadic _ oddPart _ => oddPart % 2 = 1
  | _ => True

theorem ofScaled_spec (negative : Bool) (n : Nat) (exponent : Int) :
    (ofScaled negative n exponent).Normal ∧
      (ofScaled negative n exponent).quantity? =
        some (.rational (signed negative (n * 2 ^ exponent))) := by
  unfold ofScaled
  by_cases hzero : n = 0
  · subst hzero
    cases negative <;> simp [Normal, quantity?, signed]
  · rw [if_neg hzero]
    obtain ⟨hproduct, hodd⟩ := halveToOdd_spec hzero (Nat.le_refl n.log2)
    refine ⟨hodd, ?_⟩
    dsimp only [quantity?]
    have hvalue : ((halveToOdd n.log2 n).1 : ℚ) * 2 ^ (exponent + ((halveToOdd n.log2 n).2 : Int)) =
        n * 2 ^ exponent := by
      rw [zpow_add₀ (by norm_num), zpow_natCast, ← congrArg (Nat.cast (R := ℚ)) hproduct]
      push_cast
      ring
    rw [hvalue]

/-- A positive odd part with its power of two is positive. -/
theorem scaled_pos {o : Nat} (e : Int) (ho : o % 2 = 1) : (0 : ℚ) < o * 2 ^ e := by
  have hpos : 0 < o := by omega
  exact mul_pos (by exact_mod_cast hpos) (zpow_pos (by norm_num) e)

/-- Amounts that are normal and stand for the same are the same. -/
theorem eq_of_quantity? {a b : Amount} (ha : a.Normal) (hb : b.Normal)
    (h : a.quantity? = b.quantity?) : a = b := by
  cases a with
  | zero =>
    cases b with
    | zero => rfl
    | dyadic negative o e =>
      have hzero := Quantity.rational.inj (Option.some.inj h)
      exact absurd hzero.symm (signed_ne_zero (scaled_pos e hb))
    | infinite => cases h
    | notANumber => cases h
  | dyadic negative o e =>
    cases b with
    | zero =>
      have hzero := Quantity.rational.inj (Option.some.inj h)
      exact absurd hzero (signed_ne_zero (scaled_pos e ha))
    | dyadic negative' o' e' =>
      -- an odd number times a power of two determines both
      have hsame := Quantity.rational.inj (Option.some.inj h)
      obtain ⟨hsign, hscaled⟩ := signed_inj (scaled_pos e ha) (scaled_pos e' hb) hsame
      obtain ⟨hodd, hexponent⟩ := odd_mul_zpow_inj ha hb hscaled
      rw [hsign, hodd, hexponent]
    | infinite => cases h
    | notANumber => cases h
  | infinite negative =>
    cases b with
    | infinite negative' => rw [Quantity.infinite.inj (Option.some.inj h)]
    | zero => cases h
    | dyadic => cases h
    | notANumber => cases h
  | notANumber =>
    cases b with
    | notANumber => rfl
    | zero => cases h
    | dyadic => cases h
    | infinite => cases h

end Amount

/-- An amount is normal and stands for what its number stands for. -/
theorem Number.amount_spec (n : Number) : n.amount.Normal ∧ n.amount.quantity? = n.quantity? := by
  cases n with
  | integer n =>
    obtain ⟨hnormal, hquantity⟩ := Amount.ofScaled_spec (n < 0) n.natAbs 0
    refine ⟨hnormal, hquantity.trans ?_⟩
    have hvalue : signed (n < 0) ((n.natAbs : ℚ) * 2 ^ (0 : Int)) = n := by
      rw [zpow_zero, mul_one]
      by_cases hneg : n < 0
      · have habs : (n.natAbs : Int) = -n := by omega
        have hcast : ((n.natAbs : Int) : ℚ) = ((-n : Int) : ℚ) := congrArg _ habs
        simp only [signed, hneg, decide_true, if_true]
        push_cast at hcast
        simp [hcast]
      · have habs : (n.natAbs : Int) = n := by omega
        have hcast : ((n.natAbs : Int) : ℚ) = (n : ℚ) := congrArg _ habs
        simpa [signed, hneg] using hcast
    rw [hvalue]
    rfl
  | binary x =>
    cases x with
    | finite negative significand exponent =>
      exact Amount.ofScaled_spec negative significand exponent
    | infinite negative => exact ⟨trivial, rfl⟩
    | notANumber => exact ⟨trivial, rfl⟩

/-- Two numbers have one amount exactly if they stand for the same. -/
theorem Number.amount_eq_iff {a b : Number} : a.amount = b.amount ↔ a.quantity? = b.quantity? := by
  obtain ⟨ha, haq⟩ := a.amount_spec
  obtain ⟨hb, hbq⟩ := b.amount_spec
  rw [← haq, ← hbq]
  exact ⟨congrArg _, Amount.eq_of_quantity? ha hb⟩

end FlagReplica
