import FlagReplica.Proofs.Json.Written
import Mathlib.Data.List.TakeDrop

/-!
# Integers that were written

The reader takes from a decimal the integer that was written, as long as nothing follows that could
belong to a number and there are not too many digits.
-/

namespace FlagReplica.Json

/-- What may follow a value in a compact text: what separates or closes, or nothing. -/
inductive Delimited : Text → Prop where
  | nil : Delimited []
  | comma (rest : Text) : Delimited (.scalar ',' :: rest)
  | bracket (rest : Text) : Delimited (.scalar ']' :: rest)
  | brace (rest : Text) : Delimited (.scalar '\x7d' :: rest)

namespace Delimited

variable {rest : Text}

theorem skipBlanks (h : Delimited rest) : skipBlanks rest = rest := by
  cases h <;> rfl

theorem readFraction? (h : Delimited rest) : readFraction? rest = none := by
  cases h <;> rfl

theorem readExponent? (h : Delimited rest) : readExponent? rest = none := by
  cases h <;> rfl

/-- Digits are taken up to what follows them. -/
theorem spanDigits (h : Delimited rest) {digits : Text} (hdigits : ∀ d ∈ digits, d.isDigit = true) :
    spanDigits (digits ++ rest) = (digits, rest) := by
  have htake : rest.takeWhile CodePoint.isDigit = [] := by
    cases h <;> rfl
  have hdrop : rest.dropWhile CodePoint.isDigit = rest := by
    cases h <;> rfl
  rw [Json.spanDigits, List.span_eq_takeWhile_dropWhile, List.takeWhile_append_of_pos hdigits,
    List.dropWhile_append_of_pos hdigits, htake, hdrop, List.append_nil]

end Delimited

/-! ## Digits -/

/-- The digits of a number, one of which comes first. -/
theorem exists_toDigits (n : Nat) :
    ∃ d ds, Nat.toDigits 10 n = d :: ds ∧ d.isDigit = true ∧ (d = '0' → n = 0) := by
  induction n using Nat.strongRecOn with
  | ind n ih =>
    by_cases hlt : n < 10
    · have hdigit :
          ∀ m < 10, (Nat.digitChar m).isDigit = true ∧ (Nat.digitChar m = '0' → m = 0) := by
        decide
      exact ⟨Nat.digitChar n, [], Nat.toDigits_of_lt_base hlt, hdigit n hlt⟩
    · -- the last digit comes after those of the tenth part, which is not zero
      obtain ⟨d, ds, hds, hd, hzero⟩ := ih (n / 10) (by omega)
      refine ⟨d, ds ++ [Nat.digitChar (n % 10)], ?_, hd, ?_⟩
      · rw [Nat.toDigits_of_base_le (by decide) (by omega), hds]
        rfl
      · intro h
        have hnone := hzero h
        omega

theorem isDigit_of_mem_toDigits {n : Nat} {d : CodePoint}
    (h : d ∈ Text.ofChars (Nat.toDigits 10 n)) : d.isDigit = true := by
  obtain ⟨c, hc, rfl⟩ := List.mem_map.1 h
  exact Nat.isDigit_of_mem_toDigits (by decide) (by decide) hc

/-- Digits spell the number that was written with them. -/
theorem naturalOfDigits_toDigits (n : Nat) :
    naturalOfDigits (Text.ofChars (Nat.toDigits 10 n)) = n := by
  have hspelled : naturalOfDigits (Text.ofChars (Nat.toDigits 10 n)) =
      Nat.ofDigitChars 10 (Nat.toDigits 10 n) 0 := by
    rw [naturalOfDigits, Text.ofChars, List.foldl_map, Nat.ofDigitChars_eq_foldl]
    simp only [CodePoint.toNat, Nat.mul_comm]
  rw [hspelled, Nat.ofDigitChars_ten_toDigits]

theorem readWhole?_toDigits (n : Nat) {rest : Text} (h : Delimited rest) :
    readWhole? (Text.ofChars (Nat.toDigits 10 n) ++ rest) =
      some (Text.ofChars (Nat.toDigits 10 n), rest) := by
  have hspan := h.spanDigits (fun d => isDigit_of_mem_toDigits (n := n) (d := d))
  obtain ⟨d, ds, hds, -, hzero⟩ := exists_toDigits n
  by_cases hd : d = '0'
  · -- a zero stands alone
    obtain rfl := hzero hd
    rfl
  · rw [hds, Text.ofChars_cons, List.cons_append] at hspan ⊢
    simp [readWhole?, hd, hspan]

/-! ## Integers -/

section Reading

variable {s digits rest : Text} (hlimit : digits.length ≤ digitLimit) (h : Delimited rest)
include hlimit h

theorem readNumber_unsigned {d : Char} (hminus : d ≠ '-')
    (hwhole : readWhole? (.scalar d :: s) = some (digits, rest)) :
    readNumber (.scalar d :: s) = .ok (.integer (naturalOfDigits digits), rest) := by
  simp [readNumber, hminus, hwhole, h.readFraction?, h.readExponent?, Nat.not_lt.2 hlimit]

theorem readNumber_negative (hwhole : readWhole? s = some (digits, rest)) :
    readNumber (.scalar '-' :: s) = .ok (.integer (-naturalOfDigits digits), rest) := by
  simp [readNumber, hwhole, h.readFraction?, h.readExponent?, Nat.not_lt.2 hlimit]

end Reading

/-- An integer that was written is read as itself, if it has no more digits than the limit. -/
theorem readNumber_decimal {i : Int} (hlimit : (Nat.toDigits 10 i.natAbs).length ≤ digitLimit)
    {rest : Text} (h : Delimited rest) :
    readNumber (Text.ofChars (decimal i) ++ rest) = .ok (.integer i, rest) := by
  have hlength : (Text.ofChars (Nat.toDigits 10 i.natAbs)).length ≤ digitLimit := by
    simpa [Text.ofChars] using hlimit
  have hwhole := readWhole?_toDigits i.natAbs h
  have hnatural := naturalOfDigits_toDigits i.natAbs
  cases i with
  | ofNat n =>
    -- a digit is no sign
    obtain ⟨d, ds, hds, hdigit, -⟩ := exists_toDigits n
    have hminus : d ≠ '-' := by
      rintro rfl
      exact absurd hdigit (by decide)
    have habs : (Int.ofNat n).natAbs = n := Int.natAbs_natCast n
    rw [habs, hds, Text.ofChars_cons] at hlength hwhole hnatural
    rw [List.cons_append] at hwhole
    rw [decimal, hds, Text.ofChars_cons, List.cons_append,
      readNumber_unsigned hlength h hminus hwhole, hnatural]
    rfl
  | negSucc n =>
    rw [Int.natAbs_negSucc] at hlength hwhole hnatural
    rw [decimal, Text.ofChars_cons, List.cons_append, readNumber_negative hlength h hwhole,
      hnatural]
    rfl

end FlagReplica.Json
