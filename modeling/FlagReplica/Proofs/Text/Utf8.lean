import FlagReplica.Proofs.Json.Written
import FlagReplica.Text.Encoding
import FlagReplica.Text.Octets
import Mathlib.Data.List.TakeWhile

/-!
# Characters in UTF-8

The octets of characters are read as these characters again. One lemma for each length of a
character's octets says what the reader finds there, whatever follows; the bounds of each length are
those within which the spelling is neither overlong nor that of half a surrogate pair.
-/

namespace FlagReplica

/-- A character is no second half of a surrogate pair. -/
theorem CodePoint.isLowSurrogate_scalar (c : Char) : (scalar c).isLowSurrogate = false := by
  have hbounds := (toNat_bounds c).1
  rw [Bool.eq_false_iff]
  intro hlow
  rw [isLowSurrogate, Bool.and_eq_true, decide_eq_true_iff, decide_eq_true_iff] at hlow
  simp only [toNat] at hlow
  omega

namespace Octets

/-- An octet after the first one, which carries six bits of a number. -/
def trail (n : Nat) : UInt8 :=
  .ofNat (n % 64 + 0x80)

theorem isContinuation_trail (n : Nat) : isContinuation (trail n) = true := by
  simp only [isContinuation, trail, UInt8.le_iff_toNat_le, UInt8.lt_iff_toNat_lt,
    UInt8.toNat_ofNat', Bool.and_eq_true, decide_eq_true_iff, UInt8.reduceToNat]
  omega

theorem payload_trail (n : Nat) : payload (trail n) = n % 64 := by
  simp only [payload, trail, UInt8.toNat_ofNat']
  omega

theorem trail_lt_iff {n : Nat} {b : UInt8} : trail n < b ↔ n % 64 + 0x80 < b.toNat := by
  simp only [trail, UInt8.lt_iff_toNat_lt, UInt8.toNat_ofNat']
  omega

/-- After the first octet `k` the second one is not below `b`. -/
theorem lead_and_trail_lt {a k b : UInt8} {n : Nat}
    (h : a.toNat = k.toNat → b.toNat ≤ n % 64 + 0x80) :
    (a == k && decide (trail n < b)) = false := by
  rw [Bool.eq_false_iff]
  intro hboth
  rw [Bool.and_eq_true, beq_iff_eq, decide_eq_true_iff, trail_lt_iff, ← UInt8.toNat_inj] at hboth
  exact absurd (h hboth.1) (Nat.not_le.2 hboth.2)

/-- After the first octet `k` the second one is below `b`. -/
theorem lead_and_le_trail {a k b : UInt8} {n : Nat}
    (h : a.toNat = k.toNat → n % 64 + 0x80 < b.toNat) :
    (a == k && decide (b ≤ trail n)) = false := by
  rw [Bool.eq_false_iff]
  intro hboth
  rw [Bool.and_eq_true, beq_iff_eq, decide_eq_true_iff, ← UInt8.not_lt, trail_lt_iff,
    ← UInt8.toNat_inj] at hboth
  exact hboth.2 (h hboth.1)

/-! ## One character -/

section Reading

variable (halves : Bool) (rest : List UInt8) {n : Nat}

theorem next_one (h : n < 0x80) :
    (utf8 halves).next (.ofNat n :: rest) = .point (.ofNat n) 1 := by
  have hlead : (UInt8.ofNat n).toNat = n := by
    rw [UInt8.toNat_ofNat']
    omega
  have hfirst : UInt8.ofNat n < 0x80 := by
    rw [UInt8.lt_iff_toNat_lt, hlead]
    exact h
  simp only [utf8, hfirst, if_true, hlead]

theorem next_two (hleast : 0x80 ≤ n) (hgreatest : n < 0x800) :
    (utf8 halves).next (.ofNat (n / 64 % 32 + 0xC0) :: trail n :: rest) = .point (.ofNat n) 2 := by
  generalize ha : UInt8.ofNat (n / 64 % 32 + 0xC0) = a
  have hlead : a.toNat = n / 64 + 0xC0 := by
    rw [← ha, UInt8.toNat_ofNat']
    omega
  simp only [utf8, UInt8.lt_iff_toNat_lt, hlead, UInt8.reduceToNat]
  rw [if_neg (by omega), if_neg (by omega), if_pos (by omega)]
  simp only [isContinuation_trail, payload_trail, if_true]
  congr 2
  omega

theorem next_three (hleast : 0x800 ≤ n) (hgreatest : n < 0x10000)
    (hwhole : n < 0xD800 ∨ 0xE000 ≤ n) :
    (utf8 halves).next (.ofNat (n / 4096 % 16 + 0xE0) :: trail (n / 64) :: trail n :: rest) =
      .point (.ofNat n) 3 := by
  generalize ha : UInt8.ofNat (n / 4096 % 16 + 0xE0) = a
  have hlead : a.toNat = n / 4096 + 0xE0 := by
    rw [← ha, UInt8.toNat_ofNat']
    omega
  have hoverlong : (a == 0xE0 && decide (trail (n / 64) < 0xA0)) = false := by
    apply lead_and_trail_lt
    simp only [hlead, UInt8.reduceToNat]
    omega
  have hhalf : (a == 0xED && decide (0xA0 ≤ trail (n / 64))) = false := by
    apply lead_and_le_trail
    simp only [hlead, UInt8.reduceToNat]
    omega
  simp only [utf8, UInt8.lt_iff_toNat_lt, hlead, UInt8.reduceToNat]
  rw [if_neg (by omega), if_neg (by omega), if_neg (by omega), if_pos (by omega)]
  simp only [nextOfThree, isContinuation_trail, payload_trail, hoverlong, hhalf, hlead,
    Bool.not_true, Bool.false_or, Bool.false_and, Bool.false_eq_true, if_false]
  congr 2
  omega

theorem next_four (hleast : 0x10000 ≤ n) (hgreatest : n < 0x110000) :
    (utf8 halves).next (.ofNat (n / 262144 % 8 + 0xF0) :: trail (n / 4096) :: trail (n / 64) ::
      trail n :: rest) = .point (.ofNat n) 4 := by
  generalize ha : UInt8.ofNat (n / 262144 % 8 + 0xF0) = a
  have hlead : a.toNat = n / 262144 + 0xF0 := by
    rw [← ha, UInt8.toNat_ofNat']
    omega
  have hoverlong : (a == 0xF0 && decide (trail (n / 4096) < 0x90)) = false := by
    apply lead_and_trail_lt
    simp only [hlead, UInt8.reduceToNat]
    omega
  have hbeyond : (a == 0xF4 && decide (0x90 ≤ trail (n / 4096))) = false := by
    apply lead_and_le_trail
    simp only [hlead, UInt8.reduceToNat]
    omega
  simp only [utf8, UInt8.lt_iff_toNat_lt, hlead, UInt8.reduceToNat]
  rw [if_neg (by omega), if_neg (by omega), if_neg (by omega), if_neg (by omega),
    if_pos (by omega)]
  simp only [nextOfFour, isContinuation_trail, payload_trail, hoverlong, hbeyond, hlead,
    Bool.not_true, Bool.or_self, Bool.false_eq_true, if_false]
  congr 2
  omega

/-- A character is read from its octets, whatever follows them. -/
theorem next_utf8EncodeChar (c : Char) :
    (utf8 halves).next (String.utf8EncodeChar c ++ rest) =
      .point (.scalar c) (String.utf8EncodeChar c).length := by
  have hbounds : (c.val.toNat < 0xD800 ∨ 0xE000 ≤ c.val.toNat) ∧ c.val.toNat < 0x110000 :=
    CodePoint.toNat_bounds c
  rw [← CodePoint.ofNat_toNat c]
  unfold String.utf8EncodeChar Char.toNat
  generalize c.val.toNat = n at hbounds ⊢
  dsimp only
  -- one case for each length of the octets
  split
  · exact next_one halves rest (by omega)
  · split
    · exact next_two halves rest (by omega) (by omega)
    · split
      · exact next_three halves rest (by omega) (by omega) (by omega)
      · exact next_four halves rest (by omega) (by omega)

end Reading

/-! ## Texts -/

/-- A code point that is found in front is read first. -/
theorem Form.decodeFrom_append {form : Form} {octets rest : List UInt8} {c : CodePoint}
    (hne : octets ≠ []) (h : form.next (octets ++ rest) = .point c octets.length)
    (fuel offset : Nat) :
    form.decodeFrom (fuel + 1) offset (octets ++ rest) = do
      let more ← form.decodeFrom fuel (offset + octets.length) rest
      return c :: more := by
  obtain ⟨b, octets, rfl⟩ := List.exists_cons_of_ne_nil hne
  rw [List.cons_append] at h ⊢
  rw [Form.decodeFrom, h]
  · simp
  · simp

theorem decodeFrom_utf8 (halves : Bool) (cs : List Char) {fuel : Nat} (hfuel : cs.length ≤ fuel)
    (offset : Nat) :
    (utf8 halves).decodeFrom fuel offset (cs.flatMap String.utf8EncodeChar) =
      .ok (Text.ofChars cs) := by
  induction cs generalizing fuel offset with
  | nil => cases fuel <;> rfl
  | cons c cs ih =>
    cases fuel with
    | zero => simp at hfuel
    | succ fuel =>
      rw [List.flatMap_cons, Form.decodeFrom_append String.utf8EncodeChar_ne_nil
        (next_utf8EncodeChar halves _ c), ih (Nat.le_of_succ_le_succ hfuel)]
      rfl

/-- The octets of characters are read as these characters. -/
theorem decode_utf8 (halves : Bool) (cs : List Char) :
    (utf8 halves).decode 0 (cs.flatMap String.utf8EncodeChar) = .ok (Text.ofChars cs) := by
  have hfuel : cs.length ≤ (cs.flatMap String.utf8EncodeChar).length := by
    induction cs with
    | nil => exact Nat.le_refl 0
    | cons c cs ih =>
      have hpos := List.length_pos_iff.2 (String.utf8EncodeChar_ne_nil (c := c))
      rw [List.flatMap_cons, List.length_append, List.length_cons]
      omega
  exact decodeFrom_utf8 halves cs hfuel 0

/-- Text without a refused code point has no run of them. -/
theorem firstRun?_eq_none {refused : CodePoint → Bool} {t : Text}
    (h : ∀ c ∈ t, refused c = false) : firstRun? refused t = none := by
  have hbefore : t.takeWhile (fun c => !refused c) = t := by
    rw [List.takeWhile_eq_self_iff]
    intro c hc
    rw [h c hc, Bool.not_false]
  simp only [firstRun?, hbefore, List.drop_length, List.takeWhile_nil]

/-- Every character has octets in UTF-8. -/
theorem encodeUtf8_ofChars (cs : List Char) :
    encodeUtf8 (Text.ofChars cs) = .ok (cs.flatMap String.utf8EncodeChar) := by
  have hwhole : ∀ c ∈ Text.ofChars cs, (c.isHighSurrogate || c.isLowSurrogate) = false := by
    intro c hc
    obtain ⟨d, -, rfl⟩ := List.mem_map.1 hc
    rw [CodePoint.isHighSurrogate_scalar, CodePoint.isLowSurrogate_scalar, Bool.or_self]
  unfold encodeUtf8
  rw [firstRun?_eq_none hwhole, Text.ofChars, List.flatMap_map]
  rfl

end Octets

end FlagReplica
