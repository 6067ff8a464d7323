import FlagReplica.Proofs.Text.Stretches
import FlagReplica.Proofs.Text.Utf8
import FlagReplica.Text.FormEncoding

/-!
# Form encoding read back

The reader of form-encoded text, and what it makes of text that was encoded: octet by octet the
reader finds what was written, whatever follows (`octets_encodeOctet`), so that every string is read
back as it was. What is written holds none of the marks that mean something in a query.
-/

namespace FlagReplica.FormEncoding

/-- The octets that a form-encoded text stands for. A plus sign stands for a space, a percent sign
with two hexadecimal digits after it for the octet that they name, and all else for itself. -/
def octets : Text → List UInt8
  | .scalar '+' :: rest => 0x20 :: octets rest
  | .scalar '%' :: a :: b :: rest =>
    match a.hexDigit?, b.hexDigit? with
    | some high, some low => .ofNat (high * 16 + low) :: octets rest
    | _, _ => 0x25 :: octets (a :: b :: rest)
  | c :: rest => Octets.utf8Octets c ++ octets rest
  | [] => []

/-- The text that a form-encoded text stands for, if its octets spell one in UTF-8. -/
def decode (t : Text) : Except Octets.Refusal Text :=
  (Octets.utf8 false).decode 0 (octets t)

/-- The encoding of a string, which there always is. -/
def written (s : String) : Text :=
  Text.ofChars ((s.toList.flatMap String.utf8EncodeChar).flatMap encodeOctet)

theorem encode_ofString (s : String) :
    ∃ encoded, encode s = .ok encoded ∧ Text.ofChars encoded = written s := by
  refine ⟨_, ?_, rfl⟩
  rw [encode, Text.ofString, Octets.encodeUtf8_ofChars]
  rfl

/-! ## What is written -/

/-- The characters that are written: letters, digits and six marks. -/
def IsWritten (c : CodePoint) : Prop :=
  c.IsAlphanumeric ∨ c ∈ ("_.~+%-" : Text)

instance : DecidablePred IsWritten :=
  fun c => inferInstanceAs (Decidable (c.IsAlphanumeric ∨ c ∈ ("_.~+%-" : Text)))

theorem isWritten_of_isPlain {b : UInt8} (h : isPlain b = true) :
    IsWritten (.scalar (Char.ofNat b.toNat)) := by
  simp only [isPlain, Bool.and_eq_true, Bool.or_eq_true, beq_iff_eq] at h
  rcases h.2 with (((halnum | hmark) | hmark) | hmark) | hmark
  · exact Or.inl (CodePoint.isAlphanumeric_scalar_iff.2 halnum)
  all_goals
    rw [hmark]
    exact Or.inr (by decide)

theorem isWritten_upperHex {n : Nat} (h : n < 16) : IsWritten (.scalar (upperHex n)) := by
  have hall : ∀ n < 16, (upperHex n).isAlphanum = true := by decide
  exact Or.inl (CodePoint.isAlphanumeric_scalar_iff.2 (hall n h))

theorem isWritten_of_mem_encodeOctet {b : UInt8} {c : Char} (h : c ∈ encodeOctet b) :
    IsWritten (.scalar c) := by
  have hbound := b.toNat_lt
  unfold encodeOctet at h
  split at h
  · rename_i hplain
    rw [List.mem_singleton.1 h]
    exact isWritten_of_isPlain hplain
  · split at h
    · rw [List.mem_singleton.1 h]
      exact Or.inr (by decide)
    · simp only [List.mem_cons, List.not_mem_nil, or_false] at h
      rcases h with rfl | rfl | rfl
      · exact Or.inr (by decide)
      · exact isWritten_upperHex (by omega)
      · exact isWritten_upperHex (by omega)

theorem isWritten_of_mem_written {s : String} {c : CodePoint} (h : c ∈ written s) :
    IsWritten c := by
  obtain ⟨d, hd, rfl⟩ := List.mem_map.1 h
  obtain ⟨b, -, hb⟩ := List.mem_flatMap.1 hd
  exact isWritten_of_mem_encodeOctet hb

/-! ## What is read -/

theorem octets_escape {a b : CodePoint} {high low : Nat} (ha : a.hexDigit? = some high)
    (hb : b.hexDigit? = some low) (rest : Text) :
    octets (.scalar '%' :: a :: b :: rest) = .ofNat (high * 16 + low) :: octets rest := by
  rw [octets, ha, hb]

theorem octets_plain {c : Char} (hplus : c ≠ '+') (hpercent : c ≠ '%') (rest : Text) :
    octets (.scalar c :: rest) = String.utf8EncodeChar c ++ octets rest := by
  rw [octets]
  · rfl
  · simpa using hplus
  · intro a b rest' hc
    exact absurd (CodePoint.scalar.inj hc) hpercent

theorem hexDigit?_upperHex {n : Nat} (h : n < 16) :
    (CodePoint.scalar (upperHex n)).hexDigit? = some n := by
  have hall : ∀ n < 16, (CodePoint.scalar (upperHex n)).hexDigit? = some n := by decide
  exact hall n h

/-- An octet that stands for itself is none of the two marks that the reader looks for, and it is
all of its character. -/
theorem octets_of_isPlain {b : UInt8} (h : isPlain b = true) (rest : Text) :
    octets (.scalar (Char.ofNat b.toNat) :: rest) = b :: octets rest := by
  simp only [isPlain, Bool.and_eq_true, decide_eq_true_iff] at h
  have hbelow : b.toNat < 0x80 := UInt8.lt_iff_toNat_lt.1 h.1
  have hplus : Char.ofNat b.toNat ≠ '+' := by
    intro hc
    rw [hc] at h
    exact absurd h.2 (by decide)
  have hpercent : Char.ofNat b.toNat ≠ '%' := by
    intro hc
    rw [hc] at h
    exact absurd h.2 (by decide)
  have hnumber : (Char.ofNat b.toNat).val.toNat = b.toNat := by
    have hvalid : b.toNat.isValidChar := Or.inl (by omega)
    rw [Char.ofNat, dif_pos hvalid]
    rfl
  rw [octets_plain hplus hpercent]
  simp [String.utf8EncodeChar, hnumber, Nat.le_of_lt_succ hbelow]

/-- An octet is read back from its encoding, whatever follows. -/
theorem octets_encodeOctet (b : UInt8) (rest : Text) :
    octets (Text.ofChars (encodeOctet b) ++ rest) = b :: octets rest := by
  have hbound := b.toNat_lt
  unfold encodeOctet
  split
  · rename_i hplain
    exact octets_of_isPlain hplain rest
  · split
    · rename_i hspace
      rw [hspace]
      rfl
    · have hnumber : UInt8.ofNat (b.toNat / 16 * 16 + b.toNat % 16) = b := by
        rw [Nat.div_add_mod', UInt8.ofNat_toNat]
      have hread := octets_escape (hexDigit?_upperHex (n := b.toNat / 16) (by omega))
        (hexDigit?_upperHex (n := b.toNat % 16) (by omega)) rest
      rw [hnumber] at hread
      exact hread

theorem octets_encoded (bs : List UInt8) (rest : Text) :
    octets (Text.ofChars (bs.flatMap encodeOctet) ++ rest) = bs ++ octets rest := by
  induction bs with
  | nil => rfl
  | cons b bs ih =>
    rw [List.flatMap_cons, Text.ofChars_append, List.append_assoc, octets_encodeOctet, ih]
    rfl

/-- A string is read back from its encoding. -/
theorem decode_written (s : String) : decode (written s) = .ok (s : Text) := by
  have hread := octets_encoded (s.toList.flatMap String.utf8EncodeChar) []
  rw [List.append_nil] at hread
  rw [decode, written, hread, octets, List.append_nil]
  exact Octets.decode_utf8 false s.toList

/-- Different strings have different encodings. -/
theorem written_inj {s t : String} : written s = written t ↔ s = t := by
  refine ⟨?_, fun h => h ▸ rfl⟩
  intro h
  have hread := decode_written s
  rw [h, decode_written t] at hread
  exact (Text.ofString_inj.1 (Except.ok.inj hread)).symm

end FlagReplica.FormEncoding
