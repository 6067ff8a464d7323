import FlagReplica.Json.Reader
import FlagReplica.Json.Writer

/-!
# Strings that were written

The reader takes from a written string the text that was written, whatever follows the closing
quote. A character stands for itself, or is written by a two-character escape, by the escape of its
number, or by the escapes of the two halves of its surrogate pair. In each case the reader finds
pieces that join to the character again (`readsAs_written`), and no two characters run together.
-/

namespace FlagReplica

/-- A text of characters only. -/
def Text.OfScalars (t : Text) : Prop :=
  ∃ cs : List Char, t = .ofChars cs

@[simp] theorem Text.ofScalars_ofString (s : String) : (Text.ofString s).OfScalars :=
  ⟨s.toList, rfl⟩

@[simp] theorem Text.ofChars_nil : ofChars [] = [] := rfl

@[simp]
theorem Text.ofChars_cons (c : Char) (cs : List Char) :
    ofChars (c :: cs) = .scalar c :: ofChars cs :=
  List.map_cons

@[simp]
theorem Text.ofChars_append (cs ds : List Char) : ofChars (cs ++ ds) = ofChars cs ++ ofChars ds :=
  List.map_append

namespace CodePoint

/-- A number below the number of code points is that of the code point it names. -/
theorem toNat_ofNat {n : Nat} (h : n < 0x110000) : (ofNat n).toNat = n := by
  unfold ofNat
  split
  · rename_i hsurrogate
    simp only [toNat]
    omega
  · have hvalid : n.isValidChar := by
      unfold Nat.isValidChar
      omega
    rw [toNat, Char.ofNat, dif_pos hvalid]
    rfl

/-- A character is not one half of a surrogate pair, nor is its number past the last one. -/
theorem toNat_bounds (c : Char) : (c.toNat < 0xD800 ∨ 0xE000 ≤ c.toNat) ∧ c.toNat < 0x110000 := by
  have hvalid : c.toNat.isValidChar := c.valid
  unfold Nat.isValidChar at hvalid
  omega

/-- A character is named by its number. -/
theorem ofNat_toNat (c : Char) : ofNat c.toNat = scalar c := by
  have hbounds := (toNat_bounds c).1
  unfold ofNat
  rw [dif_neg (by omega), Char.ofNat_toNat]

/-- A character is no first half of a surrogate pair. -/
theorem isHighSurrogate_scalar (c : Char) : (scalar c).isHighSurrogate = false := by
  have hbounds := (toNat_bounds c).1
  rw [Bool.eq_false_iff]
  intro hhigh
  rw [isHighSurrogate, Bool.and_eq_true, decide_eq_true_iff, decide_eq_true_iff] at hhigh
  simp only [toNat] at hhigh
  omega

theorem hexDigit?_digitChar {n : Nat} (h : n < 16) :
    (scalar (Nat.digitChar n)).hexDigit? = some n := by
  have hall : ∀ n < 16, (scalar (Nat.digitChar n)).hexDigit? = some n := by decide
  exact hall n h

end CodePoint

namespace Json

/-- A written string, with its quotes and what follows it. -/
theorem ofChars_quoted (t rest : Text) :
    Text.ofChars (quoted t) ++ rest =
      .scalar '"' :: (Text.ofChars (t.flatMap written) ++ .scalar '"' :: rest) := by
  simp [quoted]

/-- Characters inside a string that the reader takes for a code point, whatever comes before and
after them. It finds pieces in them, and these join to the code point. -/
def ReadsAs (cs : List Char) (c : CodePoint) : Prop :=
  ∃ pieces : List Piece,
    (∀ opening rest, rest ≠ [] → readPieces opening (Text.ofChars cs ++ rest) = do
      let (more, rest) ← readPieces opening rest
      return (pieces ++ more, rest)) ∧
    ∀ more, joinPieces (pieces ++ more) = c :: joinPieces more

/-! ## The four ways of writing a character -/

theorem readsAs_plain {c : Char} (hquote : c ≠ '"') (hescape : c ≠ '\\')
    (hprintable : 0x20 ≤ c.toNat) : ReadsAs [c] (.scalar c) := by
  refine ⟨[.plain (.scalar c)], ?_, ?_⟩
  · intro opening rest _
    have hcontrol : ¬ (CodePoint.scalar c).toNat < 0x20 := Nat.not_lt.2 hprintable
    simp [Text.ofChars, readPieces, hquote, hescape, hcontrol]
  · intro more
    rfl

theorem readsAs_short {c e : Char} (hshort : shortEscape? (.scalar e) = some c) :
    ReadsAs ['\\', e] (.scalar c) := by
  refine ⟨[.plain (.scalar c)], ?_, ?_⟩
  · intro opening rest _
    -- the mark of a number stands for no character
    have hu : e ≠ 'u' := by
      rintro rfl
      cases hshort
    simp [Text.ofChars, readPieces, hu, hshort]
  · intro more
    rfl

theorem hexFour?_unitEscape {n : Nat} (h : n < 0x10000) :
    hexFour? (.scalar (Nat.digitChar (n / 0x1000 % 16))) (.scalar (Nat.digitChar (n / 0x100 % 16)))
      (.scalar (Nat.digitChar (n / 0x10 % 16))) (.scalar (Nat.digitChar (n % 16))) = some n := by
  unfold hexFour?
  rw [CodePoint.hexDigit?_digitChar (by omega), CodePoint.hexDigit?_digitChar (by omega),
    CodePoint.hexDigit?_digitChar (by omega), CodePoint.hexDigit?_digitChar (by omega)]
  have hnumber :
      ((n / 0x1000 % 16 * 16 + n / 0x100 % 16) * 16 + n / 0x10 % 16) * 16 + n % 16 = n := by
    omega
  exact congrArg some hnumber

/-- The escape of a unit is read as one piece, unless the text ends with it. -/
theorem readPieces_unitEscape {n : Nat} (h : n < 0x10000) (opening : Nat) {rest : Text}
    (hrest : rest ≠ []) :
    readPieces opening (Text.ofChars (unitEscape n) ++ rest) = do
      let (more, rest) ← readPieces opening rest
      return (.named n :: more, rest) := by
  -- the reader looks whether something comes after the four digits
  obtain ⟨c, rest, rfl⟩ := List.exists_cons_of_ne_nil hrest
  simp [Text.ofChars, unitEscape, readPieces, hexFour?_unitEscape h]

theorem readsAs_unit {c : Char} (h : c.toNat < 0x10000) :
    ReadsAs (unitEscape c.toNat) (.scalar c) := by
  refine ⟨[.named c.toNat], ?_, ?_⟩
  · intro opening rest hrest
    exact readPieces_unitEscape h opening hrest
  · intro more
    -- a unit that is named next does not join with it
    cases more with
    | nil => simp [joinPieces, CodePoint.ofNat_toNat]
    | cons next more =>
      cases next with
      | named unit =>
        simp [joinPieces, CodePoint.ofNat_toNat, CodePoint.isHighSurrogate_scalar]
      | plain d => simp [joinPieces, CodePoint.ofNat_toNat]

theorem readsAs_pair {c : Char} (h : 0x10000 ≤ c.toNat) :
    ReadsAs (unitEscape (0xD800 + (c.toNat - 0x10000) / 0x400) ++
      unitEscape (0xDC00 + (c.toNat - 0x10000) % 0x400)) (.scalar c) := by
  have hbound := (CodePoint.toNat_bounds c).2
  -- of the twenty bits past the first plane each half names ten
  generalize hn : c.toNat - 0x10000 = n
  have hhigh : (CodePoint.ofNat (0xD800 + n / 0x400)).toNat = 0xD800 + n / 0x400 :=
    CodePoint.toNat_ofNat (by omega)
  have hlow : (CodePoint.ofNat (0xDC00 + n % 0x400)).toNat = 0xDC00 + n % 0x400 :=
    CodePoint.toNat_ofNat (by omega)
  refine ⟨[.named (0xD800 + n / 0x400), .named (0xDC00 + n % 0x400)], ?_, ?_⟩
  · intro opening rest hrest
    have hnext : Text.ofChars (unitEscape (0xDC00 + n % 0x400)) ++ rest ≠ [] := by
      simp [Text.ofChars, unitEscape]
    rw [Text.ofChars_append, List.append_assoc, readPieces_unitEscape (by omega) opening hnext,
      readPieces_unitEscape (by omega) opening hrest, bind_assoc]
    rfl
  · intro more
    have hfirst : (CodePoint.ofNat (0xD800 + n / 0x400)).isHighSurrogate = true := by
      simp only [CodePoint.isHighSurrogate, hhigh, Bool.and_eq_true, decide_eq_true_iff]
      omega
    have hsecond : (CodePoint.ofNat (0xDC00 + n % 0x400)).isLowSurrogate = true := by
      simp only [CodePoint.isLowSurrogate, hlow, Bool.and_eq_true, decide_eq_true_iff]
      omega
    have hjoined : 0x10000 + (0xD800 + n / 0x400 - 0xD800) * 0x400 + (0xDC00 + n % 0x400 - 0xDC00) =
        c.toNat := by
      omega
    simp only [List.cons_append, List.nil_append, joinPieces, hfirst, hsecond, Bool.and_self,
      if_true, CodePoint.joinSurrogates, hhigh, hlow, hjoined, CodePoint.ofNat_toNat]

/-- A character is read as itself, however it was written. -/
theorem readsAs_written (c : Char) : ReadsAs (written (.scalar c)) (.scalar c) := by
  unfold written
  split
  -- first the characters that have a two-character escape, then all others
  case h_1 hc | h_2 hc | h_3 hc | h_4 hc | h_5 hc | h_6 hc | h_7 hc =>
    obtain rfl := CodePoint.scalar.inj hc
    exact readsAs_short rfl
  case h_8 d hquote hescape _ _ _ _ _ hc =>
    obtain rfl := CodePoint.scalar.inj hc
    split
    · rename_i hprintable
      refine readsAs_plain ?_ ?_ hprintable.1
      · rintro rfl
        exact hquote rfl
      · rintro rfl
        exact hescape rfl
    · split
      · rename_i hunit
        exact readsAs_unit hunit
      · rename_i hunit
        exact readsAs_pair (Nat.not_lt.1 hunit)
  case h_9 hc => cases hc

/-! ## Strings -/

/-- The pieces of a written text join to it. -/
theorem readPieces_written (cs : List Char) (opening : Nat) (rest : Text) :
    ∃ pieces, readPieces opening
        (Text.ofChars ((Text.ofChars cs).flatMap written) ++ .scalar '"' :: rest) =
          .ok (pieces, rest) ∧ joinPieces pieces = Text.ofChars cs := by
  induction cs with
  | nil => exact ⟨[], by simp [Text.ofChars, readPieces], rfl⟩
  | cons c cs ih =>
    obtain ⟨more, hmore, hjoined⟩ := ih
    obtain ⟨pieces, hpieces, hjoin⟩ := readsAs_written c
    refine ⟨pieces ++ more, ?_, ?_⟩
    · have hrest :
          Text.ofChars ((Text.ofChars cs).flatMap written) ++ .scalar '"' :: rest ≠ [] := by
        simp
      rw [Text.ofChars_cons, List.flatMap_cons, Text.ofChars_append, List.append_assoc,
        hpieces opening _ hrest, hmore]
      rfl
    · rw [hjoin, hjoined]
      rfl

/-- A string that was written is read as what was written, and the reader goes on after its closing
quote. -/
theorem readString_written {t : Text} (ht : t.OfScalars) (rest : Text) :
    readString (Text.ofChars (t.flatMap written) ++ .scalar '"' :: rest) = .ok (t, rest) := by
  obtain ⟨cs, rfl⟩ := ht
  unfold readString
  obtain ⟨pieces, hpieces, hjoined⟩ := readPieces_written cs
    ((Text.ofChars ((Text.ofChars cs).flatMap written) ++ .scalar '"' :: rest).length + 1) rest
  rw [hpieces, ← hjoined]
  rfl

end Json

end FlagReplica
