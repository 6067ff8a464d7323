import FlagReplica.Json.Reader
import Mathlib.Data.List.TakeDrop
import Mathlib.Data.List.TakeWhile

/-!
# Integers of too many digits

The reader gives up at an integer of too many digits, whatever surrounds it. It does so only where
the text has that many digits in a row. Every part of the reader leaves an ending of what it was
given, so the digits that one part meets are digits of the whole text.
-/

namespace FlagReplica

/-- A text with so many digits in a row, which are too many for an integer. -/
structure Text.Overlong (t : Text) (count : Nat) : Prop where
  limit : digitLimit < count
  digits : ∃ digits : Text, digits <:+: t ∧ digits.length = count ∧ ∀ d ∈ digits, d.isDigit = true

/-- What an ending has in a row the whole text has in a row. -/
theorem Text.Overlong.of_suffix {s rest : Text} {count : Nat} (h : rest.Overlong count)
    (hs : rest <:+ s) : s.Overlong count := by
  rcases h.digits with ⟨digits, hinfix, hdigits⟩
  exact ⟨h.limit, digits, hinfix.trans hs.isInfix, hdigits⟩

namespace Json

/-- What a part of the reader may come to: a result and an ending of the text, or a stop, which is
for a number only if the text has too many digits in a row. -/
def Scans {α : Type} (s : Text) : Except Stop (α × Text) → Prop
  | .ok (_, rest) => rest <:+ s
  | .error (.problem _ _) => True
  | .error (.tooManyDigits count) => s.Overlong count

namespace Scans

variable {α β : Type} {s rest : Text}

/-- A part that is given an ending of a text reads the text. -/
theorem of_suffix {r : Except Stop (α × Text)} (h : Scans rest r) (hs : rest <:+ s) :
    Scans s r := by
  match r, h with
  | .ok (_, _), h => exact List.IsSuffix.trans h hs
  | .error (.problem _ _), _ => exact trivial
  | .error (.tooManyDigits _), h => exact Text.Overlong.of_suffix h hs

/-- One part after another. -/
theorem bind {r : Except Stop (α × Text)} {f : α × Text → Except Stop (β × Text)}
    (h : Scans s r) (hf : ∀ a rest, rest <:+ s → Scans s (f (a, rest))) : Scans s (r >>= f) := by
  match r, h with
  | .ok (a, rest), h => exact hf a rest h
  | .error (.problem _ _), _ => exact trivial
  | .error (.tooManyDigits _), h => exact h

end Scans

/-- Passing over blanks leaves an ending. -/
theorem skipBlanks_suffix {s rest : Text} (h : rest <:+ s) : skipBlanks rest <:+ s :=
  (List.dropWhile_suffix _).trans h

/-- So does taking a code point off. -/
theorem suffix_of_cons {s rest : Text} {c : CodePoint} (h : c :: rest <:+ s) : rest <:+ s :=
  (List.suffix_cons c rest).trans h

/-! ## Strings -/

theorem readPieces_scans (opening : Nat) (s : Text) : Scans s (readPieces opening s) := by
  fun_induction readPieces opening s with
  | case1 => exact trivial
  | case2 rest => exact List.suffix_cons _ _
  | case3 => exact trivial
  | case4 a b c d unit next rest hunit ih =>
    -- a unit named by its number takes six code points
    have hrest : next :: rest <:+ .scalar '\\' :: .scalar 'u' :: a :: b :: c :: d :: next :: rest :=
      ⟨[.scalar '\\', .scalar 'u', a, b, c, d], rfl⟩
    exact (ih.of_suffix hrest).bind fun _ _ h => h
  | case5 => exact trivial
  | case6 c rest hnot e hescape ih =>
    have hrest : rest <:+ .scalar '\\' :: c :: rest := ⟨[.scalar '\\', c], rfl⟩
    exact (ih.of_suffix hrest).bind fun _ _ h => h
  | case7 => exact trivial
  | case8 => exact trivial
  | case9 => exact trivial
  | case10 c rest _ _ _ _ _ ih =>
    exact (ih.of_suffix (List.suffix_cons c rest)).bind fun _ _ h => h

theorem readString_scans (s : Text) : Scans s (readString s) :=
  (readPieces_scans _ s).bind fun _ _ h => h

/-! ## Numbers -/

/-- The digits at the front of a text are digits, and what follows them is an ending. -/
theorem spanDigits_spec {s digits rest : Text} (h : spanDigits s = (digits, rest)) :
    s = digits ++ rest ∧ ∀ d ∈ digits, d.isDigit = true := by
  rw [spanDigits, List.span_eq_takeWhile_dropWhile] at h
  rcases Prod.mk.inj h with ⟨rfl, rfl⟩
  refine ⟨List.takeWhile_append_dropWhile.symm, ?_⟩
  intro d hd
  exact List.mem_takeWhile_imp hd

theorem readWhole?_spec {s digits rest : Text} (h : readWhole? s = some (digits, rest)) :
    s = digits ++ rest ∧ ∀ d ∈ digits, d.isDigit = true := by
  unfold readWhole? at h
  split at h
  · rcases Prod.mk.inj (Option.some.inj h) with ⟨rfl, rfl⟩
    refine ⟨rfl, ?_⟩
    intro d hd
    rw [List.mem_singleton.1 hd]
    decide
  · split at h
    · exact absurd h (by simp)
    · rename_i digits' rest' hspan
      rcases Prod.mk.inj (Option.some.inj h) with ⟨rfl, rfl⟩
      exact spanDigits_spec hspan

theorem readFraction?_suffix {s digits rest : Text} (h : readFraction? s = some (digits, rest)) :
    rest <:+ s := by
  unfold readFraction? at h
  split at h
  · rename_i s
    split at h
    · exact absurd h (by simp)
    · rename_i digits' rest' _ hspan
      rcases Prod.mk.inj (Option.some.inj h) with ⟨rfl, rfl⟩
      rw [(spanDigits_spec hspan).1]
      exact ⟨.scalar '.' :: digits', rfl⟩
  · exact absurd h (by simp)

theorem readExponent?_suffix {s rest : Text} {n : Int} (h : readExponent? s = some (n, rest)) :
    rest <:+ s := by
  unfold readExponent? at h
  split at h
  · rename_i c s
    split at h
    · dsimp only at h
      split at h
      · exact absurd h (by simp)
      · rename_i digits rest' _ hspan
        rcases Prod.mk.inj (Option.some.inj h) with ⟨-, rfl⟩
        have hdigits : digits ++ rest' <:+ s := by
          rw [← (spanDigits_spec hspan).1]
          -- a sign may stand before the digits
          split
          · exact List.suffix_cons _ _
          · exact List.suffix_cons _ _
          · exact List.suffix_refl _
        exact ((List.suffix_append _ _).trans hdigits).trans (List.suffix_cons _ _)
    · exact absurd h (by simp)
  · exact absurd h (by simp)

theorem readNumber_scans (s : Text) : Scans s (readNumber s) := by
  unfold readNumber
  dsimp only
  split
  · exact trivial
  · rename_i whole afterWhole hwhole
    rcases readWhole?_spec hwhole with ⟨heq, hdigits⟩
    have hunsigned : whole ++ afterWhole <:+ s := by
      rw [← heq]
      split
      · exact List.suffix_cons _ _
      · exact List.suffix_refl _
    have hafter : afterWhole <:+ s := (List.suffix_append _ _).trans hunsigned
    have hfraction : ((readFraction? afterWhole).getD ([], afterWhole)).2 <:+ s := by
      cases hread : readFraction? afterWhole with
      | none => exact hafter
      | some p => exact (readFraction?_suffix hread).trans hafter
    split
    · -- an integer
      split
      · rename_i hlimit
        have hinfix : whole <:+: s := (List.prefix_append _ _).isInfix.trans hunsigned.isInfix
        exact ⟨hlimit, whole, hinfix, rfl, hdigits⟩
      · exact hafter
    · change ((readExponent? _).getD (0, _)).2 <:+ s
      cases hread : readExponent? ((readFraction? afterWhole).getD ([], afterWhole)).2 with
      | none => exact hfraction
      | some p => exact (readExponent?_suffix hread).trans hfraction

/-! ## Values -/

theorem readLiteral?_suffix {s rest : Text} {v : Value} (h : readLiteral? s = some (v, rest)) :
    rest <:+ s := by
  rcases List.exists_of_findSome?_eq_some h with ⟨⟨word, w⟩, -, hw⟩
  rcases Option.map_eq_some_iff.1 hw with ⟨rest', hrest, heq⟩
  rcases Prod.mk.inj heq with ⟨-, rfl⟩
  rw [Text.eq_append_of_dropPrefix? hrest]
  exact List.suffix_append _ _

/-- What the three parts of the reader, which call each other, come to with some fuel. -/
structure ReadsEndings (fuel : Nat) : Prop where
  value : ∀ s, Scans s (readValue fuel s)
  items : ∀ s, Scans s (readItems fuel s)
  members : ∀ s, Scans s (readMembers fuel s)

namespace ReadsEndings

variable {fuel : Nat}

theorem readValue_succ (ih : ReadsEndings fuel) (s : Text) : Scans s (readValue (fuel + 1) s) := by
  unfold readValue
  split
  · -- a string
    rename_i rest
    exact ((readString_scans rest).of_suffix (List.suffix_cons _ _)).bind fun _ _ h => h
  · -- an array
    rename_i rest
    have hrest : skipBlanks rest <:+ .scalar '[' :: rest := skipBlanks_suffix (List.suffix_cons _ _)
    split
    · rename_i rest₁ hblanks
      rw [hblanks] at hrest
      exact suffix_of_cons hrest
    · exact ((ih.items _).of_suffix hrest).bind fun _ _ h => h
  · -- an object
    rename_i rest
    have hrest : skipBlanks rest <:+ .scalar '\x7b' :: rest :=
      skipBlanks_suffix (List.suffix_cons _ _)
    split
    · rename_i rest₁ hblanks
      rw [hblanks] at hrest
      exact suffix_of_cons hrest
    · exact ((ih.members _).of_suffix hrest).bind fun _ _ h => h
  · -- a literal or a number
    split
    · rename_i v rest hliteral
      exact readLiteral?_suffix hliteral
    · exact (readNumber_scans s).bind fun _ _ h => h

theorem readItems_succ (ih : ReadsEndings fuel) (s : Text) : Scans s (readItems (fuel + 1) s) := by
  unfold readItems
  refine (ih.value s).bind ?_
  intro v rest hrest
  have hblanks := skipBlanks_suffix hrest
  dsimp only
  split
  · rename_i rest₁ heq
    rw [heq] at hblanks
    exact suffix_of_cons hblanks
  · rename_i rest₁ heq
    rw [heq] at hblanks
    have hnext := skipBlanks_suffix (suffix_of_cons hblanks)
    exact ((ih.items _).of_suffix hnext).bind fun _ _ h => h
  · exact trivial

theorem readMembers_succ (ih : ReadsEndings fuel) (s : Text) :
    Scans s (readMembers (fuel + 1) s) := by
  unfold readMembers
  split
  · rename_i rest
    -- each part is read from what the part before it left, an ending of `s`
    refine ((readString_scans rest).of_suffix (List.suffix_cons _ _)).bind ?_
    intro name rest₁ hrest₁
    have hcolon := skipBlanks_suffix hrest₁
    dsimp only
    split
    · rename_i rest₂ heq
      rw [heq] at hcolon
      have hvalue := skipBlanks_suffix (suffix_of_cons hcolon)
      refine ((ih.value _).of_suffix hvalue).bind ?_
      intro v rest₃ hrest₃
      have hblanks := skipBlanks_suffix hrest₃
      dsimp only
      split
      · rename_i rest₄ heq
        rw [heq] at hblanks
        exact suffix_of_cons hblanks
      · rename_i rest₄ heq
        rw [heq] at hblanks
        have hnext := skipBlanks_suffix (suffix_of_cons hblanks)
        exact ((ih.members _).of_suffix hnext).bind fun _ _ h => h
      · exact trivial
    · exact trivial
  · exact trivial

end ReadsEndings

/-- The induction is on the fuel, which every call to another part takes from. -/
theorem readsEndings (fuel : Nat) : ReadsEndings fuel := by
  induction fuel with
  | zero => exact ⟨fun _ => trivial, fun _ => trivial, fun _ => trivial⟩
  | succ fuel ih => exact ⟨ih.readValue_succ, ih.readItems_succ, ih.readMembers_succ⟩

/-- A whole text is read by one part, and what follows the value is no matter of digits. -/
theorem readWholeText_overlong {s : Text} {count : Nat}
    (h : readWholeText s = .error (.tooManyDigits count)) : s.Overlong count := by
  have hvalue : Scans s (readValue (2 * (s.length + 1)) (skipBlanks s)) :=
    ((readsEndings _).value _).of_suffix (skipBlanks_suffix (List.suffix_refl s))
  unfold readWholeText at h
  cases hread : readValue (2 * (s.length + 1)) (skipBlanks s) with
  | error stop =>
    rw [hread] at h hvalue
    rcases Except.error.inj h with rfl
    exact hvalue
  | ok r =>
    rw [hread] at h
    rcases r with ⟨v, rest⟩
    dsimp only [Bind.bind, Except.bind] at h
    -- a text that goes on after its value is a problem of another kind
    split at h
    · cases h
    · cases h

/-- The reader gives up at a number only where the text has too many digits in a row. -/
theorem readDecoded_overlong {s : Text} {count : Nat}
    (h : readDecoded s = .error (.tooManyDigits count)) : s.Overlong count := by
  unfold readDecoded at h
  split at h
  · exact absurd h (by simp)
  · exact absurd h (by simp)
  · rename_i hwhole
    rcases ReadError.tooManyDigits.inj (Except.error.inj h) with rfl
    exact readWholeText_overlong hwhole

theorem read_overlong {s : Text} {count : Nat} (h : read s = .error (.tooManyDigits count)) :
    s.Overlong count := by
  unfold read at h
  split at h
  · exact absurd h (by simp)
  · exact readDecoded_overlong h

/-! ## Texts of ones -/

/-- So many ones. -/
def ones (n : Nat) : Text :=
  List.replicate n (.scalar '1')

theorem spanDigits_ones (n : Nat) : spanDigits (ones n) = (ones n, []) := by
  have hdigits : ∀ d ∈ ones n, d.isDigit = true := by
    intro d hd
    rw [List.eq_of_mem_replicate hd]
    decide
  rw [spanDigits, List.span_eq_takeWhile_dropWhile, List.takeWhile_eq_self_iff.2 hdigits,
    List.dropWhile_eq_nil_iff.2 hdigits]

theorem readNumber_ones {n : Nat} (h : digitLimit < n + 1) :
    readNumber (ones (n + 1)) = .error (.tooManyDigits (n + 1)) := by
  have hlength : (ones (n + 1)).length = n + 1 := List.length_replicate
  -- the first one begins the whole part, and the rest goes on with it
  have hwhole : readWhole? (ones (n + 1)) = some (ones (n + 1), []) := by
    unfold readWhole?
    split
    · rename_i hzero
      exact absurd (congrArg List.head? hzero) (by simp [ones, List.replicate_succ])
    · rw [spanDigits_ones]
      rfl
  have hlong : (ones (n + 1)).length > digitLimit := by
    rw [hlength]
    exact h
  unfold readNumber
  split
  rename_i negative unsigned hsign
  -- a one is no sign
  split at hsign
  · rename_i hminus
    exact absurd (congrArg List.head? hminus) (by simp [ones, List.replicate_succ])
  · rcases (Prod.mk.inj hsign).2 with rfl
    rw [hwhole]
    refine (if_pos hlong).trans ?_
    rw [hlength]

/-- The reader gives up at too many ones. -/
theorem read_ones {n : Nat} (h : digitLimit < n + 1) :
    read (ones (n + 1)) = .error (.tooManyDigits (n + 1)) := by
  have hvalue : ∀ fuel, readValue (fuel + 1) (ones (n + 1)) = .error (.tooManyDigits (n + 1)) := by
    intro fuel
    change (readNumber (ones (n + 1)) >>= fun r => Except.ok (Value.number r.1, r.2)) = _
    rw [readNumber_ones h]
    rfl
  have hwhole : readWholeText (ones (n + 1)) = .error (.tooManyDigits (n + 1)) := by
    change (readValue (2 * (ones (n + 1)).length + 1 + 1) (ones (n + 1)) >>= _) = _
    rw [hvalue]
    rfl
  change readDecoded (ones (n + 1)) = _
  rw [readDecoded, hwhole]

end Json

end FlagReplica
