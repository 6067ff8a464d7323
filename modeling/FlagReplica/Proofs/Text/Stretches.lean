import FlagReplica.Text.Basic

/-!
# Stretches of text

What holds of a text that is split at a separator: texts without the separator that are joined with
it can be told apart again (`splitOn_joinWith`), and whatever is put after a text without adding a
separator belongs to its last stretch (`exists_splitOn_append`). And what is left of a text whose
end is trimmed.
-/

namespace FlagReplica

/-- A letter or digit of ASCII. -/
def CodePoint.IsAlphanumeric : CodePoint → Prop
  | .scalar c => ('A' ≤ c ∧ c ≤ 'Z') ∨ ('a' ≤ c ∧ c ≤ 'z') ∨ ('0' ≤ c ∧ c ≤ '9')
  | .surrogate _ => False

instance : DecidablePred CodePoint.IsAlphanumeric
  | .scalar c => inferInstanceAs
      (Decidable (('A' ≤ c ∧ c ≤ 'Z') ∨ ('a' ≤ c ∧ c ≤ 'z') ∨ ('0' ≤ c ∧ c ≤ '9')))
  | .surrogate _ => inferInstanceAs (Decidable False)

theorem CodePoint.isAlphanumeric_scalar_iff {c : Char} :
    (scalar c).IsAlphanumeric ↔ c.isAlphanum = true := by
  have hclass : c.isAlphanum = (decide ('A' ≤ c ∧ c ≤ 'Z') ||
      (decide ('a' ≤ c) && decide (c ≤ 'z')) || (decide ('0' ≤ c) && decide (c ≤ '9'))) := rfl
  simp only [IsAlphanumeric, hclass, Bool.or_eq_true, Bool.and_eq_true, decide_eq_true_iff]
  rw [or_assoc]

namespace Text

variable {c : CodePoint} {s t : Text}

/-! ## Splitting and joining -/

theorem splitOn_cons_of_ne {d : CodePoint} (hd : d ≠ c) {first : Text} {others : List Text}
    (h : splitOn c t = first :: others) : splitOn c (d :: t) = (d :: first) :: others := by
  simp [splitOn, hd, h]

/-- A text without the separator is one stretch. -/
theorem splitOn_of_not_mem (h : c ∉ t) : splitOn c t = [t] := by
  induction t with
  | nil => rfl
  | cons d t ih =>
    rw [List.mem_cons, not_or] at h
    exact splitOn_cons_of_ne (Ne.symm h.1) (ih h.2)

/-- The first separator ends the first stretch. -/
theorem splitOn_append_cons (h : c ∉ s) : splitOn c (s ++ c :: t) = s :: splitOn c t := by
  induction s with
  | nil => simp [splitOn]
  | cons d s ih =>
    rw [List.mem_cons, not_or] at h
    exact splitOn_cons_of_ne (Ne.symm h.1) (ih h.2)

/-- Texts without the separator that are joined with it can be told apart again. -/
theorem splitOn_joinWith {parts : List Text} (hne : parts ≠ []) (h : ∀ p ∈ parts, c ∉ p) :
    splitOn c (joinWith [c] parts) = parts := by
  induction parts with
  | nil => exact absurd rfl hne
  | cons p parts ih =>
    have hp := h p List.mem_cons_self
    cases parts with
    | nil => exact splitOn_of_not_mem hp
    | cons q parts =>
      rw [joinWith, List.append_assoc, List.singleton_append, splitOn_append_cons hp,
        ih (List.cons_ne_nil q parts) fun r hr => h r (List.mem_cons_of_mem p hr)]

/-- What is put after a text and holds no separator belongs to the last stretch. -/
theorem exists_splitOn_append (c : CodePoint) (t : Text) :
    ∃ before last, (c ∉ t → before = [] ∧ last = t) ∧
      ∀ s, c ∉ s → splitOn c (t ++ s) = before ++ [last ++ s] := by
  induction t with
  | nil => exact ⟨[], [], fun _ => ⟨rfl, rfl⟩, fun s hs => splitOn_of_not_mem hs⟩
  | cons d t ih =>
    obtain ⟨before, last, hone, hsplit⟩ := ih
    by_cases hd : d = c
    · refine ⟨[] :: before, last, fun hc => absurd (hd ▸ List.mem_cons_self) hc, ?_⟩
      intro s hs
      simp [splitOn, hd, hsplit s hs]
    · -- the first stretch is one longer, be it the last one or not
      cases before with
      | nil =>
        refine ⟨[], d :: last, ?_, fun s hs => splitOn_cons_of_ne hd (hsplit s hs)⟩
        intro hc
        rw [(hone fun ht => hc (List.mem_cons_of_mem d ht)).2]
        exact ⟨rfl, rfl⟩
      | cons first before =>
        refine ⟨(d :: first) :: before, last, ?_, fun s hs => splitOn_cons_of_ne hd (hsplit s hs)⟩
        intro hc
        exact absurd (hone fun ht => hc (List.mem_cons_of_mem d ht)).1 (List.cons_ne_nil _ _)

/-! ## Trimming -/

/-- A text is what is left of it, followed by what was trimmed. -/
theorem exists_trimEnd (c : CodePoint) (t : Text) :
    ∃ n, t = trimEnd c t ++ List.replicate n c := by
  have htrimmed : ∀ d ∈ t.reverse.takeWhile (· == c), d = c := by
    intro d hd
    simpa using List.all_eq_true.1 List.all_takeWhile d hd
  refine ⟨(t.reverse.takeWhile (· == c)).length, ?_⟩
  rw [← List.reverse_replicate, ← List.eq_replicate_of_mem htrimmed, trimEnd,
    ← List.reverse_append, List.takeWhile_append_dropWhile, List.reverse_reverse]

/-- What is left has another end. -/
theorem getLast?_trimEnd (c : CodePoint) (t : Text) : (trimEnd c t).getLast? ≠ some c := by
  intro h
  have hnot := List.head?_dropWhile_not (· == c) t.reverse
  rw [trimEnd, List.getLast?_reverse] at h
  simp [h] at hnot

/-- What is trimmed makes no difference. -/
theorem trimEnd_append_replicate (t : Text) (n : Nat) :
    trimEnd c (t ++ List.replicate n c) = trimEnd c t := by
  rw [trimEnd, List.reverse_append, List.reverse_replicate, List.dropWhile_append_of_pos, trimEnd]
  intro d hd
  simpa using List.eq_of_mem_replicate hd

/-- A text is left as it is if there is nothing to trim. -/
theorem trimEnd_of_getLast? (h : t.getLast? ≠ some c) : trimEnd c t = t := by
  obtain ⟨n, hn⟩ := exists_trimEnd c t
  cases n with
  | zero => simpa using hn.symm
  | succ n =>
    rw [hn, List.replicate_succ', ← List.append_assoc, List.getLast?_concat] at h
    exact absurd rfl h

end Text

end FlagReplica
