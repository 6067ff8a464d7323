/-!
# Runs

Happenings one after another, for any step relation whose steps carry a label. A run can be taken
apart at any of its happenings.
-/

namespace FlagReplica

/-- Happenings one after another, the latest at the end. -/
inductive Runs {σ α : Type} (step : σ → α → σ → Prop) (s : σ) : List α → σ → Prop where
  | nil : Runs step s [] s
  | snoc {past : List α} {s' s'' : σ} {a : α} (run : Runs step s past s') (next : step s' a s'') :
      Runs step s (past ++ [a]) s''

namespace Runs

variable {σ α : Type} {step : σ → α → σ → Prop} {s s' s'' : σ} {past later : List α}

/-- One run after another. -/
theorem trans (h : Runs step s past s') (h' : Runs step s' later s'') :
    Runs step s (past ++ later) s'' := by
  induction h' with
  | nil => simpa using h
  | snoc _ next ih =>
    rw [← List.append_assoc]
    exact ih.snoc next

/-- A run comes to each of its happenings. -/
theorem split {before after : List α} {a : α} (h : Runs step s (before ++ a :: after) s') :
    ∃ s₁ s₂, Runs step s before s₁ ∧ step s₁ a s₂ ∧ Runs step s₂ after s' := by
  generalize hpast : before ++ a :: after = past at h
  induction h generalizing after with
  | nil => simp at hpast
  | @snoc past t t' b run next ih =>
    -- the happening is the latest one, or comes before it
    rcases List.eq_nil_or_concat after with hlast | ⟨after', b', hmore⟩
    · subst hlast
      obtain ⟨hbefore, hsame⟩ := List.append_inj' hpast rfl
      obtain ⟨rfl, -⟩ := List.cons.inj hsame
      subst hbefore
      exact ⟨t, t', run, next, .nil⟩
    · rw [hmore, List.concat_eq_append, ← List.cons_append, ← List.append_assoc] at hpast
      obtain ⟨hinit, hsame⟩ := List.append_inj' hpast rfl
      obtain ⟨rfl, -⟩ := List.cons.inj hsame
      obtain ⟨s₁, s₂, hbefore, hstep, hafter⟩ := ih hinit
      refine ⟨s₁, s₂, hbefore, hstep, ?_⟩
      rw [hmore, List.concat_eq_append]
      exact hafter.snoc next

end Runs

end FlagReplica
