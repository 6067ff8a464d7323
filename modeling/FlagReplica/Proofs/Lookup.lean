import FlagReplica.Table

/-!
# Looking up in tables

In a table with distinct keys a look-up finds an entry wherever it stands, so that the order of the
entries makes no difference to what is found. Tables that are written entry by entry have distinct
keys.
-/

namespace FlagReplica.Table

variable {κ α β : Type} [DecidableEq κ]

/-- What a look-up finds is an entry of the table. -/
theorem mem_of_get? {t : Table κ α} {key : κ} {a : α} (h : t.get? key = some a) :
    (key, a) ∈ t := by
  induction t with
  | nil => simp at h
  | cons e rest ih =>
    rcases e with ⟨k, b⟩
    by_cases hk : k = key
    · subst hk
      simp only [get?, if_true, Option.some.injEq] at h
      simp [h]
    · simp only [get?, hk, if_false] at h
      exact List.mem_cons_of_mem _ (ih h)

/-- Nothing is found only where no entry has the key. -/
theorem not_mem_keys_of_get? {t : Table κ α} {key : κ} (h : t.get? key = none) :
    key ∉ t.keys := by
  induction t with
  | nil => simp [keys]
  | cons e rest ih =>
    rcases e with ⟨k, b⟩
    by_cases hk : k = key
    · simp [get?, hk] at h
    · simp only [get?, hk, if_false] at h
      have hk' : ¬ key = k := fun hsame => hk hsame.symm
      simpa [keys, hk'] using ih h

/-- Something is found under each key and under nothing else. -/
theorem mem_keys_iff {t : Table κ α} {key : κ} : key ∈ t.keys ↔ ∃ a, t.get? key = some a := by
  constructor
  · intro hkey
    cases h : t.get? key with
    | none => exact absurd hkey (not_mem_keys_of_get? h)
    | some a => exact ⟨a, rfl⟩
  · rintro ⟨a, h⟩
    exact List.mem_map.2 ⟨_, mem_of_get? h, rfl⟩

/-- With distinct keys every entry is found. -/
theorem get?_of_mem {t : Table κ α} (hd : t.keys.Nodup) {key : κ} {a : α} (h : (key, a) ∈ t) :
    t.get? key = some a := by
  induction t with
  | nil => simp at h
  | cons e rest ih =>
    rcases e with ⟨k, b⟩
    simp only [keys, List.map_cons, List.nodup_cons] at hd
    rcases List.mem_cons.1 h with he | hrest
    · rcases Prod.mk.inj he with ⟨rfl, rfl⟩
      simp [get?]
    · -- the first entry has another key
      have hk : k ≠ key := by
        rintro rfl
        exact hd.1 (List.mem_map.2 ⟨_, hrest, rfl⟩)
      simp only [get?, hk, if_false]
      exact ih hd.2 hrest

theorem get?_eq_some_iff {t : Table κ α} (hd : t.keys.Nodup) {key : κ} {a : α} :
    t.get? key = some a ↔ (key, a) ∈ t :=
  ⟨mem_of_get?, get?_of_mem hd⟩

/-- With distinct keys the order of the entries makes no difference. -/
theorem get?_of_perm {t t' : Table κ α} (hp : t.Perm t') (hd : t.keys.Nodup) (key : κ) :
    t'.get? key = t.get? key := by
  have hd' : t'.keys.Nodup := (hp.map _).nodup hd
  apply Option.ext
  intro a
  rw [get?_eq_some_iff hd', get?_eq_some_iff hd]
  exact hp.symm.mem_iff

/-- A look-up among changed values. -/
theorem get?_map (t : Table κ α) (f : κ → α → β) (key : κ) :
    get? (t.map fun e => (e.1, f e.1 e.2)) key = (t.get? key).map (f key) := by
  induction t with
  | nil => rfl
  | cons e rest ih =>
    rcases e with ⟨k, a⟩
    by_cases hk : k = key
    · subst hk
      simp [get?]
    · simp [get?, hk, ih]

/-- A look-up in two tables in a row goes to the second one if the first has no such key. -/
theorem get?_append (t u : Table κ α) (key : κ) :
    get? (t ++ u) key = (t.get? key).or (u.get? key) := by
  induction t with
  | nil => rfl
  | cons e rest ih =>
    rcases e with ⟨k, a⟩
    by_cases hk : k = key
    · simp [get?, hk]
    · simpa [get?, hk] using ih

/-- An entry that is there can be put in front of the others. -/
theorem perm_cons_erase {t : Table κ α} {key : κ} {a : α} (h : t.get? key = some a) :
    t.Perm ((key, a) :: t.erase key) := by
  induction t with
  | nil => simp at h
  | cons e rest ih =>
    rcases e with ⟨k, b⟩
    by_cases hk : k = key
    · subst hk
      simp only [get?, if_true, Option.some.injEq] at h
      simp [erase, h]
    · simp only [get?, hk, if_false] at h
      simp only [erase, hk, if_false]
      exact ((ih h).cons _).trans (List.Perm.swap _ _ _)

/-! ## Tables that are written entry by entry -/

theorem keys_insert_nodup {t : Table κ α} (hd : t.keys.Nodup) (key : κ) (a : α) :
    (t.insert key a).keys.Nodup := by
  rw [keys_insert]
  split
  · exact hd
  · rename_i hkey
    rw [List.nodup_append]
    refine ⟨hd, by simp, ?_⟩
    intro k hk k' hk' he
    rw [List.mem_singleton.1 hk'] at he
    exact hkey (he ▸ hk)

/-- A written table holds what it held and what was written. -/
theorem mem_insert {t : Table κ α} {key : κ} {a : α} {e : κ × α} (h : e ∈ t.insert key a) :
    e ∈ t ∨ e = (key, a) := by
  induction t with
  | nil => exact Or.inr (by simpa [insert] using h)
  | cons e' rest ih =>
    rcases e' with ⟨k, b⟩
    by_cases hk : k = key
    · subst hk
      simp only [insert, if_true, List.mem_cons] at h
      rcases h with h | h
      · exact Or.inr h
      · exact Or.inl (List.mem_cons_of_mem _ h)
    · simp only [insert, hk, if_false, List.mem_cons] at h
      rcases h with h | h
      · exact Or.inl (by simp [h])
      · rcases ih h with h | h
        · exact Or.inl (List.mem_cons_of_mem _ h)
        · exact Or.inr h

/-- Writing entries one after another keeps the keys distinct and adds no entry of its own. -/
theorem foldl_insert_spec (entries : List (κ × α)) {t : Table κ α} (hd : t.keys.Nodup) :
    (entries.foldl (fun t e => t.insert e.1 e.2) t).keys.Nodup ∧
      ∀ e ∈ entries.foldl (fun t e => t.insert e.1 e.2) t, e ∈ t ∨ e ∈ entries := by
  induction entries generalizing t with
  | nil => exact ⟨hd, fun e h => Or.inl h⟩
  | cons e entries ih =>
    rcases ih (keys_insert_nodup hd e.1 e.2) with ⟨hnodup, hmem⟩
    refine ⟨hnodup, ?_⟩
    intro e' he'
    rcases hmem e' he' with h | h
    · rcases mem_insert h with h | h
      · exact Or.inl h
      · exact Or.inr (by simp [h])
    · exact Or.inr (List.mem_cons_of_mem _ h)

/-- Of several entries for one key only one remains. -/
theorem ofEntries_keys_nodup (entries : List (κ × α)) : (ofEntries entries).keys.Nodup :=
  (foldl_insert_spec entries (t := []) (by simp [keys])).1

/-- Writing under a new key adds an entry at the end. -/
theorem insert_of_not_mem {t : Table κ α} {key : κ} (h : key ∉ t.keys) (a : α) :
    t.insert key a = t ++ [(key, a)] := by
  induction t with
  | nil => rfl
  | cons e rest ih =>
    rcases e with ⟨k, b⟩
    simp only [keys, List.map_cons, List.mem_cons, not_or] at h
    have hk : ¬ k = key := fun hsame => h.1 hsame.symm
    simp [insert, hk, ih h.2]

/-- Entries with distinct keys make up a table as they are. -/
theorem ofEntries_of_nodup {entries : Table κ α} (hd : entries.keys.Nodup) :
    ofEntries entries = entries := by
  -- what is written already and what is still to be written have no key in common
  have hwrite : ∀ (todo t : Table κ α), (t ++ todo).keys.Nodup →
      todo.foldl (fun t e => t.insert e.1 e.2) t = t ++ todo := by
    intro todo
    induction todo with
    | nil =>
      intro t _
      simp
    | cons e todo ih =>
      intro t hnodup
      have hnew : e.1 ∉ t.keys := by
        simp only [keys, List.map_append, List.map_cons] at hnodup
        intro hmem
        exact (List.nodup_append.1 hnodup).2.2 _ hmem _ List.mem_cons_self rfl
      rw [List.foldl_cons, insert_of_not_mem hnew, ih _ (by simpa using hnodup)]
      simp
  exact hwrite entries [] hd

theorem mem_of_mem_ofEntries {entries : List (κ × α)} {e : κ × α} (h : e ∈ ofEntries entries) :
    e ∈ entries := by
  rcases (foldl_insert_spec entries (t := []) (by simp [keys])).2 e h with h | h
  · simp at h
  · exact h

end FlagReplica.Table
