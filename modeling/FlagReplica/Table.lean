/-!
# Ordered tables

A table is a list of entries in the order in which their keys first came. Writing to a key that is
there already changes its entry in place, so the order of the keys never changes by an update.
`get?_insert` says what a write does to every look-up.
-/

namespace FlagReplica

/-- Entries in the order in which their keys first came. -/
abbrev Table (κ : Type) (α : Type) := List (κ × α)

namespace Table

variable {κ α : Type} [DecidableEq κ]

/-- The value at a key: the first entry's, should the list hold several. -/
def get? : Table κ α → κ → Option α
  | [], _ => none
  | (k, a) :: rest, key => if k = key then some a else get? rest key

/-- Whether some entry has the key. -/
def contains (t : Table κ α) (key : κ) : Bool :=
  (t.get? key).isSome

/-- Writes a value, in place if the key is there and at the end if not. -/
def insert : Table κ α → κ → α → Table κ α
  | [], key, a => [(key, a)]
  | (k, b) :: rest, key, a => if k = key then (k, a) :: rest else (k, b) :: insert rest key a

/-- Removes the entry of a key. -/
def erase : Table κ α → κ → Table κ α
  | [], _ => []
  | (k, a) :: rest, key => if k = key then rest else (k, a) :: erase rest key

/-- The table that results from writing entries one after another: of several values for one key
the last counts, at the place of the first. -/
def ofEntries (entries : List (κ × α)) : Table κ α :=
  entries.foldl (fun t e => t.insert e.1 e.2) []

/-- The keys in order. -/
def keys (t : Table κ α) : List κ :=
  t.map (·.1)

@[simp] theorem get?_nil (key : κ) : get? ([] : Table κ α) key = none := rfl

/-- A write is seen at its key and nowhere else. -/
theorem get?_insert (t : Table κ α) (key other : κ) (a : α) :
    (t.insert key a).get? other = if key = other then some a else t.get? other := by
  induction t with
  | nil => simp [insert, get?]
  | cons e rest ih =>
    obtain ⟨k, b⟩ := e
    by_cases hk : k = key
    · subst hk
      by_cases ho : k = other <;> simp [insert, get?, ho]
    · by_cases ho : k = other
      · subst ho
        have : ¬ key = k := fun h => hk h.symm
        simp [insert, get?, hk, this]
      · simp [insert, get?, hk, ho, ih]

/-- Removing an entry leaves one entry less. -/
theorem length_erase {t : Table κ α} {key : κ} {a : α} (h : t.get? key = some a) :
    (t.erase key).length + 1 = t.length := by
  induction t with
  | nil => simp at h
  | cons e rest ih =>
    obtain ⟨k, b⟩ := e
    by_cases hk : k = key
    · simp [erase, hk]
    · simp only [get?, hk, if_false] at h
      simp [erase, hk, ih h]

/-- The keys after a write: the same ones, with a new key at the end. -/
theorem keys_insert (t : Table κ α) (key : κ) (a : α) :
    (t.insert key a).keys = if key ∈ t.keys then t.keys else t.keys ++ [key] := by
  induction t with
  | nil => simp [insert, keys]
  | cons e rest ih =>
    obtain ⟨k, b⟩ := e
    by_cases hk : k = key
    · simp [insert, keys, hk]
    · have hk' : ¬ key = k := fun h => hk h.symm
      simp only [keys] at ih
      by_cases hm : key ∈ rest.map (·.1)
      · simp only [hm, if_true] at ih
        simp [insert, keys, hk, hk', ih, hm]
      · simp only [hm, if_false] at ih
        simp [insert, keys, hk, hk', ih, hm]

end Table

end FlagReplica
