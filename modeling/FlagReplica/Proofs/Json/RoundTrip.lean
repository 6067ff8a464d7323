import FlagReplica.Proofs.Json.Alike
import FlagReplica.Proofs.Json.Numeral

/-!
# Values that were written

The reader takes from the compact form of a value that value, at every depth: its members in their
own order, its integers whole, its strings character by character. This holds of the values whose
numbers are integers within the limit of digits and whose texts are of characters; `read_compact`
says so of a text that is the compact form and nothing else.
-/

namespace FlagReplica

/-- An integer that has no more digits than the limit. -/
def Number.Writable (n : Number) : Prop :=
  ∃ i : Int, n = .integer i ∧ (Nat.toDigits 10 i.natAbs).length ≤ digitLimit

namespace Json

/-- A value that can be written and read again: each number in it is an integer within the limit of
digits, and each text is of characters. -/
abbrev Value.Portable : Value → Prop :=
  MadeOf Number.Writable Text.OfScalars

/-- A character that a value can begin with: no blank, and nothing that closes a list or says how
the text is encoded. -/
structure Opens (c : Char) : Prop where
  solid : isBlank (.scalar c) = false
  ne_bracket : c ≠ ']'
  ne_mark : c ≠ '\uFEFF'

/-- The reader takes from the compact form of a value that value, and stops after it. -/
structure Reads (v : Value) : Prop where
  opens : ∃ c cs, v.compact = c :: cs ∧ Opens c
  read : ∀ fuel rest, v.compact.length ≤ fuel → Delimited rest →
    readValue fuel (Text.ofChars v.compact ++ rest) = .ok (v, rest)

theorem Opens.skipBlanks {c : Char} (h : Opens c) (s : Text) :
    skipBlanks (.scalar c :: s) = .scalar c :: s := by
  simp [Json.skipBlanks, h.solid]

/-- No blanks come before a value. -/
theorem skipBlanks_ofChars {cs : List Char} (h : ∃ d ds, cs = d :: ds ∧ Opens d) (rest : Text) :
    skipBlanks (Text.ofChars cs ++ rest) = Text.ofChars cs ++ rest := by
  obtain ⟨d, ds, rfl, hopens⟩ := h
  exact hopens.skipBlanks _

theorem ne_of_isDigit {d : Char} (h : d.isDigit = true) (c : Char) (hc : c.isDigit = false) :
    d ≠ c := by
  rintro rfl
  rw [h] at hc
  cases hc

theorem opens_of_isDigit {d : Char} (h : d.isDigit = true) : Opens d := by
  refine ⟨?_, ne_of_isDigit h _ rfl, ne_of_isDigit h _ (by decide)⟩
  simp [isBlank, ne_of_isDigit h ' ' rfl, ne_of_isDigit h '\t' rfl, ne_of_isDigit h '\n' rfl,
    ne_of_isDigit h '\r' rfl]

/-- No literal begins with a digit, nor with a sign and a digit. -/
theorem readLiteral?_of_isDigit {d : Char} (h : d.isDigit = true) (s : Text) :
    readLiteral? (.scalar d :: s) = none ∧ readLiteral? (.scalar '-' :: .scalar d :: s) = none := by
  have hn := (ne_of_isDigit h 'n' rfl).symm
  have ht := (ne_of_isDigit h 't' rfl).symm
  have hf := (ne_of_isDigit h 'f' rfl).symm
  have hN := (ne_of_isDigit h 'N' rfl).symm
  have hI := (ne_of_isDigit h 'I' rfl).symm
  have hminus := (ne_of_isDigit h '-' rfl).symm
  constructor
  · simp [readLiteral?, literals, Text.dropPrefix?, Text.ofString, Text.ofChars, hn, ht, hf, hN, hI,
      hminus]
  · simp [readLiteral?, literals, Text.dropPrefix?, Text.ofString, Text.ofChars, hI]

/-- The compact form of a value is never empty, so that there is fuel to begin with. -/
theorem Reads.of_succ {v : Value} (opens : ∃ c cs, v.compact = c :: cs ∧ Opens c)
    (read : ∀ fuel rest, v.compact.length ≤ fuel + 1 → Delimited rest →
      readValue (fuel + 1) (Text.ofChars v.compact ++ rest) = .ok (v, rest)) : Reads v := by
  refine ⟨opens, ?_⟩
  intro fuel rest hfuel hrest
  cases fuel with
  | zero =>
    obtain ⟨c, cs, hcons, -⟩ := opens
    rw [hcons] at hfuel
    exact absurd hfuel (Nat.not_succ_le_zero _)
  | succ fuel => exact read fuel rest hfuel hrest

/-! ## Values that hold no other -/

theorem reads_null : Reads .null := by
  refine .of_succ ⟨'n', _, rfl, by constructor <;> decide⟩ ?_
  intro fuel rest _ _
  rfl

theorem reads_boolean (b : Bool) : Reads (.boolean b) := by
  cases b with
  | true =>
    refine .of_succ ⟨'t', _, rfl, by constructor <;> decide⟩ ?_
    intro fuel rest _ _
    rfl
  | false =>
    refine .of_succ ⟨'f', _, rfl, by constructor <;> decide⟩ ?_
    intro fuel rest _ _
    rfl

theorem reads_text {t : Text} (ht : t.OfScalars) : Reads (.text t) := by
  refine .of_succ ⟨'"', _, rfl, by constructor <;> decide⟩ ?_
  intro fuel rest _ _
  rw [Value.compact, ofChars_quoted]
  change readString _ >>= _ = _
  rw [readString_written ht rest]
  rfl

theorem reads_integer {i : Int} (hlimit : (Nat.toDigits 10 i.natAbs).length ≤ digitLimit) :
    Reads (.number (.integer i)) := by
  obtain ⟨d, ds, hds, hdigit, -⟩ := exists_toDigits i.natAbs
  cases i with
  | ofNat n =>
    have hcons : decimal (.ofNat n) = d :: ds := hds
    refine .of_succ ⟨d, ds, hcons, opens_of_isDigit hdigit⟩ ?_
    intro fuel rest _ hrest
    have hread := readNumber_decimal hlimit hrest
    rw [Value.compact, numeral]
    rw [hcons, Text.ofChars_cons, List.cons_append] at hread ⊢
    simp [readValue, ne_of_isDigit hdigit '"' rfl, ne_of_isDigit hdigit '[' rfl,
      ne_of_isDigit hdigit '\x7b' rfl, (readLiteral?_of_isDigit hdigit _).1, hread]
  | negSucc n =>
    have hcons : decimal (.negSucc n) = '-' :: d :: ds := congrArg ('-' :: ·) hds
    refine .of_succ ⟨'-', d :: ds, hcons, by constructor <;> decide⟩ ?_
    intro fuel rest _ hrest
    have hread := readNumber_decimal hlimit hrest
    rw [Value.compact, numeral]
    rw [hcons, Text.ofChars_cons, Text.ofChars_cons, List.cons_append, List.cons_append] at hread ⊢
    simp [readValue, (readLiteral?_of_isDigit hdigit _).2, hread]

/-! ## Lists -/

theorem opens_compactItems {items : List Value} (hne : items ≠ []) (h : ∀ v ∈ items, Reads v) :
    ∃ c cs, Value.compactItems items = c :: cs ∧ Opens c := by
  cases items with
  | nil => exact absurd rfl hne
  | cons v items =>
    obtain ⟨c, cs, hcons, hopens⟩ := (h v List.mem_cons_self).opens
    cases items with
    | nil => exact ⟨c, cs, hcons, hopens⟩
    | cons w more => exact ⟨c, cs ++ _, by rw [Value.compactItems, hcons]; rfl, hopens⟩

theorem readItems_compact {items : List Value} (hne : items ≠ []) (h : ∀ v ∈ items, Reads v)
    (fuel : Nat) (rest : Text) (hfuel : (Value.compactItems items).length + 1 ≤ fuel) :
    readItems fuel (Text.ofChars (Value.compactItems items) ++ .scalar ']' :: rest) =
      .ok (items, rest) := by
  induction items generalizing fuel with
  | nil => exact absurd rfl hne
  | cons v items ih =>
    -- one call takes at least one character off, so that the fuel lasts
    obtain ⟨fuel, rfl⟩ : ∃ n, fuel = n + 1 := ⟨fuel - 1, by omega⟩
    have hv := h v List.mem_cons_self
    cases items with
    | nil =>
      rw [Value.compactItems] at hfuel ⊢
      rw [readItems, hv.read fuel _ (by omega) (.bracket rest)]
      rfl
    | cons w more =>
      have hmore : ∀ x ∈ w :: more, Reads x := fun x hx => h x (List.mem_cons_of_mem v hx)
      have hopens := opens_compactItems (by simp) hmore
      rw [Value.compactItems, List.length_append, List.length_cons] at hfuel
      rw [Value.compactItems, Text.ofChars_append, List.append_assoc, Text.ofChars_cons,
        List.cons_append, readItems, hv.read fuel _ (by omega) (.comma _)]
      -- after the comma the reader goes on with the other items
      change readItems fuel (skipBlanks (Text.ofChars _ ++ _)) >>= _ = _
      rw [skipBlanks_ofChars hopens, ih (by simp) hmore fuel (by omega)]
      rfl

/-- What follows an opening bracket is a list of items, unless the bracket is closed at once. -/
theorem readValue_bracket (fuel : Nat) {c : Char} (hopens : Opens c) (s : Text) :
    readValue (fuel + 1) (.scalar '[' :: .scalar c :: s) = do
      let (items, rest) ← readItems fuel (.scalar c :: s)
      return (.array items, rest) := by
  simp [readValue, hopens.skipBlanks, hopens.ne_bracket]

theorem reads_array {items : List Value} (h : ∀ v ∈ items, Reads v) : Reads (.array items) := by
  refine .of_succ ⟨'[', _, rfl, by constructor <;> decide⟩ ?_
  intro fuel rest hfuel _
  by_cases hne : items = []
  · subst hne
    rfl
  · -- the first item tells the list from an empty one
    obtain ⟨c, cs, hcons, hopens⟩ := opens_compactItems hne h
    rw [Value.compact, List.length_cons, List.length_append, List.length_singleton] at hfuel
    have hread := readItems_compact hne h fuel rest (by omega)
    simp only [Value.compact, hcons, Text.ofChars_cons, Text.ofChars_append, Text.ofChars_nil,
      List.cons_append, List.nil_append, List.append_assoc] at hread ⊢
    rw [readValue_bracket fuel hopens, hread]
    rfl

/-! ## Objects -/

/-- A member that was written is read as itself, and the reader goes on with the next one if a comma
follows. -/
theorem readMembers_member {name : Text} (hname : name.OfScalars) {v : Value} (hv : Reads v)
    (fuel : Nat) (hfuel : v.compact.length ≤ fuel) (next : Text) :
    Delimited next → readMembers (fuel + 1)
        (Text.ofChars (quoted name) ++ .scalar ':' :: (Text.ofChars v.compact ++ next)) =
      match next with
      | .scalar '\x7d' :: rest => .ok ([(name, v)], rest)
      | .scalar ',' :: rest => do
        let (members, rest) ← readMembers fuel (skipBlanks rest)
        return ((name, v) :: members, rest)
      | rest => .error (.problem .expectingComma rest.length) := by
  intro hnext
  rw [ofChars_quoted]
  change readString _ >>= _ = _
  rw [readString_written hname]
  -- after the colon the reader goes on with the value
  change readValue fuel (skipBlanks (Text.ofChars v.compact ++ next)) >>= _ = _
  rw [skipBlanks_ofChars hv.opens, hv.read fuel next hfuel hnext]
  change (match skipBlanks next with
    | .scalar '\x7d' :: rest => _
    | .scalar ',' :: rest => _
    | rest => _) = _
  rw [hnext.skipBlanks]
  rfl

/-- The members of an object begin with the quote of a name. -/
theorem exists_compactMembers {members : Members} (hne : members ≠ []) :
    ∃ cs, Value.compactMembers members = '"' :: cs := by
  match members with
  | [] => exact absurd rfl hne
  | [(name, v)] => exact ⟨_, rfl⟩
  | (name, v) :: m :: more => exact ⟨_, rfl⟩

theorem readMembers_compact {members : Members} (hne : members ≠ [])
    (hnames : ∀ m ∈ members, m.1.OfScalars) (h : ∀ m ∈ members, Reads m.2) (fuel : Nat)
    (rest : Text) (hfuel : (Value.compactMembers members).length + 1 ≤ fuel) :
    readMembers fuel (Text.ofChars (Value.compactMembers members) ++ .scalar '\x7d' :: rest) =
      .ok (members, rest) := by
  -- the last member ends the object, every other one leads to a further call with less fuel
  induction members generalizing fuel with
  | nil => exact absurd rfl hne
  | cons m members ih =>
    obtain ⟨fuel, rfl⟩ : ∃ n, fuel = n + 1 := ⟨fuel - 1, by omega⟩
    obtain ⟨name, v⟩ := m
    have hname : name.OfScalars := hnames (name, v) List.mem_cons_self
    have hv : Reads v := h (name, v) List.mem_cons_self
    cases members with
    | nil =>
      rw [Value.compactMembers, List.length_append, List.length_cons] at hfuel
      have hmember := readMembers_member hname hv fuel (by omega) _ (.brace rest)
      simpa [Value.compactMembers] using hmember
    | cons m more =>
      have hmore := ih (by simp) (fun x hx => hnames x (List.mem_cons_of_mem _ hx))
        (fun x hx => h x (List.mem_cons_of_mem _ hx))
      obtain ⟨cs, hcons⟩ := exists_compactMembers (List.cons_ne_nil m more)
      rw [Value.compactMembers, List.length_append, List.length_cons, List.length_append,
        List.length_cons] at hfuel
      have hread := hmore fuel (by omega)
      have hmember := readMembers_member hname hv fuel (by omega) _
        (.comma (Text.ofChars (Value.compactMembers (m :: more)) ++ .scalar '\x7d' :: rest))
      rw [hcons, Text.ofChars_cons, List.cons_append] at hread hmember
      simp only [Value.compactMembers, hcons, Text.ofChars_append, Text.ofChars_cons,
        List.cons_append, List.append_assoc]
      rw [hmember]
      change readMembers fuel (.scalar '"' :: _) >>= _ = _
      rw [hread]
      rfl

theorem reads_object {members : Members} (hkeys : members.keys.Nodup)
    (hnames : ∀ m ∈ members, m.1.OfScalars) (h : ∀ m ∈ members, Reads m.2) :
    Reads (.object members) := by
  refine .of_succ ⟨'\x7b', _, rfl, by constructor <;> decide⟩ ?_
  intro fuel rest hfuel _
  by_cases hne : members = []
  · subst hne
    rfl
  · obtain ⟨cs, hcons⟩ := exists_compactMembers hne
    rw [Value.compact, List.length_cons, List.length_append, List.length_singleton] at hfuel
    have hread := readMembers_compact hne hnames h fuel rest (by omega)
    simp only [Value.compact, hcons, Text.ofChars_cons, Text.ofChars_append, Text.ofChars_nil,
      List.cons_append, List.nil_append, List.append_assoc] at hread ⊢
    change readMembers fuel _ >>= _ = _
    rw [hread]
    -- no member is written over by a later one of its name
    change Except.ok (Value.object (Table.ofEntries members), rest) = _
    rw [Table.ofEntries_of_nodup hkeys]

/-! ## Whole values -/

/-- A value is read from its compact form, by induction over its parts. -/
theorem reads {v : Value} (h : v.Portable) : Reads v := by
  induction h with
  | null => exact reads_null
  | boolean b => exact reads_boolean b
  | number h =>
    obtain ⟨i, rfl, hlimit⟩ := h
    exact reads_integer hlimit
  | text h => exact reads_text h
  | array _ ih => exact reads_array ih
  | object names keys _ ih => exact reads_object names keys ih

/-- The compact form of a value is JSON text, and spells that value. -/
theorem read_compact {v : Value} (h : v.Portable) : read (Text.ofChars v.compact) = .ok v := by
  obtain ⟨hopens, hread⟩ := reads h
  have hfuel : v.compact.length ≤ 2 * ((Text.ofChars v.compact).length + 1) := by
    rw [Text.ofChars, List.length_map]
    omega
  have hvalue := hread _ [] hfuel .nil
  have hblanks := skipBlanks_ofChars hopens []
  rw [List.append_nil] at hvalue hblanks
  have hdecoded : readDecoded (Text.ofChars v.compact) = .ok v := by
    rw [readDecoded, readWholeText, hblanks, hvalue]
    rfl
  -- a value does not begin with a mark of how it is encoded
  obtain ⟨c, cs, hcons, hc⟩ := hopens
  rw [hcons, Text.ofChars_cons] at hdecoded ⊢
  simp [read, hc.ne_mark, hdecoded]

end Json

end FlagReplica
