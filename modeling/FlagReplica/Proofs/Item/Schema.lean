import FlagReplica.Item.Basic
import FlagReplica.Proofs.Json.Distinct
import Mathlib.Data.List.Forall2

/-!
# The schema of items

Which objects are items. A flag or segment needs a key and a version; every other property that is
looked at may be absent or null, and is otherwise of the shape that its rule asks for; and of an
item that says it is deleted nothing more is asked. `Kind.decode_eq_ok_iff` says that decoding
accepts the objects of this schema and no other value, and what it makes of each.
-/

namespace FlagReplica

open Json (Shape Value Members)

/-- A chain of two steps succeeds exactly if the second succeeds on what the first came to. -/
theorem Except.bind_eq_ok_iff {ε α β : Type} {x : Except ε α} {f : α → Except ε β} {b : β} :
    x >>= f = .ok b ↔ ∃ a, x = .ok a ∧ f a = .ok b := by
  constructor
  · exact Except.of_bind_eq_ok
  · rintro ⟨a, rfl, h⟩
    exact h

theorem Except.pure_eq_ok_iff {ε α : Type} {a b : α} :
    (pure a : Except ε α) = .ok b ↔ a = b :=
  ⟨Except.ok.inj, congrArg Except.ok⟩

/-- A list of steps succeeds exactly if each of them does, and comes to their results in order. -/
theorem Except.mapM_eq_ok_iff {ε α β : Type} {f : α → Except ε β} {l : List α} {results : List β} :
    l.mapM f = .ok results ↔ List.Forall₂ (fun a b => f a = .ok b) l results := by
  induction l generalizing results with
  | nil => rw [List.mapM_nil, pure_eq_ok_iff, List.forall₂_nil_left_iff, eq_comm]
  | cons a l ih =>
    rw [List.mapM_cons, bind_eq_ok_iff]
    constructor
    · rintro ⟨b, hb, h⟩
      obtain ⟨bs, hbs, h⟩ := bind_eq_ok_iff.1 h
      obtain rfl := pure_eq_ok_iff.1 h
      exact .cons hb (ih.1 hbs)
    · intro h
      cases h with
      | cons hb hbs => exact ⟨_, hb, bind_eq_ok_iff.2 ⟨_, ih.2 hbs, rfl⟩⟩

/-- Each member of a list is related to something exactly if the list is related to some list. -/
theorem exists_forall₂_iff {α β : Type} {r : α → β → Prop} {l : List α} :
    (∃ results, List.Forall₂ r l results) ↔ ∀ a ∈ l, ∃ b, r a b := by
  induction l with
  | nil => simp
  | cons a l ih =>
    rw [List.forall_mem_cons, ← ih]
    constructor
    · rintro ⟨_, h⟩
      cases h with
      | cons hb hbs => exact ⟨⟨_, hb⟩, _, hbs⟩
    · rintro ⟨⟨b, hb⟩, bs, hbs⟩
      exact ⟨b :: bs, .cons hb hbs⟩

/-! ## The schema -/

/-- A property that is absent or null. -/
def Unset (members : Members) (property : String) : Prop :=
  Table.get? members property = none ∨ Table.get? members property = some .null

/-- What a property may be asked to be. -/
inductive Rule where
  | truth
  | list
  | texts
  | objects
  /-- A list of objects with a key each. -/
  | keyed
deriving DecidableEq

/-- An object has a key. -/
def Keyed (v : Value) (key : Text) : Prop :=
  ∃ members, v = .object members ∧ Table.get? members ("key" : Text) = some (.text key)

/-- A value is what a rule asks for. -/
inductive Rule.Holds : Rule → Value → Prop where
  | truth (b : Bool) : Holds .truth (.boolean b)
  | list (items : List Value) : Holds .list (.array items)
  | texts {items : List Value} (h : ∀ v ∈ items, ∃ t, v = .text t) : Holds .texts (.array items)
  | objects {items : List Value} (h : ∀ v ∈ items, ∃ members, v = .object members) :
      Holds .objects (.array items)
  | keyed {items : List Value} (h : ∀ v ∈ items, ∃ key, Keyed v key) : Holds .keyed (.array items)

/-- A property is absent or null, or what a rule asks for. -/
def Rule.Obeyed (rule : Rule) (members : Members) (property : String) : Prop :=
  Unset members property ∨ ∃ v, Table.get? members property = some v ∧ rule.Holds v

/-- The rules for the properties of a live item. -/
def Kind.rules : Kind → List (String × Rule)
  | flag =>
    [("on", .truth), ("variations", .list), ("targets", .objects), ("contextTargets", .objects),
      ("rules", .objects), ("prerequisites", .keyed)]
  | segment =>
    [("included", .texts), ("excluded", .texts), ("includedContexts", .objects),
      ("excludedContexts", .objects), ("rules", .objects)]

/-- An object says that its item is deleted. -/
def SaysDeleted (members : Members) : Prop :=
  Table.get? members ("deleted" : Text) = some (.boolean true)

/-- The schema of the items of a kind. -/
structure Kind.Schema (kind : Kind) (members : Members) : Prop where
  key : ∃ key, Table.get? members ("key" : Text) = some (.text key)
  version : ∃ version, Table.get? members ("version" : Text) = some (.integer version)
  deleted : Rule.truth.Obeyed members "deleted"
  live : ¬ SaysDeleted members → ∀ rule ∈ kind.rules, rule.2.Obeyed members rule.1

/-- The keys that an object lists as prerequisites. -/
inductive Prerequisites (members : Members) : List Text → Prop where
  | none (unset : Unset members "prerequisites") : Prerequisites members []
  | listed {items : List Value} {keys : List Text}
      (found : Table.get? members ("prerequisites" : Text) = some (.array items))
      (keyed : List.Forall₂ Keyed items keys) : Prerequisites members keys

/-! ## The checks -/

variable {members : Members} {property : String}

/-- A check of a property passes over one that is absent or null. -/
theorem optional_of_unset {expected : Shape} (h : Unset members property) :
    optional members property expected = .ok none := by
  unfold optional
  rcases h with h | h <;> simp [h]

/-- A check of any other property looks at its shape. -/
theorem optional_of_set {expected : Shape} {v : Value}
    (h : Table.get? members property = some v) (hnull : v ≠ .null) :
    optional members property expected =
      if v.shape = expected then .ok (some v)
      else .error (.wrongShape property expected v.shape) := by
  unfold optional
  rw [h]
  cases v with
  | null => exact absurd rfl hnull
  | _ => rfl

/-- A property is absent or null, or it is set. -/
theorem unset_or_set (members : Members) (property : String) :
    Unset members property ∨ ∃ v, Table.get? members property = some v ∧ v ≠ .null := by
  cases h : Table.get? members property with
  | none => exact Or.inl (Or.inl h)
  | some v =>
    by_cases hnull : v = .null
    · exact Or.inl (Or.inr (hnull ▸ h))
    · exact Or.inr ⟨v, rfl, hnull⟩

theorem Unset.get?_ne {v : Value} (h : Unset members property) (hnull : v ≠ .null) :
    Table.get? members property ≠ some v := by
  rcases h with h | h
  · simp [h]
  · intro heq
    exact hnull (Option.some.inj (heq.symm.trans h))

theorem requiredText_eq_ok_iff {t : Text} :
    requiredText members property = .ok t ↔ Table.get? members property = some (.text t) := by
  unfold requiredText
  rcases unset_or_set members property with h | ⟨v, h, hnull⟩
  · have hne := h.get?_ne (v := .text t) (by simp)
    simp [optional_of_unset h, hne, bind, Except.bind, throw, throwThe, MonadExceptOf.throw]
  · rw [optional_of_set h hnull, h]
    cases v with
    | number n => cases n <;> simp [Value.shape, bind, Except.bind]
    | _ => simp [Value.shape, bind, Except.bind, pure, Except.pure]

theorem requiredInteger_eq_ok_iff {n : Int} :
    requiredInteger members property = .ok n ↔
      Table.get? members property = some (.integer n) := by
  unfold requiredInteger
  rcases unset_or_set members property with h | ⟨v, h, hnull⟩
  · have hne := h.get?_ne (v := .integer n) (by simp)
    simp [optional_of_unset h, hne, bind, Except.bind, throw, throwThe, MonadExceptOf.throw]
  · rw [optional_of_set h hnull, h]
    cases v with
    | number m => cases m <;> simp [Value.shape, bind, Except.bind, pure, Except.pure]
    | _ => simp [Value.shape, bind, Except.bind]

theorem optionalFlag_eq_ok_iff {b : Bool} :
    optionalFlag members property = .ok b ↔
      Unset members property ∧ b = false ∨ Table.get? members property = some (.boolean b) := by
  unfold optionalFlag
  -- absent and null count alike, and a value that is there is judged by its shape
  rcases unset_or_set members property with h | ⟨v, h, hnull⟩
  · have hne := h.get?_ne (v := .boolean b) (by simp)
    simp [optional_of_unset h, hne, h, bind, Except.bind, pure, Except.pure, eq_comm]
  · have hset : ¬ Unset members property := fun hunset => hunset.get?_ne hnull h
    rw [optional_of_set h hnull, h]
    -- numbers have two shapes, every other value has one
    cases v with
    | number m => cases m <;> simp [Value.shape, bind, Except.bind, hset]
    | _ => simp [Value.shape, bind, Except.bind, pure, Except.pure, hset]

theorem optionalList_eq_ok_iff {items : List Value} :
    optionalList members property = .ok items ↔
      Unset members property ∧ items = [] ∨
        Table.get? members property = some (.array items) := by
  unfold optionalList
  rcases unset_or_set members property with h | ⟨v, h, hnull⟩
  · have hne := h.get?_ne (v := .array items) (by simp)
    simp [optional_of_unset h, hne, h, bind, Except.bind, pure, Except.pure, eq_comm]
  · have hset : ¬ Unset members property := fun hunset => hunset.get?_ne hnull h
    rw [optional_of_set h hnull, h]
    cases v with
    | number m => cases m <;> simp [Value.shape, bind, Except.bind, hset]
    | _ => simp [Value.shape, bind, Except.bind, pure, Except.pure, hset]

theorem optionalListOf_eq_ok_iff {expected : Shape} {items : List Value} :
    optionalListOf members property expected = .ok items ↔
      optionalList members property = .ok items ∧ ∀ v ∈ items, v.shape = expected := by
  unfold optionalListOf
  rw [Except.bind_eq_ok_iff]
  constructor
  · rintro ⟨found, hfound, h⟩
    split at h
    · exact absurd h (by simp [throw, throwThe, MonadExceptOf.throw])
    · -- no element was found to be of another shape
      next hnone =>
      obtain rfl := Except.pure_eq_ok_iff.1 h
      rw [List.find?_eq_none] at hnone
      refine ⟨hfound, ?_⟩
      intro v hv
      simpa using hnone v hv
  · rintro ⟨hfound, hall⟩
    refine ⟨items, hfound, ?_⟩
    have hnone : items.find? (fun v => v.shape ≠ expected) = none := by
      rw [List.find?_eq_none]
      intro v hv
      simpa using hall v hv
    simp only [hnone]
    rfl

theorem prerequisiteKey_eq_ok_iff {v : Value} {key : Text} :
    prerequisiteKey v = .ok key ↔ Keyed v key := by
  unfold prerequisiteKey Keyed
  cases v with
  | object members => simp [requiredText_eq_ok_iff]
  | _ => simp

/-! ## Checks and rules -/

theorem Json.Value.shape_eq_text_iff {v : Value} : v.shape = .text ↔ ∃ t, v = .text t := by
  cases v with
  | number n => cases n <;> simp [shape]
  | _ => simp [shape]

theorem Json.Value.shape_eq_object_iff {v : Value} :
    v.shape = .object ↔ ∃ members, v = .object members := by
  cases v with
  | number n => cases n <;> simp [shape]
  | _ => simp [shape]

/-- A check for a truth value, whether its result is used or not. -/
theorem truth_obeyed_iff :
    Rule.truth.Obeyed members property ↔
      Unset members property ∨ ∃ b, Table.get? members property = some (.boolean b) := by
  constructor
  · rintro (h | ⟨v, hv, hrule⟩)
    · exact Or.inl h
    · cases hrule with
      | truth b => exact Or.inr ⟨b, hv⟩
  · rintro (h | ⟨b, hb⟩)
    · exact Or.inl h
    · exact Or.inr ⟨_, hb, .truth b⟩

theorem optional_truth_iff :
    (∃ found, optional members property .boolean = .ok found) ↔
      Rule.truth.Obeyed members property := by
  rw [truth_obeyed_iff]
  rcases unset_or_set members property with h | ⟨v, h, hnull⟩
  · simp [optional_of_unset h, h]
  · have hset : ¬ Unset members property := fun hunset => hunset.get?_ne hnull h
    rw [optional_of_set h hnull, h]
    cases v with
    | number m => cases m <;> simp [Value.shape, hset]
    | _ => simp [Value.shape, hset]

theorem optionalList_iff :
    (∃ items, optionalList members property = .ok items) ↔
      Rule.list.Obeyed members property := by
  simp only [optionalList_eq_ok_iff]
  constructor
  · rintro ⟨items, ⟨h, -⟩ | h⟩
    · exact Or.inl h
    · exact Or.inr ⟨_, h, .list items⟩
  · rintro (h | ⟨v, hv, hrule⟩)
    · exact ⟨[], Or.inl ⟨h, rfl⟩⟩
    · cases hrule with
      | list items => exact ⟨items, Or.inr hv⟩

/-- A list of items that all are something, which one that is absent or null is. -/
theorem exists_list_iff {all : List Value → Prop} (hnil : all []) :
    (∃ items, optionalList members property = .ok items ∧ all items) ↔
      Unset members property ∨
        ∃ items, Table.get? members property = some (.array items) ∧ all items := by
  simp only [optionalList_eq_ok_iff]
  constructor
  · rintro ⟨items, ⟨h, -⟩ | h, hall⟩
    · exact Or.inl h
    · exact Or.inr ⟨items, h, hall⟩
  · rintro (h | ⟨items, h, hall⟩)
    · exact ⟨[], Or.inl ⟨h, rfl⟩, hnil⟩
    · exact ⟨items, Or.inr h, hall⟩

/-- A check for a list of things of one shape agrees with a rule that asks for a list of them. -/
theorem optionalListOf_iff {expected : Shape} {rule : Rule} {fits : Value → Prop}
    (hshape : ∀ v, v.shape = expected ↔ fits v)
    (hrule : ∀ v, rule.Holds v ↔ ∃ items, v = .array items ∧ ∀ w ∈ items, fits w) :
    (∃ items, optionalListOf members property expected = .ok items) ↔
      rule.Obeyed members property := by
  simp only [optionalListOf_eq_ok_iff, hshape]
  rw [exists_list_iff (by simp)]
  constructor
  · rintro (h | ⟨items, h, hall⟩)
    · exact Or.inl h
    · exact Or.inr ⟨_, h, (hrule _).2 ⟨items, rfl, hall⟩⟩
  · rintro (h | ⟨v, h, hholds⟩)
    · exact Or.inl h
    · obtain ⟨items, rfl, hall⟩ := (hrule v).1 hholds
      exact Or.inr ⟨items, h, hall⟩

theorem texts_iff :
    (∃ items, optionalListOf members property .text = .ok items) ↔
      Rule.texts.Obeyed members property := by
  refine optionalListOf_iff (fun _ => Value.shape_eq_text_iff) fun v => ⟨?_, ?_⟩
  · intro hholds
    cases hholds with
    | texts hall => exact ⟨_, rfl, hall⟩
  · rintro ⟨items, rfl, hall⟩
    exact .texts hall

theorem objects_iff :
    (∃ items, optionalListOf members property .object = .ok items) ↔
      Rule.objects.Obeyed members property := by
  refine optionalListOf_iff (fun _ => Value.shape_eq_object_iff) fun v => ⟨?_, ?_⟩
  · intro hholds
    cases hholds with
    | objects hall => exact ⟨_, rfl, hall⟩
  · rintro ⟨items, rfl, hall⟩
    exact .objects hall

/-- The check of the prerequisites finds the keys that are listed. -/
theorem prerequisites_iff {keys : List Text} :
    (∃ items, optionalListOf members "prerequisites" .object = .ok items ∧
      items.mapM prerequisiteKey = .ok keys) ↔ Prerequisites members keys := by
  simp only [optionalListOf_eq_ok_iff, optionalList_eq_ok_iff, Except.mapM_eq_ok_iff,
    prerequisiteKey_eq_ok_iff]
  constructor
  · rintro ⟨items, ⟨⟨h, rfl⟩ | h, -⟩, hkeys⟩
    · rw [List.forall₂_nil_left_iff.1 hkeys]
      exact .none h
    · exact .listed h hkeys
  · intro h
    cases h with
    | none h => exact ⟨[], ⟨Or.inl ⟨h, rfl⟩, by simp⟩, .nil⟩
    | @listed items _ h hkeys =>
      refine ⟨items, ⟨Or.inr h, ?_⟩, hkeys⟩
      -- an object that has a key is an object
      intro v hv
      obtain ⟨key, members', rfl, -⟩ := exists_forall₂_iff.1 ⟨keys, hkeys⟩ v hv
      rfl

theorem keyed_obeyed_iff :
    Rule.keyed.Obeyed members "prerequisites" ↔ ∃ keys, Prerequisites members keys := by
  constructor
  · -- the rule asks for a key of each entry, and the keys are what these come to together
    rintro (h | ⟨v, h, hrule⟩)
    · exact ⟨[], .none h⟩
    · cases hrule with
      | keyed hall =>
        obtain ⟨keys, hkeys⟩ := exists_forall₂_iff.2 hall
        exact ⟨keys, .listed h hkeys⟩
  · rintro ⟨keys, h⟩
    cases h with
    | none h => exact Or.inl h
    | listed h hkeys => exact Or.inr ⟨_, h, .keyed (exists_forall₂_iff.1 ⟨keys, hkeys⟩)⟩

/-! ## Decoding -/

/-- The keys that an item of a kind depends on. -/
def Kind.Needs : Kind → Members → List Text → Prop
  | flag => Prerequisites
  | segment => fun _ keys => keys = []

/-- The checks of a live item pass exactly if its properties obey the rules, and find what it
depends on. -/
theorem Kind.checkLive_eq_ok_iff {kind : Kind} {keys : List Text} :
    kind.checkLive members = .ok keys ↔
      (∀ rule ∈ kind.rules, rule.2.Obeyed members rule.1) ∧ kind.Needs members keys := by
  cases kind with
  | flag =>
    -- every check but that of the prerequisites is made for its refusals only
    simp only [checkLive, checkFlag, Except.bind_eq_ok_iff, exists_and_right, optional_truth_iff,
      optionalList_iff, objects_iff, prerequisites_iff, rules, List.forall_mem_cons, Needs,
      keyed_obeyed_iff]
    constructor
    · rintro ⟨hon, hvariations, htargets, hcontexts, hrules, hkeys⟩
      exact ⟨⟨hon, hvariations, htargets, hcontexts, hrules, ⟨keys, hkeys⟩, by simp⟩, hkeys⟩
    · rintro ⟨⟨hon, hvariations, htargets, hcontexts, hrules, -⟩, hkeys⟩
      exact ⟨hon, hvariations, htargets, hcontexts, hrules, hkeys⟩
  | segment =>
    simp only [checkLive, checkSegment, Except.bind_eq_ok_iff, exists_and_right, texts_iff,
      objects_iff, rules, List.forall_mem_cons, Needs, Except.pure_eq_ok_iff]
    constructor
    · rintro ⟨hin, hex, hinContexts, hexContexts, hrules, hkeys⟩
      exact ⟨⟨hin, hex, hinContexts, hexContexts, hrules, by simp⟩, hkeys.symm⟩
    · rintro ⟨⟨hin, hex, hinContexts, hexContexts, hrules, -⟩, hkeys⟩
      exact ⟨hin, hex, hinContexts, hexContexts, hrules, hkeys.symm⟩

/-- An item is what an object of its kind's schema says. -/
structure Item.Decodes (item : Item) (k : Kind) (v : Value) : Prop where
  value : v = item.value
  kind : item.kind = k
  schema : k.Schema item.members
  key : Table.get? item.members ("key" : Text) = some (.text item.key)
  version : Table.get? item.members ("version" : Text) = some (.integer item.version)
  deleted : item.deleted = true ↔ SaysDeleted item.members
  prerequisites :
    if item.deleted then item.prerequisites = [] else k.Needs item.members item.prerequisites

/-- The flag of a property is false where the property is absent or null, and else what it is. -/
theorem optionalFlag_deleted_iff {deleted : Bool} :
    optionalFlag members "deleted" = .ok deleted ↔
      Rule.truth.Obeyed members "deleted" ∧ (deleted = true ↔ SaysDeleted members) := by
  rw [optionalFlag_eq_ok_iff, truth_obeyed_iff]
  constructor
  · rintro (⟨hunset, rfl⟩ | hset)
    · have hne : ¬ SaysDeleted members := hunset.get?_ne (by simp)
      exact ⟨Or.inl hunset, by simp [hne]⟩
    · exact ⟨Or.inr ⟨deleted, hset⟩, by simp [SaysDeleted, hset]⟩
  · rintro ⟨hunset | ⟨b, hb⟩, hrule⟩
    · have hne : ¬ SaysDeleted members := hunset.get?_ne (by simp)
      exact Or.inl ⟨hunset, by simpa [hne] using hrule⟩
    · right
      -- what the flag says is what the object says
      have hsame : deleted = true ↔ b = true := by
        rw [hrule, SaysDeleted, hb]
        simp
      rw [hb, Bool.eq_iff_iff.2 hsame]

/-- What is checked of an object after its key, version and deletion have been. -/
theorem checkUnlessDeleted_iff {kind : Kind} {deleted : Bool} {keys : List Text}
    (hrule : deleted = true ↔ SaysDeleted members) :
    (if deleted then pure [] else kind.checkLive members : Except SchemaFault (List Text)) =
        .ok keys ↔
      (¬ SaysDeleted members → ∀ rule ∈ kind.rules, rule.2.Obeyed members rule.1) ∧
        if deleted then keys = [] else kind.Needs members keys := by
  -- a deleted item is not looked at any further
  cases deleted with
  | true =>
    have hdeleted := hrule.1 rfl
    simp only [if_true, Except.pure_eq_ok_iff, hdeleted, not_true_eq_false, false_implies, true_and]
    exact eq_comm
  | false =>
    have hlive : ¬ SaysDeleted members := fun h => absurd (hrule.2 h) (by decide)
    simpa [hlive] using Kind.checkLive_eq_ok_iff

/-- What is done to decode an object. -/
theorem Kind.decode_object (kind : Kind) (members : Members) :
    kind.decode (.object members) =
      (do
        let key ← requiredText members "key"
        let version ← requiredInteger members "version"
        let deleted ← optionalFlag members "deleted"
        let prerequisites ←
          (if deleted then pure [] else kind.checkLive members : Except SchemaFault (List Text))
        pure ⟨kind, key, version, deleted, prerequisites, members⟩) := by
  simp only [decode]
  congr; funext key
  congr; funext version
  congr; funext deleted
  cases deleted <;> rfl

/-- Decoding accepts the objects of the schema, and makes of them the items that they say. -/
theorem Kind.decode_eq_ok_iff {kind : Kind} {v : Value} {item : Item} :
    kind.decode v = .ok item ↔ item.Decodes kind v := by
  constructor
  · intro h
    cases v with
    | object members =>
      -- the checks one after another, each with the rule it stands for
      rw [decode_object] at h
      obtain ⟨key, hkey, h⟩ := Except.of_bind_eq_ok h
      obtain ⟨version, hversion, h⟩ := Except.of_bind_eq_ok h
      obtain ⟨deleted, hdeleted, h⟩ := Except.of_bind_eq_ok h
      obtain ⟨keys, hkeys, h⟩ := Except.of_bind_eq_ok h
      obtain rfl := Except.pure_eq_ok_iff.1 h
      rw [requiredText_eq_ok_iff] at hkey
      rw [requiredInteger_eq_ok_iff] at hversion
      obtain ⟨hobeyed, hrule⟩ := optionalFlag_deleted_iff.1 hdeleted
      obtain ⟨hrules, hneeds⟩ := (checkUnlessDeleted_iff hrule).1 hkeys
      exact ⟨rfl, rfl, ⟨⟨key, hkey⟩, ⟨version, hversion⟩, hobeyed, hrules⟩, hkey, hversion, hrule,
        hneeds⟩
    | _ => exact absurd h (by simp [decode])
  · rintro ⟨rfl, rfl, hschema, hkey, hversion, hrule, hneeds⟩
    -- every check passes, in the order in which they are made
    have hdeleted := optionalFlag_deleted_iff.2 ⟨hschema.deleted, hrule⟩
    have hkeys := (checkUnlessDeleted_iff hrule).2 ⟨hschema.live, hneeds⟩
    rw [Item.value, decode_object]
    refine Except.bind_eq_ok_iff.2 ⟨item.key, requiredText_eq_ok_iff.2 hkey, ?_⟩
    refine Except.bind_eq_ok_iff.2 ⟨item.version, requiredInteger_eq_ok_iff.2 hversion, ?_⟩
    refine Except.bind_eq_ok_iff.2 ⟨item.deleted, hdeleted, ?_⟩
    exact Except.bind_eq_ok_iff.2 ⟨item.prerequisites, hkeys, rfl⟩

/-- An object that obeys the rules has something that its item depends on. -/
theorem Kind.exists_needs {kind : Kind} {members : Members}
    (h : ∀ rule ∈ kind.rules, rule.2.Obeyed members rule.1) : ∃ keys, kind.Needs members keys := by
  cases kind with
  | flag => exact keyed_obeyed_iff.1 (h ("prerequisites", .keyed) (by simp [rules]))
  | segment => exact ⟨[], rfl⟩

/-- Decoding succeeds on the objects of the schema and on nothing else. -/
theorem Kind.decodes_iff {kind : Kind} {v : Value} :
    (∃ item, kind.decode v = .ok item) ↔ ∃ members, v = .object members ∧ kind.Schema members := by
  constructor
  · rintro ⟨item, h⟩
    have hdecodes := decode_eq_ok_iff.1 h
    exact ⟨item.members, hdecodes.value, hdecodes.schema⟩
  · rintro ⟨members, rfl, hschema⟩
    obtain ⟨key, hkey⟩ := hschema.key
    obtain ⟨version, hversion⟩ := hschema.version
    -- a deleted item has no keys of its own, and any other those that the rules provide
    by_cases hrule : SaysDeleted members
    · exact ⟨⟨kind, key, version, true, [], members⟩,
        decode_eq_ok_iff.2 ⟨rfl, rfl, hschema, hkey, hversion, by simp [hrule], rfl⟩⟩
    · obtain ⟨keys, hkeys⟩ := exists_needs (hschema.live hrule)
      exact ⟨⟨kind, key, version, false, keys, members⟩,
        decode_eq_ok_iff.2 ⟨rfl, rfl, hschema, hkey, hversion, by simp [hrule], hkeys⟩⟩

end FlagReplica
