import FlagReplica.Item.Descriptor
import FlagReplica.Proofs.Item.Schema
import FlagReplica.Proofs.Json.Alike

/-!
# Items that are the same

Items are compared by their kinds and by what their objects mean, not by what was decoded from them.
Comparing them is still an equivalence, and items that are the same agree in everything that was
decoded. The reason is the schema: where two objects that mean the same both obey it, its properties
leave no room for two ways of saying one thing, but for those that count as absent.
-/

namespace FlagReplica

open Json (Value Members)
open Json.Value (Alike MadeOf alike_text_iff alike_array_iff same_iff_alike)

/-- An item that was decoded from a value that can be compared. -/
def Item.Decoded (item : Item) : Prop :=
  ∃ v : Value, v.Comparable ∧ item.kind.decode v = .ok item

/-- A descriptor whose item, if it has one, is such an item. -/
def Descriptor.Decoded (d : Descriptor) : Prop :=
  ∀ item, d.item = some item → item.Decoded

/-! ## What objects of one meaning agree in -/

section Agreement

variable {xs ys : Members} (h : Alike (.object xs) (.object ys))
include h

theorem Unset.of_alike {property : String} (hx : Unset xs property) : Unset ys property := by
  cases hy : Table.get? ys (property : Text) with
  | none => exact Or.inl hy
  | some y =>
    -- something like it is found in the first object, which can only be null
    obtain ⟨x, hfound, halike⟩ := h.symm.exists_member hy
    rcases hx with hx | hx
    · rw [hfound] at hx
      cases hx
    · obtain rfl := Option.some.inj (hfound.symm.trans hx)
      cases halike with
      | null => exact Or.inr hy
      | amount _ right => cases right

theorem text_eq_of_alike {name s t : Text} (hx : Table.get? xs name = some (.text s))
    (hy : Table.get? ys name = some (.text t)) : s = t :=
  alike_text_iff.1 (h.members hx hy)

theorem integer_eq_of_alike {name : Text} {m n : Int} (hx : Table.get? xs name = some (.integer m))
    (hy : Table.get? ys name = some (.integer n)) : m = n := by
  have hquantity := (Alike.of_quantity (v := .integer m) rfl).1 (h.members hx hy)
  simp only [Value.quantity?, Number.quantity?, Option.some.injEq, Quantity.rational.injEq]
    at hquantity
  exact_mod_cast hquantity.symm

/-- What says that it is deleted does so with a truth value, if it obeys the schema. -/
theorem SaysDeleted.of_alike (hrule : Rule.truth.Obeyed ys "deleted") (hx : SaysDeleted xs) :
    SaysDeleted ys := by
  obtain ⟨y, hy, halike⟩ := h.exists_member hx
  rcases truth_obeyed_iff.1 hrule with hunset | ⟨b, hb⟩
  · exact absurd hx ((hunset.of_alike h.symm).get?_ne (by simp))
  · obtain rfl := Option.some.inj (hy.symm.trans hb)
    have hquantity := (Alike.of_quantity (v := .boolean true) rfl).1 halike
    cases b with
    | true => exact hb
    | false => simp [Value.quantity?] at hquantity

end Agreement

theorem Keyed.eq_of_alike {v w : Value} {k l : Text} (h : Alike v w) (hv : Keyed v k)
    (hw : Keyed w l) : k = l := by
  obtain ⟨xs, rfl, hx⟩ := hv
  obtain ⟨ys, rfl, hy⟩ := hw
  exact text_eq_of_alike h hx hy

/-- Lists that mean the same list the same keys. -/
theorem keys_eq_of_alike {vs ws : List Value} {ks ls : List Text} (h : List.Forall₂ Alike vs ws)
    (hv : List.Forall₂ Keyed vs ks) (hw : List.Forall₂ Keyed ws ls) : ks = ls := by
  induction h generalizing ks ls with
  | nil =>
    rw [List.forall₂_nil_left_iff.1 hv, List.forall₂_nil_left_iff.1 hw]
  | cons first _ ih =>
    cases hv with
    | cons hv hvs =>
      cases hw with
      | cons hw hws => rw [hv.eq_of_alike first hw, ih hvs hws]

theorem Prerequisites.eq_of_alike {xs ys : Members} {ks ls : List Text}
    (h : Alike (.object xs) (.object ys)) (hx : Prerequisites xs ks) (hy : Prerequisites ys ls) :
    ks = ls := by
  cases hx with
  | none hunset =>
    cases hy with
    | none => rfl
    | listed found => exact absurd found ((hunset.of_alike h).get?_ne (by simp))
  | listed found keyed =>
    cases hy with
    | none hunset => exact absurd found ((hunset.of_alike h.symm).get?_ne (by simp))
    | listed found' keyed' =>
      exact keys_eq_of_alike (alike_array_iff.1 (h.members found found')) keyed keyed'

/-! ## Items -/

namespace Item

variable {a b c : Item}

theorem Decoded.comparable (ha : a.Decoded) : a.value.Comparable := by
  obtain ⟨v, hv, h⟩ := ha
  rwa [← (Kind.decode_eq_ok_iff.1 h).value]

theorem Decoded.decodes (ha : a.Decoded) : a.Decodes a.kind a.value := by
  obtain ⟨v, -, h⟩ := ha
  have hdecodes := Kind.decode_eq_ok_iff.1 h
  rwa [← hdecodes.value]

/-- Two items are the same exactly if they are of one kind and their objects mean the same. -/
theorem same_iff (ha : a.Decoded) (hb : b.Decoded) :
    a.same b = true ↔ a.kind = b.kind ∧ Alike a.value b.value := by
  rw [same, Bool.and_eq_true, decide_eq_true_iff, same_iff_alike ha.comparable hb.comparable]

/-- What was decoded from two items agrees. -/
structure Agree (a b : Item) : Prop where
  kind : a.kind = b.kind
  key : a.key = b.key
  version : a.version = b.version
  deleted : a.deleted = b.deleted
  prerequisites : a.prerequisites = b.prerequisites
  /-- Both have the same properties. -/
  names : ∀ name, Table.contains a.members name = Table.contains b.members name

/-- Items of one kind depend on the same keys, unless only one of them says that it is deleted. -/
theorem prerequisites_eq_of_alike (ha : a.Decoded) (hb : b.Decoded) (hkind : a.kind = b.kind)
    (h : Alike a.value b.value) (hdeleted : a.deleted = b.deleted) :
    a.prerequisites = b.prerequisites := by
  have hneeds := ha.decodes.prerequisites
  have hneeds' := hb.decodes.prerequisites
  rw [hkind, hdeleted] at hneeds
  by_cases hgone : b.deleted = true
  · rw [if_pos hgone] at hneeds hneeds'
    rw [hneeds, hneeds']
  · rw [if_neg hgone] at hneeds hneeds'
    cases hkind' : b.kind with
    | flag =>
      rw [hkind'] at hneeds hneeds'
      exact Prerequisites.eq_of_alike h hneeds hneeds'
    | segment =>
      rw [hkind'] at hneeds hneeds'
      exact hneeds.trans hneeds'.symm

theorem deleted_eq_of_alike (ha : a.Decoded) (hb : b.Decoded) (h : Alike a.value b.value) :
    a.deleted = b.deleted := by
  rw [Bool.eq_iff_iff, ha.decodes.deleted, hb.decodes.deleted]
  constructor
  · exact SaysDeleted.of_alike h hb.decodes.schema.deleted
  · exact SaysDeleted.of_alike h.symm ha.decodes.schema.deleted

theorem agree_of_same (ha : a.Decoded) (hb : b.Decoded) (h : a.same b = true) : Agree a b := by
  obtain ⟨hkind, halike⟩ := (same_iff ha hb).1 h
  have hdeleted := deleted_eq_of_alike ha hb halike
  constructor
  case kind => exact hkind
  case key => exact text_eq_of_alike halike ha.decodes.key hb.decodes.key
  case version => exact integer_eq_of_alike halike ha.decodes.version hb.decodes.version
  case deleted => exact hdeleted
  case prerequisites => exact prerequisites_eq_of_alike ha hb hkind halike hdeleted
  case names =>
    intro name
    rw [Bool.eq_iff_iff, Table.contains, Table.contains, Option.isSome_iff_exists,
      Option.isSome_iff_exists, ← Table.mem_keys_iff, ← Table.mem_keys_iff]
    exact halike.names name

theorem same_refl (ha : a.Decoded) : a.same a = true :=
  (same_iff ha ha).2 ⟨rfl, .refl ha.comparable⟩

theorem same_symm (ha : a.Decoded) (hb : b.Decoded) (h : a.same b = true) : b.same a = true := by
  obtain ⟨hkind, halike⟩ := (same_iff ha hb).1 h
  exact (same_iff hb ha).2 ⟨hkind.symm, halike.symm⟩

theorem same_trans (ha : a.Decoded) (hb : b.Decoded) (hc : c.Decoded) (h : a.same b = true)
    (h' : b.same c = true) : a.same c = true := by
  obtain ⟨hkind, halike⟩ := (same_iff ha hb).1 h
  obtain ⟨hkind', halike'⟩ := (same_iff hb hc).1 h'
  exact (same_iff ha hc).2 ⟨hkind.trans hkind', halike.trans halike'⟩

end Item

/-! ## Descriptors -/

namespace Descriptor

/-- Two descriptors are the same exactly if they have one version and both are tombstones, or both
have items and these are the same. -/
theorem same_iff {d e : Descriptor} :
    d.same e = true ↔ d.version = e.version ∧
      Option.Rel (fun a b => a.same b = true) d.item e.item := by
  rw [same, Bool.and_eq_true, decide_eq_true_iff]
  refine and_congr_right fun _ => ?_
  cases d.item with
  | none => cases e.item <;> simp
  | some a => cases e.item <;> simp

variable {d e f : Descriptor}

/-- A tombstone is the same as tombstones only. -/
theorem deleted_eq_of_same (h : d.same e = true) : d.deleted = e.deleted := by
  obtain ⟨version, x⟩ := d
  obtain ⟨version', y⟩ := e
  obtain ⟨-, hitem⟩ := same_iff.1 h
  cases hitem with
  | none => rfl
  | some _ => rfl

theorem same_refl (hd : d.Decoded) : d.same d = true := by
  refine same_iff.2 ⟨rfl, ?_⟩
  cases hitem : d.item with
  | none => exact .none
  | some a => exact .some (Item.same_refl (hd a hitem))

theorem same_symm (hd : d.Decoded) (he : e.Decoded) (h : d.same e = true) : e.same d = true := by
  obtain ⟨version, x⟩ := d
  obtain ⟨version', y⟩ := e
  obtain ⟨hversion, hitem⟩ := same_iff.1 h
  refine same_iff.2 ⟨hversion.symm, ?_⟩
  cases hitem with
  | none => exact .none
  | some hsame => exact .some (Item.same_symm (hd _ rfl) (he _ rfl) hsame)

theorem same_trans (hd : d.Decoded) (he : e.Decoded) (hf : f.Decoded) (h : d.same e = true)
    (h' : e.same f = true) : d.same f = true := by
  obtain ⟨version, x⟩ := d
  obtain ⟨version', y⟩ := e
  obtain ⟨version'', z⟩ := f
  obtain ⟨hversion, hitem⟩ := same_iff.1 h
  obtain ⟨hversion', hitem'⟩ := same_iff.1 h'
  refine same_iff.2 ⟨hversion.trans hversion', ?_⟩
  cases hitem with
  | none => exact hitem'
  | some hsame =>
    cases hitem' with
    | some hsame' => exact .some (Item.same_trans (hd _ rfl) (he _ rfl) (hf _ rfl) hsame hsame')

end Descriptor

/-- Comparing is an equivalence among items that were decoded, and among descriptors of such items.
Items are the same exactly if they are of one kind and their objects mean the same, so that a flag
is never the same as a segment, and then they agree in everything that was decoded from them.
Descriptors are the same exactly if they have one version, and no item or items that are the same,
so that a tombstone is never the same as what is none. -/
theorem same_is_equality :
    Equivalence (fun a b : { item : Item // item.Decoded } => a.1.same b.1 = true) ∧
      Equivalence (fun d e : { d : Descriptor // d.Decoded } => d.1.same e.1 = true) ∧
      (∀ a b : Item, a.Decoded → b.Decoded →
        (a.same b = true ↔ a.kind = b.kind ∧ Alike a.value b.value) ∧
          (a.same b = true → a.Agree b)) ∧
      ∀ d e : Descriptor,
        (d.same e = true ↔ d.version = e.version ∧
          Option.Rel (fun a b => a.same b = true) d.item e.item) ∧
          (d.same e = true → d.deleted = e.deleted) := by
  refine ⟨⟨?_, ?_, ?_⟩, ⟨?_, ?_, ?_⟩, ?_, ?_⟩
  · intro a
    exact Item.same_refl a.2
  · intro a b h
    exact Item.same_symm a.2 b.2 h
  · intro a b c h h'
    exact Item.same_trans a.2 b.2 c.2 h h'
  · intro d
    exact Descriptor.same_refl d.2
  · intro d e h
    exact Descriptor.same_symm d.2 e.2 h
  · intro d e f h h'
    exact Descriptor.same_trans d.2 e.2 f.2 h h'
  · intro a b ha hb
    exact ⟨Item.same_iff ha hb, Item.agree_of_same ha hb⟩
  · intro d e
    exact ⟨Descriptor.same_iff, Descriptor.deleted_eq_of_same⟩

/-- A flag with a switch, some weights, and a deletion that is denied. -/
def Json.Value.weighed : Value :=
  .object [("key", .string "a"), ("version", .integer 1), ("deleted", .null),
    ("rules", .array [.object [("on", .boolean true), ("weight", .integer 4)]])]

/-- The same flag with its members in other orders and its numbers in other forms. -/
def Json.Value.reweighed : Value :=
  .object [("rules", .array [.object [("weight", .number (.binary (.finite false 1 2))),
      ("on", .integer 1)]]), ("deleted", .null), ("version", .integer 1), ("key", .string "a")]

/-- Both are items, and they are the same. -/
theorem same_is_equality_of_reordered :
    ∃ a b : Item, Kind.flag.decode .weighed = .ok a ∧ Kind.flag.decode .reweighed = .ok b ∧
      a.Decoded ∧ b.Decoded ∧ a.same b = true ∧ a.Agree b := by
  have hv : Value.Comparable .weighed := by
    simp [Value.weighed, Table.keys]
  have hw : Value.Comparable .reweighed := by
    simp [Value.reweighed, Table.keys]
  refine ⟨_, _, rfl, rfl, ⟨_, hv, rfl⟩, ⟨_, hw, rfl⟩, ?_, ?_⟩
  · decide
  · exact ((same_is_equality.2.2.1 _ _ ⟨_, hv, rfl⟩ ⟨_, hw, rfl⟩).2 (by decide))

end FlagReplica
