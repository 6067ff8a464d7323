import FlagReplica.Proofs.Json.Distinct
import FlagReplica.Proofs.Number.Quantity
import Mathlib.Data.List.Forall2
import Mathlib.Data.List.Perm.Subperm

/-!
# Values that mean the same

When two values count as equal, said without the comparison that decides it. Numbers and truth
values are compared by what they stand for, lists place by place, and objects name by name, whatever
the order of their members. `same_iff_alike` says that the comparison decides exactly this, at every
depth, and `Alike` is an equivalence wherever every number is one.
-/

namespace FlagReplica.Json

/-- A value with distinct names that is made of certain numbers and certain texts. -/
inductive Value.MadeOf (numbers : Number → Prop) (texts : Text → Prop) : Value → Prop where
  | null : MadeOf numbers texts .null
  | boolean (b : Bool) : MadeOf numbers texts (.boolean b)
  | number {n : Number} (h : numbers n) : MadeOf numbers texts (.number n)
  | text {t : Text} (h : texts t) : MadeOf numbers texts (.text t)
  | array {items : List Value} (h : ∀ v ∈ items, MadeOf numbers texts v) :
      MadeOf numbers texts (.array items)
  | object {members : Members} (names : members.keys.Nodup) (keys : ∀ m ∈ members, texts m.1)
      (h : ∀ m ∈ members, MadeOf numbers texts m.2) : MadeOf numbers texts (.object members)

namespace Value.MadeOf

variable {numbers : Number → Prop} {texts : Text → Prop}

theorem mono {numbers' : Number → Prop} {texts' : Text → Prop} {v : Value}
    (h : MadeOf numbers texts v) (hnumbers : ∀ n, numbers n → numbers' n)
    (htexts : ∀ t, texts t → texts' t) : MadeOf numbers' texts' v := by
  induction h with
  | null => exact .null
  | boolean b => exact .boolean b
  | number h => exact .number (hnumbers _ h)
  | text h => exact .text (htexts _ h)
  | array _ ih => exact .array ih
  | object names keys _ ih => exact .object names (fun m hm => htexts _ (keys m hm)) ih

@[simp] theorem null_iff : MadeOf numbers texts .null ↔ True :=
  iff_true_intro .null

@[simp] theorem boolean_iff {b : Bool} : MadeOf numbers texts (.boolean b) ↔ True :=
  iff_true_intro (.boolean b)

@[simp] theorem number_iff {n : Number} : MadeOf numbers texts (.number n) ↔ numbers n := by
  constructor
  · rintro (_ | _ | h)
    exact h
  · exact .number

@[simp] theorem text_iff {t : Text} : MadeOf numbers texts (.text t) ↔ texts t := by
  constructor
  · rintro (_ | _ | _ | h)
    exact h
  · exact .text

@[simp]
theorem array_iff {items : List Value} :
    MadeOf numbers texts (.array items) ↔ ∀ v ∈ items, MadeOf numbers texts v := by
  constructor
  · rintro (_ | _ | _ | _ | h)
    exact h
  · exact .array

@[simp]
theorem object_iff {members : Members} :
    MadeOf numbers texts (.object members) ↔
      members.keys.Nodup ∧ (∀ m ∈ members, texts m.1) ∧
        ∀ m ∈ members, MadeOf numbers texts m.2 := by
  constructor
  · rintro (_ | _ | _ | _ | _ | ⟨names, keys, h⟩)
    exact ⟨names, keys, h⟩
  · rintro ⟨names, keys, h⟩
    exact .object names keys h

end Value.MadeOf

/-- A value can be compared: it has distinct names, and every number in it is one. -/
abbrev Value.Comparable : Value → Prop :=
  MadeOf (· ≠ .binary .notANumber) fun _ => True

namespace Value

/-- What a value counts as among numbers: true is one and false is zero. -/
def quantity? : Value → Option Quantity
  | number n => n.quantity?
  | boolean b => some (.rational (if b then 1 else 0))
  | _ => none

/-- Two values mean the same. -/
inductive Alike : Value → Value → Prop where
  | null : Alike .null .null
  | amount {v w : Value} {q : Quantity} (left : v.quantity? = some q)
      (right : w.quantity? = some q) : Alike v w
  | text (t : Text) : Alike (.text t) (.text t)
  | array {xs ys : List Value} (length : xs.length = ys.length)
      (items : ∀ (i : Nat) x y, xs[i]? = some x → ys[i]? = some y → Alike x y) :
      Alike (.array xs) (.array ys)
  | object {xs ys : Members} (names : ∀ name, name ∈ xs.keys ↔ name ∈ ys.keys)
      (members : ∀ name x y, Table.get? xs name = some x → Table.get? ys name = some y →
        Alike x y) : Alike (.object xs) (.object ys)

/-! ## An equivalence -/

/-- A number that is one stands for something. -/
theorem exists_quantity {n : Number} (h : n ≠ .binary .notANumber) : ∃ q, n.quantity? = some q := by
  cases n with
  | integer n => exact ⟨_, rfl⟩
  | binary x =>
    cases x with
    | finite => exact ⟨_, rfl⟩
    | infinite => exact ⟨_, rfl⟩
    | notANumber => exact absurd rfl h

namespace Alike

theorem refl {v : Value} (h : v.Comparable) : Alike v v := by
  induction h with
  | null => exact .null
  | boolean b => exact .amount rfl rfl
  | number h =>
    obtain ⟨q, hq⟩ := exists_quantity h
    exact .amount hq hq
  | text => exact .text _
  | array _ ih =>
    refine .array rfl ?_
    intro i x y hx hy
    obtain rfl := Option.some.inj (hx.symm.trans hy)
    exact ih _ (List.mem_of_getElem? hx)
  | object _ _ _ ih =>
    refine .object (fun _ => Iff.rfl) ?_
    -- both sides are the same table, which has one entry for a name
    intro name x y hx hy
    obtain rfl := Option.some.inj (hx.symm.trans hy)
    exact ih _ (Table.mem_of_get? hx)

theorem symm {v w : Value} (h : Alike v w) : Alike w v := by
  induction h with
  | null => exact .null
  | amount left right => exact .amount right left
  | text t => exact .text t
  | array length _ ih => exact .array length.symm fun i x y hx hy => ih i y x hy hx
  | object names _ ih =>
    exact .object (fun name => (names name).symm) fun name x y hx hy => ih name y x hy hx

/-- What stands for an amount is like what stands for the same amount, and like nothing else. -/
theorem of_quantity {v w : Value} {q : Quantity} (hv : v.quantity? = some q) :
    Alike v w ↔ w.quantity? = some q := by
  constructor
  · intro h
    cases h with
    | amount left right => rw [right, ← left, hv]
    | null => cases hv
    | text => cases hv
    | array => cases hv
    | object => cases hv
  · exact .amount hv

/-- What stands for no amount is like values of its own form only. -/
theorem of_no_quantity {v w : Value} (h : Alike v w) (hv : v.quantity? = none) :
    (v = .null ∧ w = .null) ∨ (∃ t, v = .text t ∧ w = .text t) ∨
      (∃ xs ys, v = .array xs ∧ w = .array ys) ∨ ∃ xs ys, v = .object xs ∧ w = .object ys := by
  cases h with
  | null => exact Or.inl ⟨rfl, rfl⟩
  | amount left =>
    rw [hv] at left
    cases left
  | text t => exact Or.inr (Or.inl ⟨t, rfl, rfl⟩)
  | array => exact Or.inr (Or.inr (Or.inl ⟨_, _, rfl, rfl⟩))
  | object => exact Or.inr (Or.inr (Or.inr ⟨_, _, rfl, rfl⟩))

theorem trans {u v w : Value} (h : Alike u v) (h' : Alike v w) : Alike u w := by
  induction h generalizing w with
  | null => exact h'
  | amount left right => exact .amount left ((of_quantity right).1 h')
  | text => exact h'
  | @array xs ys length _ ih =>
    cases h' with
    | amount left => cases left
    | @array _ zs length' items' =>
      refine .array (length.trans length') ?_
      intro i x z hx hz
      -- a list of the same length has something at that place too
      have hi : i < ys.length := by
        have hbound := (List.getElem?_eq_some_iff.1 hx).1
        omega
      exact ih i x ys[i] hx (List.getElem?_eq_getElem hi)
        (items' i ys[i] z (List.getElem?_eq_getElem hi) hz)
  | @object xs ys names _ ih =>
    cases h' with
    | amount left => cases left
    | @object _ zs names' members' =>
      refine .object (fun name => (names name).trans (names' name)) ?_
      intro name x z hx hz
      -- an object with the same names has a member of that name too
      obtain ⟨y, hy⟩ := Table.mem_keys_iff.1 ((names name).1 (Table.mem_keys_iff.2 ⟨x, hx⟩))
      exact ih name x y hx hy (members' name y z hy hz)

section Members

variable {xs ys : Members} (h : Alike (.object xs) (.object ys))
include h

theorem names (name : Text) : name ∈ xs.keys ↔ name ∈ ys.keys := by
  cases h with
  | amount left => cases left
  | object names _ => exact names name

/-- What two objects hold under one name means the same. -/
theorem members {name : Text} {x y : Value} (hx : Table.get? xs name = some x)
    (hy : Table.get? ys name = some y) : Alike x y := by
  cases h with
  | amount left => cases left
  | object _ members => exact members name x y hx hy

/-- What is found in one object has its like in the other. -/
theorem exists_member {name : Text} {x : Value} (hx : Table.get? xs name = some x) :
    ∃ y, Table.get? ys name = some y ∧ Alike x y := by
  obtain ⟨y, hy⟩ := Table.mem_keys_iff.1 ((h.names name).1 (Table.mem_keys_iff.2 ⟨x, hx⟩))
  exact ⟨y, hy, h.members hx hy⟩

end Members

end Alike

/-! ## What the comparison decides -/

/-- An amount is one that a value counts as exactly if both stand for the same. -/
theorem amount?_eq_iff {w : Value} {n : Number} {q : Quantity} (hn : n.quantity? = some q) :
    w.amount? = some n.amount ↔ w.quantity? = some q := by
  cases w with
  | number m => rw [amount?, Option.some.injEq, Number.amount_eq_iff, hn]; rfl
  | boolean b =>
    have hb : (Number.integer (if b then 1 else 0)).quantity? = (boolean b).quantity? := by
      cases b <;> simp [Number.quantity?, quantity?]
    rw [amount?, Option.some.injEq, Number.amount_eq_iff, hn, hb]
  | null => simp [amount?, quantity?]
  | text => simp [amount?, quantity?]
  | array => simp [amount?, quantity?]
  | object => simp [amount?, quantity?]

/-- Lists mean the same place by place. -/
theorem alike_array_iff {xs ys : List Value} :
    Alike (.array xs) (.array ys) ↔ List.Forall₂ Alike xs ys := by
  rw [List.forall₂_iff_get]
  constructor
  · intro h
    cases h with
    | amount left => cases left
    | array length items =>
      refine ⟨length, ?_⟩
      intro i hx hy
      exact items i _ _ (List.getElem?_eq_getElem hx) (List.getElem?_eq_getElem hy)
  · rintro ⟨length, items⟩
    refine .array length ?_
    intro i x y hx hy
    obtain ⟨hi, rfl⟩ := List.getElem?_eq_some_iff.1 hx
    obtain ⟨hi', rfl⟩ := List.getElem?_eq_some_iff.1 hy
    exact items i hi hi'

theorem sameItems_iff {xs ys : List Value}
    (ih : ∀ x ∈ xs, ∀ y ∈ ys, x.same y = true ↔ Alike x y) :
    sameItems xs ys = true ↔ List.Forall₂ Alike xs ys := by
  induction xs generalizing ys with
  | nil => cases ys <;> simp [sameItems]
  | cons x xs ihxs =>
    cases ys with
    | nil => simp [sameItems]
    | cons y ys =>
      have hrest := ihxs fun x' hx' y' hy' =>
        ih x' (List.mem_cons_of_mem x hx') y' (List.mem_cons_of_mem y hy')
      rw [sameItems, Bool.and_eq_true, List.forall₂_cons, hrest,
        ih x List.mem_cons_self y List.mem_cons_self]

/-- Objects mean the same name by name, if they are of one size. -/
theorem alike_object_iff {xs ys : Members} (hxs : xs.keys.Nodup) (hys : ys.keys.Nodup) :
    Alike (.object xs) (.object ys) ↔
      xs.length = ys.length ∧ ∀ m ∈ xs, ∃ y, Table.get? ys m.1 = some y ∧ Alike m.2 y := by
  constructor
  · intro h
    have hperm : xs.keys.Perm ys.keys := (List.perm_ext_iff_of_nodup hxs hys).2 h.names
    refine ⟨by simpa [Table.keys] using hperm.length_eq, ?_⟩
    intro m hm
    exact h.exists_member (Table.get?_of_mem hxs hm)
  · rintro ⟨length, members⟩
    have hsubset : xs.keys ⊆ ys.keys := by
      intro name hname
      obtain ⟨m, hm, rfl⟩ := List.mem_map.1 hname
      obtain ⟨y, hy, -⟩ := members m hm
      exact Table.mem_keys_iff.2 ⟨y, hy⟩
    -- distinct names that are all among as many distinct names are all of them
    have hperm : xs.keys.Perm ys.keys :=
      (List.subperm_of_subset hxs hsubset).perm_of_length_le (by simp [Table.keys, length])
    refine .object (fun name => hperm.mem_iff) ?_
    intro name x y hx hy
    obtain ⟨y', hy', halike⟩ := members (name, x) (Table.mem_of_get? hx)
    obtain rfl := Option.some.inj (hy'.symm.trans hy)
    exact halike

theorem sameMembers_iff {xs ys : Members}
    (ih : ∀ m ∈ xs, ∀ m' ∈ ys, m.2.same m'.2 = true ↔ Alike m.2 m'.2) :
    sameMembers xs ys = true ↔
      ∀ m ∈ xs, ∃ y, Table.get? ys m.1 = some y ∧ Alike m.2 y := by
  -- by induction on the members of one object, all compared with the whole of the other
  induction xs with
  | nil => simp [sameMembers]
  | cons m xs ihxs =>
    obtain ⟨name, x⟩ := m
    have hrest := ihxs fun m' hm' => ih m' (List.mem_cons_of_mem _ hm')
    rw [sameMembers, Bool.and_eq_true, hrest, List.forall_mem_cons]
    refine and_congr_left fun _ => ?_
    cases hy : Table.get? ys name with
    | none => simp
    | some y =>
      have hsame := ih _ List.mem_cons_self _ (Table.mem_of_get? hy)
      simp [hsame]

theorem alike_text_iff {t t' : Text} : Alike (.text t) (.text t') ↔ t = t' := by
  constructor
  · intro h
    cases h with
    | amount left => cases left
    | text => rfl
  · rintro rfl
    exact .text t

/-- The comparison decides whether two values mean the same. -/
theorem same_iff_alike {v w : Value} (hv : v.Comparable) (hw : w.Comparable) :
    v.same w = true ↔ Alike v w := by
  -- by induction on one value, with the other left open; values of different sorts are ruled out
  -- case by case
  induction hv generalizing w with
  | null =>
    cases w with
    | null => exact iff_of_true rfl .null
    | _ => exact iff_of_false (by simp [same]) fun h => by simpa using h.of_no_quantity rfl
  | boolean b =>
    have hb : (Number.integer (if b then 1 else 0)).quantity? = (boolean b).quantity? := by
      cases b <;> simp [Number.quantity?, quantity?]
    rw [Alike.of_quantity rfl, same, decide_eq_true_iff]
    exact amount?_eq_iff hb
  | @number n h =>
    obtain ⟨q, hq⟩ := exists_quantity h
    rw [Alike.of_quantity (v := .number n) (show (Value.number n).quantity? = some q from hq), same,
      decide_eq_true_iff]
    exact amount?_eq_iff hq
  | @text t _ =>
    cases w with
    | text t' => rw [same, decide_eq_true_iff, alike_text_iff]
    | _ => exact iff_of_false (by simp [same]) fun h => by simpa using h.of_no_quantity rfl
  | @array xs hxs ih =>
    cases w with
    | array ys =>
      rw [same, alike_array_iff]
      refine sameItems_iff ?_
      intro x hx y hy
      cases hw with
      | array hys => exact ih x hx (hys y hy)
    | _ => exact iff_of_false (by simp [same]) fun h => by simpa using h.of_no_quantity rfl
  | @object xs names keys hxs ih =>
    cases w with
    | object ys =>
      cases hw with
      | object names' keys' hys =>
        -- as many members on both sides, and every one of the first is found in the second
        rw [same, Bool.and_eq_true, decide_eq_true_iff, alike_object_iff names names']
        refine and_congr_right fun _ => sameMembers_iff ?_
        intro m hm m' hm'
        exact ih m hm (hys m' hm')
    | _ => exact iff_of_false (by simp [same]) fun h => by simpa using h.of_no_quantity rfl

end Value

end FlagReplica.Json
