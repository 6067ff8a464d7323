import FlagReplica.Proofs.Change.Refused
import FlagReplica.Proofs.Item.Schema

/-!
# Accepted data sets

Which decoded values are full data sets, and what is made of them: an object whose collections are
absent or objects, and hold items of their kinds and nothing else. Each entry is kept under its key,
as a tombstone if its item says that it is deleted. `accepts_exactly` says so of single items too.
-/

namespace FlagReplica

open Json (Value Members)

/-- The entries of a collection in a full data set; one that is absent has none. -/
def Entries (members : Members) (kind : Kind) (entries : Members) : Prop :=
  Table.get? members (kind.collectionName : Text) = none ∧ entries = [] ∨
    Table.get? members (kind.collectionName : Text) = some (.object entries)

/-- What is kept of an entry: its key, and a descriptor at its item's version, which is a tombstone
if the item says that it is deleted. -/
structure Kept (kind : Kind) (entry : Text × Value) (kept : Text × Descriptor) : Prop where
  key : kept.1 = entry.1
  descriptor : ∃ item : Item, item.Decodes kind entry.2 ∧ kept.2.version = item.version ∧
    kept.2.item = if item.deleted then none else some item

/-- An object whose collections hold items of their kinds. -/
def IsDataSet (v : Value) : Prop :=
  ∃ members, v = .object members ∧
    ∀ kind, ∃ entries, Entries members kind entries ∧
      ∀ e ∈ entries, ∃ item, kind.decode e.2 = .ok item

namespace Payload

variable {members : Members} {kind : Kind}

theorem descriptorOf_eq_ok_iff {v : Value} {d : Descriptor} :
    descriptorOf kind v = .ok d ↔ ∃ item, kind.decode v = .ok item ∧ d = .ofItem item := by
  unfold descriptorOf
  cases kind.decode v with
  | error fault => simp
  | ok item => simp [eq_comm]

theorem entry_eq_ok_iff {e : Text × Value} {kept : Text × Descriptor} :
    (do
      let d ← descriptorOf kind e.2
      return (e.1, d)) = .ok kept ↔ Kept kind e kept := by
  rw [Except.bind_eq_ok_iff]
  simp only [descriptorOf_eq_ok_iff, Except.pure_eq_ok_iff, Kind.decode_eq_ok_iff]
  constructor
  · rintro ⟨d, ⟨item, hitem, rfl⟩, rfl⟩
    refine ⟨rfl, item, hitem, ?_, ?_⟩ <;>
      cases hdeleted : item.deleted <;> simp [Descriptor.ofItem, Descriptor.tombstone, hdeleted]
  · rintro ⟨hkey, item, hitem, hversion, hkept⟩
    refine ⟨_, ⟨item, hitem, rfl⟩, ?_⟩
    have hd : kept.2 = .ofItem item := by
      obtain ⟨key, version, found⟩ := kept
      dsimp only at hversion hkept
      cases hdeleted : item.deleted <;>
        simp [Descriptor.ofItem, Descriptor.tombstone, hdeleted, hversion, hkept]
    rw [← hkey, ← hd]

/-- The entries of a collection, if it is absent or an object. -/
def entriesOf (members : Members) (kind : Kind) : Except Fault Members :=
  match Table.get? members (kind.collectionName : Text) with
  | some v => membersOf (.collection kind) v
  | none => .ok []

theorem entriesOf_eq_ok_iff {entries : Members} :
    entriesOf members kind = .ok entries ↔ Entries members kind entries := by
  unfold entriesOf Entries
  cases h : Table.get? members (kind.collectionName : Text) with
  | none => simp [eq_comm]
  | some v => cases v <;> simp [membersOf]

/-- A collection is decoded entry by entry. -/
theorem collectionOf_eq_ok_iff {collection : Collection} :
    collectionOf members kind = .ok collection ↔
      ∃ entries, Entries members kind entries ∧ List.Forall₂ (Kept kind) entries collection := by
  have hparts : collectionOf members kind = (do
      let entries ← entriesOf members kind
      entries.mapM fun e => do
        let d ← descriptorOf kind e.2
        return (e.1, d)) := by
    unfold collectionOf entriesOf
    cases Table.get? members (kind.collectionName : Text) <;> rfl
  rw [hparts, Except.bind_eq_ok_iff]
  simp only [entriesOf_eq_ok_iff, Except.mapM_eq_ok_iff, entry_eq_ok_iff]

/-- A value that is no text is loaded as it is. -/
theorem load_of_plain {v : Value} (h : v.text? = none) : (value v).load = .ok v := by
  cases v with
  | text t => exact absurd h (by simp [Value.text?])
  | _ => rfl

/-- A full data set is decoded kind by kind. -/
theorem toDataSet_eq_ok_iff {v : Value} (h : v.text? = none) {data : DataSet} :
    (value v).toDataSet = .ok data ↔
      ∃ members, v = .object members ∧
        List.Forall₂ (fun kind kept => kept.1 = kind ∧ collectionOf members kind = .ok kept.2)
          Kind.all data := by
  constructor
  · intro hdata
    unfold toDataSet at hdata
    rw [load_of_plain h] at hdata
    obtain ⟨w, hw, hread⟩ := Except.of_bind_eq_ok hdata
    obtain ⟨members, hmembers, hkinds⟩ := Except.of_bind_eq_ok hread
    rw [← Except.ok.inj hw] at hmembers
    refine ⟨members, membersOf_eq_ok hmembers, (Except.mapM_eq_ok_iff.1 hkinds).imp ?_⟩
    intro kind kept hkept
    obtain ⟨collection, hcollection, hkept⟩ := Except.of_bind_eq_ok hkept
    obtain rfl := Except.pure_eq_ok_iff.1 hkept
    exact ⟨rfl, hcollection⟩
  · rintro ⟨members, rfl, hall⟩
    unfold toDataSet
    refine Except.bind_eq_ok_iff.2 ⟨_, rfl, Except.bind_eq_ok_iff.2 ⟨members, rfl, ?_⟩⟩
    refine Except.mapM_eq_ok_iff.2 (hall.imp ?_)
    rintro kind ⟨k, collection⟩ ⟨rfl, hcollection⟩
    exact Except.bind_eq_ok_iff.2 ⟨collection, hcollection, rfl⟩

/-- A kind's collection can be decoded exactly if it is absent or an object, and every entry holds
an item of the kind. -/
theorem collectionOf_succeeds_iff :
    (∃ collection, collectionOf members kind = .ok collection) ↔
      ∃ entries, Entries members kind entries ∧
        ∀ e ∈ entries, ∃ item, kind.decode e.2 = .ok item := by
  have hkept (e : Text × Value) :
      (∃ kept, Kept kind e kept) ↔ ∃ item, kind.decode e.2 = .ok item := by
    simp only [Kind.decode_eq_ok_iff]
    constructor
    · rintro ⟨kept, -, item, hitem, -⟩
      exact ⟨item, hitem⟩
    · rintro ⟨item, hitem⟩
      exact ⟨(e.1, ⟨item.version, if item.deleted then none else some item⟩), rfl, item, hitem, rfl,
        rfl⟩
  simp only [collectionOf_eq_ok_iff]
  rw [exists_comm]
  simp only [exists_and_left, exists_forall₂_iff, hkept]

/-- A value that is no text is decoded as a full data set exactly if it is one. -/
theorem toDataSet_succeeds_iff {v : Value} (h : v.text? = none) :
    (∃ data, (value v).toDataSet = .ok data) ↔ IsDataSet v := by
  have hkind : ∀ members kind,
      (∃ kept : Kind × Collection, kept.1 = kind ∧ collectionOf members kind = .ok kept.2) ↔
        ∃ collection, collectionOf members kind = .ok collection := by
    intro members kind
    simp
  have hall : ∀ p : Kind → Prop, (∀ kind ∈ Kind.all, p kind) ↔ ∀ kind, p kind := by
    intro p
    refine ⟨fun hp kind => hp kind ?_, fun hp kind _ => hp kind⟩
    cases kind <;> simp [Kind.all]
  simp only [toDataSet_eq_ok_iff h]
  rw [exists_comm]
  simp only [exists_and_left, exists_forall₂_iff, hkind, hall, collectionOf_succeeds_iff]
  rfl

/-- What a full data set is decoded to. -/
theorem toDataSet_collections {v : Value} (h : v.text? = none) {data : DataSet}
    (hdata : (value v).toDataSet = .ok data) :
    data.keys = Kind.all ∧ ∃ members, v = .object members ∧
      ∀ kind, ∃ entries, Entries members kind entries ∧
        List.Forall₂ (Kept kind) entries (data.collection kind) := by
  obtain ⟨members, hv, hkinds⟩ := (toDataSet_eq_ok_iff h).1 hdata
  -- there are two kinds, and each has its place
  obtain ⟨flags, rest, ⟨hflag, hflags⟩, hrest, rfl⟩ := List.forall₂_cons_left_iff.1 hkinds
  obtain ⟨segments, rest', ⟨hsegment, hsegments⟩, hnone, rfl⟩ :=
    List.forall₂_cons_left_iff.1 hrest
  obtain rfl := List.forall₂_nil_left_iff.1 hnone
  obtain ⟨kind, flags⟩ := flags
  obtain ⟨kind', segments⟩ := segments
  dsimp only at hflag hflags hsegment hsegments
  obtain rfl := hflag
  obtain rfl := hsegment
  refine ⟨rfl, members, hv, ?_⟩
  intro kind
  cases kind with
  | flag => exact collectionOf_eq_ok_iff.1 hflags
  | segment => exact collectionOf_eq_ok_iff.1 hsegments

end Payload

/-- Decoding accepts exactly what fits. An item is made of an object that has its kind's schema, and
is what the object says; every other value is refused as no item. A value that is no text is a full
data set exactly if it is an object whose collections are absent or objects, and hold items of their
kinds and nothing else. Each collection is then kept entry by entry, under the same keys, and every
other value is refused as invalid data. -/
theorem accepts_exactly (v : Value) :
    (∀ kind : Kind,
      ((∃ item, kind.decode v = .ok item) ↔ ∃ members, v = .object members ∧ kind.Schema members) ∧
        (∀ item, kind.decode v = .ok item ↔ item.Decodes kind v) ∧
        ((¬ ∃ members, v = .object members ∧ kind.Schema members) →
          ∃ fault : SchemaFault, kind.decode v = .error fault)) ∧
      (v.text? = none →
        ((∃ data, (Payload.value v).toDataSet = .ok data) ↔ IsDataSet v) ∧
          (∀ data, (Payload.value v).toDataSet = .ok data →
            data.keys = Kind.all ∧ ∃ members, v = .object members ∧
              ∀ kind, ∃ entries, Entries members kind entries ∧
                List.Forall₂ (Kept kind) entries (data.collection kind)) ∧
          (¬ IsDataSet v →
            ∃ reason, (Payload.value v).toDataSet = .error (.invalidData reason))) := by
  constructor
  · intro kind
    refine ⟨Kind.decodes_iff, fun item => Kind.decode_eq_ok_iff, ?_⟩
    intro hnot
    cases h : kind.decode v with
    | error fault => exact ⟨fault, rfl⟩
    | ok item => exact absurd (Kind.decodes_iff.1 ⟨item, h⟩) hnot
  · intro hplain
    refine ⟨Payload.toDataSet_succeeds_iff hplain,
      fun data hdata => Payload.toDataSet_collections hplain hdata, ?_⟩
    intro hnot
    cases h : (Payload.value v).toDataSet with
    | ok data => exact absurd ((Payload.toDataSet_succeeds_iff hplain).1 ⟨data, h⟩) hnot
    | error fault =>
      -- a value that is no text needs no reading, so its refusal is not one of `load`
      rcases Payload.toDataSet_refused h with hload | ⟨reason, rfl⟩
      · rw [Payload.load_of_plain hplain] at hload
        exact absurd hload (by simp)
      · exact ⟨reason, rfl⟩

/-- A data set with one flag that is live and one that says it is deleted. Nobody minds that the
deleted one's switch is a number. -/
def Json.Value.mixedData : Value :=
  .object [("flags", .object [
    ("live", .object [("key", .string "live"), ("version", .integer 1), ("on", .null)]),
    ("gone", .object [("key", .string "gone"), ("version", .integer 2),
      ("deleted", .boolean true), ("on", .integer 3)])])]

/-- The data set is accepted, and the deleted flag is kept as a tombstone. -/
theorem accepts_exactly_of_deleted :
    Value.mixedData.text? = none ∧ ∃ data, (Payload.value Value.mixedData).toDataSet = .ok data ∧
      data.keys = Kind.all ∧
      (∃ members, Value.mixedData = .object members ∧ ∃ flags, Entries members .flag flags ∧
        List.Forall₂ (Kept .flag) flags (data.collection .flag)) ∧
      (data.collection .flag).map (fun kept => (kept.2.version, kept.2.deleted)) =
        [(1, false), (2, true)] := by
  have haccepted : ∃ data, (Payload.value Value.mixedData).toDataSet = .ok data ∧
      (data.collection .flag).map (fun kept => (kept.2.version, kept.2.deleted)) =
        [(1, false), (2, true)] := ⟨_, by rfl, by rfl⟩
  obtain ⟨data, hdata, hversions⟩ := haccepted
  obtain ⟨hkeys, members, hv, hkinds⟩ :=
    ((accepts_exactly Value.mixedData).2 rfl).2.1 data hdata
  exact ⟨rfl, data, hdata, hkeys, ⟨members, hv, hkinds .flag⟩, hversions⟩

end FlagReplica
