import FlagReplica.Change.Basic
import FlagReplica.Proofs.DataSet.Arrangement
import FlagReplica.Proofs.Json.Distinct

/-!
# Decoded data sets

What can be said of a data set because it was decoded from a payload: it has the two kinds, and no
key comes twice in either collection.
-/

namespace FlagReplica

open Json (Value Members)

namespace Payload

/-- A value that was handed over decoded holds no name twice, if it came from a reader. -/
inductive Distinct : Payload → Prop where
  | text (t : Text) : Distinct (.text t)
  | value {v : Value} (h : v.Distinct) : Distinct (.value v)

theorem ofRead_eq_ok {r : Except Json.ReadError Value} {v : Value} (h : ofRead r = .ok v) :
    r = .ok v := by
  unfold ofRead at h
  split at h
  · rw [Except.ok.inj h]
  · exact absurd h (by simp)
  · exact absurd h (by simp)

/-- What a payload is loaded as holds no name twice. -/
theorem Distinct.load {p : Payload} (hp : p.Distinct) {v : Value} (h : p.load = .ok v) :
    v.Distinct := by
  cases hp with
  | text t => exact Json.read_distinct (ofRead_eq_ok h)
  | @value w hw =>
    cases w with
    | text t => exact Json.read_distinct (ofRead_eq_ok h)
    | _ =>
      rcases Except.ok.inj h with rfl
      exact hw

theorem membersOf_eq_ok {part : Part} {v : Value} {members : Members}
    (h : membersOf part v = .ok members) : v = .object members := by
  unfold membersOf at h
  split at h
  · rw [Except.ok.inj h]
  · exact absurd h (by simp)

/-- Decoding the items of a collection keeps their keys. -/
theorem keys_of_mapM {kind : Kind} {entries : Members} {collection : Collection}
    (h : (entries.mapM fun (key, v) => do
      let d ← descriptorOf kind v
      return (key, d)) = .ok collection) :
    collection.keys = entries.keys := by
  induction entries generalizing collection with
  | nil =>
    rcases Except.ok.inj h with rfl
    rfl
  | cons e entries ih =>
    rw [List.mapM_cons] at h
    rcases Except.of_bind_eq_ok h with ⟨first, hfirst, h⟩
    rcases Except.of_bind_eq_ok h with ⟨others, hothers, h⟩
    rcases Except.of_bind_eq_ok hfirst with ⟨d, -, hd⟩
    rcases Except.ok.inj h with rfl
    rcases Except.ok.inj hd with rfl
    simpa [Table.keys] using ih hothers

/-- A decoded collection has no key twice. -/
theorem collectionOf_keys_nodup {members : Members} (hm : Value.Distinct (.object members))
    {kind : Kind} {collection : Collection} (h : collectionOf members kind = .ok collection) :
    collection.keys.Nodup := by
  unfold collectionOf at h
  dsimp only at h
  split at h
  · rename_i v hv
    rcases Except.of_bind_eq_ok h with ⟨entries, hentries, hmap⟩
    rw [keys_of_mapM hmap]
    rcases membersOf_eq_ok hentries with rfl
    exact (hm.get? hv).names
  · rcases Except.of_bind_eq_ok h with ⟨entries, hentries, hmap⟩
    rw [keys_of_mapM hmap]
    rcases Except.ok.inj hentries with rfl
    simp [Table.keys]

/-- A decoded data set has the two kinds, each with its own collection. -/
theorem toDataSet_eq_ok {p : Payload} {data : DataSet} (h : p.toDataSet = .ok data) :
    ∃ members flags segments, p.load = .ok (.object members) ∧
      collectionOf members .flag = .ok flags ∧ collectionOf members .segment = .ok segments ∧
      data = [(.flag, flags), (.segment, segments)] := by
  unfold toDataSet at h
  rcases Except.of_bind_eq_ok h with ⟨v, hv, h⟩
  rcases Except.of_bind_eq_ok h with ⟨members, hmembers, h⟩
  rw [membersOf_eq_ok hmembers] at hv
  simp only [Kind.all, List.mapM_cons, List.mapM_nil] at h
  rcases Except.of_bind_eq_ok h with ⟨e, he, h⟩
  rcases Except.of_bind_eq_ok he with ⟨flags, hflags, he⟩
  rcases Except.of_bind_eq_ok h with ⟨rest, hrest, h⟩
  rcases Except.of_bind_eq_ok hrest with ⟨e', he', hrest⟩
  rcases Except.of_bind_eq_ok he' with ⟨segments, hsegments, he'⟩
  rcases Except.ok.inj he with rfl
  rcases Except.ok.inj he' with rfl
  rcases Except.ok.inj hrest with rfl
  exact ⟨members, flags, segments, hv, hflags, hsegments, (Except.ok.inj h).symm⟩

/-- A decoded data set holds no key twice. -/
theorem toDataSet_distinct {p : Payload} (hp : p.Distinct) {data : DataSet}
    (h : p.toDataSet = .ok data) : data.Distinct := by
  rcases toDataSet_eq_ok h with ⟨members, flags, segments, hv, hflags, hsegments, rfl⟩
  have hmembers := hp.load hv
  constructor
  · simp [Table.keys]
  · intro kind
    cases kind with
    | flag => exact collectionOf_keys_nodup hmembers hflags
    | segment => exact collectionOf_keys_nodup hmembers hsegments

/-- So does one that was decoded from the text of an event. -/
theorem toPut_distinct {t : Text} {data : DataSet} (h : (Payload.text t).toPut = .ok data) :
    data.Distinct := by
  unfold toPut at h
  rcases Except.of_bind_eq_ok h with ⟨v, hv, h⟩
  rcases Except.of_bind_eq_ok h with ⟨members, hmembers, h⟩
  rw [membersOf_eq_ok hmembers] at hv
  have hdistinct := (Distinct.text t).load hv
  split at h
  · rename_i w hw
    exact toDataSet_distinct (.value (hdistinct.get? hw)) h
  · exact absurd h (by simp [throw, throwThe, MonadExceptOf.throw])

end Payload

end FlagReplica
