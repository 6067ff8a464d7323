import FlagReplica.Proofs.Change.Accepted
import FlagReplica.Proofs.Item.Same
import FlagReplica.Proofs.Json.RoundTrip

/-!
# Payloads as text and as values

A payload may come as JSON text or already decoded. What is made of it is the same either way: all
that is read of a payload is the value it is loaded as, and the compact form of a value is loaded as
that value. The same holds of the data set inside an event, and of the text that shows an item.
-/

namespace FlagReplica

open Json (Value Members read_compact)
open Json.Value (MadeOf)

/-- A value that can be written and read again can be compared. -/
theorem Json.Value.Portable.comparable {v : Value} (hv : v.Portable) : v.Comparable := by
  refine MadeOf.mono hv ?_ fun _ _ => trivial
  rintro n ⟨i, rfl, -⟩
  simp

namespace Payload

/-- The compact form of a value, as a payload. -/
def written (v : Value) : Payload :=
  .text (Text.ofChars v.compact)

variable {p q : Payload}

/-! ## What is read of a payload -/

/-- Whatever a payload is decoded as, it comes to the same as any payload that is loaded as the same
value, or fails to load in the same way. -/
theorem decoded_congr (h : p.load = q.load) :
    p.toPut = q.toPut ∧ p.toDataSet = q.toDataSet ∧ p.toPatch = q.toPatch ∧
      p.toRemoval = q.toRemoval := by
  unfold toPut toDataSet toPatch toRemoval
  rw [h]
  exact ⟨rfl, rfl, rfl, rfl⟩

/-! ## What a compact form is loaded as -/

variable {v d : Value} {members : Members}

theorem load_written (hv : v.Portable) (hplain : v.text? = none) :
    (written v).load = (value v).load := by
  rw [load_of_plain hplain, written, load, read_compact hv]
  rfl

/-- A compact form that stands in the place of a decoded value is loaded as that value. -/
theorem load_text_compact (hd : d.Portable) (hplain : d.text? = none) :
    (value (.text (Text.ofChars d.compact))).load = (value d).load :=
  load_written hd hplain

/-- An event whose data are replaced by their compact form. -/
def withTextData (members : Members) (d : Value) : Value :=
  .object (Table.insert members ("data" : Text) (.text (Text.ofChars d.compact)))

/-- An event with data brings the data set that its data hold. -/
theorem toPut_object (hdata : Table.get? members ("data" : Text) = some d) :
    (value (.object members)).toPut = (value d).toDataSet := by
  simp [toPut, load, membersOf, hdata, bind, Except.bind]

theorem toPut_withTextData (hd : d.Portable) (hplain : d.text? = none)
    (hdata : Table.get? members ("data" : Text) = some d) :
    (value (withTextData members d)).toPut = (value (.object members)).toPut := by
  have hfound : Table.get? (Table.insert members ("data" : Text)
      (Value.text (Text.ofChars d.compact))) ("data" : Text) =
        some (.text (Text.ofChars d.compact)) := by
    rw [Table.get?_insert, if_pos rfl]
  rw [withTextData, toPut_object hfound, toPut_object hdata]
  exact (decoded_congr (load_text_compact hd hplain)).2.1

theorem portable_withTextData (hv : (Value.object members).Portable) :
    (withTextData members d).Portable := by
  obtain ⟨hkeys, hnames, hvalues⟩ := MadeOf.object_iff.1 hv
  refine .object (Table.keys_insert_nodup hkeys _ _) ?_ ?_
  · intro m hm
    rcases Table.mem_insert hm with hm | rfl
    · exact hnames m hm
    · exact ⟨_, rfl⟩
  · intro m hm
    rcases Table.mem_insert hm with hm | rfl
    · exact hvalues m hm
    · exact .text ⟨_, rfl⟩

end Payload

/-! ## Items -/

/-- The text that shows an item holds JSON, and the item that this spells is the same. -/
theorem Item.shown_spells {v : Value} (hv : v.Portable) {kind : Kind} {item : Item}
    (h : kind.decode v = .ok item) :
    ∃ t w again, item.shown = kind.typeName ++ "(" ++ t ++ ")" ∧ Json.read t = .ok w ∧
      kind.decode w = .ok again ∧ item.same again = true := by
  have hdecodes := Kind.decode_eq_ok_iff.1 h
  have hkind := hdecodes.kind
  have hdecoded : item.Decoded := ⟨v, hv.comparable, by rw [hkind, h]⟩
  refine ⟨Text.ofChars v.compact, v, item, ?_, read_compact hv, h, Item.same_refl hdecoded⟩
  rw [Item.shown, hkind, hdecodes.value]

/-- A payload that is the compact form of a value comes to the same as that value, whatever it is
decoded as: the same data set, event or item, or the same refusal. An event that brings a full data
set also comes to the same if its data are replaced by their compact form, be it handed over as a
value or as text again. And the text that shows an item holds JSON text that spells an item which is
the same. -/
theorem text_path_agrees {v : Value} (hv : v.Portable) (hplain : v.text? = none) :
    ((Payload.written v).toPut = (Payload.value v).toPut ∧
      (Payload.written v).toDataSet = (Payload.value v).toDataSet ∧
      (Payload.written v).toPatch = (Payload.value v).toPatch ∧
      (Payload.written v).toRemoval = (Payload.value v).toRemoval) ∧
    (∀ members d, v = .object members → Table.get? members ("data" : Text) = some d →
      d.text? = none →
        (Payload.value (Payload.withTextData members d)).toPut = (Payload.value v).toPut ∧
        (Payload.written (Payload.withTextData members d)).toPut = (Payload.value v).toPut) ∧
    ∀ (kind : Kind) (item : Item), kind.decode v = .ok item →
      ∃ t w again, item.shown = kind.typeName ++ "(" ++ t ++ ")" ∧ Json.read t = .ok w ∧
        kind.decode w = .ok again ∧ item.same again = true := by
  refine ⟨Payload.decoded_congr (Payload.load_written hv hplain), ?_,
    fun kind item => Item.shown_spells hv⟩
  rintro members d rfl hdata hdplain
  have hd : d.Portable := (MadeOf.object_iff.1 hv).2.2 _ (Table.mem_of_get? hdata)
  have hvalue := Payload.toPut_withTextData hd hdplain hdata
  -- the message with its data as text can be written in its turn
  have hload := Payload.load_written (Payload.portable_withTextData (d := d) hv) rfl
  exact ⟨hvalue, (Payload.decoded_congr hload).1.trans hvalue⟩

/-- A flag with a key that is beyond ASCII and needs a surrogate pair, and with texts that need
escapes. -/
def Json.Value.accented : Value :=
  .object [("key", .string "é😀"), ("version", .integer (-12)), ("on", .boolean true),
    ("rules", .array []), ("note", .object [("\x01\"\\", .null), ("", .string "\n/\x7f")])]

/-- An event that brings the flag. -/
def Json.Value.accentedPut : Value :=
  .object [("path", .string "/"), ("data", .object [("flags", .object [("é😀", .accented)])])]

/-- The event comes to one flag, be it handed over as a value, as text, or as text with its data as
text once more, and the flag is read again from the text that shows it. -/
theorem text_path_agrees_of_accents :
    Value.accentedPut.Portable ∧ Value.accentedPut.text? = none ∧
      (∃ data, (Payload.value .accentedPut).toPut = .ok data ∧
        (data.collection .flag).length = 1) ∧
      (Payload.written .accentedPut).toPut = (Payload.value .accentedPut).toPut ∧
      (∃ members d, Value.accentedPut = .object members ∧
        Table.get? members ("data" : Text) = some d ∧ d.text? = none ∧
        (Payload.written (Payload.withTextData members d)).toPut =
          (Payload.value .accentedPut).toPut) ∧
      ∃ item t w again, Kind.flag.decode .accented = .ok item ∧
        item.shown = Kind.flag.typeName ++ "(" ++ t ++ ")" ∧ Json.read t = .ok w ∧
        Kind.flag.decode w = .ok again ∧ item.same again = true := by
  have hversion : Number.Writable (.integer (-12)) := ⟨-12, rfl, by decide⟩
  have hflag : Value.accented.Portable := by
    simp [Value.accented, Table.keys, hversion]
  have hput : Value.accentedPut.Portable := by
    simp [Value.accentedPut, Table.keys, hflag]
  have hitem : ∃ item, Kind.flag.decode .accented = .ok item := ⟨_, rfl⟩
  obtain ⟨item, hitem⟩ := hitem
  obtain ⟨t, w, again, hshown⟩ := (text_path_agrees hflag rfl).2.2 .flag item hitem
  refine ⟨hput, rfl, ⟨_, by rfl, by rfl⟩, (text_path_agrees hput rfl).1.1,
    ⟨_, _, rfl, rfl, rfl, ?_⟩, item, t, w, again, hitem, hshown⟩
  exact ((text_path_agrees hput rfl).2.1 _ _ rfl rfl rfl).2

end FlagReplica
