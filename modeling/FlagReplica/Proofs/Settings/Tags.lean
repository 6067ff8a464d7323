import FlagReplica.Proofs.Lookup
import FlagReplica.Proofs.Text.Stretches
import FlagReplica.Settings.Basic

/-!
# Tags

The tags that requests carry tell of the application, and of nothing else: whatever the options name
as its identity and version, the parts of the tags are one for each property that is sent, and the
application can be read from them (`ofTags_tags`). That rests on what may be sent: neither the blank
that separates two parts nor the slash that ends a label.
-/

namespace FlagReplica

open Json (Value Members)

namespace Application

/-- The properties of an application that tags tell. -/
inductive Property where
  | id
  | version

namespace Property

/-- What a property is called in options. -/
def name : Property → String
  | id => "id"
  | version => "version"

/-- What a part of the tags begins with that tells the property. -/
def label : Property → Text
  | id => "application-id/"
  | version => "application-version/"

/-- What an application has for the property, empty if nothing. -/
def value : Property → Application → Text
  | id, a => a.id
  | version, a => a.version

/-- What tags tell of the property: what follows its label in the first part that begins with it,
nothing if no part does. -/
def told (p : Property) (tags : Text) : Text :=
  ((Text.splitOn (.scalar ' ') tags).findSome? (Text.dropPrefix? p.label)).getD []

end Property

/-- The application that tags tell of. -/
def ofTags (tags : Text) : Application where
  id := Property.id.told tags
  version := Property.version.told tags

/-- The parts of the tags: one for each property that is there, a label and the value. -/
def parts (a : Application) : List Text :=
  [Property.id, Property.version].filterMap fun p =>
    if p.value a = [] then none else some (p.label ++ p.value a)

/-- The object that describes an application. -/
def members (a : Application) : Members :=
  [("id", .text a.id), ("version", .text a.version)]

/-! ## What may be sent -/

/-- A text that may be sent: not too long, of letters, digits and three marks. -/
def Sendable (t : Text) : Prop :=
  t.length ≤ 64 ∧ ∀ c ∈ t, c.IsAlphanumeric ∨ c ∈ ("._-" : Text)

theorem isAllowed_iff {c : CodePoint} :
    isAllowed c = true ↔ c.IsAlphanumeric ∨ c ∈ ("._-" : Text) := by
  have hmarks : ("._-" : Text) = [.scalar '.', .scalar '_', .scalar '-'] := rfl
  cases c with
  | scalar c => simp [isAllowed, hmarks, CodePoint.isAlphanumeric_scalar_iff, or_assoc]
  | surrogate offset => simp [isAllowed, hmarks, CodePoint.IsAlphanumeric]

theorem sendable_nil : Sendable [] := by
  simp [Sendable]

/-- What may be sent is kept as it is, without a warning. -/
theorem keep_of_sendable {t : Text} (h : Sendable t) (property : String) :
    keep property (.text t) = (t, []) := by
  have hshort : ¬ t.length > lengthLimit := Nat.not_lt.2 h.1
  have hall : t.all isAllowed = true := List.all_eq_true.2 fun c hc => isAllowed_iff.2 (h.2 c hc)
  rw [keep, if_neg hshort, if_pos hall]

/-- What may not be sent is dropped. -/
theorem keep_of_not_sendable {v : Value} (h : ¬ ∃ t, v = .text t ∧ Sendable t)
    (property : String) : (keep property v).1 = [] := by
  cases v with
  | text t =>
    rw [keep]
    split
    · rfl
    · split
      · rename_i hshort hall
        refine absurd ⟨t, rfl, Nat.not_lt.1 hshort, ?_⟩ h
        intro c hc
        exact isAllowed_iff.1 (List.all_eq_true.1 hall c hc)
      · rfl
  | _ => rfl

theorem sendable_keep (property : String) (v : Value) : Sendable (keep property v).1 := by
  by_cases h : ∃ t, v = .text t ∧ Sendable t
  · obtain ⟨t, rfl, ht⟩ := h
    rw [keep_of_sendable ht]
    exact ht
  · rw [keep_of_not_sendable h]
    exact sendable_nil

/-! ## The application that an object describes -/

variable {a : Application} {object : Members} {p : Property}

theorem value_ofMembers (p : Property) (object : Members) :
    p.value (ofMembers object).1 =
      (keep p.name ((object.get? (p.name : Text)).getD .null)).1 := by
  cases p <;> rfl

theorem sendable_ofMembers (p : Property) (object : Members) :
    Sendable (p.value (ofMembers object).1) := by
  rw [value_ofMembers]
  exact sendable_keep _ _

/-- A value is kept exactly if it is a text that may be sent. -/
theorem value_ofMembers_eq_iff {v : Value} (h : object.get? (p.name : Text) = some v) :
    .text (p.value (ofMembers object).1) = v ↔ ∃ t, v = .text t ∧ Sendable t := by
  constructor
  · intro hkept
    exact ⟨_, hkept.symm, sendable_ofMembers p object⟩
  · rintro ⟨t, rfl, ht⟩
    rw [value_ofMembers, h, Option.getD_some, keep_of_sendable ht]

theorem value_ofMembers_eq_nil
    (h : ¬ ∃ t, object.get? (p.name : Text) = some (.text t) ∧ Sendable t) :
    p.value (ofMembers object).1 = [] := by
  rw [value_ofMembers]
  apply keep_of_not_sendable
  rintro ⟨t, hgiven, ht⟩
  cases hfound : object.get? (p.name : Text) with
  | none => simp [hfound] at hgiven
  | some v =>
    rw [hfound, Option.getD_some] at hgiven
    exact h ⟨t, by rw [hfound, hgiven], ht⟩

/-- An application whose properties may be sent is described by itself. -/
theorem ofMembers_members (h : ∀ p : Property, Sendable (p.value a)) :
    ofMembers a.members = (a, []) := by
  have hid : keep "id" (.text a.id) = (a.id, []) := keep_of_sendable (h .id) _
  have hversion : keep "version" (.text a.version) = (a.version, []) :=
    keep_of_sendable (h .version) _
  have hgivenId : (a.members.get? ("id" : Text)).getD .null = .text a.id := rfl
  have hgivenVersion : (a.members.get? ("version" : Text)).getD .null = .text a.version := rfl
  simp only [ofMembers, hgivenId, hgivenVersion, hid, hversion, List.append_nil]

/-! ## Tags -/

theorem tags_eq (a : Application) : a.tags = Text.joinWith " " a.parts := by
  obtain ⟨id, version⟩ := a
  cases id <;> cases version <;> rfl

theorem mem_parts {part : Text} :
    part ∈ a.parts ↔ ∃ p : Property, p.value a ≠ [] ∧ part = p.label ++ p.value a := by
  have hall : ∀ p : Property, p ∈ [Property.id, Property.version] := by
    intro p
    cases p <;> simp
  simp only [parts, List.mem_filterMap, hall, true_and, Option.ite_none_left_eq_some,
    Option.some.injEq, eq_comm (a := part)]

theorem parts_eq_nil_iff : a.parts = [] ↔ a.id = [] ∧ a.version = [] := by
  obtain ⟨id, version⟩ := a
  cases id <;> cases version <;> simp [parts, Property.value]

theorem tags_eq_nil_iff : a.tags = [] ↔ a.id = [] ∧ a.version = [] := by
  obtain ⟨id, version⟩ := a
  cases id <;> cases version <;> simp [tags, Text.joinWith]

theorem dropPrefix?_label (p q : Property) (t : Text) :
    Text.dropPrefix? p.label (q.label ++ t) = if p.name = q.name then some t else none := by
  cases p <;> cases q <;> rfl

section Sent

variable (h : ∀ p : Property, Sendable (p.value a))
include h

/-- A part is a label and a value, and both are of letters, digits and four marks. -/
theorem characters_of_mem_parts {part : Text} (hpart : part ∈ a.parts) :
    part ≠ [] ∧ ∀ c ∈ part, c.IsAlphanumeric ∨ c ∈ ("._-/" : Text) := by
  obtain ⟨p, -, rfl⟩ := mem_parts.1 hpart
  have hlabel : p.label ≠ [] ∧ ∀ c ∈ p.label, c.IsAlphanumeric ∨ c ∈ ("._-/" : Text) := by
    cases p <;> decide
  refine ⟨fun hnone => hlabel.1 (List.append_eq_nil_iff.1 hnone).1, ?_⟩
  intro c hc
  rcases List.mem_append.1 hc with hc | hc
  · exact hlabel.2 c hc
  · refine ((h p).2 c hc).imp_right ?_
    intro hmark
    exact List.mem_append_left ("/" : Text) hmark

/-- The parts can be told from the tags. -/
theorem splitOn_tags (hparts : a.parts ≠ []) :
    Text.splitOn (.scalar ' ') a.tags = a.parts := by
  rw [tags_eq]
  refine Text.splitOn_joinWith hparts ?_
  intro part hpart hblank
  exact absurd ((characters_of_mem_parts h hpart).2 _ hblank) (by decide)

theorem told_tags (p : Property) : p.told a.tags = p.value a := by
  by_cases hparts : a.parts = []
  · -- without a part there is nothing that a label begins
    obtain ⟨hid, hversion⟩ := parts_eq_nil_iff.1 hparts
    rw [tags_eq_nil_iff.2 ⟨hid, hversion⟩]
    cases p with
    | id => exact hid.symm
    | version => exact hversion.symm
  · rw [Property.told, splitOn_tags h hparts]
    -- a part of the other property does not begin with the label
    obtain ⟨id, version⟩ := a
    cases id <;> cases version <;> cases p <;>
      simp [parts, Property.value, Property.name, dropPrefix?_label]

/-- The application can be read from its tags. -/
theorem ofTags_tags : ofTags a.tags = a := by
  rw [ofTags, told_tags h, told_tags h]
  rfl

end Sent

end Application

namespace Options

/-- The application that options lead to. -/
def normalized (o : Options) : Application :=
  (Settings.ofOptions o).1.application

/-- The tags among some headers. -/
def tagsIn (headers : Headers) : Option Value :=
  headers.get? ("X-LaunchDarkly-Tags" : Text)

/-- The tags that requests carry, if they carry any. -/
def tags? (o : Options) : Option Value :=
  tagsIn (Settings.ofOptions o).1.baseHeaders

variable {o o' : Options}

theorem sendable_normalized (o : Options) (p : Application.Property) :
    Application.Sendable (p.value o.normalized) :=
  Application.sendable_ofMembers p o.application

theorem value_normalized (o : Options) (p : Application.Property) :
    p.value o.normalized =
      (Application.keep p.name ((o.application.get? (p.name : Text)).getD .null)).1 :=
  Application.value_ofMembers p o.application

/-- Options that give the application as it was kept lead to the same settings. -/
theorem ofOptions_normalized (o : Options) :
    Settings.ofOptions { o with application := o.normalized.members } =
      ((Settings.ofOptions o).1, []) := by
  have hkept := Application.ofMembers_members (sendable_normalized o)
  unfold Settings.ofOptions
  rw [hkept]
  rfl

theorem tagsIn_baseHeaders (s : Settings) :
    tagsIn s.baseHeaders =
      if s.application.tags = [] then none else some (.text s.application.tags) := by
  simp only [tagsIn, Settings.baseHeaders, Table.get?_append]
  cases s.application.tags <;> cases s.wrapper? <;> simp [Table.get?]

theorem tagsIn_requestHeaders (s : Settings) : tagsIn s.requestHeaders = tagsIn s.baseHeaders := by
  rw [tagsIn, Settings.requestHeaders, Table.get?_append]
  simp [Table.get?, tagsIn]

theorem tagsIn_streamHeaders (s : Settings) : tagsIn s.streamHeaders = tagsIn s.baseHeaders := by
  rw [tagsIn, Settings.streamHeaders, Table.get?_append]
  simp [Table.get?, tagsIn]

theorem tags?_eq (o : Options) :
    o.tags? = if o.normalized.tags = [] then none else some (.text o.normalized.tags) :=
  tagsIn_baseHeaders _

/-- The application can be read from the tags; no tags are read as an empty text is. -/
theorem ofTags_tags? (o : Options) :
    Application.ofTags ((o.tags?.bind Value.text?).getD []) = o.normalized := by
  rw [← Application.ofTags_tags (sendable_normalized o), tags?_eq]
  split
  · rename_i hnone
    rw [hnone]
    rfl
  · rfl

/-- The tags that requests carry tell of the application, and of nothing else. All requests carry
the same; they carry none exactly if both properties came to nothing. Split at its blanks, the text
of the tags has one part for each property that is there, each of letters, digits and four marks,
and the application can be read from it, so that the tags are the same exactly if the applications
are. A property is kept as it was given exactly if that is a text of at most 64 letters, digits and
three marks, and comes to nothing otherwise, whatever else the object says; and what was kept once
is kept again, without a warning. -/
theorem tags_tell_application (o o' : Options) :
    (tagsIn (Settings.ofOptions o).1.requestHeaders = o.tags? ∧
      tagsIn (Settings.ofOptions o).1.streamHeaders = o.tags?) ∧
    (o.tags? = none ↔ o.normalized.id = [] ∧ o.normalized.version = []) ∧
    (∀ v, o.tags? = some v → ∃ t, v = .text t ∧
      Text.splitOn (.scalar ' ') t = o.normalized.parts ∧
      (∀ part ∈ Text.splitOn (.scalar ' ') t,
        part ≠ [] ∧ ∀ c ∈ part, c.IsAlphanumeric ∨ c ∈ ("._-/" : Text)) ∧
      Application.ofTags t = o.normalized) ∧
    (o.tags? = o'.tags? ↔ o.normalized = o'.normalized) ∧
    (∀ p : Application.Property,
      (∀ v, o.application.get? (p.name : Text) = some v →
        (.text (p.value o.normalized) = v ↔ ∃ t, v = .text t ∧ Application.Sendable t)) ∧
      ((¬ ∃ t, o.application.get? (p.name : Text) = some (.text t) ∧ Application.Sendable t) →
        p.value o.normalized = []) ∧
      (o.application.get? (p.name : Text) = o'.application.get? (p.name : Text) →
        p.value o.normalized = p.value o'.normalized)) ∧
    Settings.ofOptions { o with application := o.normalized.members } =
      ((Settings.ofOptions o).1, []) := by
  have hsent := sendable_normalized o
  refine ⟨⟨tagsIn_requestHeaders _, tagsIn_streamHeaders _⟩, ?_, ?_, ?_, ?_, ?_⟩
  · rw [tags?_eq, ← Application.tags_eq_nil_iff]
    simp
  · intro v hv
    rw [tags?_eq, Option.ite_none_left_eq_some] at hv
    obtain ⟨hne, hv⟩ := hv
    -- a header is sent only where there is a part, and then the parts are what its spaces separate
    have hparts : o.normalized.parts ≠ [] := by
      rwa [Ne, Application.parts_eq_nil_iff, ← Application.tags_eq_nil_iff]
    have hsplit := Application.splitOn_tags hsent hparts
    refine ⟨_, (Option.some.inj hv).symm, hsplit, ?_, Application.ofTags_tags hsent⟩
    intro part hpart
    rw [hsplit] at hpart
    exact Application.characters_of_mem_parts hsent hpart
  · constructor
    · intro hsame
      -- what is read back from equal headers is equal
      rw [← ofTags_tags? o, ← ofTags_tags? o', hsame]
    · intro hsame
      rw [tags?_eq, tags?_eq, hsame]
  · intro p
    refine ⟨fun v => Application.value_ofMembers_eq_iff, Application.value_ofMembers_eq_nil, ?_⟩
    intro hsame
    rw [value_normalized, value_normalized, hsame]
  · exact ofOptions_normalized o

/-- Options whose application is named like the other label of its tags, with a version that would
add a part to them. -/
def imitating : Options where
  sdkKey := .string "key"
  application := [("id", .string "application-version"),
    ("version", .string "1 application-id/other"), ("ID", .string "x")]

/-- The name is kept and the version is not, the tags are read as that, and they are not those of
options that lead to a version. -/
theorem tags_tell_application_of_imitation :
    imitating.tags? = some (.string "application-id/application-version") ∧
      Application.ofTags "application-id/application-version" = imitating.normalized ∧
      imitating.normalized = { id := "application-version", version := [] } ∧
      ∀ o : Options, o.normalized.version ≠ [] → o.tags? ≠ imitating.tags? := by
  have htags : imitating.tags? = some (.string "application-id/application-version") := rfl
  obtain ⟨-, -, hread, -, hkept, -⟩ := tags_tell_application imitating imitating
  obtain ⟨t, ht, -, -, happlication⟩ := hread _ htags
  rw [← Value.text.inj ht] at happlication
  -- the value imitates the label of another property and is kept
  have hid : imitating.normalized.id = ("application-version" : Text) :=
    Value.text.inj (((hkept .id).1 _ rfl).2 ⟨_, rfl, by decide, by decide⟩)
  have hversion : imitating.normalized.version = [] := by
    refine (hkept .version).2.1 ?_
    -- the version holds a space, so that it is left out
    rintro ⟨t, hgiven, hsendable⟩
    obtain rfl : ("1 application-id/other" : Text) = t := Value.text.inj (Option.some.inj hgiven)
    exact absurd (hsendable.2 (.scalar ' ') (by decide)) (by decide)
  refine ⟨htags, happlication, ?_, ?_⟩
  · rw [← hid, ← hversion]
  · intro o ho hsame
    have happlications := (tags_tell_application o imitating).2.2.2.1.1 hsame
    rw [happlications] at ho
    exact ho hversion

end Options

end FlagReplica
