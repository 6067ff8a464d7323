import FlagReplica.Proofs.DataSet.Arrangement
import Mathlib.Logic.Relation

/-!
# Dependencies first

In the writing order an item comes after the items it depends on. Where dependencies go round in a
circle that cannot hold of all of them, and then it fails within the circle only: an item comes
before one that it depends on only if that one leads back to it.

The walk keeps to this because each item on the chain depends on the next one further in. So an item
that is on the chain already when somebody asks for it leads to whoever asks. `Walking` is that
invariant, and `arrange_orders` what comes of it for a whole data set.
-/

namespace FlagReplica.Order

open Relation (ReflTransGen)

variable {κ ι α β : Type}

/-- The dependencies of content that may hold an item. A tombstone has none. -/
def listed (item? : α → Option β) (dependencies : β → List ι) (content : α) : List ι :=
  match item? content with
  | some item => dependencies item
  | none => []

/-- The item at a key lists another key as a dependency. -/
def Lists (dependencies : α → List ι) (collection : Table ι α) (key needed : ι) : Prop :=
  ∃ content, (key, content) ∈ collection ∧ needed ∈ dependencies content

/-- A key leads to another by way of dependencies, in any number of steps. -/
abbrev Leads (dependencies : α → List ι) (collection : Table ι α) : ι → ι → Prop :=
  ReflTransGen (Lists dependencies collection)

/-- Every entry comes after the entries it depends on, but for those that lead back to it. -/
def Ordered (dependencies : α → List ι) (collection arranged : Table ι α) : Prop :=
  ∀ (before : Table ι α) (key : ι) (content : α), before ++ [(key, content)] <+: arranged →
    ∀ needed ∈ dependencies content, needed ∈ collection.keys →
      needed ∈ before.keys ∨ Leads dependencies collection needed key

/-- Each link of a chain has looked at its dependencies up to those that are pending. What it has
looked at has been placed or is further in, or leads back to its item. -/
def Attended (dependencies : α → List ι) (collection : Table ι α) :
    List ι → List (Link ι α) → Prop
  | _, [] => True
  | settled, l :: outer =>
    (∃ looked, dependencies l.content = looked ++ l.pending ∧ ∀ needed ∈ looked,
      needed ∈ collection.keys → needed ∈ settled ∨ Leads dependencies collection needed l.key) ∧
    Attended dependencies collection (l.key :: settled) outer

variable {dependencies : α → List ι} {collection remaining placed : Table ι α}
  {chain : List (Link ι α)} {key next : ι} {content found : α} {pending : List ι}

/-- One more entry at the end has to be in order itself. -/
theorem Ordered.concat (h : Ordered dependencies collection placed)
    (hentry : ∀ needed ∈ dependencies content, needed ∈ collection.keys →
      needed ∈ placed.keys ∨ Leads dependencies collection needed key) :
    Ordered dependencies collection (placed ++ [(key, content)]) := by
  intro before key' content' hbefore
  rcases List.prefix_concat_iff.1 hbefore with heq | hplaced
  · rcases List.append_inj' heq rfl with ⟨rfl, hlast⟩
    rcases Prod.mk.inj (List.singleton_inj.1 hlast) with ⟨rfl, rfl⟩
    exact hentry
  · exact h before key' content' hplaced

/-- The more has been settled the better. -/
theorem Attended.mono {settled settled' : List ι} (hsub : settled ⊆ settled')
    (h : Attended dependencies collection settled chain) :
    Attended dependencies collection settled' chain := by
  induction chain generalizing settled settled' with
  | nil => exact trivial
  | cons l outer ih =>
    rcases h with ⟨⟨looked, hsplit, hlooked⟩, houter⟩
    refine ⟨⟨looked, hsplit, ?_⟩, ih (List.cons_subset_cons _ hsub) houter⟩
    intro needed hneeded hthere
    exact (hlooked needed hneeded hthere).imp_left fun hsettled => hsub hsettled

/-! ## The walk -/

/-- How far the walk over a collection has got: what has been placed is in order, and each item on
the chain leads to all those further in. -/
structure Walking (dependencies : α → List ι) (collection remaining : Table ι α)
    (chain : List (Link ι α)) (placed : Table ι α) : Prop where
  entries : (placed ++ (chain.map Link.entry ++ remaining)).Perm collection
  linked : chain.Pairwise fun inner outer => Leads dependencies collection outer.key inner.key
  attended : Attended dependencies collection placed.keys chain
  ordered : Ordered dependencies collection placed

namespace Walking

theorem init (dependencies : α → List ι) (collection : Table ι α) :
    Walking dependencies collection collection [] [] :=
  ⟨List.Perm.refl _, List.Pairwise.nil, trivial,
    fun _ _ _ h => absurd (List.prefix_nil.1 h) (by simp)⟩

theorem setsOut (h : Walking dependencies collection ((key, content) :: remaining) [] placed) :
    Walking dependencies collection remaining [⟨key, content, dependencies content⟩] placed :=
  ⟨h.entries, List.pairwise_singleton _ _, ⟨⟨[], rfl, by simp⟩, trivial⟩, h.ordered⟩

/-- An item is placed once it has looked at all its dependencies. -/
theorem places
    (h : Walking dependencies collection remaining (⟨key, content, []⟩ :: chain) placed) :
    Walking dependencies collection remaining chain (placed ++ [(key, content)]) := by
  rcases h.attended with ⟨⟨looked, hsplit, hlooked⟩, houter⟩
  refine ⟨by simpa [Link.entry] using h.entries, (List.pairwise_cons.1 h.linked).2,
    houter.mono ?_, h.ordered.concat ?_⟩
  · intro k hk
    simpa [Table.keys, or_comm] using hk
  · intro needed hneeded hthere
    rw [hsplit, List.append_nil] at hneeded
    exact hlooked needed hneeded hthere

section LooksUp

variable [DecidableEq ι]

/-- A dependency that does not remain has been placed, or leads to the item that asks for it because
it is on the chain. -/
theorem settled_of_gone {l : Link ι α}
    (h : Walking dependencies collection remaining (l :: chain) placed)
    (hgone : Table.get? remaining next = none) (hthere : next ∈ collection.keys) :
    next ∈ placed.keys ∨ Leads dependencies collection next l.key := by
  rcases List.mem_map.1 hthere with ⟨entry, hentry, rfl⟩
  rcases List.mem_append.1 (h.entries.mem_iff.2 hentry) with hplaced | hrest
  · exact .inl (List.mem_map_of_mem hplaced)
  rcases List.mem_append.1 hrest with hchain | hremains
  · rcases List.mem_map.1 hchain with ⟨link, hlink, rfl⟩
    rcases List.mem_cons.1 hlink with rfl | houter
    · exact .inr .refl
    · exact .inr ((List.pairwise_cons.1 h.linked).1 link houter)
  · exact absurd (List.mem_map_of_mem hremains) (Table.not_mem_keys_of_get? hgone)

theorem passes (hgone : Table.get? remaining next = none)
    (h : Walking dependencies collection remaining
      (⟨key, content, next :: pending⟩ :: chain) placed) :
    Walking dependencies collection remaining (⟨key, content, pending⟩ :: chain) placed := by
  rcases h.attended with ⟨⟨looked, hsplit, hlooked⟩, houter⟩
  refine ⟨h.entries, List.pairwise_cons.2 (List.pairwise_cons.1 h.linked),
    ⟨⟨looked ++ [next], by simpa using hsplit, ?_⟩, houter⟩, h.ordered⟩
  intro needed hneeded hthere
  rcases List.mem_append.1 hneeded with hbefore | hnext
  · exact hlooked needed hbefore hthere
  · rcases List.mem_singleton.1 hnext with rfl
    exact h.settled_of_gone hgone hthere

/-- A dependency that remains becomes the innermost link, and every other one leads to it. -/
theorem follows (hfound : Table.get? remaining next = some found)
    (h : Walking dependencies collection remaining
      (⟨key, content, next :: pending⟩ :: chain) placed) :
    Walking dependencies collection (remaining.erase next)
      (⟨next, found, dependencies found⟩ :: ⟨key, content, pending⟩ :: chain) placed := by
  rcases h.attended with ⟨⟨looked, hsplit, hlooked⟩, houter⟩
  rcases List.pairwise_cons.1 h.linked with ⟨hlinked, hlinked'⟩
  have hlists : Lists dependencies collection key next := by
    refine ⟨content, ?_, by simp [hsplit]⟩
    refine h.entries.mem_iff.1 (List.mem_append_right _ (List.mem_append_left _ ?_))
    exact List.mem_cons_self ..
  refine ⟨(perm_of_follows hfound).trans h.entries, ?_, ⟨⟨[], rfl, by simp⟩, ?_, ?_⟩, h.ordered⟩
  · refine List.pairwise_cons.2 ⟨?_, List.pairwise_cons.2 ⟨hlinked, hlinked'⟩⟩
    intro l hl
    rcases List.mem_cons.1 hl with rfl | hl
    · exact .single hlists
    · exact (hlinked l hl).tail hlists
  · refine ⟨looked ++ [next], by simpa using hsplit, ?_⟩
    intro needed hneeded hthere
    rcases List.mem_append.1 hneeded with hbefore | hnext
    · exact (hlooked needed hbefore hthere).imp_left (List.mem_cons_of_mem _)
    · -- it has just gone on the chain
      rcases List.mem_singleton.1 hnext with rfl
      exact .inl (List.mem_cons_self ..)
  · exact houter.mono (List.cons_subset_cons _ (List.subset_cons_self _ _))

end LooksUp

end Walking

/-! ## A data set in writing order -/

/-- What an entry depends on stands before it, unless it leads back. -/
theorem Ordered.sublist {arranged : Table ι α} (h : Ordered dependencies collection arranged)
    (hentry : (key, content) ∈ arranged) {needed : ι} (hneeded : needed ∈ dependencies content)
    (hthere : needed ∈ collection.keys) (hback : ¬ Leads dependencies collection needed key) :
    [needed, key].Sublist arranged.keys := by
  rcases List.append_of_mem hentry with ⟨before, after, hsplit⟩
  have hprefix : before ++ [(key, content)] <+: arranged := ⟨after, by simp [hsplit]⟩
  have hbefore := (h before key content hprefix needed hneeded hthere).resolve_right hback
  have hkeys : arranged.keys = Table.keys before ++ key :: Table.keys after := by
    simp [hsplit, Table.keys]
  rw [hkeys]
  exact (List.singleton_sublist.2 hbefore).append
    (List.singleton_sublist.2 (List.mem_cons_self ..))

section Arranged

variable [DecidableEq ι]

/-- The walk over a whole collection places its entries in order. -/
theorem dependenciesFirst_ordered (dependencies : α → List ι) (collection : Table ι α) :
    Ordered dependencies collection (dependenciesFirst dependencies collection) := by
  have hwalked :
      Walking dependencies collection [] [] (dependenciesFirst dependencies collection) :=
    walk_keeps Walking.setsOut Walking.places Walking.passes Walking.follows (.init _ _)
  exact hwalked.ordered

/-- Arranging a data set sorts the kinds and nothing else about them. -/
theorem arrange_keys (priority : κ → Int) (dependencies? : κ → Option (α → List ι))
    (data : Table κ (Table ι α)) :
    Table.keys (arrange priority dependencies? data) =
      Table.keys (data.mergeSort fun a b => priority a.1 ≤ priority b.1) := by
  simp [arrange_eq, Table.keys]

/-- The kinds come by ascending priority, and those of equal priority keep their order. -/
theorem arrange_kinds (priority : κ → Int) (dependencies? : κ → Option (α → List ι))
    (data : Table κ (Table ι α)) :
    (Table.keys (arrange priority dependencies? data)).Perm data.keys ∧
      (Table.keys (arrange priority dependencies? data)).Pairwise
        (fun j k => priority j ≤ priority k) ∧
      ∀ j k, [j, k].Sublist data.keys → priority j = priority k →
        [j, k].Sublist (Table.keys (arrange priority dependencies? data)) := by
  have htrans : ∀ a b c : κ × Table ι α, decide (priority a.1 ≤ priority b.1) →
      decide (priority b.1 ≤ priority c.1) → decide (priority a.1 ≤ priority c.1) := by
    simp only [decide_eq_true_eq]
    omega
  have htotal : ∀ a b : κ × Table ι α,
      decide (priority a.1 ≤ priority b.1) || decide (priority b.1 ≤ priority a.1) := by
    simp only [Bool.or_eq_true, decide_eq_true_eq]
    omega
  rw [arrange_keys]
  refine ⟨(List.mergeSort_perm _ _).map _, ?_, ?_⟩
  · rw [Table.keys, List.pairwise_map]
    exact (List.pairwise_mergeSort htrans htotal data).imp of_decide_eq_true
  · -- kinds of one priority keep their order, since the sort is stable
    intro j k hbefore hequal
    rcases List.sublist_map_iff.1 hbefore with ⟨entries, hentries, hmap⟩
    rcases entries with _ | ⟨e, _ | ⟨f, _ | _⟩⟩ <;> simp at hmap
    rcases hmap with ⟨rfl, rfl⟩
    have hle : decide (priority e.1 ≤ priority f.1) := by simp [hequal]
    exact (List.pair_sublist_mergeSort htrans htotal hle hentries).map Prod.fst

/-- In the collection of a kind with dependencies what a live item lists comes before it. -/
theorem arrangedCollection_ordered {item? : α → Option β}
    {dependencies? : κ → Option (β → List ι)} {kind : κ} {dependencies : β → List ι}
    (hsome : dependencies? kind = some dependencies) {item : β} {needed : ι}
    (hentry : (key, content) ∈ collection) (hlive : item? content = some item)
    (hneeded : needed ∈ dependencies item) (hthere : needed ∈ collection.keys)
    (hback : ¬ Leads (listed item? dependencies) collection needed key) :
    [needed, key].Sublist (Table.keys (arrangedCollection
      (fun kind => (dependencies? kind).map (listed item?)) kind collection)) := by
  have hentries : arrangedCollection
      (fun kind => (dependencies? kind).map (listed item?)) kind collection =
        dependenciesFirst (listed item? dependencies) collection := by
    simp [arrangedCollection, hsome]
  rw [hentries]
  -- only an item that leads back to what needs it may come later
  refine (dependenciesFirst_ordered _ collection).sublist
    ((dependenciesFirst_perm _ _).mem_iff.2 hentry) ?_ hthere hback
  simpa [listed, hlive] using hneeded

/-- The writing order of a data set, whatever its kinds, priorities and dependencies are. The kinds
are the same, by ascending priority, and two of equal priority keep their order. Each kind has the
same items. Without dependencies they keep their order too. With them, what a live item lists comes
before it if it is there, unless it leads back to that item by way of the dependencies of live
items. -/
theorem arrange_orders [DecidableEq κ] (priority : κ → Int) (item? : α → Option β)
    (dependencies? : κ → Option (β → List ι)) {data : Table κ (Table ι α)}
    (hkinds : data.keys.Nodup) :
    let arranged : Table κ (Table ι α) :=
      arrange priority (fun kind => (dependencies? kind).map (listed item?)) data
    arranged.keys.Perm data.keys ∧
      arranged.keys.Pairwise (fun j k => priority j ≤ priority k) ∧
      (∀ j k, [j, k].Sublist data.keys → priority j = priority k →
        [j, k].Sublist arranged.keys) ∧
      ∀ kind collection, data.get? kind = some collection →
        ∃ entries, arranged.get? kind = some entries ∧ entries.Perm collection ∧
          (dependencies? kind = none → entries = collection) ∧
          ∀ dependencies, dependencies? kind = some dependencies →
            ∀ key content item needed, (key, content) ∈ collection → item? content = some item →
              needed ∈ dependencies item → needed ∈ collection.keys →
                ¬ Leads (listed item? dependencies) collection needed key →
                  [needed, key].Sublist entries.keys := by
  intro arranged
  -- the kinds are sorted whole; each collection is then arranged on its own
  rcases arrange_kinds priority (fun kind => (dependencies? kind).map (listed item?)) data
    with ⟨hperm, hsorted, hstable⟩
  refine ⟨hperm, hsorted, hstable, ?_⟩
  intro kind collection hcollection
  refine ⟨_, (get?_arrange _ _ hkinds kind).trans (congrArg _ hcollection),
    arrangedCollection_perm _ _ _, ?_, ?_⟩
  · intro hnone
    simp [arrangedCollection, hnone]
  · intro dependencies hsome key content item needed hentry hlive hneeded hthere hback
    exact arrangedCollection_ordered hsome hentry hlive hneeded hthere hback

end Arranged

end FlagReplica.Order

namespace FlagReplica

open FlagReplica.Order (listed Lists Leads)

/-- Flags depend on their prerequisites, and segments on nothing. -/
theorem DataSet.arranged_eq (data : DataSet) :
    data.arranged = Order.arrange Kind.priority
      (fun kind => (if kind.hasDependencies then some Item.prerequisites else none).map
        (listed Descriptor.item)) data := by
  have hflag : Descriptor.dependencies = listed Descriptor.item Item.prerequisites := by
    funext d
    rcases d with ⟨version, _ | item⟩ <;> rfl
  have hkinds : Kind.dependencies? = fun kind =>
      (if kind.hasDependencies then some Item.prerequisites else none).map
        (listed Descriptor.item) := by
    funext kind
    cases kind with
    | flag => exact congrArg some hflag
    | segment => rfl
  rw [arranged, hkinds]

/-! ## A circle -/

namespace Order

/-- A flag by the letter of its key. -/
def flagOf (key : Char) (prerequisites : List Char) : Text × Descriptor :=
  (Text.ofChars [key], ⟨1, some
    { kind := .flag
      key := Text.ofChars [key]
      version := 1
      deleted := false
      prerequisites := prerequisites.map fun c => Text.ofChars [c]
      members := [] }⟩)

/-- Flags of which one depends on a circle of two others, twice, and on one that is not there. One
of the circle depends on itself too. The last flag depends on one that was deleted. -/
def circularFlags : Collection :=
  [flagOf 'a' ['b', 'b', 'x'], flagOf 'b' ['b', 'c'], flagOf 'c' ['b'], flagOf 'd' ['a', 'e'],
    (Text.ofChars ['e'], .tombstone 3)]

/-- The flags, and no segment. -/
def circular : DataSet :=
  [(.flag, circularFlags), (.segment, [])]

/-- The flag outside the circle comes after the one it depends on, which does not lead back. -/
theorem arrange_orders_of_circle :
    circular.arranged.keys = [.segment, .flag] ∧
      ∃ entries, circular.arranged.get? .flag = some entries ∧ entries.Perm circularFlags ∧
        [Text.ofChars ['b'], Text.ofChars ['a']].Sublist entries.keys := by
  have hcircle : ∀ key, Leads (listed Descriptor.item Item.prerequisites) circularFlags
      (Text.ofChars ['b']) key → key = Text.ofChars ['b'] ∨ key = Text.ofChars ['c'] := by
    intro key hleads
    -- `b` and `c` lead to each other and nowhere else, so that the circle does not reach `a`
    induction hleads with
    | refl => exact .inl rfl
    | tail _ hlists ih =>
      rcases hlists with ⟨content, hentry, hneeded⟩
      rcases ih with rfl | rfl <;> simp [circularFlags, flagOf, Text.ofChars] at hentry
      · rw [hentry] at hneeded
        simpa [listed, Text.ofChars] using hneeded
      · rw [hentry] at hneeded
        exact .inl (by simpa [listed, Text.ofChars] using hneeded)
  have horders := arrange_orders Kind.priority Descriptor.item
    (fun kind => if kind.hasDependencies then some Item.prerequisites else none)
    (show (Table.keys circular).Nodup by decide)
  rw [DataSet.arranged_eq]
  rcases horders with ⟨-, -, -, hkind⟩
  rcases hkind .flag circularFlags rfl with ⟨entries, hfound, hperm, -, hordered⟩
  refine ⟨?_, entries, hfound, hperm, ?_⟩
  · rw [arrange_keys]
    simp [circular, List.mergeSort, List.MergeSort.Internal.splitInTwo, Table.keys, Kind.priority]
  · refine hordered _ rfl (Text.ofChars ['a']) _ _ _ (List.mem_cons_self ..) rfl ?_ (by decide) ?_
    · exact List.mem_cons_self ..
    · intro hback
      exact absurd (hcircle _ hback) (by decide)

end Order

end FlagReplica
