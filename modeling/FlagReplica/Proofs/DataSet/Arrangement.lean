import FlagReplica.DataSet.Order
import FlagReplica.Proofs.Lookup

/-!
# Arranging a data set

The writing order moves the entries of a data set and does nothing else to them. So a store holds
the same whether a data set was handed to it in that order or in any other, as long as no key comes
twice.
-/

namespace FlagReplica

namespace Order

variable {κ ι α : Type} [DecidableEq ι]

/-- The item of a link. -/
def Link.entry (l : Link ι α) : ι × α :=
  (l.key, l.content)

section Walk

variable {dependencies : α → List ι} {remaining : Table ι α} {chain : List (Link ι α)}
  {placed : Table ι α}

/-- What each move of the walk keeps is kept from where it sets out to where it ends. -/
theorem walk_keeps {motive : Table ι α → List (Link ι α) → Table ι α → Prop}
    (setsOut : ∀ {key content remaining placed}, motive ((key, content) :: remaining) [] placed →
      motive remaining [⟨key, content, dependencies content⟩] placed)
    (places : ∀ {key content remaining chain placed},
      motive remaining (⟨key, content, []⟩ :: chain) placed →
        motive remaining chain (placed ++ [(key, content)]))
    (passes : ∀ {key content next pending remaining chain placed},
      Table.get? remaining next = none →
        motive remaining (⟨key, content, next :: pending⟩ :: chain) placed →
          motive remaining (⟨key, content, pending⟩ :: chain) placed)
    (follows : ∀ {key content next pending found remaining chain placed},
      Table.get? remaining next = some found →
        motive remaining (⟨key, content, next :: pending⟩ :: chain) placed →
          motive (remaining.erase next)
            (⟨next, found, dependencies found⟩ :: ⟨key, content, pending⟩ :: chain) placed)
    (start : motive remaining chain placed) :
    motive [] [] (walk dependencies remaining chain placed) := by
  induction remaining, chain, placed using walk.induct dependencies with
  | case1 placed =>
    rw [walk]
    exact start
  | case2 placed key content remaining ih =>
    rw [walk]
    exact ih (setsOut start)
  | case3 remaining placed key content chain ih =>
    rw [walk]
    exact ih (places start)
  | case4 remaining placed key content next pending chain hnone ih =>
    rw [walk]
    split
    · exact ih (passes hnone start)
    · rename_i found hfound
      rw [hnone] at hfound
      exact absurd hfound (by simp)
  | case5 remaining placed key content next pending chain found hfound ih =>
    rw [walk]
    split
    · rename_i hnone
      rw [hfound] at hnone
      exact absurd hnone (by simp)
    · rename_i found' hfound'
      -- `split` names the found content afresh
      obtain rfl : found = found' := by
        rw [hfound] at hfound'
        exact Option.some.inj hfound'
      exact ih (follows hfound start)

/-- A dependency that remains goes on the chain before the item that needs it. -/
theorem perm_of_follows {key next : ι} {content found : α} {pending waiting : List ι}
    (h : remaining.get? next = some found) :
    (placed ++ ((⟨next, found, waiting⟩ :: ⟨key, content, pending⟩ :: chain).map Link.entry ++
      remaining.erase next)).Perm
        (placed ++ ((⟨key, content, next :: pending⟩ :: chain).map Link.entry ++ remaining)) := by
  have hmoved : ((next, found) :: ((key, content) :: (chain.map Link.entry ++
      remaining.erase next))).Perm ((key, content) :: (chain.map Link.entry ++ remaining)) :=
    (List.Perm.swap _ _ _).trans (List.Perm.cons _
      ((List.perm_middle.symm).trans
        (List.Perm.append_left _ (Table.perm_cons_erase h).symm)))
  simpa [Link.entry] using List.Perm.append_left placed hmoved

/-- The walk loses nothing and repeats nothing: in the end every item that was placed, on the chain
or remaining has been placed once. -/
theorem walk_perm (dependencies : α → List ι) (remaining : Table ι α) (chain : List (Link ι α))
    (placed : Table ι α) :
    (walk dependencies remaining chain placed).Perm
      (placed ++ (chain.map Link.entry ++ remaining)) := by
  let whole := placed ++ (chain.map Link.entry ++ remaining)
  have hkept : (walk dependencies remaining chain placed ++
      (([] : List (Link ι α)).map Link.entry ++ [])).Perm whole :=
    walk_keeps
      (motive := fun remaining chain placed =>
        (placed ++ (chain.map Link.entry ++ remaining)).Perm whole)
      (fun h => h) (fun h => by simpa [Link.entry] using h) (fun _ h => h)
      (fun hfound h => (perm_of_follows hfound).trans h) (List.Perm.refl whole)
  simpa using hkept

end Walk

/-- A collection keeps its items. -/
theorem dependenciesFirst_perm (dependencies : α → List ι) (collection : Table ι α) :
    (dependenciesFirst dependencies collection).Perm collection := by
  have h := walk_perm dependencies collection [] []
  simpa [dependenciesFirst] using h

/-- What becomes of the collection of a kind. -/
def arrangedCollection (dependencies? : κ → Option (α → List ι)) (kind : κ)
    (collection : Table ι α) : Table ι α :=
  match dependencies? kind with
  | some dependencies => dependenciesFirst dependencies collection
  | none => collection

theorem arrangedCollection_perm (dependencies? : κ → Option (α → List ι)) (kind : κ)
    (collection : Table ι α) :
    (arrangedCollection dependencies? kind collection).Perm collection := by
  unfold arrangedCollection
  split
  · exact dependenciesFirst_perm _ _
  · exact List.Perm.refl _

/-- Arranging a data set sorts the kinds and then arranges each collection. -/
theorem arrange_eq (priority : κ → Int) (dependencies? : κ → Option (α → List ι))
    (data : List (κ × Table ι α)) :
    arrange priority dependencies? data =
      (data.mergeSort fun a b => priority a.1 ≤ priority b.1).map
        fun e => (e.1, arrangedCollection dependencies? e.1 e.2) := by
  unfold arrange
  apply List.map_congr_left
  rintro ⟨kind, collection⟩ -
  cases h : dependencies? kind <;> simp [arrangedCollection, h]

/-- With distinct kinds the collection of each kind is found after arranging as before, but for the
order of its items. -/
theorem get?_arrange [DecidableEq κ] (priority : κ → Int)
    (dependencies? : κ → Option (α → List ι)) {data : Table κ (Table ι α)}
    (hd : data.keys.Nodup) (kind : κ) :
    Table.get? (arrange priority dependencies? data) kind =
      (data.get? kind).map (arrangedCollection dependencies? kind) := by
  have hp := List.mergeSort_perm data fun a b => decide (priority a.1 ≤ priority b.1)
  rw [arrange_eq, Table.get?_map, Table.get?_of_perm hp.symm hd]

end Order

/-- No kind comes twice in a data set, and no key in a collection. -/
structure DataSet.Distinct (data : DataSet) : Prop where
  kinds : data.keys.Nodup
  keys : ∀ kind, (data.collection kind).keys.Nodup

namespace DataSet

variable {data : DataSet}

/-- The writing order moves the items of a kind and does nothing else to them. -/
theorem arranged_collection_perm (h : data.Distinct) (kind : Kind) :
    (data.collection kind).Perm (data.arranged.collection kind) := by
  simp only [DataSet.collection]
  rw [arranged, Order.get?_arrange _ _ h.kinds]
  cases Table.get? data kind with
  | none => exact List.Perm.refl _
  | some collection => exact (Order.arrangedCollection_perm _ _ _).symm

/-- The writing order makes no difference to what is found in a data set. -/
theorem get?_arranged (h : data.Distinct) (kind : Kind) (key : Text) :
    (data.arranged.collection kind).get? key = (data.collection kind).get? key :=
  Table.get?_of_perm (arranged_collection_perm h kind) (h.keys kind) key

theorem arranged_keys_nodup (h : data.Distinct) (kind : Kind) :
    (data.arranged.collection kind).keys.Nodup :=
  ((arranged_collection_perm h kind).map _).nodup (h.keys kind)

end DataSet

end FlagReplica
