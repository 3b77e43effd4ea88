/-
  The order of commits.

  Units that have distinct paths, share no model name and put no accessor on the same target can be
  committed to an empty index in any order. Ownership is then the same (`owned_perm`), so the graphs
  have the same entities up to what relations put on them, and file the same relations under every
  unit. The orders differ in one thing only: which unit's relations come first. Since all relations
  that grant one accessor are of one unit, the first of them is the same for every order
  (`find?_grants_eq`).

  So each entity gets the same reverse fields and managers, possibly in another order
  (`commits_order_independent`). Nothing is said of the order of the entities or of their names.
-/
import OrmLens.Proofs.Index.FiledRelations
import OrmLens.Proofs.Index.ReverseAccessors
import OrmLens.Proofs.Index.Succession

namespace OrmLens.Table

variable {κ ρ : Type} [DecidableEq κ]

/-- If all lists that hold a thing of some kind are under one key, the first thing of the kind in
    the table is the first in its list. -/
theorem find?_flatten_values {t : Table κ (List ρ)} {p : ρ → Bool}
    (hone : ∀ k k' l l' r r', t.get? k = some l → t.get? k' = some l' → r ∈ l → r' ∈ l' →
      p r = true → p r' = true → k = k') (r : ρ) :
    t.values.flatten.find? p = some r ↔ ∃ k l, t.get? k = some l ∧ l.find? p = some r := by
  rw [List.find?_flatten]
  constructor
  · intro h
    obtain ⟨l, hl, hr⟩ := List.exists_of_findSome?_eq_some h
    obtain ⟨k, hk⟩ := (mem_values_iff t l).mp hl
    exact ⟨k, l, hk, hr⟩
  · rintro ⟨k, l, hk, hr⟩
    have hsome : (t.values.findSome? (List.find? p)).isSome := by
      rw [List.findSome?_isSome_iff]
      exact ⟨l, (mem_values_iff t l).mpr ⟨k, hk⟩, by rw [hr]; rfl⟩
    obtain ⟨r', hr'⟩ := Option.isSome_iff_exists.mp hsome
    obtain ⟨l', hl', hfind⟩ := List.exists_of_findSome?_eq_some hr'
    obtain ⟨k', hk'⟩ := (mem_values_iff t l').mp hl'
    obtain rfl := hone k k' l l' r r' hk hk' (List.mem_of_find?_eq_some hr)
      (List.mem_of_find?_eq_some hfind) (List.find?_some hr) (List.find?_some hfind)
    obtain rfl : l = l' := Option.some.inj (hk.symm.trans hk')
    rw [hr', ← hfind, hr]

end OrmLens.Table

namespace OrmLens.Model

/-- Lists that agree name by name agree up to order. -/
theorem Named.perm_of_filter_name {α : Type} [Named α] [DecidableEq α] {l l' : List α}
    (h : ∀ a, l.filter (fun x => decide (nameOf x = a)) =
      l'.filter (fun x => decide (nameOf x = a))) : l.Perm l' := by
  rw [List.perm_iff_count]
  intro x
  have hx : decide (nameOf x = nameOf x) = true := decide_eq_true rfl
  rw [← List.count_filter (p := fun y => decide (nameOf y = nameOf x)) hx, h,
    List.count_filter (p := fun y => decide (nameOf y = nameOf x)) hx]

/-- The entities are the same, except that what relations put on them may stand in another order. -/
structure Entity.SameUpToReverseOrder (e e' : Entity) : Prop where
  own : e.withoutReverse = e'.withoutReverse
  fields : (e.fields.filter (·.isReverse)).Perm (e'.fields.filter (·.isReverse))
  managers : (e.managers.filter (·.kind = .reverse)).Perm (e'.managers.filter (·.kind = .reverse))

theorem Entity.sameUpToReverseOrder_of_names {e e' : Entity}
    (hown : e.withoutReverse = e'.withoutReverse)
    (hfields : ∀ a, e.reverseFields a = e'.reverseFields a)
    (hmanagers : ∀ a, e.reverseManagers a = e'.reverseManagers a) :
    e.SameUpToReverseOrder e' where
  own := hown
  fields := by
    apply Named.perm_of_filter_name
    intro a
    have hname : ∀ x : Entity, (x.fields.filter (·.isReverse)).filter
        (fun f => decide (Named.nameOf f = a)) = x.reverseFields a := by
      intro x
      rw [List.filter_filter, reverseFields]
      exact List.filter_congr fun _ _ => Bool.and_comm _ _
    rw [hname e, hname e', hfields a]
  managers := by
    apply Named.perm_of_filter_name
    intro a
    have hname : ∀ x : Entity, (x.managers.filter (·.kind = .reverse)).filter
        (fun m => decide (Named.nameOf m = a)) = x.reverseManagers a := by
      intro x
      rw [List.filter_filter, reverseManagers]
      exact List.filter_congr fun _ _ => Bool.and_comm _ _
    rw [hname e, hname e', hmanagers a]

/-- The target of a relation and the accessor that it puts there, if it starts from a model of the
    schema that is not abstract. -/
def Schema.grantOf? (s : Schema) (r : Relation) : Option (Text × Text) :=
  if (s.entity? r.source).any (!·.isAbstract) then
    r.target.name?.bind fun n => r.accessor?.map fun a => (n, a)
  else none

theorem Schema.grantOf?_eq_some_iff (s : Schema) (r : Relation) (n a : Text) :
    s.grantOf? r = some (n, a) ↔ r.target.name? = some n ∧ r.accessor? = some a ∧
      (s.entity? r.source).any (!·.isAbstract) = true := by
  unfold grantOf?
  split
  · rename_i hs
    simp [hs, Option.bind_eq_some_iff, Option.map_eq_some_iff]
  · rename_i hs
    simp [hs]

end OrmLens.Model

namespace OrmLens.Index

open Model

/-! ## Arrivals -/

/-- A unit that arrives to be committed, and the content to cache it under. -/
structure Arrival where
  path : Text
  text : Text
  content : Text
deriving DecidableEq, Repr

namespace Arrival

/-- The models of the unit. -/
def schema (a : Arrival) : Schema := Schema.extract a.path a.text

/-- The commit of the unit. -/
def edit (a : Arrival) : Edit := .commit a.path a.text a.content

/-- The units have distinct paths, no name is in two of them, and no two of them put the same
    accessor on the same target. -/
structure Compatible (arrivals : List Arrival) : Prop where
  paths : (arrivals.map (·.path)).Nodup
  names : ∀ a ∈ arrivals, ∀ b ∈ arrivals, ∀ n ∈ a.schema.names, n ∈ b.schema.names →
    a.path = b.path
  accessors : ∀ a ∈ arrivals, ∀ b ∈ arrivals, ∀ r ∈ a.schema.relations,
    ∀ r' ∈ b.schema.relations, (a.schema.grantOf? r).isSome →
      a.schema.grantOf? r = b.schema.grantOf? r' → a.path = b.path

theorem Compatible.of_perm {arrivals arrivals' : List Arrival} (h : Compatible arrivals)
    (hp : arrivals.Perm arrivals') : Compatible arrivals' where
  paths := (hp.map _).nodup_iff.mp h.paths
  names a ha b hb := h.names a (hp.mem_iff.mpr ha) b (hp.mem_iff.mpr hb)
  accessors a ha b hb := h.accessors a (hp.mem_iff.mpr ha) b (hp.mem_iff.mpr hb)

theorem Compatible.of_concat {arrivals : List Arrival} {a : Arrival}
    (h : Compatible (arrivals ++ [a])) : Compatible arrivals where
  paths := by
    have hpaths := h.paths
    rw [List.map_append] at hpaths
    exact (List.nodup_append.mp hpaths).1
  names b hb c hc := h.names b (List.mem_append_left _ hb) c (List.mem_append_left _ hc)
  accessors b hb c hc := h.accessors b (List.mem_append_left _ hb) c (List.mem_append_left _ hc)

/-- The last arrival has a path of its own. -/
theorem Compatible.path_ne {arrivals : List Arrival} {a b : Arrival}
    (h : Compatible (arrivals ++ [a])) (hb : b ∈ arrivals) : b.path ≠ a.path := by
  have hpaths := h.paths
  rw [List.map_append] at hpaths
  exact (List.nodup_append.mp hpaths).2.2 _ (List.mem_map_of_mem hb) _ (by simp)

end Arrival

/-- The index after the units are committed to an empty one, one after another. -/
def committed (settings : Settings) (arrivals : List Arrival) : State :=
  edited settings (arrivals.map Arrival.edit)

/-! ## Ownership does not depend on the order -/

theorem owned_arrivals_concat (arrivals : List Arrival) (a : Arrival) :
    owned ((arrivals ++ [a]).map Arrival.edit) =
      (owned (arrivals.map Arrival.edit)).commit a.schema := by
  rw [List.map_append, List.map_singleton, owned_concat]
  rfl

theorem latest_owned_iff {arrivals : List Arrival} (h : Arrival.Compatible arrivals) (u : Text)
    (x : Schema) :
    (owned (arrivals.map Arrival.edit)).latest u = some x ↔
      ∃ a ∈ arrivals, a.path = u ∧ a.schema = x := by
  induction arrivals using List.reverseRecOn with
  | nil => simp [owned, Ownership.empty]
  | append_singleton arrivals a ih =>
    have hlatest : (owned ((arrivals ++ [a]).map Arrival.edit)).latest u =
        if u = a.path then some a.schema else (owned (arrivals.map Arrival.edit)).latest u := by
      rw [owned_arrivals_concat]
      rfl
    rw [hlatest]
    split
    · rename_i hu
      subst hu
      constructor
      · intro hx
        exact ⟨a, by simp, rfl, Option.some.inj hx⟩
      · rintro ⟨b, hb, hpath, rfl⟩
        rcases List.mem_append.mp hb with hb | hb
        · exact absurd hpath (h.path_ne hb)
        · rw [List.mem_singleton.mp hb]
    · rename_i hu
      rw [ih h.of_concat]
      constructor
      · rintro ⟨b, hb, hpath, hx⟩
        exact ⟨b, List.mem_append_left _ hb, hpath, hx⟩
      · rintro ⟨b, hb, rfl, hx⟩
        rcases List.mem_append.mp hb with hb | hb
        · exact ⟨b, hb, rfl, hx⟩
        · rw [List.mem_singleton.mp hb] at hu
          exact absurd rfl hu

theorem owner_owned_iff {arrivals : List Arrival} (h : Arrival.Compatible arrivals) (n u : Text) :
    (owned (arrivals.map Arrival.edit)).owner n = some u ↔
      ∃ a ∈ arrivals, a.path = u ∧ n ∈ a.schema.names := by
  induction arrivals using List.reverseRecOn with
  | nil => simp [owned, Ownership.empty]
  | append_singleton arrivals a ih =>
    have ih := ih h.of_concat
    rw [owned_arrivals_concat]
    by_cases hu : u = a.path
    · subst hu
      have hself := Ownership.owner_commit_self (owned (arrivals.map Arrival.edit)) a.schema n
      refine hself.trans ⟨fun hn => ⟨a, by simp, rfl, hn⟩, ?_⟩
      rintro ⟨b, hb, hpath, hn⟩
      rcases List.mem_append.mp hb with hb | hb
      · exact absurd hpath (h.path_ne hb)
      · rw [← List.mem_singleton.mp hb]
        exact hn
    · have hpath : u ≠ a.schema.path := hu
      rw [Ownership.owner_commit_of_ne hpath, ih]
      constructor
      · rintro ⟨-, b, hb, hpath, hn⟩
        exact ⟨b, List.mem_append_left _ hb, hpath, hn⟩
      · rintro ⟨b, hb, rfl, hn⟩
        rcases List.mem_append.mp hb with hb' | hb'
        · -- A name of the last arrival would be in two units.
          refine ⟨fun hna => hu ?_, b, hb', rfl, hn⟩
          exact h.names b hb a (by simp) n hn hna
        · rw [List.mem_singleton.mp hb'] at hu
          exact absurd rfl hu

/-- Ownership after compatible commits is the same for every order. -/
theorem owned_perm {arrivals arrivals' : List Arrival} (h : Arrival.Compatible arrivals)
    (hp : arrivals.Perm arrivals') :
    owned (arrivals.map Arrival.edit) = owned (arrivals'.map Arrival.edit) := by
  have h' := h.of_perm hp
  apply Ownership.ext
  · funext u
    apply Option.ext
    intro x
    simp only [latest_owned_iff h, latest_owned_iff h', hp.mem_iff]
  · funext n
    apply Option.ext
    intro u
    simp only [owner_owned_iff h, owner_owned_iff h', hp.mem_iff]

/-! ## Graphs with the same ownership -/

namespace Graph

/-- Relations that grant one accessor are all filed under one unit. -/
def GrantsByUnit (g : Graph) : Prop :=
  ∀ n a u v, ∀ r ∈ g.filed u, ∀ r' ∈ g.filed v, g.grants n a r = true → g.grants n a r' = true →
    u = v

theorem filed_of_get? {g : Graph} {u : Text} {l : List Relation}
    (h : g.relations.get? u = some l) : g.filed u = l := by
  rw [filed, h]
  rfl

namespace Represents

variable {g g' : Graph} {o : Ownership} (h : g.Represents o) (h' : g'.Represents o)
include h h'

theorem grants_eq (n a : Text) : g.grants n a = g'.grants n a := by
  funext r
  have hconcrete : ∀ x : Graph, (x.entity? r.source).any (!·.isAbstract) =
      (x.stripped? r.source).any (!·.isAbstract) := by
    intro x
    rw [stripped?, Option.any_map]
    rfl
  rw [grants, grants, hconcrete g, hconcrete g', h.stripped, h'.stripped]

/-- The first relation to grant an accessor is the same, whatever the order of the units. -/
theorem find?_grants_eq (hone : g.GrantsByUnit) (n a : Text) :
    g.allRelations.find? (g.grants n a) = g'.allRelations.find? (g'.grants n a) := by
  have hone' : ∀ u v l l' r r', g.relations.get? u = some l → g.relations.get? v = some l' →
      r ∈ l → r' ∈ l' → g.grants n a r = true → g.grants n a r' = true → u = v := by
    intro u v l l' r r' hu hv hr hr'
    exact hone n a u v r (filed_of_get? hu ▸ hr) r' (filed_of_get? hv ▸ hr')
  apply Option.ext
  intro r
  rw [allRelations, allRelations, ← h.grants_eq h' n a, Table.find?_flatten_values hone',
    Table.find?_flatten_values]
  · simp only [h.relations, h'.relations]
  · simpa only [h.relations, h'.relations] using hone'

theorem sameUpToReverseOrder (hone : g.GrantsByUnit) {n : Text} {e e' : Entity}
    (he : g.entity? n = some e) (he' : g'.entity? n = some e') : e.SameUpToReverseOrder e' := by
  have hown : e.withoutReverse = e'.withoutReverse := by
    have hstripped : g.stripped? n = g'.stripped? n := (h.stripped n).trans (h'.stripped n).symm
    rw [stripped?, stripped?, he, he'] at hstripped
    exact Option.some.inj hstripped
  apply Entity.sameUpToReverseOrder_of_names hown
  · intro a
    rw [h.reverseFields_eq he, h'.reverseFields_eq he', hown, h.find?_grants_eq h' hone]
  · intro a
    rw [h.reverseManagers_eq he, h'.reverseManagers_eq he', hown, h.find?_grants_eq h' hone]

end Represents

end Graph

/-! ## Commits in any order -/

/-- A relation on file after the commits is one of an arrival, and grants what it granted there. -/
theorem exists_arrival_of_filed (settings : Settings) {arrivals : List Arrival}
    (h : Arrival.Compatible arrivals) {u n a : Text} {r : Relation}
    (hr : r ∈ (committed settings arrivals).graph.filed u)
    (hg : (committed settings arrivals).graph.grants n a r = true) :
    ∃ x ∈ arrivals, x.path = u ∧ r ∈ x.schema.relations ∧ x.schema.grantOf? r = some (n, a) := by
  have hrep := represents_edited settings (arrivals.map Arrival.edit)
  obtain ⟨-, e, he, rfl, hre⟩ := hrep.exists_source_of_filed hr
  obtain ⟨-, -, schema, hs, hentity⟩ := hrep.exists_schema he
  obtain ⟨x, hx, hpath, rfl⟩ := (latest_owned_iff h _ _).mp hs
  have hw := Schema.wellFormed_extract x.path x.text
  refine ⟨x, hx, hpath, ?_, ?_⟩
  · rw [Arrival.schema, hw.relations, List.mem_flatMap]
    refine ⟨e.withoutReverse, ((hw.entity?_eq_some_iff _ _).mp hentity).1, ?_⟩
    rw [relationsOf_withoutReverse]
    exact hre
  · have he : (committed settings arrivals).graph.entity? r.source = some e := he
    simp only [Graph.grants, he, Bool.and_eq_true, decide_eq_true_eq, Option.any_some] at hg
    rw [Schema.grantOf?_eq_some_iff, hentity]
    exact ⟨hg.1.1, hg.1.2, hg.2⟩

theorem grantsByUnit_committed (settings : Settings) {arrivals : List Arrival}
    (h : Arrival.Compatible arrivals) : (committed settings arrivals).graph.GrantsByUnit := by
  intro n a u v r hr r' hr' hg hg'
  obtain ⟨x, hx, rfl, hrx, hgx⟩ := exists_arrival_of_filed settings h hr hg
  obtain ⟨y, hy, rfl, hry, hgy⟩ := exists_arrival_of_filed settings h hr' hg'
  exact h.accessors x hx y hy r hrx r' hry (by rw [hgx]; rfl) (hgx.trans hgy.symm)

/-- **The order of compatible commits does not matter.** Committed to an empty index in two orders,
    units with distinct paths, of which no two share a name or put the same accessor on the same
    target, give the same entity names; and under every name the same entity, except that its
    reverse fields and its reverse managers may be in another order. -/
theorem commits_order_independent (settings : Settings) {arrivals arrivals' : List Arrival}
    (h : Arrival.Compatible arrivals) (hp : arrivals.Perm arrivals') :
    let g := (committed settings arrivals).graph
    let g' := (committed settings arrivals').graph
    (∀ n, n ∈ g.entities.keys ↔ n ∈ g'.entities.keys) ∧
      ∀ n e e', g.entity? n = some e → g'.entity? n = some e' → e.SameUpToReverseOrder e' := by
  intro g g'
  have hrep : g.Represents (owned (arrivals.map Arrival.edit)) :=
    represents_edited settings (arrivals.map Arrival.edit)
  have hrep' : g'.Represents (owned (arrivals.map Arrival.edit)) := by
    rw [owned_perm h hp]
    exact represents_edited settings (arrivals'.map Arrival.edit)
  refine ⟨fun n => ?_, fun n e e' he he' => ?_⟩
  · have hheld : ∀ x : Graph, n ∈ x.entities.keys ↔ (x.holder? n).isSome := by
      intro x
      rw [Table.mem_keys_iff, Graph.holder?, Option.isSome_map]
      rfl
    rw [hheld g, hheld g', hrep.holder?_eq, hrep'.holder?_eq]
  · exact hrep.sameUpToReverseOrder hrep' (grantsByUnit_committed settings h) he he'

/-- Two models of different units are related to a third. Whichever arrives first, the third has the
    same entity up to the order of its two reverse fields, which do differ in order. -/
theorem commits_order_independent_reversed :
    let tag : Arrival := ⟨"t.py", "class Tag(Model):\n", "t"⟩
    let post : Arrival := ⟨"p.py", "class Post(Model):\n    tag = ForeignKey('Tag')\n", "p"⟩
    let link : Arrival := ⟨"l.py", "class Link(Model):\n    tag = ForeignKey('Tag')\n", "l"⟩
    let g := (committed {} [tag, post, link]).graph
    let g' := (committed {} [link, post, tag]).graph
    Arrival.Compatible [tag, post, link] ∧ [tag, post, link].Perm [link, post, tag] ∧
      ∃ e e', g.entity? "Tag" = some e ∧ g'.entity? "Tag" = some e' ∧
        e.fields.map (·.name) = ["post_set", "link_set"] ∧
        e'.fields.map (·.name) = ["link_set", "post_set"] ∧ e.SameUpToReverseOrder e' := by
  intro tag post link g g'
  have hcompatible : Arrival.Compatible [tag, post, link] :=
    ⟨by decide, by decide +kernel, by decide +kernel⟩
  have hperm : [tag, post, link].Perm [link, post, tag] := by decide
  have hg : (g.entity? "Tag").map (·.fields.map (·.name)) =
      some (["post_set", "link_set"] : List Text) := by decide +kernel
  have hg' : (g'.entity? "Tag").map (·.fields.map (·.name)) =
      some (["link_set", "post_set"] : List Text) := by decide +kernel
  obtain ⟨e, he, hfields⟩ := Option.map_eq_some_iff.mp hg
  obtain ⟨e', he', hfields'⟩ := Option.map_eq_some_iff.mp hg'
  exact ⟨hcompatible, hperm, e, e', he, he', hfields, hfields',
    (commits_order_independent {} hcompatible hperm).2 "Tag" e e' he he'⟩

end OrmLens.Index
