/-
  What a commit and a removal do, as lookups.

  Both operations write first and settle the records of losses last. The state in between is named
  (`install`, `withdraw`), and for each of its parts one lemma says what a lookup finds there:
  entities without reverse accessors (`stripped?_install`), relations, records of losses and cache
  entries. The reverse accessors are always those of a fresh rebuild (`Graph.Rebuilt`).

  The schema is any well-formed one; where it came from plays no part.
-/
import OrmLens.Index.Basic
import OrmLens.Proofs.Accessors
import OrmLens.Proofs.Index.Cache
import OrmLens.Proofs.Schema

namespace OrmLens.Index

open Model

/-! ## Views of the graph -/

namespace Graph

/-- Every entity is stored under its own name. -/
def Keyed (g : Graph) : Prop := ∀ n e, g.entity? n = some e → e.name = n

/-- The unit whose definition of the name the graph holds. -/
def holder? (g : Graph) (n : Text) : Option Text := (g.entity? n).map (·.unit)

/-- The unit that loses the name when `path` defines it. -/
def loser? (g : Graph) (path n : Text) : Option Text := (g.holder? n).filter (· ≠ path)

/-- The entity with the name, without what relations put on it. -/
def stripped? (g : Graph) (n : Text) : Option Entity := (g.entity? n).map Entity.withoutReverse

/-- Another rebuild changes no entity. -/
def Rebuilt (g : Graph) : Prop := ∀ n, g.rebuild.entity? n = g.entity? n

theorem holder?_eq_map_stripped? (g : Graph) (n : Text) :
    g.holder? n = (g.stripped? n).map (·.unit) := by
  rw [holder?, stripped?, Option.map_map]
  rfl

theorem stripped?_rebuild (g : Graph) (n : Text) : g.rebuild.stripped? n = g.stripped? n :=
  map_withoutReverse_rebuildAccessors g.entities g.allRelations n

theorem rebuilt_rebuild (g : Graph) : g.rebuild.Rebuilt :=
  get?_rebuildAccessors_twice g.entities g.allRelations

/-- Graphs with the same relations and the same stripped entities have the same entities after a
    rebuild. -/
theorem entity?_rebuild_congr {g g' : Graph} (hr : g.relations = g'.relations)
    (hs : ∀ n, g.stripped? n = g'.stripped? n) (n : Text) :
    g.rebuild.entity? n = g'.rebuild.entity? n := by
  have hall : g.allRelations = g'.allRelations := by rw [allRelations, allRelations, hr]
  show (rebuildAccessors g.entities g.allRelations).get? n = _
  rw [hall]
  exact get?_rebuildAccessors_congr hs _ n

theorem entity?_removeEntitiesOf (g : Graph) (unit n : Text) :
    (g.removeEntitiesOf unit).entity? n = (g.entity? n).filter (·.unit ≠ unit) :=
  Table.get?_filter g.entities _ n

theorem stripped?_removeEntitiesOf (g : Graph) (unit n : Text) :
    (g.removeEntitiesOf unit).stripped? n = (g.stripped? n).filter (·.unit ≠ unit) := by
  rw [stripped?, entity?_removeEntitiesOf, stripped?, Option.filter_map]
  rfl

theorem keyed_removeEntitiesOf {g : Graph} (h : g.Keyed) (unit : Text) :
    (g.removeEntitiesOf unit).Keyed := by
  intro n e he
  rw [entity?_removeEntitiesOf, Option.filter_eq_some_iff] at he
  exact h n e he.1

theorem loser?_removeEntitiesOf (g : Graph) (path n : Text) :
    (g.removeEntitiesOf path).loser? path n = g.loser? path n := by
  rw [loser?, loser?, holder?, holder?, entity?_removeEntitiesOf, Option.filter_map,
    Option.filter_map, Option.filter_filter]
  simp [Function.comp_def]

theorem entity?_insert (g : Graph) (e : Entity) (n : Text) :
    (g.insert e).entity? n = if n = e.name then some e else g.entity? n :=
  Table.get?_insert g.entities e.name n e

theorem loser?_eq_some_iff (g : Graph) (path n u : Text) :
    g.loser? path n = some u ↔ g.holder? n = some u ∧ u ≠ path := by
  rw [loser?, Option.filter_eq_some_iff, decide_eq_true_eq]

end Graph

namespace State

/-! ## Taking one entity in -/

/-- The cases of `adopt`, told apart by the unit that loses the name. -/
theorem adopt_eq {s : State} (hk : s.graph.Keyed) (path : Text) (e : Entity) :
    adopt path s e = match s.graph.loser? path e.name with
      | none => { s with graph := s.graph.insert e }
      | some unit =>
        { s with
          graph := { s.graph.insert e with
            relations := s.graph.relations.modify unit (·.filter (·.source ≠ e.name)) }
          cache := s.cache.evict unit
          shadowed := s.shadowed.insert e.name unit } := by
  unfold adopt
  cases h : s.graph.entity? e.name with
  | none => simp [Graph.loser?, Graph.holder?, h]
  | some old =>
    have hn : old.name = e.name := hk _ _ h
    by_cases hu : old.unit = path
    · simp [Graph.loser?, Graph.holder?, h, hu, Option.filter_some]
    · simp [Graph.loser?, Graph.holder?, h, hu, hn, Graph.insert, Option.filter_some]

section Adopt

variable {s : State} (hk : s.graph.Keyed) (path : Text) (e : Entity)
include hk

theorem entity?_adopt (n : Text) :
    (adopt path s e).graph.entity? n = if n = e.name then some e else s.graph.entity? n := by
  rw [adopt_eq hk, ← Graph.entity?_insert]
  cases s.graph.loser? path e.name <;> rfl

theorem keyed_adopt : (adopt path s e).graph.Keyed := by
  intro n x hx
  rw [entity?_adopt hk] at hx
  split at hx
  · rename_i hn
    rw [← Option.some.inj hx, hn]
  · exact hk n x hx

theorem loser?_adopt (he : e.unit = path) (n : Text) :
    (adopt path s e).graph.loser? path n =
      if n = e.name then none else s.graph.loser? path n := by
  rw [Graph.loser?, Graph.holder?, entity?_adopt hk]
  split
  · simp [he]
  · rfl

theorem relations_adopt (u : Text) :
    (adopt path s e).graph.relations.get? u = (s.graph.relations.get? u).map
      (·.filter fun r => !decide (r.source = e.name ∧ s.graph.loser? path e.name = some u)) := by
  have keepAll (l : List Relation) : l.filter (fun _ => true) = l :=
    List.filter_eq_self.mpr fun _ _ => rfl
  rw [adopt_eq hk]
  cases s.graph.loser? path e.name with
  | none => simp [Graph.insert, keepAll]
  | some unit =>
    by_cases hu : u = unit
    · simp [hu]
    · simp [hu, Ne.symm hu, keepAll]

theorem shadowed_adopt (n : Text) :
    (adopt path s e).shadowed.get? n =
      if n = e.name then (s.graph.loser? path n).or (s.shadowed.get? n)
      else s.shadowed.get? n := by
  rw [adopt_eq hk]
  cases h : s.graph.loser? path e.name with
  | none => split <;> simp_all
  | some unit => by_cases hn : n = e.name <;> simp_all

theorem cacheEntries_adopt (u : Text) :
    (adopt path s e).cache.entries.get? u =
      if s.graph.loser? path e.name = some u then none else s.cache.entries.get? u := by
  rw [adopt_eq hk]
  cases s.graph.loser? path e.name with
  | none => simp
  | some unit => by_cases hu : u = unit <;> simp [Cache.evict, hu, eq_comm]

end Adopt

/-! ## Taking all entities of a unit in

  The entities have distinct names and belong to one unit, so each of them meets the holder of its
  name from before the first. -/

section AdoptAll

variable {s : State} {path : Text} {es : List Entity}

/-- The names after the first are not its name. -/
theorem ne_of_mem_tail {e : Entity} (hn : ((e :: es).map (·.name)).Nodup) {n : Text}
    (h : n ∈ es.map (·.name)) : n ≠ e.name := by
  rintro rfl
  exact (List.nodup_cons.mp hn).1 h

theorem entity?_adoptAll (hk : s.graph.Keyed) (hn : (es.map (·.name)).Nodup) (n : Text) :
    (es.foldl (adopt path) s).graph.entity? n =
      (Named.find? es n).or (s.graph.entity? n) := by
  induction es generalizing s with
  | nil => rfl
  | cons e es ih =>
    rw [List.foldl_cons, ih (keyed_adopt hk path e) (List.nodup_cons.mp hn).2, entity?_adopt hk]
    by_cases h : n = e.name
    · have hnone : Named.find? es n = none := by
        rw [← Option.not_isSome_iff_eq_none, Named.find?_isSome_iff]
        exact fun hm => ne_of_mem_tail hn hm h
      rw [hnone, if_pos h, Named.find?, List.find?_cons_of_pos (by simp [Named.nameOf, h])]
      rfl
    · rw [if_neg h, Named.find?, Named.find?,
        List.find?_cons_of_neg (by simpa [Named.nameOf] using Ne.symm h)]

/-- The first entity changes no loser of a later name. -/
theorem loser?_adopt_of_mem_tail (hk : s.graph.Keyed) {e : Entity} (he : e.unit = path)
    (hn : ((e :: es).map (·.name)).Nodup) {n : Text} (h : n ∈ es.map (·.name)) :
    (adopt path s e).graph.loser? path n = s.graph.loser? path n := by
  rw [loser?_adopt hk path e he, if_neg (ne_of_mem_tail hn h)]

theorem shadowed_adoptAll (hk : s.graph.Keyed) (hu : ∀ e ∈ es, e.unit = path)
    (hn : (es.map (·.name)).Nodup) (n : Text) :
    (es.foldl (adopt path) s).shadowed.get? n =
      if n ∈ es.map (·.name) then (s.graph.loser? path n).or (s.shadowed.get? n)
      else s.shadowed.get? n := by
  induction es generalizing s with
  | nil => rfl
  | cons e es ih =>
    have he := hu e List.mem_cons_self
    rw [List.foldl_cons, ih (keyed_adopt hk path e) (fun x hx => hu x (List.mem_cons_of_mem _ hx))
      (List.nodup_cons.mp hn).2, shadowed_adopt hk]
    simp only [List.map_cons, List.mem_cons]
    by_cases hm : n ∈ es.map (·.name)
    · rw [if_pos hm, if_neg (ne_of_mem_tail hn hm), loser?_adopt_of_mem_tail hk he hn hm,
        if_pos (Or.inr hm)]
    · simp only [hm, or_false, if_false]

theorem relations_adoptAll (hk : s.graph.Keyed) (hu : ∀ e ∈ es, e.unit = path)
    (hn : (es.map (·.name)).Nodup) (u : Text) :
    (es.foldl (adopt path) s).graph.relations.get? u = (s.graph.relations.get? u).map
      (·.filter fun r =>
        !decide (r.source ∈ es.map (·.name) ∧ s.graph.loser? path r.source = some u)) := by
  induction es generalizing s with
  | nil => simp [List.filter_eq_self.mpr]
  | cons e es ih =>
    have he := hu e List.mem_cons_self
    rw [List.foldl_cons, ih (keyed_adopt hk path e) (fun x hx => hu x (List.mem_cons_of_mem _ hx))
      (List.nodup_cons.mp hn).2, relations_adopt hk, Option.map_map]
    congr 1
    funext l
    rw [Function.comp, List.filter_filter]
    congr 1
    funext r
    simp only [List.map_cons, List.mem_cons]
    by_cases hm : r.source ∈ es.map (·.name)
    · have hne := ne_of_mem_tail hn hm
      rw [loser?_adopt_of_mem_tail hk he hn hm]
      simp only [hm, hne, or_true, true_and, false_and, decide_false, Bool.not_false,
        Bool.and_true]
    · by_cases hr : r.source = e.name
      · simp only [hm, false_and, or_false, decide_false, Bool.not_false, Bool.true_and]
        rw [hr]
      · simp only [hm, hr, or_false, false_and, decide_false, Bool.not_false, Bool.and_true]

theorem cacheEntries_adoptAll (hk : s.graph.Keyed) (hu : ∀ e ∈ es, e.unit = path)
    (hn : (es.map (·.name)).Nodup) {u : Text} {entry : CacheEntry}
    (h : (es.foldl (adopt path) s).cache.entries.get? u = some entry) :
    s.cache.entries.get? u = some entry ∧
      ∀ n ∈ es.map (·.name), s.graph.loser? path n ≠ some u := by
  induction es generalizing s with
  | nil => exact ⟨h, by simp⟩
  | cons e es ih =>
    have he := hu e List.mem_cons_self
    obtain ⟨hc, hl⟩ := ih (keyed_adopt hk path e) (fun x hx => hu x (List.mem_cons_of_mem _ hx))
      (List.nodup_cons.mp hn).2 h
    rw [cacheEntries_adopt hk] at hc
    split at hc
    · cases hc
    · rename_i hfirst
      refine ⟨hc, fun n hmem => ?_⟩
      rcases List.mem_cons.mp hmem with rfl | hmem
      · exact hfirst
      · rw [← loser?_adopt_of_mem_tail hk he hn hmem]
        exact hl n hmem

/-- Where nobody loses a name, only entities and names change. -/
theorem adoptAll_of_uncontested (hk : s.graph.Keyed) (hu : ∀ e ∈ es, e.unit = path)
    (hn : (es.map (·.name)).Nodup)
    (hl : ∀ n ∈ es.map (·.name), s.graph.loser? path n = none) :
    (es.foldl (adopt path) s).graph.relations = s.graph.relations ∧
      (es.foldl (adopt path) s).shadowed = s.shadowed := by
  induction es generalizing s with
  | nil => exact ⟨rfl, rfl⟩
  | cons e es ih =>
    have he := hu e List.mem_cons_self
    have hfirst : adopt path s e = { s with graph := s.graph.insert e } := by
      rw [adopt_eq hk, hl e.name List.mem_cons_self]
    have hrest := ih (keyed_adopt hk path e) (fun x hx => hu x (List.mem_cons_of_mem _ hx))
      (List.nodup_cons.mp hn).2 fun n hm => by
        rw [loser?_adopt_of_mem_tail hk he hn hm]
        exact hl n (List.mem_cons_of_mem _ hm)
    rw [List.foldl_cons, hrest.1, hrest.2, hfirst]
    exact ⟨rfl, rfl⟩

end AdoptAll

/-! ## Commits and removals before settling -/

/-- What a commit has written before it settles the records of losses. -/
def install (s : State) (schema : Schema) (content : Text) : State :=
  let s := { s with graph := s.graph.removeEntitiesOf schema.path }
  let s := schema.entities.foldl (adopt schema.path) s
  let graph := { s.graph with relations := s.graph.relations.insert schema.path schema.relations }
  { s with
    graph := graph.rebuild
    cache := s.cache.put s.now schema.path content schema.names }

/-- What a removal has written before it settles the records of losses. -/
def withdraw (s : State) (path : Text) : State :=
  let graph := s.graph.removeEntitiesOf path
  let graph := { graph with relations := graph.relations.erase path }
  { s with graph := graph.rebuild, cache := s.cache.evict path }

theorem commit_eq (s : State) (schema : Schema) (content : Text) :
    s.commit schema content =
      ((s.install schema content).settleShadows, (s.install schema content).orphans) := rfl

theorem remove_eq (s : State) (path : Text) :
    s.remove path = ((s.withdraw path).settleShadows, (s.withdraw path).orphans) := rfl

section Install

variable {s : State} (hk : s.graph.Keyed) {schema : Schema} (hw : schema.WellFormed)
  (content : Text)
include hk hw

/-- A name is defined by the schema, or else by the unit from before unless that is the unit
    committed. -/
theorem stripped?_install (n : Text) :
    (s.install schema content).graph.stripped? n =
      (schema.entity? n).or ((s.graph.stripped? n).filter (·.unit ≠ schema.path)) := by
  have hplain : (schema.entity? n).map Entity.withoutReverse = schema.entity? n := by
    cases h : schema.entity? n with
    | none => rfl
    | some e =>
      rw [Option.map_some, hw.plain e ((hw.entity?_eq_some_iff n e).mp h).1]
  unfold install
  dsimp only
  rw [Graph.stripped?_rebuild, ← Graph.stripped?_removeEntitiesOf, ← hplain, Graph.stripped?,
    Graph.stripped?, Schema.entity?, ← Option.map_or]
  congr 1
  exact entity?_adoptAll (s := { s with graph := _ }) (Graph.keyed_removeEntitiesOf hk _) hw.nodup n

theorem relations_install (u : Text) :
    (s.install schema content).graph.relations.get? u =
      if u = schema.path then some schema.relations
      else (s.graph.relations.get? u).map (·.filter fun r =>
        !decide (r.source ∈ schema.names ∧ s.graph.holder? r.source = some u)) := by
  unfold install
  dsimp only [Graph.rebuild]
  rw [Table.get?_insert]
  split
  · rfl
  · rename_i hu
    rw [relations_adoptAll (Graph.keyed_removeEntitiesOf hk _) hw.unit hw.nodup]
    simp only [Graph.loser?_removeEntitiesOf, Graph.loser?_eq_some_iff, hu, ne_eq,
      not_false_eq_true, and_true]
    rfl

theorem shadowed_install (n : Text) :
    (s.install schema content).shadowed.get? n =
      if n ∈ schema.names then (s.graph.loser? schema.path n).or (s.shadowed.get? n)
      else s.shadowed.get? n := by
  have h := shadowed_adoptAll (s := { s with graph := s.graph.removeEntitiesOf schema.path })
    (Graph.keyed_removeEntitiesOf hk _) hw.unit hw.nodup n
  rw [Graph.loser?_removeEntitiesOf] at h
  exact h

theorem cacheEntries_install {u : Text} {entry : CacheEntry}
    (h : (s.install schema content).cache.entries.get? u = some entry) :
    (u = schema.path ∧ entry.content = content) ∨
      (u ≠ schema.path ∧ s.cache.entries.get? u = some entry ∧
        ∀ n ∈ schema.names, s.graph.holder? n ≠ some u) := by
  unfold install at h
  dsimp only at h
  by_cases hu : u = schema.path
  · rw [hu, Cache.entries_put_self, Option.some.injEq] at h
    exact Or.inl ⟨hu, by rw [← h]⟩
  · obtain ⟨hc, hl⟩ := cacheEntries_adoptAll (Graph.keyed_removeEntitiesOf hk _) hw.unit hw.nodup
      (Cache.entries_put_ne hu h)
    refine Or.inr ⟨hu, hc, fun n hn hh => ?_⟩
    apply hl n hn
    rw [Graph.loser?_removeEntitiesOf, Graph.loser?_eq_some_iff]
    exact ⟨hh, hu⟩

/-- A commit that takes no name from another unit, and brings the relations that are there, changes
    neither relations nor records of losses. -/
theorem install_of_uncontested (hl : ∀ n ∈ schema.names, s.graph.loser? schema.path n = none)
    (hr : s.graph.relations.get? schema.path = some schema.relations) :
    (s.install schema content).graph.relations = s.graph.relations ∧
      (s.install schema content).shadowed = s.shadowed := by
  obtain ⟨hrel, hsh⟩ := adoptAll_of_uncontested
    (s := { s with graph := s.graph.removeEntitiesOf schema.path })
    (Graph.keyed_removeEntitiesOf hk _) hw.unit hw.nodup fun n hn => by
      rw [Graph.loser?_removeEntitiesOf]
      exact hl n hn
  refine ⟨?_, hsh⟩
  unfold install
  dsimp only [Graph.rebuild]
  rw [hrel]
  exact Table.insert_eq_self hr

end Install

theorem rebuilt_install (s : State) (schema : Schema) (content : Text) :
    (s.install schema content).graph.Rebuilt :=
  Graph.rebuilt_rebuild _

theorem cacheEntries_install_self (s : State) (schema : Schema) (content : Text) :
    ((s.install schema content).cache.entries.get? schema.path).map (·.content) =
      some content := by
  unfold install
  dsimp only
  rw [Cache.entries_put_self]
  rfl

theorem stripped?_withdraw (s : State) (path n : Text) :
    (s.withdraw path).graph.stripped? n = (s.graph.stripped? n).filter (·.unit ≠ path) := by
  unfold withdraw
  dsimp only
  rw [Graph.stripped?_rebuild]
  exact Graph.stripped?_removeEntitiesOf s.graph path n

theorem relations_withdraw (s : State) (path u : Text) :
    (s.withdraw path).graph.relations.get? u =
      if u = path then none else s.graph.relations.get? u :=
  Table.get?_erase s.graph.relations path u

theorem rebuilt_withdraw (s : State) (path : Text) : (s.withdraw path).graph.Rebuilt :=
  Graph.rebuilt_rebuild _

/-! ## Settling -/

theorem shadowed_settleShadows (s : State) (n : Text) :
    s.settleShadows.shadowed.get? n =
      (s.shadowed.get? n).filter fun u => (s.graph.holder? n).any (· ≠ u) := by
  unfold settleShadows
  dsimp only
  rw [Table.get?_filter]
  congr 1
  funext u
  rw [Graph.holder?, Option.any_map]

/-- The units reported are those that lost a name which nobody holds now. -/
theorem mem_orphans_iff (s : State) (u : Text) :
    u ∈ s.orphans ↔ ∃ n, s.shadowed.get? n = some u ∧ s.graph.holder? n = none := by
  unfold orphans
  dsimp only
  rw [Named.mem_mergeAll_texts, List.mem_map]
  constructor
  · intro h'
    obtain ⟨⟨n, v⟩, h, rfl⟩ := h'
    rw [List.mem_filter, Table.mem_entries_iff] at h
    refine ⟨n, h.1, ?_⟩
    rw [Graph.holder?, Option.isNone_iff_eq_none.mp h.2]
    rfl
  · intro h'
    obtain ⟨n, hs, hh⟩ := h'
    refine ⟨(n, u), ?_, rfl⟩
    rw [List.mem_filter, Table.mem_entries_iff]
    refine ⟨hs, ?_⟩
    rw [Option.isNone_iff_eq_none]
    exact Option.map_eq_none_iff.mp hh

end State

end OrmLens.Index
