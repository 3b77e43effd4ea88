/-
  Relations on file.

  Relations are filed by unit, entities are stored by name, and a name can go from one unit to
  another. Here the two are tied together: what is filed under a unit is, up to order, the relations
  of the entities that the graph holds of it (`perm_filed`), each of them once (`nodup_filed`).

  `filed_relations_exact` says this for every run of calls. The order on file is that of the unit's
  own text; the order of the entities is that of their arrival, so the two lists differ in general.
-/
import Mathlib.Data.List.Nodup
import OrmLens.Proofs.Index.Ownership

namespace OrmLens.Model

/-! ## Relations of entities -/

/-- What relations put on an entity adds no relation to those that start from it. -/
theorem relationsOf_withoutReverse (e : Entity) :
    relationsOf e.withoutReverse = relationsOf e := by
  have hfields : e.withoutReverse.fields = e.fields.filter (!·.isReverse) := rfl
  have hrelation : relationOf? e.withoutReverse = relationOf? e := rfl
  rw [relationsOf, relationsOf, hfields, hrelation, List.filter_filter]
  simp only [Bool.and_self]

theorem source_of_mem_relationsOf {e : Entity} {r : Relation} (h : r ∈ relationsOf e) :
    r.source = e.name := by
  obtain ⟨f, -, -, hf⟩ := mem_relationsOf h
  exact (relationOf?_eq_some hf).1

theorem unit_of_mem_relationsOf {e : Entity} {r : Relation} (h : r ∈ relationsOf e) :
    r.unit = e.unit := by
  obtain ⟨f, -, -, hf⟩ := mem_relationsOf h
  obtain ⟨kind, -, rfl⟩ := Option.map_eq_some_iff.mp hf
  rfl

/-- Choosing relations by their sources is choosing entities by their names. -/
theorem filter_flatMap_relationsOf (p : Text → Bool) (es : List Entity) :
    (es.flatMap relationsOf).filter (fun r => p r.source) =
      (es.filter fun e => p e.name).flatMap relationsOf := by
  induction es with
  | nil => rfl
  | cons e es ih =>
    rw [List.flatMap_cons, List.filter_append, ih, List.filter_cons]
    split
    · rename_i hp
      rw [List.flatMap_cons, List.filter_eq_self.mpr]
      intro r hr
      rw [source_of_mem_relationsOf hr]
      exact hp
    · rename_i hp
      rw [List.filter_eq_nil_iff.mpr, List.nil_append]
      intro r hr
      rw [source_of_mem_relationsOf hr]
      exact hp

/-- Fields with distinct names have distinct relations. -/
theorem nodup_relationsOf {e : Entity} (h : (Named.names e.fields).Nodup) :
    (relationsOf e).Nodup := by
  have hpairs : e.fields.Pairwise fun f g => f.name ≠ g.name := List.pairwise_map.mp h
  unfold relationsOf List.Nodup
  rw [List.pairwise_filterMap]
  refine (hpairs.filter _).imp ?_
  rintro f g hne r hf _ hg rfl
  exact hne ((relationOf?_eq_some hf).2.1.symm.trans (relationOf?_eq_some hg).2.1)

theorem Schema.WellFormed.nodup_relations {s : Schema} (h : s.WellFormed) :
    s.relations.Nodup := by
  have hnames : s.entities.Pairwise fun e e' => e.name ≠ e'.name := List.pairwise_map.mp h.nodup
  rw [h.relations, List.nodup_flatMap]
  refine ⟨fun e he => nodup_relationsOf (h.fields e he), hnames.imp ?_⟩
  intro e e' hne r hr hr'
  exact hne ((source_of_mem_relationsOf hr).symm.trans (source_of_mem_relationsOf hr'))

end OrmLens.Model

namespace OrmLens.Index

open Model

namespace Graph

/-- The relations filed under a unit. -/
def filed (g : Graph) (u : Text) : List Relation := (g.relations.get? u).getD []

/-- The entities that the graph holds of a unit. -/
def entitiesOf (g : Graph) (u : Text) : List Entity := g.entities.values.filter (·.unit = u)

theorem mem_entitiesOf_iff (g : Graph) (u : Text) (e : Entity) :
    e ∈ g.entitiesOf u ↔ (∃ n, g.entity? n = some e) ∧ e.unit = u := by
  rw [entitiesOf, List.mem_filter, Table.mem_values_iff, decide_eq_true_eq]
  rfl

theorem Keyed.map_name_values {g : Graph} (h : g.Keyed) :
    g.entities.values.map (·.name) = g.entities.keys := by
  rw [Table.values, Table.keys, List.map_map]
  apply List.map_congr_left
  rintro ⟨n, e⟩ hm
  exact h n e ((g.entities.mem_entries_iff n e).mp hm)

namespace Represents

variable {g : Graph} {o : Ownership} (h : g.Represents o)
include h

/-- The entities held of a unit are, without what relations put on them, those of its latest schema
    whose names it still owns. -/
theorem perm_entitiesOf {u : Text} {schema : Schema} (hs : o.latest u = some schema) :
    ((g.entitiesOf u).map Entity.withoutReverse).Perm
      (schema.entities.filter fun e => o.owner e.name = some u) := by
  obtain ⟨hw, hpath⟩ := h.sound.latest u schema hs
  have hheld : ((g.entitiesOf u).map Entity.withoutReverse).Nodup := by
    apply List.Nodup.of_map (·.name)
    rw [List.map_map]
    have hkeys := g.entities.keys_nodup
    rw [← h.keyed.map_name_values] at hkeys
    exact hkeys.sublist (List.filter_sublist.map _)
  have hown : (schema.entities.filter fun e => o.owner e.name = some u).Nodup :=
    (List.Nodup.of_map _ hw.nodup).filter _
  rw [List.perm_ext_iff_of_nodup hheld hown]
  intro x
  rw [List.mem_map, List.mem_filter, decide_eq_true_eq]
  constructor
  · rintro ⟨e, he, rfl⟩
    obtain ⟨⟨n, hn⟩, rfl⟩ := (g.mem_entitiesOf_iff u e).mp he
    obtain ⟨rfl, howner, schema', hs', hx⟩ := h.exists_schema hn
    obtain rfl : schema' = schema := Option.some.inj (hs'.symm.trans hs)
    exact ⟨((hw.entity?_eq_some_iff _ _).mp hx).1, howner⟩
  · rintro ⟨hx, howner⟩
    have hentity : schema.entity? x.name = some x := (hw.entity?_eq_some_iff _ _).mpr ⟨hx, rfl⟩
    have hstripped : g.stripped? x.name = some x := by
      rw [h.stripped, Ownership.entity?, howner, Option.bind_some, hs, Option.bind_some, hentity]
    obtain ⟨e, he, rfl⟩ := Option.map_eq_some_iff.mp hstripped
    have hunit : e.unit = u := (hw.unit _ hx).trans hpath
    exact ⟨e, (g.mem_entitiesOf_iff u e).mpr ⟨⟨_, he⟩, hunit⟩, rfl⟩

theorem entitiesOf_eq_nil {u : Text} (hs : o.latest u = none) : g.entitiesOf u = [] := by
  rw [List.eq_nil_iff_forall_not_mem]
  intro e he
  obtain ⟨⟨n, hn⟩, rfl⟩ := (g.mem_entitiesOf_iff u e).mp he
  obtain ⟨-, -, schema, hschema, -⟩ := h.exists_schema hn
  rw [hs] at hschema
  cases hschema

theorem filed_eq_of_latest {u : Text} {schema : Schema} (hs : o.latest u = some schema) :
    g.filed u = (schema.entities.filter fun e => o.owner e.name = some u).flatMap relationsOf := by
  rw [filed, h.relations, Ownership.relations?, hs, Option.map_some, Option.getD_some,
    (h.sound.latest u schema hs).1.relations]
  exact filter_flatMap_relationsOf (fun n => o.owner n = some u) schema.entities

theorem filed_eq_nil {u : Text} (hs : o.latest u = none) : g.filed u = [] := by
  rw [filed, h.relations, Ownership.relations?, hs]
  rfl

/-- Under a unit are filed the relations of the entities held of it. -/
theorem perm_filed (u : Text) : (g.filed u).Perm ((g.entitiesOf u).flatMap relationsOf) := by
  cases hs : o.latest u with
  | none =>
    rw [h.filed_eq_nil hs, h.entitiesOf_eq_nil hs]
    exact List.Perm.nil
  | some schema =>
    have hstrip : (g.entitiesOf u).flatMap relationsOf =
        ((g.entitiesOf u).map Entity.withoutReverse).flatMap relationsOf := by
      rw [List.flatMap_map]
      congr 1
      funext e
      exact (relationsOf_withoutReverse e).symm
    rw [h.filed_eq_of_latest hs, hstrip]
    exact ((h.perm_entitiesOf hs).flatMap_right relationsOf).symm

theorem nodup_filed (u : Text) : (g.filed u).Nodup := by
  cases hs : o.latest u with
  | none =>
    rw [h.filed_eq_nil hs]
    exact List.nodup_nil
  | some schema =>
    rw [filed, h.relations, Ownership.relations?, hs]
    exact (h.sound.latest u schema hs).1.nodup_relations.filter _

/-- A filed relation is one of the entity that it starts from, which belongs to the unit. -/
theorem exists_source_of_filed {u : Text} {r : Relation} (hr : r ∈ g.filed u) :
    r.unit = u ∧ ∃ e, g.entity? r.source = some e ∧ e.unit = u ∧ r ∈ relationsOf e := by
  obtain ⟨e, he, hre⟩ := List.mem_flatMap.mp ((h.perm_filed u).mem_iff.mp hr)
  obtain ⟨⟨n, hn⟩, rfl⟩ := (g.mem_entitiesOf_iff u e).mp he
  refine ⟨unit_of_mem_relationsOf hre, e, ?_, rfl, hre⟩
  rw [source_of_mem_relationsOf hre, h.keyed n e hn]
  exact hn

end Represents

end Graph

/-! ## Every run -/

/-- **Filed relations are those of live entities.** After every run of calls, the relations filed
    under a unit are, up to order, the relations of the entities that the graph holds of the unit,
    none of them twice. Each names the unit, and starts from an entity that the graph holds of
    it. -/
theorem filed_relations_exact (settings : Settings) (calls : List Call) :
    let g := ((State.new settings).run calls).graph
    ∀ u, (g.filed u).Perm ((g.entitiesOf u).flatMap relationsOf) ∧ (g.filed u).Nodup ∧
      ∀ r ∈ g.filed u, r.unit = u ∧
        ∃ e, g.entity? r.source = some e ∧ e.unit = u ∧ r ∈ relationsOf e := by
  intro g u
  have h : g.Represents (Ownership.empty.run (State.new settings) calls) :=
    represents_run (represents_new settings) calls
  exact ⟨h.perm_filed u, h.nodup_filed u, fun r hr => h.exists_source_of_filed hr⟩

/-- One of two related models is taken over by another unit: the relation of the other is the one
    left on file, and it starts from an entity of its unit. -/
theorem filed_relations_exact_takeover :
    let models : Text :=
      "class A(Model):\n    b = ForeignKey('B')\nclass B(Model):\n    a = ForeignKey('A')\n"
    let calls := [.analyze "a.py" models, .edit (.commit "b.py" "class B(Model):\n" "b")]
    let g := ((State.new {}).run calls).graph
    ∃ r ∈ g.filed "a.py", g.filed "a.py" = [r] ∧ r.field = "b" ∧ r.unit = "a.py" ∧
      ∃ e, g.entity? r.source = some e ∧ e.unit = "a.py" ∧ r ∈ relationsOf e := by
  intro models calls g
  have hfield : (g.filed "a.py").map (·.field) = ["b"] := by decide +kernel
  obtain ⟨r, hr, hb⟩ := List.map_eq_singleton_iff.mp hfield
  have hmem : r ∈ g.filed "a.py" := by
    rw [hr]
    exact List.mem_singleton_self r
  exact ⟨r, hmem, hr, hb, ((filed_relations_exact {} calls) "a.py").2.2 r hmem⟩

end OrmLens.Index
