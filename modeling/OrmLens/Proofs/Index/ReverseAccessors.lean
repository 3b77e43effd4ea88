/-
  Reverse accessors of the index.

  The graph always has the reverse accessors of a fresh rebuild, and every relation that it files
  starts from an entity it holds (`exists_source`). So an entity has a reverse field under a name
  exactly when no field of its own has the name and some filed relation grants it, and the first
  such relation is the one that it records (`reverseFields_eq`, `reverseManagers_eq`).

  `reverse_accessors_exact` says this for every run of calls.
-/
import OrmLens.Proofs.Index.Ownership

namespace OrmLens.Index

open Model

/-! ## Relations that grant an accessor -/

/-- The relation ends at the entity stored as `n`, goes by the accessor `a`, and starts from a model
    that is not abstract. -/
def Graph.grants (g : Graph) (n a : Text) (r : Relation) : Bool :=
  r.target.name? = some n && r.accessor? = some a && (g.entity? r.source).any (!·.isAbstract)

namespace Graph.Represents

variable {g : Graph} {o : Ownership} (h : g.Represents o)
include h

/-- A filed relation starts from an entity of the graph, at a field of its own. -/
theorem exists_source {r : Relation} (hr : r ∈ g.allRelations) :
    ∃ source, g.entity? r.source = some source ∧
      ∃ f ∈ source.fields, f.isReverse = false ∧ f.isRelational = true ∧ f.name = r.field ∧
        f.relatedEntity = r.target.name? := by
  obtain ⟨l, hl, hrl⟩ := List.mem_flatten.mp hr
  obtain ⟨u, hu⟩ := (Table.mem_values_iff _ _).mp hl
  rw [h.relations, Ownership.relations?, Option.map_eq_some_iff] at hu
  obtain ⟨schema, hs, rfl⟩ := hu
  obtain ⟨hrs, howner⟩ := List.mem_filter.mp hrl
  rw [decide_eq_true_eq] at howner
  obtain ⟨x, hx, hrx⟩ := (h.sound.latest u schema hs).1.exists_source hrs
  have hstripped : g.stripped? r.source = some x := by
    rw [h.stripped, Ownership.entity?, howner, Option.bind_some, hs, Option.bind_some, hx]
  obtain ⟨source, hsource, rfl⟩ := Option.map_eq_some_iff.mp hstripped
  obtain ⟨f, hf, hrev, hfr⟩ := mem_relationsOf hrx
  obtain ⟨-, hfield, htarget, hrel⟩ := relationOf?_eq_some hfr
  exact ⟨source, hsource, f, (List.mem_filter.mp hf).1, hrev, hrel, hfield.symm, htarget.symm⟩

/-- The sources are there, so that a relation is not skipped means that its source is concrete. -/
theorem grants_iff {r : Relation} (hr : r ∈ g.allRelations) (n a : Text) :
    g.grants n a r = true ↔ r.grant? (abstractIn g.entities) n = some (a, r) := by
  obtain ⟨source, hsource, -⟩ := h.exists_source hr
  have habstract : abstractIn g.entities r.source = source.isAbstract := by
    show (g.entity? r.source).any _ = _
    rw [hsource]
    rfl
  rw [Relation.grant?_eq_some_iff, habstract, Graph.grants, hsource]
  simp only [Bool.and_eq_true, decide_eq_true_eq, Option.any_some, Bool.not_eq_true', and_true]
  constructor
  · intro h'
    obtain ⟨⟨ht, ha⟩, hs⟩ := h'
    exact ⟨ht, hs, ha⟩
  · intro h'
    obtain ⟨ht, hs, ha⟩ := h'
    exact ⟨⟨ht, ha⟩, hs⟩

/-- An entity of the graph is what it has of its own with the granted accessors put on it. -/
theorem eq_withAccessors {n : Text} {e : Entity} (he : g.entity? n = some e) :
    e = e.withoutReverse.withAccessors (grantsOn g.entities g.allRelations n) := by
  have hr := h.rebuilt n
  rw [he] at hr
  have hget := get?_rebuildAccessors g.entities g.allRelations n
  rw [show g.entities.get? n = some e from he] at hget
  exact Option.some.inj (hr.symm.trans hget)

theorem reverseFields_eq {n : Text} {e : Entity} (he : g.entity? n = some e) (a : Text) :
    e.reverseFields a =
      if Named.taken e.withoutReverse.fields a then []
      else ((g.allRelations.find? (g.grants n a)).map fun r =>
        Field.ofReverse a r.source r.field).toList := by
  have hfirst := find?_grantsOn (a := a) fun r hr => h.grants_iff hr n a
  conv => lhs; rw [h.eq_withAccessors he]
  rw [Entity.reverseFields_withAccessors, Entity.reverseFields_withoutReverse, hfirst,
    Option.map_map]
  rfl

theorem reverseManagers_eq {n : Text} {e : Entity} (he : g.entity? n = some e) (a : Text) :
    e.reverseManagers a =
      if Named.taken e.withoutReverse.fields a || Named.taken e.withoutReverse.managers a then []
      else ((g.allRelations.find? (g.grants n a)).map fun _ =>
        (⟨a, .reverse, none, []⟩ : Manager)).toList := by
  have hfirst := find?_grantsOn (a := a) fun r hr => h.grants_iff hr n a
  conv => lhs; rw [h.eq_withAccessors he]
  rw [Entity.reverseManagers_withAccessors, Entity.reverseManagers_withoutReverse, hfirst,
    Option.map_map]
  rfl

theorem mem_reverseFields_iff {n : Text} {e : Entity} (he : g.entity? n = some e) (a : Text)
    (f : Field) :
    f ∈ e.reverseFields a ↔ ¬ e.HasOwnField a ∧ ∃ r,
      g.allRelations.find? (g.grants n a) = some r ∧ f = Field.ofReverse a r.source r.field := by
  rw [h.reverseFields_eq he, ← e.taken_fields_withoutReverse]
  split
  · rename_i hown
    simp [hown]
  · rename_i hown
    rw [Option.mem_toList, Option.map_eq_some_iff]
    simp [hown, eq_comm]

theorem reverseFields_eq_singleton {n : Text} {e : Entity} (he : g.entity? n = some e) {a : Text}
    {f : Field} (hf : f ∈ e.reverseFields a) : e.reverseFields a = [f] := by
  obtain ⟨hown, r, hr, rfl⟩ := (h.mem_reverseFields_iff he a f).mp hf
  rw [← e.taken_fields_withoutReverse] at hown
  rw [h.reverseFields_eq he, if_neg hown, hr]
  rfl

theorem length_reverseManagers_le {n : Text} {e : Entity} (he : g.entity? n = some e)
    (a : Text) : (e.reverseManagers a).length ≤ 1 := by
  rw [h.reverseManagers_eq he]
  split
  · simp
  · cases g.allRelations.find? (g.grants n a) <;> simp

theorem reverseFields_ne_nil_iff {n : Text} {e : Entity} (he : g.entity? n = some e)
    (a : Text) :
    e.reverseFields a ≠ [] ↔
      ¬ e.HasOwnField a ∧ ∃ r ∈ g.allRelations, g.grants n a r = true := by
  rw [← List.find?_isSome, Option.isSome_iff_exists]
  constructor
  · intro hne
    obtain ⟨f, hf⟩ := List.exists_mem_of_ne_nil _ hne
    obtain ⟨hown, r, hr, -⟩ := (h.mem_reverseFields_iff he a f).mp hf
    exact ⟨hown, r, hr⟩
  · intro h'
    obtain ⟨hown, r, hr⟩ := h'
    exact List.ne_nil_of_mem ((h.mem_reverseFields_iff he a _).mpr ⟨hown, r, hr, rfl⟩)

theorem reverseManagers_ne_nil_iff {n : Text} {e : Entity} (he : g.entity? n = some e)
    (a : Text) :
    e.reverseManagers a ≠ [] ↔ e.reverseFields a ≠ [] ∧ ¬ e.HasOwnManager a := by
  rw [h.reverseManagers_eq he, h.reverseFields_eq he, ← e.taken_managers_withoutReverse]
  cases Named.taken e.withoutReverse.fields a <;> cases Named.taken e.withoutReverse.managers a <;>
    simp

end Graph.Represents

/-! ## Every run -/

/-- **Reverse accessors are exact.** After every run of calls, an entity has a reverse field under a
    name iff it has no field of its own there and a filed relation grants the accessor. Then it has
    exactly one, made by the first such relation: it records the source, which is in the graph, and
    the relational field there that points back. A reverse manager goes with it unless the entity
    has a manager of its own under the name. -/
theorem reverse_accessors_exact (settings : Settings) (calls : List Call) :
    let g := ((State.new settings).run calls).graph
    ∀ e ∈ g.entities.values, ∀ a,
      (e.reverseFields a ≠ [] ↔
        ¬ e.HasOwnField a ∧ ∃ r ∈ g.allRelations, g.grants e.name a r = true) ∧
      (∀ f ∈ e.reverseFields a, e.reverseFields a = [f] ∧
        ∃ r source, g.allRelations.find? (g.grants e.name a) = some r ∧
          f.relatedEntity = some r.source ∧ f.origin = .reverse r.field ∧
          g.entity? r.source = some source ∧
          ∃ own ∈ source.fields, own.isReverse = false ∧ own.isRelational = true ∧
            own.name = r.field ∧ own.relatedEntity = some e.name) ∧
      (e.reverseManagers a ≠ [] ↔ e.reverseFields a ≠ [] ∧ ¬ e.HasOwnManager a) ∧
      (e.reverseManagers a).length ≤ 1 := by
  intro g e hmem a
  have h : g.Represents (Ownership.empty.run (State.new settings) calls) :=
    represents_run (represents_new settings) calls
  obtain ⟨n, he⟩ := (Table.mem_values_iff _ _).mp hmem
  obtain rfl := h.keyed n e he
  refine ⟨h.reverseFields_ne_nil_iff he a, fun f hf => ⟨h.reverseFields_eq_singleton he hf, ?_⟩,
    h.reverseManagers_ne_nil_iff he a, h.length_reverseManagers_le he a⟩
  obtain ⟨-, r, hr, rfl⟩ := (h.mem_reverseFields_iff he a f).mp hf
  obtain ⟨source, hsource, own, hown, hrev, hrel, hname, htarget⟩ :=
    h.exists_source (List.mem_of_find?_eq_some hr)
  have hgrants := List.find?_some hr
  simp only [Graph.grants, Bool.and_eq_true, decide_eq_true_eq] at hgrants
  exact ⟨r, source, hr, rfl, rfl, hsource, own, hown, hrev, hrel, hname,
    htarget.trans hgrants.1.1⟩

/-- Two relations of one model go by the same accessor: the first of them makes the field. -/
theorem reverse_accessors_exact_clash :
    let book : Text := "class Book(Model):\n    by = ForeignKey('A')\n    to = ForeignKey('A')\n"
    let calls := [.analyze "b.py" book,
      .edit (.commit "a.py" "class A(Model):\n    name = CharField()\n" "a")]
    let g := ((State.new {}).run calls).graph
    ∃ e ∈ g.entities.values, ∃ f ∈ e.reverseFields "book_set",
      e.reverseFields "book_set" = [f] ∧ f.origin = .reverse "by" ∧
        ∃ n source, f.relatedEntity = some n ∧ g.entity? n = some source := by
  intro book calls g
  have hby : (g.entity? "A").any fun e =>
      (e.reverseFields "book_set").any (·.origin = .reverse "by") := by decide +kernel
  obtain ⟨e, he, hfield⟩ := (Option.any_eq_true ..).mp hby
  obtain ⟨f, hf, horigin⟩ := List.any_eq_true.mp hfield
  have hmem : e ∈ g.entities.values := (Table.mem_values_iff _ _).mpr ⟨"A", he⟩
  obtain ⟨hone, r, source, -, hrelated, -, hsource, -⟩ :=
    (reverse_accessors_exact {} calls e hmem "book_set").2.1 f hf
  exact ⟨e, hmem, f, hf, hone, of_decide_eq_true horigin, r.source, source, hrelated, hsource⟩

end OrmLens.Index
