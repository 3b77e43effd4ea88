/-
  The index against a model of ownership.

  The model has two maps: the schema that each unit was last committed with, and the unit that owns
  each name. A commit takes all names of its schema, and the unit gives up what it owned before; a
  removal only gives up. No place, no accessor, no cache.

  `represents_run`: along every run of calls the graph holds exactly the entities that the model
  says, without counting what relations put on them, files exactly the relations of the entities
  that their units still own, and has the reverse accessors of a fresh rebuild.
  `entities_refine_ownership` spells the first part out.

  Nothing here is about which units are reported, or when the cache answers.
-/
import OrmLens.Proofs.Index.Commit

namespace OrmLens.Index

open Model

/-! ## Calls on the index -/

/-- A change of the graph. A commit may be cached under any content. -/
inductive Edit where
  | commit (path text content : Text)
  | remove (path : Text)
deriving DecidableEq, Repr

namespace Edit

/-- The state after an edit, and the units that it reports. -/
def perform (s : State) : Edit → State × List Text
  | .commit path text content => s.commit (Schema.extract path text) content
  | .remove path => s.remove path

/-- The state after an edit. -/
def apply (s : State) (e : Edit) : State := (e.perform s).1

/-- The state that an edit reaches before it settles the records of losses. -/
def write (s : State) : Edit → State
  | .commit path text content => s.install (Schema.extract path text) content
  | .remove path => s.withdraw path

theorem perform_eq (s : State) (e : Edit) :
    e.perform s = ((e.write s).settleShadows, (e.write s).orphans) := by
  cases e with
  | commit path text content => exact State.commit_eq s _ content
  | remove path => exact State.remove_eq s path

theorem graph_apply (s : State) (e : Edit) : (e.apply s).graph = (e.write s).graph := by
  rw [apply, perform_eq]
  rfl

theorem shadowed_apply (s : State) (e : Edit) (n : Text) :
    (e.apply s).shadowed.get? n =
      ((e.write s).shadowed.get? n).filter fun u => ((e.write s).graph.holder? n).any (· ≠ u) := by
  rw [apply, perform_eq]
  exact State.shadowed_settleShadows (e.write s) n

end Edit

/-- A call on the index, or the passing of time. -/
inductive Call where
  | edit (e : Edit)
  | analyze (path text : Text)
  | configure (settings : Settings)
  | wait (milliseconds : Nat)
deriving DecidableEq, Repr

namespace Call

/-- The state after a call. -/
def apply (s : State) : Call → State
  | .edit e => e.apply s
  | .analyze path text => s.analyze path text
  | .configure settings => s.configure settings
  | .wait milliseconds => s.wait milliseconds

/-- The edit that a call comes down to. An analysis that the cache answers is none. -/
def edit? (s : State) : Call → Option Edit
  | .edit e => some e
  | .analyze path text =>
    if s.isFresh path text then none else some (.commit path text text)
  | .configure _ => none
  | .wait _ => none

theorem apply_of_edit? {s : State} {c : Call} {e : Edit} (h : c.edit? s = some e) :
    c.apply s = e.apply s := by
  cases c with
  | edit e' => rw [Option.some.inj h]; rfl
  | analyze path text =>
    rw [edit?] at h
    split at h
    · cases h
    · rename_i hf
      rw [← Option.some.inj h, apply, State.analyze, if_neg hf]
      rfl
  | configure settings => cases h
  | wait milliseconds => cases h

/-- A call that is no edit leaves graph and records of losses alone. -/
theorem apply_of_edit?_eq_none {s : State} {c : Call} (h : c.edit? s = none) :
    (c.apply s).graph = s.graph ∧ (c.apply s).shadowed = s.shadowed := by
  cases c with
  | edit e => cases h
  | analyze path text =>
    rw [edit?] at h
    split at h
    · rename_i hf
      rw [apply, State.analyze, if_pos hf]
      exact ⟨rfl, rfl⟩
    · cases h
  | configure settings => exact ⟨rfl, rfl⟩
  | wait milliseconds => exact ⟨rfl, rfl⟩

end Call

/-- The state after a run of calls. -/
def State.run (s : State) (calls : List Call) : State := calls.foldl Call.apply s

/-! ## Ownership -/

/-- The schemas in force and the owners of the names. -/
@[ext] structure Ownership where
  /-- The schema that a unit was last committed with, unless it was removed since. -/
  latest : Text → Option Schema
  /-- The unit that owns a name. -/
  owner : Text → Option Text

namespace Ownership

/-- Nothing is committed and nothing is owned. -/
def empty : Ownership := ⟨fun _ => none, fun _ => none⟩

/-- The unit gives up its names and takes those of the schema. -/
def commit (o : Ownership) (schema : Schema) : Ownership where
  latest u := if u = schema.path then some schema else o.latest u
  owner n := if n ∈ schema.names then some schema.path else (o.owner n).filter (· ≠ schema.path)

/-- The unit gives up its names. -/
def remove (o : Ownership) (path : Text) : Ownership where
  latest u := if u = path then none else o.latest u
  owner n := (o.owner n).filter (· ≠ path)

/-- Ownership after an edit. -/
def apply (o : Ownership) : Edit → Ownership
  | .commit path text _ => o.commit (Schema.extract path text)
  | .remove path => o.remove path

/-- Ownership after a call in the state `s`. -/
def step (o : Ownership) (s : State) (c : Call) : Ownership :=
  match c.edit? s with
  | some e => o.apply e
  | none => o

/-- Ownership after a run of calls from the state `s`. -/
def run (o : Ownership) (s : State) : List Call → Ownership
  | [] => o
  | c :: calls => (o.step s c).run (c.apply s) calls

/-- The definition that counts for a name. -/
def entity? (o : Ownership) (n : Text) : Option Entity :=
  (o.owner n).bind fun u => (o.latest u).bind (·.entity? n)

/-- The relations of a unit whose sources it still owns. -/
def relations? (o : Ownership) (u : Text) : Option (List Relation) :=
  (o.latest u).map fun schema => schema.relations.filter fun r => o.owner r.source = some u

/-- Schemas are well formed and filed under their units, and an owner defines what it owns. -/
structure Sound (o : Ownership) : Prop where
  latest : ∀ u schema, o.latest u = some schema → schema.WellFormed ∧ schema.path = u
  owner : ∀ n u, o.owner n = some u → ∃ schema, o.latest u = some schema ∧ n ∈ schema.names

/-- Giving up what one does not own. -/
theorem filter_ne_of_ne_some {o : Option Text} {u : Text} (h : o ≠ some u) :
    o.filter (· ≠ u) = o := by
  cases o with
  | none => rfl
  | some v =>
    have hv : v ≠ u := fun hv => h (congrArg some hv)
    rw [Option.filter_some, if_pos (decide_eq_true hv)]

theorem sound_empty : empty.Sound := ⟨by simp [empty], by simp [empty]⟩

theorem owner_commit_of_ne {o : Ownership} {schema : Schema} {u : Text} (hu : u ≠ schema.path)
    (n : Text) :
    (o.commit schema).owner n = some u ↔ n ∉ schema.names ∧ o.owner n = some u := by
  unfold commit
  dsimp only
  split
  · rename_i hn
    simp [hn, Ne.symm hu]
  · rename_i hn
    simp [hn, hu]

theorem owner_commit_self (o : Ownership) (schema : Schema) (n : Text) :
    (o.commit schema).owner n = some schema.path ↔ n ∈ schema.names := by
  unfold commit
  dsimp only
  split
  · rename_i hn
    simp [hn]
  · rename_i hn
    simp [hn]

theorem owner_remove_iff (o : Ownership) (path n u : Text) :
    (o.remove path).owner n = some u ↔ o.owner n = some u ∧ u ≠ path := by
  unfold remove
  simp

namespace Sound

variable {o : Ownership} (h : o.Sound)
include h

theorem commit {schema : Schema} (hw : schema.WellFormed) : (o.commit schema).Sound := by
  constructor
  · intro u x hx
    unfold Ownership.commit at hx
    dsimp only at hx
    split at hx
    · rename_i hu
      cases hx
      exact ⟨hw, hu.symm⟩
    · exact h.latest u x hx
  · intro n u hu
    by_cases hp : u = schema.path
    · subst hp
      exact ⟨schema, if_pos rfl, (owner_commit_self o schema n).mp hu⟩
    · obtain ⟨x, hx, hn⟩ := h.owner n u ((owner_commit_of_ne hp n).mp hu).2
      exact ⟨x, (if_neg hp).trans hx, hn⟩

theorem remove (path : Text) : (o.remove path).Sound := by
  constructor
  · intro u x hx
    unfold Ownership.remove at hx
    dsimp only at hx
    split at hx
    · cases hx
    · exact h.latest u x hx
  · intro n u hu
    obtain ⟨ho, hp⟩ := (owner_remove_iff o path n u).mp hu
    obtain ⟨x, hx, hn⟩ := h.owner n u ho
    exact ⟨x, (if_neg hp).trans hx, hn⟩

/-- An owned name has a definition, which names its owner and itself. -/
theorem exists_entity {n u : Text} (hu : o.owner n = some u) :
    ∃ schema e, o.latest u = some schema ∧ schema.entity? n = some e ∧ o.entity? n = some e ∧
      e.name = n ∧ e.unit = u := by
  obtain ⟨schema, hs, hn⟩ := h.owner n u hu
  obtain ⟨e, he⟩ := Option.isSome_iff_exists.mp ((schema.entity?_isSome_iff n).mpr hn)
  obtain ⟨hw, hp⟩ := h.latest u schema hs
  obtain ⟨hm, hname⟩ := (hw.entity?_eq_some_iff n e).mp he
  refine ⟨schema, e, hs, he, ?_, hname, (hw.unit e hm).trans hp⟩
  rw [entity?, hu, Option.bind_some, hs, Option.bind_some, he]

theorem map_unit_entity? (n : Text) : (o.entity? n).map (·.unit) = o.owner n := by
  cases hu : o.owner n with
  | none => rw [entity?, hu]; rfl
  | some u =>
    obtain ⟨_, e, _, _, he, _, heu⟩ := h.exists_entity hu
    rw [he, Option.map_some, heu]

/-- Giving up the names of a unit leaves the definitions of the others, also if its schema changes
    at the same time. -/
theorem entity?_filter_unit {path : Text} {latest : Text → Option Schema}
    (hl : ∀ u, u ≠ path → latest u = o.latest u) (n : Text) :
    (o.entity? n).filter (·.unit ≠ path) =
      ((o.owner n).filter (· ≠ path)).bind fun u => (latest u).bind (·.entity? n) := by
  cases hu : o.owner n with
  | none => rw [entity?, hu]; rfl
  | some u =>
    obtain ⟨_, e, hs, he, heo, _, heu⟩ := h.exists_entity hu
    rw [heo, Option.filter_some, Option.filter_some, heu]
    split
    · rename_i hp
      rw [Option.bind_some, hl u (of_decide_eq_true hp), hs, Option.bind_some, he]
    · rfl

end Sound

end Ownership

/-! ## The graph represents the model -/

/-- The graph holds what the model says. -/
structure Graph.Represents (g : Graph) (o : Ownership) : Prop where
  sound : o.Sound
  stripped : ∀ n, g.stripped? n = o.entity? n
  relations : ∀ u, g.relations.get? u = o.relations? u
  rebuilt : g.Rebuilt

namespace Graph.Represents

variable {g : Graph} {o : Ownership} (h : g.Represents o)
include h

theorem holder?_eq (n : Text) : g.holder? n = o.owner n := by
  rw [Graph.holder?_eq_map_stripped?, h.stripped, h.sound.map_unit_entity?]

/-- An entity of the graph is, without what relations put on it, the definition of its owner. -/
theorem exists_schema {n : Text} {e : Entity} (he : g.entity? n = some e) :
    e.name = n ∧ o.owner n = some e.unit ∧
      ∃ schema, o.latest e.unit = some schema ∧ schema.entity? n = some e.withoutReverse := by
  have hu : o.owner n = some e.unit := by
    rw [← h.holder?_eq, Graph.holder?, he]
    rfl
  obtain ⟨schema, x, hs, hx, hxo, hname, _⟩ := h.sound.exists_entity hu
  have hstrip : some e.withoutReverse = some x := by
    rw [← hxo, ← h.stripped, Graph.stripped?, he]
    rfl
  obtain rfl := Option.some.inj hstrip
  exact ⟨hname, hu, schema, hs, hx⟩

theorem keyed : g.Keyed := fun _ _ he => (h.exists_schema he).1

end Graph.Represents

theorem represents_new (settings : Settings) :
    (State.new settings).graph.Represents Ownership.empty where
  sound := Ownership.sound_empty
  stripped _ := rfl
  relations _ := rfl
  rebuilt _ := rfl

/-! ## What one call preserves -/

theorem represents_install {s : State} {o : Ownership} (h : s.graph.Represents o)
    {schema : Schema} (hw : schema.WellFormed) (content : Text) :
    (s.install schema content).graph.Represents (o.commit schema) where
  sound := h.sound.commit hw
  stripped n := by
    have hl : ∀ u, u ≠ schema.path → (o.commit schema).latest u = o.latest u :=
      fun u hu => if_neg hu
    rw [State.stripped?_install h.keyed hw, h.stripped, h.sound.entity?_filter_unit hl,
      Ownership.entity?]
    by_cases hn : n ∈ schema.names
    · have howner := (Ownership.owner_commit_self o schema n).mpr hn
      have hlatest : (o.commit schema).latest schema.path = some schema := if_pos rfl
      obtain ⟨e, he⟩ := Option.isSome_iff_exists.mp ((schema.entity?_isSome_iff n).mpr hn)
      rw [howner, Option.bind_some, hlatest, Option.bind_some, he]
      rfl
    · have howner : (o.commit schema).owner n = (o.owner n).filter (· ≠ schema.path) :=
        if_neg hn
      rw [(schema.entity?_eq_none_iff n).mpr hn, Option.none_or, howner]
  relations u := by
    rw [State.relations_install h.keyed hw]
    split
    · rename_i hu
      subst hu
      have hlatest : (o.commit schema).latest schema.path = some schema := if_pos rfl
      rw [Ownership.relations?, hlatest, Option.map_some, Option.some.injEq, eq_comm,
        List.filter_eq_self]
      intro r hr
      rw [decide_eq_true_eq, Ownership.owner_commit_self]
      exact hw.source_mem_names hr
    · rename_i hu
      have hlatest : (o.commit schema).latest u = o.latest u := if_neg hu
      rw [h.relations, Ownership.relations?, Ownership.relations?, hlatest, Option.map_map]
      congr 1
      funext x
      rw [Function.comp, List.filter_filter]
      congr 1
      funext r
      rw [h.holder?_eq, Bool.eq_iff_iff]
      simp only [Bool.and_eq_true, Bool.not_eq_true', decide_eq_false_iff_not, decide_eq_true_eq,
        Ownership.owner_commit_of_ne hu]
      constructor
      · intro h'
        obtain ⟨hlost, ho⟩ := h'
        exact ⟨fun hn => hlost ⟨hn, ho⟩, ho⟩
      · intro h'
        obtain ⟨hn, ho⟩ := h'
        exact ⟨fun hlost => hn hlost.1, ho⟩
  rebuilt := State.rebuilt_install s schema content

theorem represents_withdraw {s : State} {o : Ownership} (h : s.graph.Represents o)
    (path : Text) : (s.withdraw path).graph.Represents (o.remove path) where
  sound := h.sound.remove path
  stripped n := by
    have hl : ∀ u, u ≠ path → (o.remove path).latest u = o.latest u := fun u hu => if_neg hu
    rw [State.stripped?_withdraw, h.stripped, h.sound.entity?_filter_unit hl]
    rfl
  relations u := by
    rw [State.relations_withdraw]
    split
    · rename_i hu
      have hlatest : (o.remove path).latest u = none := if_pos hu
      rw [Ownership.relations?, hlatest]
      rfl
    · rename_i hu
      have hlatest : (o.remove path).latest u = o.latest u := if_neg hu
      rw [h.relations, Ownership.relations?, Ownership.relations?, hlatest]
      congr 1
      funext x
      congr 1
      funext r
      rw [Bool.eq_iff_iff, decide_eq_true_eq, decide_eq_true_eq, Ownership.owner_remove_iff]
      exact ⟨fun ho => ⟨ho, hu⟩, And.left⟩
  rebuilt := State.rebuilt_withdraw s path

theorem represents_write {s : State} {o : Ownership} (h : s.graph.Represents o) (e : Edit) :
    (e.write s).graph.Represents (o.apply e) := by
  cases e with
  | commit path text content =>
    exact represents_install h (Schema.wellFormed_extract path text) content
  | remove path => exact represents_withdraw h path

theorem represents_apply {s : State} {o : Ownership} (h : s.graph.Represents o) (e : Edit) :
    (e.apply s).graph.Represents (o.apply e) := by
  rw [Edit.graph_apply]
  exact represents_write h e

theorem represents_step {s : State} {o : Ownership} (h : s.graph.Represents o) (c : Call) :
    (c.apply s).graph.Represents (o.step s c) := by
  unfold Ownership.step
  cases he : c.edit? s with
  | none =>
    rw [(Call.apply_of_edit?_eq_none he).1]
    exact h
  | some e =>
    rw [Call.apply_of_edit? he]
    exact represents_apply h e

/-! ## What a run preserves -/

theorem represents_run {s : State} {o : Ownership} (h : s.graph.Represents o)
    (calls : List Call) : (s.run calls).graph.Represents (o.run s calls) := by
  induction calls generalizing s o with
  | nil => exact h
  | cons c calls ih => exact ih (represents_step h c)

/-- **The graph refines ownership.** After every run of calls from an empty index, the graph has
    entities for exactly the owned names. The one under a name bears the name, belongs to the owner,
    and is the owner's latest definition, member for member, once what relations put on it is taken
    off. -/
theorem entities_refine_ownership (settings : Settings) (calls : List Call) :
    let s := (State.new settings).run calls
    let o := Ownership.empty.run (State.new settings) calls
    (∀ n, n ∈ s.graph.entities.keys ↔ (o.owner n).isSome) ∧
      ∀ n e, s.graph.entity? n = some e →
        e.name = n ∧ o.owner n = some e.unit ∧
          ∃ schema, o.latest e.unit = some schema ∧
            schema.entity? n = some e.withoutReverse := by
  intro s o
  have h : s.graph.Represents o := represents_run (represents_new settings) calls
  refine ⟨fun n => ?_, fun n e he => h.exists_schema he⟩
  rw [Table.mem_keys_iff, ← h.holder?_eq, Graph.holder?, Option.isSome_map]
  rfl

/-- Two units define a name and the first of them goes: the entity left is the second's. -/
theorem entities_refine_ownership_takeover :
    let calls := [.edit (.commit "a.py" "class N(Model):\n" "a"),
      .analyze "b.py" "class N(Model):\n    id = CharField()\n", .edit (.remove "a.py")]
    let s := (State.new {}).run calls
    let o := Ownership.empty.run (State.new {}) calls
    ∃ e, s.graph.entity? "N" = some e ∧ e.unit = "b.py" ∧ o.owner "N" = some e.unit ∧
      ∃ schema, o.latest e.unit = some schema ∧ schema.entity? "N" = some e.withoutReverse := by
  intro calls s o
  have hunit : (s.graph.entity? "N").map (·.unit) = some "b.py" := by decide
  obtain ⟨e, he, hb⟩ := Option.map_eq_some_iff.mp hunit
  exact ⟨e, he, hb, ((entities_refine_ownership {} calls).2 "N" e he).2⟩

end OrmLens.Index
