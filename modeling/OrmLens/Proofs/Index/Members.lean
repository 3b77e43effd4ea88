/-
  The members of the entities in the graph.

  Whatever was committed, analyzed and removed, an entity of the graph is an entity extracted from
  the text that its unit was last committed with (`exists_text`), with accessors put on it by
  relations. Extraction never gives one name to two members of a kind and always gives a default
  manager; an accessor is only put where its name is free. `members_unambiguous` puts the two
  together.

  A field and a method, or a field and a manager, may well share a name.
-/
import OrmLens.Proofs.Index.ReverseAccessors

namespace OrmLens.Index

open Framework Model

/-! ## The texts in force -/

/-- The text that each unit was last committed with, unless it was removed since. -/
def Texts := Text → Option Text

namespace Texts

/-- Nothing is committed. -/
def empty : Texts := fun _ => none

/-- The texts after an edit. -/
def apply (texts : Texts) : Edit → Texts
  | .commit path text _ => fun u => if u = path then some text else texts u
  | .remove path => fun u => if u = path then none else texts u

/-- The texts after a call in the state `s`. -/
def step (texts : Texts) (s : State) (c : Call) : Texts :=
  match c.edit? s with
  | some e => texts.apply e
  | none => texts

/-- The texts after a run of calls from the state `s`. -/
def run (texts : Texts) (s : State) : List Call → Texts
  | [] => texts
  | c :: calls => (texts.step s c).run (c.apply s) calls

end Texts

/-- The schemas in force are those of the texts. -/
def Ownership.Extracts (o : Ownership) (texts : Texts) : Prop :=
  ∀ u, o.latest u = (texts u).map (Schema.extract u)

namespace Ownership.Extracts

variable {o : Ownership} {texts : Texts} (h : o.Extracts texts)
include h

theorem apply (e : Edit) : (o.apply e).Extracts (texts.apply e) := by
  intro u
  cases e with
  | commit path text content =>
    show (if u = path then some (Schema.extract path text) else o.latest u) =
      (if u = path then some text else texts u).map (Schema.extract u)
    by_cases hu : u = path
    · rw [if_pos hu, if_pos hu, hu]
      rfl
    · rw [if_neg hu, if_neg hu]
      exact h u
  | remove path =>
    show (if u = path then none else o.latest u) =
      (if u = path then none else texts u).map (Schema.extract u)
    by_cases hu : u = path
    · rw [if_pos hu, if_pos hu]
      rfl
    · rw [if_neg hu, if_neg hu]
      exact h u

theorem step (s : State) (c : Call) : (o.step s c).Extracts (texts.step s c) := by
  unfold Ownership.step Texts.step
  cases c.edit? s with
  | none => exact h
  | some e => exact h.apply e

theorem run (s : State) (calls : List Call) : (o.run s calls).Extracts (texts.run s calls) := by
  induction calls generalizing o texts s with
  | nil => exact h
  | cons c calls ih => exact ih (h.step s c) (c.apply s)

/-- An entity of the graph is, without what relations put on it, declared in the text that its unit
    was last committed with. -/
theorem exists_text {g : Graph} (hg : g.Represents o) {n : Text} {e : Entity}
    (he : g.entity? n = some e) :
    ∃ text, texts e.unit = some text ∧
      e.withoutReverse ∈ (Schema.extract e.unit text).entities := by
  obtain ⟨-, -, schema, hschema, hentity⟩ := hg.exists_schema he
  rw [h e.unit, Option.map_eq_some_iff] at hschema
  obtain ⟨text, htext, rfl⟩ := hschema
  exact ⟨text, htext, List.mem_of_find?_eq_some hentity⟩

end Ownership.Extracts

theorem extracts_run (settings : Settings) (calls : List Call) :
    (Ownership.empty.run (State.new settings) calls).Extracts
      (Texts.empty.run (State.new settings) calls) :=
  Ownership.Extracts.run (fun _ => rfl) (State.new settings) calls

/-! ## Accessors keep names distinct -/

theorem distinct_withAccessor {e : Entity} (h : e.members.Distinct) (a : Text) (r : Relation) :
    (e.withAccessor a r).members.Distinct := by
  unfold Entity.withAccessor
  split
  · exact h
  · rename_i hfree
    -- Where the name is free, the field is merged like the manager.
    have hmerge : Named.merge e.fields (Field.ofReverse a r.source r.field) =
        e.fields ++ [Field.ofReverse a r.source r.field] := if_neg hfree
    have hfields := Named.nodup_merge h.fields (Field.ofReverse a r.source r.field)
    rw [show e.members.fields = e.fields from rfl, hmerge] at hfields
    exact ⟨hfields, h.methods, h.properties, Named.nodup_merge h.managers _⟩

theorem taken_managers_of_withAccessor {e : Entity} {m : Text}
    (h : Named.taken e.managers m = true) (a : Text) (r : Relation) :
    Named.taken (e.withAccessor a r).managers m = true := by
  cases hfree : Named.taken e.fields a with
  | true => rw [Entity.withAccessor_of_taken hfree, h]
  | false => rw [Entity.taken_managers_withAccessor hfree, h, Bool.true_or]

/-- Every accessor of a list keeps the names distinct and the managers in place. -/
theorem distinct_withAccessors {e : Entity} {m : Text} (h : e.members.Distinct)
    (hm : Named.taken e.managers m = true) (grants : List (Text × Relation)) :
    (e.withAccessors grants).members.Distinct ∧
      Named.taken (e.withAccessors grants).managers m = true := by
  induction grants generalizing e with
  | nil => exact ⟨h, hm⟩
  | cons g grants ih =>
    exact ih (distinct_withAccessor h g.1 g.2) (taken_managers_of_withAccessor hm g.1 g.2)

/-! ## Every run -/

/-- An entity of the graph is an extracted one with accessors. -/
theorem distinct_members {g : Graph} {o : Ownership} {texts : Texts} (hg : g.Represents o)
    (h : o.Extracts texts) {n : Text} {e : Entity} (he : g.entity? n = some e) :
    e.members.Distinct ∧ Named.taken e.managers defaultManager = true := by
  obtain ⟨text, -, hmem⟩ := h.exists_text hg he
  obtain ⟨d, -, hd⟩ := Schema.mem_entities_ofUnit hmem
  have hdistinct := distinct_entityOf ⟨e.unit, text, _, rfl⟩ d
  have hmanager := taken_managers_withDefaults (inheritedMembers ⟨e.unit, text, _, rfl⟩ d)
  rw [hg.eq_withAccessors he, hd]
  exact distinct_withAccessors hdistinct hmanager _

/-- **Members are unambiguous.** After every run of calls, whatever the texts, no two fields, no two
    methods, no two properties and no two managers of an entity have one name, and one of its
    managers is called `objects`. -/
theorem members_unambiguous (settings : Settings) (calls : List Call) :
    ∀ e ∈ ((State.new settings).run calls).graph.entities.values,
      e.members.Distinct ∧ ∃ m ∈ e.managers, m.name = "objects" := by
  intro e hmem
  obtain ⟨n, he⟩ := (Table.mem_values_iff _ _).mp hmem
  obtain ⟨hdistinct, hmanager⟩ :=
    distinct_members (represents_run (represents_new settings) calls)
      (extracts_run settings calls) he
  obtain ⟨m, hm, hname⟩ := List.any_eq_true.mp hmanager
  exact ⟨hdistinct, m, hm, of_decide_eq_true hname⟩

/-- A name assigned twice, a method defined twice, and a relation whose accessor would be called
    like the default manager. -/
theorem members_unambiguous_clashes :
    let text : Text := "class A(Model):\n    x = CharField()\n    x = TextField()\n" ++
      "    def f(self):\n        pass\n    def f(self, y):\n        pass\n"
    let related : Text := "class B(Model):\n    a = ForeignKey('A', related_name='objects')\n"
    let calls := [.analyze "a.py" text, .edit (.commit "b.py" related "b")]
    ∃ e ∈ ((State.new {}).run calls).graph.entities.values,
      Named.names e.fields = (["x", "objects"] : List Text) ∧ e.members.Distinct ∧
        ∃ m ∈ e.managers, m.name = "objects" := by
  intro text related calls
  have hfields : (((State.new {}).run calls).graph.entity? "A").any fun e =>
      Named.names e.fields = (["x", "objects"] : List Text) := by decide +kernel
  obtain ⟨e, he, hnames⟩ := (Option.any_eq_true ..).mp hfields
  have hmem : e ∈ ((State.new {}).run calls).graph.entities.values :=
    (Table.mem_values_iff _ _).mpr ⟨"A", he⟩
  exact ⟨e, hmem, of_decide_eq_true hnames, members_unambiguous {} calls e hmem⟩

end OrmLens.Index
