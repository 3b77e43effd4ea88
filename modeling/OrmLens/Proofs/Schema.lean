/-
  Extracted schemas.

  Whatever the text, the schema of a unit has distinct model names, every model names the unit as
  its own and has distinct field names, no model carries anything that a relation puts on its
  target, and the relations are those of the models in their order (`wellFormed_extract`). What the
  index does with a schema depends on these five facts only.

  What the members of a model can be is said once (`every_entityOf`): each is made of a statement in
  the body of its class or of an ancestor's, or is supplied by the framework. That no two of a kind
  share a name (`distinct_entityOf`) does not depend on the statements.
-/
import OrmLens.Model.Reverse
import OrmLens.Model.Schema
import OrmLens.Proofs.Named

namespace OrmLens.Model

open Framework Source

/-! ## Where members come from -/

/-- Every field, method and manager has a property of its own kind. -/
structure Members.Every (onField : Field → Prop) (onMethod : Method → Prop)
    (onManager : Manager → Prop) (m : Members) : Prop where
  fields : ∀ f ∈ m.fields, onField f
  methods : ∀ x ∈ m.methods, onMethod x
  managers : ∀ g ∈ m.managers, onManager g

section

variable {onField : Field → Prop} {onMethod : Method → Prop} {onManager : Manager → Prop}

namespace Members.Every

theorem empty : ({} : Members).Every onField onMethod onManager := ⟨by simp, by simp, by simp⟩

theorem withAttribute {m : Members} (h : m.Every onField onMethod onManager) {a : Attribute}
    (ha : match a with | .field f => onField f | .manager g => onManager g) :
    (m.withAttribute a).Every onField onMethod onManager := by
  cases a with
  | field f =>
    refine ⟨fun x hx => ?_, h.methods, fun g hg => h.managers g (Named.mem_of_mem_without hg)⟩
    rcases Named.mem_of_mem_upsert hx with rfl | hx
    · exact ha
    · exact h.fields x hx
  | manager g =>
    refine ⟨fun x hx => h.fields x (Named.mem_of_mem_without hx), h.methods, fun x hx => ?_⟩
    rcases Named.mem_of_mem_upsert hx with rfl | hx
    · exact ha
    · exact h.managers x hx

theorem foldl_withAttribute {m : Members} (h : m.Every onField onMethod onManager)
    {as : List Attribute}
    (ha : ∀ a ∈ as, match a with | .field f => onField f | .manager g => onManager g) :
    (as.foldl Members.withAttribute m).Every onField onMethod onManager := by
  induction as generalizing m with
  | nil => exact h
  | cons a as ih =>
    exact ih (h.withAttribute (ha a List.mem_cons_self))
      fun b hb => ha b (List.mem_cons_of_mem _ hb)

theorem foldl_withMethod {m : Members} (h : m.Every onField onMethod onManager)
    {xs : List Method} (hx : ∀ x ∈ xs, onMethod x) :
    (xs.foldl Members.withMethod m).Every onField onMethod onManager := by
  induction xs generalizing m with
  | nil => exact h
  | cons x xs ih =>
    refine ih ⟨h.fields, fun y hy => ?_, h.managers⟩ fun y hy => hx y (List.mem_cons_of_mem _ hy)
    rcases Named.mem_of_mem_upsert hy with rfl | hy
    · exact hx y List.mem_cons_self
    · exact h.methods y hy

theorem mergeAll {m base : Members} (h : m.Every onField onMethod onManager)
    (hb : base.Every onField onMethod onManager) :
    (m.mergeAll base).Every onField onMethod onManager :=
  ⟨fun f hf => (Named.mem_of_mem_mergeAll hf).elim (h.fields f) (hb.fields f),
    fun x hx => (Named.mem_of_mem_mergeAll hx).elim (h.methods x) (hb.methods x),
    fun g hg => (Named.mem_of_mem_mergeAll hg).elim (h.managers g) (hb.managers g)⟩

theorem inheritedFrom {m : Members} (h : m.Every onField onMethod onManager) {base : Text}
    (hbase : ∀ f, onField f → onField { f with origin := .inherited base }) :
    (m.inheritedFrom base).Every onField onMethod onManager := by
  refine ⟨fun f hf => ?_, h.methods, h.managers⟩
  obtain ⟨g, hg, rfl⟩ := List.mem_map.mp hf
  exact hbase g (h.fields g hg)

theorem withDefaults {m : Members} (h : m.Every onField onMethod onManager)
    (hsupplied : ∀ x ∈ suppliedMethods, onMethod x) (hdefault : onManager Manager.default) :
    m.withDefaults.Every onField onMethod onManager := by
  refine ⟨h.fields,
    fun x hx => (Named.mem_of_mem_mergeAll hx).elim (h.methods x) (hsupplied x), fun g hg => ?_⟩
  simp only [Members.withDefaults] at hg
  split at hg
  · exact h.managers g hg
  · rcases List.mem_cons.mp hg with rfl | hg
    · exact hdefault
    · exact h.managers g hg

end Members.Every

/-- The members of a class body are made of its call assignments and its method headers. -/
theorem every_membersOf {u : SourceUnit} {d : Declaration} {owner : Text}
    (hfield : ∀ call ∈ u.callsOf d, ∀ type args, onField (fieldOf u owner call type args))
    (hmethod : ∀ h ∈ u.headersOf d, ∀ x, methodOf? u h = some x → onMethod x)
    (hmanager : ∀ call args g, managerOf? u call args = some g → onManager g) :
    (membersOf u d owner).Every onField onMethod onManager := by
  unfold membersOf
  split
  · exact .empty
  · refine Members.Every.foldl_withMethod (Members.Every.foldl_withAttribute .empty ?_) ?_
    · intro a ha
      obtain ⟨call, hcall, hc⟩ := List.mem_filterMap.mp ha
      unfold attributeOf? at hc
      dsimp only at hc
      split at hc
      · cases hc
        exact hfield call (List.mem_filter.mp hcall).1 _ _
      · obtain ⟨g, hg, rfl⟩ := Option.map_eq_some_iff.mp hc
        exact hmanager call _ g hg
    · intro x hx
      obtain ⟨h, hh, hxh⟩ := List.mem_filterMap.mp hx
      exact hmethod h (List.mem_filter.mp hh).1 x hxh

theorem mem_of_nextDeclared? {left : List Declaration} {pending rest : List Text}
    {d : Declaration} (h : nextDeclared? left pending = some (d, rest)) : d ∈ left := by
  induction pending with
  | nil => cases h
  | cons name pending ih =>
    rw [nextDeclared?] at h
    split at h
    · rename_i hfound
      cases h
      exact List.mem_of_find?_eq_some hfound
    · exact ih h

theorem mem_of_mem_walkFrom {basesOf : Declaration → List Text} {count : Nat}
    {left : List Declaration} {pending : List Text} {d : Declaration}
    (h : d ∈ walkFrom basesOf count left pending) : d ∈ left := by
  induction count generalizing left pending with
  | zero => cases h
  | succ count ih =>
    rw [walkFrom] at h
    split at h
    · cases h
    · rename_i b rest hnext
      rcases List.mem_cons.mp h with rfl | h
      · exact mem_of_nextDeclared? hnext
      · exact (List.mem_filter.mp (ih h)).1

theorem mem_of_mem_ancestors {u : SourceUnit} {d b : Declaration} (h : b ∈ ancestors u d) :
    b ∈ u.decls :=
  (List.mem_filter.mp (mem_of_mem_walkFrom h)).1

/-- **The members of an entity** are made of the call assignments and the method headers of classes
    of the unit, its own class or an ancestor, and of what the framework supplies. -/
theorem every_entityOf {u : SourceUnit} {d : Declaration}
    (hfield : ∀ b ∈ d :: u.decls, ∀ call ∈ u.callsOf b, ∀ type args,
      onField (fieldOf u d.name call type args))
    (hinherited : ∀ f base, onField f → onField { f with origin := .inherited base })
    (hmethod : ∀ b ∈ d :: u.decls, ∀ h ∈ u.headersOf b, ∀ x, methodOf? u h = some x → onMethod x)
    (hsupplied : ∀ x ∈ suppliedMethods, onMethod x)
    (hmanager : ∀ call args g, managerOf? u call args = some g → onManager g)
    (hdefault : onManager Manager.default) :
    (entityOf u d).members.Every onField onMethod onManager := by
  have hbody (b : Declaration) (hb : b ∈ d :: u.decls) :
      (membersOf u b d.name).Every onField onMethod onManager :=
    every_membersOf (hfield b hb) (hmethod b hb) hmanager
  refine Members.Every.withDefaults ?_ hsupplied hdefault
  unfold inheritedMembers
  have hbases : ∀ b ∈ ancestors u d, b ∈ d :: u.decls :=
    fun b hb => List.mem_cons_of_mem _ (mem_of_mem_ancestors hb)
  have h := hbody d List.mem_cons_self
  -- Every ancestor adds members to those there already.
  generalize membersOf u d d.name = m at h
  generalize ancestors u d = bases at hbases
  induction bases generalizing m with
  | nil => exact h
  | cons b bases ih =>
    have hb := (hbody b (hbases b List.mem_cons_self)).inheritedFrom fun f => hinherited f b.name
    exact ih _ (h.mergeAll hb) fun c hc => hbases c (List.mem_cons_of_mem _ hc)

end

/-! ## Members that no relation put there -/

/-- No field and no manager was put there by a relation. -/
def Members.Plain (m : Members) : Prop :=
  m.Every (·.isReverse = false) (fun _ => True) (·.kind ≠ .reverse)

/-- Taking off what relations put on an entity changes nothing exactly if there is nothing of the
    kind. -/
theorem Entity.withoutReverse_eq_self_iff (e : Entity) :
    e.withoutReverse = e ↔ e.members.Plain := by
  obtain ⟨name, unit, app, location, ⟨fields, methods, properties, managers⟩, bases,
    isAbstract⟩ := e
  simp only [Entity.withoutReverse, Entity.fields, Entity.managers, Entity.mk.injEq,
    Members.mk.injEq, true_and, and_true, List.filter_eq_self]
  constructor
  · intro h'
    obtain ⟨hf, hg⟩ := h'
    exact ⟨by simpa using hf, by simp, by simpa using hg⟩
  · intro h'
    obtain ⟨hf, -, hg⟩ := h'
    exact ⟨by simpa using hf, by simpa using hg⟩

/-- A keyword argument changes neither the name of its field nor where it comes from nor its
    type. -/
theorem Field.frame_withKeyword (textLike : Bool) (f : Field) (key value : Text) :
    (f.withKeyword textLike key value).name = f.name ∧
      (f.withKeyword textLike key value).origin = f.origin ∧
      (f.withKeyword textLike key value).declaredType = f.declaredType := by
  unfold Field.withKeyword
  dsimp only
  repeat' split
  all_goals exact ⟨rfl, rfl, rfl⟩

theorem Field.frame_foldl_withArgument (textLike : Bool) (args : List Argument) (f : Field) :
    (args.foldl (Field.withArgument textLike) f).name = f.name ∧
      (args.foldl (Field.withArgument textLike) f).origin = f.origin ∧
      (args.foldl (Field.withArgument textLike) f).declaredType = f.declaredType := by
  induction args generalizing f with
  | nil => exact ⟨rfl, rfl, rfl⟩
  | cons a args ih =>
    rw [List.foldl_cons, (ih _).1, (ih _).2.1, (ih _).2.2]
    cases a with
    | keyword key value => exact f.frame_withKeyword textLike key value
    | positional value => exact ⟨rfl, rfl, rfl⟩

theorem name_fieldOf (u : SourceUnit) (owner : Text) (call : CallAssignment)
    (declaredType : Text) (args : List Argument) :
    (fieldOf u owner call declaredType args).name = call.target :=
  (Field.frame_foldl_withArgument _ args _).1

theorem origin_fieldOf (u : SourceUnit) (owner : Text) (call : CallAssignment)
    (declaredType : Text) (args : List Argument) :
    (fieldOf u owner call declaredType args).origin = .declared :=
  (Field.frame_foldl_withArgument _ args _).2.1

theorem isReverse_fieldOf (u : SourceUnit) (owner : Text) (call : CallAssignment)
    (declaredType : Text) (args : List Argument) :
    (fieldOf u owner call declaredType args).isReverse = false := by
  rw [Field.isReverse, origin_fieldOf]

theorem declaredType_fieldOf (u : SourceUnit) (owner : Text) (call : CallAssignment)
    (declaredType : Text) (args : List Argument) :
    (fieldOf u owner call declaredType args).declaredType = declaredType :=
  (Field.frame_foldl_withArgument _ args _).2.2

theorem kind_managerOf? {u : SourceUnit} {call : CallAssignment} {args : List Argument}
    {g : Manager} (h : managerOf? u call args = some g) : g.kind ≠ .reverse := by
  unfold managerOf? at h
  split at h
  · cases h; exact nofun
  · split at h
    · obtain ⟨q, _, rfl⟩ := Option.map_eq_some_iff.mp h
      exact nofun
    · dsimp only at h
      split at h
      · cases h
      · split at h
        · cases h; exact nofun
        · cases h; exact nofun

theorem withoutReverse_entityOf (u : SourceUnit) (d : Declaration) :
    (entityOf u d).withoutReverse = entityOf u d := by
  refine (Entity.withoutReverse_eq_self_iff _).mpr (every_entityOf ?_ ?_ ?_ ?_ ?_ ?_)
  · exact fun b _ call _ type args => isReverse_fieldOf u d.name call type args
  · exact fun f base _ => rfl
  · exact fun b _ h _ x _ => trivial
  · exact fun x _ => trivial
  · exact fun call args g hg => kind_managerOf? hg
  · exact nofun

/-! ## Distinct names -/

/-- No two fields, no two methods, no two properties and no two managers have one name. -/
structure Members.Distinct (m : Members) : Prop where
  fields : (Named.names m.fields).Nodup
  methods : (Named.names m.methods).Nodup
  properties : m.properties.Nodup
  managers : (Named.names m.managers).Nodup

namespace Members.Distinct

theorem empty : ({} : Members).Distinct :=
  ⟨List.nodup_nil, List.nodup_nil, List.nodup_nil, List.nodup_nil⟩

/-- The attribute replaces what had its name in one list and leaves no other in the other. -/
theorem withAttribute {m : Members} (h : m.Distinct) (a : Attribute) :
    (m.withAttribute a).Distinct := by
  cases a with
  | field f =>
    exact ⟨Named.nodup_upsert h.fields f, h.methods, h.properties,
      h.managers.sublist (List.filter_sublist.map _)⟩
  | manager g =>
    exact ⟨h.fields.sublist (List.filter_sublist.map _), h.methods, h.properties,
      Named.nodup_upsert h.managers g⟩

theorem foldl_withAttribute {m : Members} (h : m.Distinct) (as : List Attribute) :
    (as.foldl Members.withAttribute m).Distinct := by
  induction as generalizing m with
  | nil => exact h
  | cons a as ih => exact ih (h.withAttribute a)

theorem withMethod {m : Members} (h : m.Distinct) (x : Method) : (m.withMethod x).Distinct := by
  refine ⟨h.fields, Named.nodup_upsert h.methods x, ?_, h.managers⟩
  unfold Members.withMethod
  dsimp only
  split
  · exact Named.nodup_merge_texts h.properties x.name
  · exact h.properties

theorem foldl_withMethod {m : Members} (h : m.Distinct) (ms : List Method) :
    (ms.foldl Members.withMethod m).Distinct := by
  induction ms generalizing m with
  | nil => exact h
  | cons x ms ih => exact ih (h.withMethod x)

/-- Only names that are not taken are added, so the added members may be any. -/
theorem mergeAll {m : Members} (h : m.Distinct) (base : Members) : (m.mergeAll base).Distinct :=
  ⟨Named.nodup_mergeAll h.fields _, Named.nodup_mergeAll h.methods _,
    Named.nodup_mergeAll_texts h.properties _, Named.nodup_mergeAll h.managers _⟩

theorem withDefaults {m : Members} (h : m.Distinct) : m.withDefaults.Distinct := by
  refine ⟨h.fields, Named.nodup_mergeAll h.methods _,
    Named.nodup_mergeAll_texts h.properties _, ?_⟩
  unfold Members.withDefaults
  dsimp only
  split
  · exact h.managers
  · rename_i hfree
    rw [Named.taken_iff] at hfree
    exact List.nodup_cons.mpr ⟨hfree, h.managers⟩

end Members.Distinct

theorem distinct_membersOf (u : SourceUnit) (d : Declaration) (owner : Text) :
    (membersOf u d owner).Distinct := by
  unfold membersOf
  split
  · exact .empty
  · exact (Members.Distinct.empty.foldl_withAttribute _).foldl_withMethod _

theorem distinct_entityOf (u : SourceUnit) (d : Declaration) :
    (entityOf u d).members.Distinct := by
  refine Members.Distinct.withDefaults ?_
  unfold inheritedMembers
  generalize ancestors u d = bases
  have h := distinct_membersOf u d d.name
  generalize membersOf u d d.name = m at h
  induction bases generalizing m with
  | nil => exact h
  | cons b bases ih => exact ih _ (h.mergeAll _)

/-- A model that declares no manager under the default name is given one. -/
theorem taken_managers_withDefaults (m : Members) :
    Named.taken m.withDefaults.managers defaultManager = true := by
  unfold Members.withDefaults
  dsimp only
  split
  · assumption
  · exact List.any_eq_true.mpr ⟨Manager.default, List.mem_cons_self, decide_eq_true rfl⟩

/-! ## Relations of an entity -/

/-- What the relation of a field records. -/
theorem relationOf?_eq_some {e : Entity} {f : Field} {r : Relation}
    (h : relationOf? e f = some r) :
    r.source = e.name ∧ r.field = f.name ∧ r.target.name? = f.relatedEntity ∧
      f.isRelational = true := by
  obtain ⟨kind, hkind, rfl⟩ := Option.map_eq_some_iff.mp h
  refine ⟨rfl, rfl, ?_, ?_⟩
  · cases f.relatedEntity <;> rfl
  · rw [Field.isRelational, Framework.isRelational, hkind]
    rfl

theorem mem_relationsOf {e : Entity} {r : Relation} (h : r ∈ relationsOf e) :
    ∃ f ∈ e.fields, f.isReverse = false ∧ relationOf? e f = some r := by
  obtain ⟨f, hf, hr⟩ := List.mem_filterMap.mp h
  obtain ⟨hm, hrev⟩ := List.mem_filter.mp hf
  exact ⟨f, hm, by simpa using hrev, hr⟩

/-! ## Well-formed schemas -/

namespace Schema

/-- The model with the name. -/
def entity? (s : Schema) (name : Text) : Option Entity := Named.find? s.entities name

/-- What the index relies on. -/
structure WellFormed (s : Schema) : Prop where
  nodup : s.names.Nodup
  unit : ∀ e ∈ s.entities, e.unit = s.path
  fields : ∀ e ∈ s.entities, (Named.names e.fields).Nodup
  plain : ∀ e ∈ s.entities, e.withoutReverse = e
  relations : s.relations = s.entities.flatMap relationsOf

@[simp] theorem path_extract (path text : Text) : (extract path text).path = path := rfl

theorem sublist_modelDeclarationsFrom (known : List Text) (decls : List Declaration) :
    (modelDeclarationsFrom known decls).Sublist decls := by
  induction decls generalizing known with
  | nil => exact List.Sublist.refl _
  | cons d decls ih =>
    rw [modelDeclarationsFrom]
    split
    · exact (ih _).cons_cons d
    · exact (ih _).cons d

theorem mem_entities_ofUnit {u : SourceUnit} {e : Entity} (h : e ∈ (ofUnit u).entities) :
    ∃ d ∈ u.decls, e = entityOf u d := by
  unfold ofUnit at h
  rcases Named.mem_of_mem_foldl_upsert h with h | h
  · simp at h
  · obtain ⟨d, hd, rfl⟩ := List.mem_map.mp h
    exact ⟨d, (sublist_modelDeclarationsFrom [] u.decls).subset hd, rfl⟩

theorem wellFormed_ofUnit (u : SourceUnit) : (ofUnit u).WellFormed where
  nodup := by
    have h : (Named.names ([] : List Entity)).Nodup := List.nodup_nil
    unfold ofUnit names
    exact Named.nodup_foldl_upsert h _
  unit := by
    intro e he
    obtain ⟨d, -, rfl⟩ := mem_entities_ofUnit he
    rfl
  fields := by
    intro e he
    obtain ⟨d, -, rfl⟩ := mem_entities_ofUnit he
    exact (distinct_entityOf u d).fields
  plain := by
    intro e he
    obtain ⟨d, -, rfl⟩ := mem_entities_ofUnit he
    exact withoutReverse_entityOf u d
  relations := by
    unfold ofUnit
    rfl

/-- Every extracted schema is well formed. -/
theorem wellFormed_extract (path text : Text) : (extract path text).WellFormed :=
  wellFormed_ofUnit _

theorem entity?_isSome_iff (s : Schema) (n : Text) : (s.entity? n).isSome ↔ n ∈ s.names :=
  Named.find?_isSome_iff s.entities n

theorem entity?_eq_none_iff (s : Schema) (n : Text) : s.entity? n = none ↔ n ∉ s.names := by
  rw [← entity?_isSome_iff, Option.not_isSome_iff_eq_none]

theorem WellFormed.entity?_eq_some_iff {s : Schema} (h : s.WellFormed) (n : Text) (e : Entity) :
    s.entity? n = some e ↔ e ∈ s.entities ∧ e.name = n :=
  Named.find?_eq_some_iff h.nodup n e

/-- A relation of a schema is a relation of the model that it starts from. -/
theorem WellFormed.exists_source {s : Schema} (h : s.WellFormed) {r : Relation}
    (hr : r ∈ s.relations) : ∃ e, s.entity? r.source = some e ∧ r ∈ relationsOf e := by
  rw [h.relations, List.mem_flatMap] at hr
  obtain ⟨e, he, hr⟩ := hr
  obtain ⟨f, _, _, hf⟩ := mem_relationsOf hr
  exact ⟨e, (h.entity?_eq_some_iff _ e).mpr ⟨he, (relationOf?_eq_some hf).1.symm⟩, hr⟩

theorem WellFormed.source_mem_names {s : Schema} (h : s.WellFormed) {r : Relation}
    (hr : r ∈ s.relations) : r.source ∈ s.names := by
  obtain ⟨e, he, _⟩ := h.exists_source hr
  rw [← entity?_isSome_iff, he]
  rfl

end Schema

end OrmLens.Model
