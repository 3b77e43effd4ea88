/-
  Reverse accessors, entity by entity.

  Rebuilding runs through all relations and changes a whole table. Here it is taken apart: the
  entity stored as `n` is the one from before, stripped, with the accessors that `grantsOn` lists
  for `n` put on it one after another (`get?_rebuildAccessors`). So a rebuild depends on the
  stripped entities and on the relations only (`get?_rebuildAccessors_congr`), and a second one
  changes nothing (`get?_rebuildAccessors_twice`).

  For one accessor name, the first grant wins, unless a field had the name before
  (`reverseFields_withAccessors`, `reverseManagers_withAccessors`).
-/
import OrmLens.Model.Reverse
import OrmLens.Proofs.Named
import OrmLens.Proofs.Table

namespace OrmLens.Model

open Framework

/-! ## What stripping and installing leave alone -/

namespace Entity

@[simp] theorem name_withoutReverse (e : Entity) : e.withoutReverse.name = e.name := rfl

@[simp] theorem unit_withoutReverse (e : Entity) : e.withoutReverse.unit = e.unit := rfl

@[simp] theorem isAbstract_withoutReverse (e : Entity) :
    e.withoutReverse.isAbstract = e.isAbstract := rfl

theorem isAbstract_withAccessor (e : Entity) (a : Text) (r : Relation) :
    (e.withAccessor a r).isAbstract = e.isAbstract := by
  unfold withAccessor
  split <;> rfl

theorem withoutReverse_withoutReverse (e : Entity) :
    e.withoutReverse.withoutReverse = e.withoutReverse := by
  simp [withoutReverse, fields, managers]

theorem withoutReverse_withAccessor (e : Entity) (a : Text) (r : Relation) :
    (e.withAccessor a r).withoutReverse = e.withoutReverse := by
  unfold withAccessor
  split
  · rfl
  · have hf : (Field.ofReverse a r.source r.field).isReverse = true := rfl
    have hm : (Named.merge e.managers ⟨a, .reverse, none, []⟩).filter (·.kind ≠ .reverse) =
        e.managers.filter (·.kind ≠ .reverse) := by
      unfold Named.merge
      split <;> simp
    simpa [withoutReverse, fields, managers, hf] using hm

/-- Puts accessors on an entity, one after another. -/
def withAccessors (e : Entity) (grants : List (Text × Relation)) : Entity :=
  grants.foldl (fun e g => e.withAccessor g.1 g.2) e

theorem withoutReverse_withAccessors (e : Entity) (grants : List (Text × Relation)) :
    (e.withAccessors grants).withoutReverse = e.withoutReverse := by
  induction grants generalizing e with
  | nil => rfl
  | cons g grants ih => exact (ih _).trans (e.withoutReverse_withAccessor g.1 g.2)

end Entity

/-! ## Rebuilding, entity by entity -/

/-- Whether the table holds an abstract model under the name. -/
def abstractIn (t : Table Text Entity) (name : Text) : Bool :=
  (t.get? name).any (·.isAbstract)

/-- The accessor that a relation puts on the entity stored as `n`, if it puts one there. -/
def Relation.grant? (isAbstract : Text → Bool) (n : Text) (r : Relation) :
    Option (Text × Relation) :=
  if r.target.name? = some n ∧ isAbstract r.source = false then r.accessor?.map (·, r) else none

theorem Relation.grant?_eq_some_iff {isAbstract : Text → Bool} {n : Text} {r r' : Relation}
    {a : Text} :
    r.grant? isAbstract n = some (a, r') ↔
      r.target.name? = some n ∧ isAbstract r.source = false ∧ r.accessor? = some a ∧ r = r' := by
  unfold grant?
  split
  · rename_i h
    rw [Option.map_eq_some_iff]
    constructor
    · intro h'
      obtain ⟨b, hb, heq⟩ := h'
      cases heq
      exact ⟨h.1, h.2, hb, rfl⟩
    · intro h'
      obtain ⟨-, -, ha, rfl⟩ := h'
      exact ⟨a, ha, rfl⟩
  · rename_i h
    simp only [reduceCtorEq, false_iff]
    exact fun hr => h ⟨hr.1, hr.2.1⟩

/-- The accessors that relations put on the entity stored as `n`, in the order of the relations. -/
def grantsOn (t : Table Text Entity) (relations : List Relation) (n : Text) :
    List (Text × Relation) :=
  relations.filterMap (Relation.grant? (abstractIn t) n)

theorem get?_installAccessor (t : Table Text Entity) (r : Relation) (n : Text) :
    (installAccessor t r).get? n =
      (t.get? n).map (·.withAccessors (r.grant? (abstractIn t) n).toList) := by
  have hid : (t.get? n).map (·.withAccessors []) = t.get? n := Option.map_id'
  have hsource : (t.get? r.source).any (·.isAbstract) = abstractIn t r.source := rfl
  unfold installAccessor Relation.grant?
  rw [hsource]
  split
  · rename_i target accessor ht ha
    rw [ht, ha]
    cases hs : abstractIn t r.source with
    | true =>
      rw [if_pos rfl, if_neg (by simp)]
      exact hid.symm
    | false =>
      rw [if_neg Bool.false_ne_true, Table.get?_modify]
      by_cases hn : n = target
      · rw [if_pos hn, if_pos ⟨congrArg some hn.symm, rfl⟩]
        rfl
      · rw [if_neg hn, if_neg (by simp [Ne.symm hn])]
        exact hid.symm
  · rename_i hno
    have hnone : (if r.target.name? = some n ∧ abstractIn t r.source = false then
        r.accessor?.map (·, r) else none) = none := by
      split
      · rename_i h
        cases ha : r.accessor? with
        | none => rfl
        | some a => exact absurd ha (hno n a h.1)
      · rfl
    rw [hnone]
    exact hid.symm

theorem abstractIn_installAccessor (t : Table Text Entity) (r : Relation) :
    abstractIn (installAccessor t r) = abstractIn t := by
  funext n
  unfold abstractIn
  rw [get?_installAccessor, Option.any_map]
  congr 1
  funext e
  show (e.withAccessors (r.grant? (abstractIn t) n).toList).isAbstract = e.isAbstract
  cases r.grant? (abstractIn t) n with
  | none => rfl
  | some g => exact e.isAbstract_withAccessor g.1 g.2

theorem get?_foldl_installAccessor (relations : List Relation) (t : Table Text Entity)
    (n : Text) :
    (relations.foldl installAccessor t).get? n =
      (t.get? n).map (·.withAccessors (grantsOn t relations n)) := by
  induction relations generalizing t with
  | nil => exact Option.map_id'.symm
  | cons r relations ih =>
    rw [List.foldl_cons, ih, get?_installAccessor, Option.map_map]
    -- Installing makes no model abstract or concrete, so later grants are those of `t`.
    have hg : grantsOn (installAccessor t r) relations n = grantsOn t relations n := by
      unfold grantsOn
      rw [abstractIn_installAccessor]
    congr 1
    funext e
    rw [Function.comp, hg, grantsOn, grantsOn, List.filterMap_cons]
    cases r.grant? (abstractIn t) n <;> rfl

theorem abstractIn_mapValues_withoutReverse (t : Table Text Entity) :
    abstractIn (t.mapValues Entity.withoutReverse) = abstractIn t := by
  funext n
  rw [abstractIn, Table.get?_mapValues, Option.any_map]
  rfl

/-- What a rebuild leaves under a name. -/
theorem get?_rebuildAccessors (t : Table Text Entity) (relations : List Relation) (n : Text) :
    (rebuildAccessors t relations).get? n =
      (t.get? n).map (·.withoutReverse.withAccessors (grantsOn t relations n)) := by
  unfold rebuildAccessors
  rw [get?_foldl_installAccessor, Table.get?_mapValues, Option.map_map, grantsOn,
    abstractIn_mapValues_withoutReverse]
  rfl

theorem map_withoutReverse_rebuildAccessors (t : Table Text Entity) (relations : List Relation)
    (n : Text) :
    ((rebuildAccessors t relations).get? n).map Entity.withoutReverse =
      (t.get? n).map Entity.withoutReverse := by
  rw [get?_rebuildAccessors, Option.map_map]
  congr 1
  funext e
  rw [Function.comp, Entity.withoutReverse_withAccessors, Entity.withoutReverse_withoutReverse]

/-- A rebuild depends on the stripped entities and the relations only. -/
theorem get?_rebuildAccessors_congr {t u : Table Text Entity}
    (h : ∀ n, (t.get? n).map Entity.withoutReverse = (u.get? n).map Entity.withoutReverse)
    (relations : List Relation) (n : Text) :
    (rebuildAccessors t relations).get? n = (rebuildAccessors u relations).get? n := by
  have habs : abstractIn t = abstractIn u := by
    rw [← abstractIn_mapValues_withoutReverse t, ← abstractIn_mapValues_withoutReverse u]
    funext m
    rw [abstractIn, abstractIn, Table.get?_mapValues, Table.get?_mapValues, h m]
  have hn : ∀ e : Option Entity, e.map (·.withoutReverse.withAccessors (grantsOn u relations n)) =
      (e.map Entity.withoutReverse).map (·.withAccessors (grantsOn u relations n)) :=
    fun e => by rw [Option.map_map]; rfl
  rw [get?_rebuildAccessors, get?_rebuildAccessors, grantsOn, habs, ← grantsOn, hn, hn, h n]

/-- A second rebuild changes nothing. -/
theorem get?_rebuildAccessors_twice (t : Table Text Entity) (relations : List Relation)
    (n : Text) :
    (rebuildAccessors (rebuildAccessors t relations) relations).get? n =
      (rebuildAccessors t relations).get? n :=
  get?_rebuildAccessors_congr (map_withoutReverse_rebuildAccessors t relations) relations n

/-! ## One accessor name -/

namespace Entity

/-- The fields with the name that relations put on the entity. -/
def reverseFields (e : Entity) (a : Text) : List Field :=
  e.fields.filter fun f => f.isReverse && f.name = a

/-- The managers with the name that relations put on the entity. -/
def reverseManagers (e : Entity) (a : Text) : List Manager :=
  e.managers.filter fun m => m.kind = .reverse && m.name = a

theorem reverseFields_eq_nil {e : Entity} {a : Text} (h : Named.taken e.fields a = false) :
    e.reverseFields a = [] := by
  rw [reverseFields, List.filter_eq_nil_iff]
  intro f hf hr
  have hne := List.any_eq_false.mp h f hf
  simp only [Bool.and_eq_true, decide_eq_true_eq] at hr
  exact hne (decide_eq_true hr.2)

theorem reverseManagers_eq_nil {e : Entity} {a : Text} (h : Named.taken e.managers a = false) :
    e.reverseManagers a = [] := by
  rw [reverseManagers, List.filter_eq_nil_iff]
  intro m hm hr
  have hne := List.any_eq_false.mp h m hm
  simp only [Bool.and_eq_true, decide_eq_true_eq] at hr
  exact hne (decide_eq_true hr.2)

theorem withAccessor_of_taken {e : Entity} {a : Text} (h : Named.taken e.fields a = true)
    (r : Relation) : e.withAccessor a r = e := by
  rw [withAccessor, if_pos h]

theorem fields_withAccessor {e : Entity} {a : Text} (h : Named.taken e.fields a = false)
    (r : Relation) :
    (e.withAccessor a r).fields = e.fields ++ [Field.ofReverse a r.source r.field] := by
  rw [withAccessor, if_neg (by rw [h]; exact Bool.false_ne_true)]
  rfl

theorem managers_withAccessor {e : Entity} {a : Text} (h : Named.taken e.fields a = false)
    (r : Relation) :
    (e.withAccessor a r).managers = Named.merge e.managers ⟨a, .reverse, none, []⟩ := by
  rw [withAccessor, if_neg (by rw [h]; exact Bool.false_ne_true)]
  rfl

theorem taken_fields_withAccessor {e : Entity} {b : Text} (h : Named.taken e.fields b = false)
    (r : Relation) (a : Text) :
    Named.taken (e.withAccessor b r).fields a = (Named.taken e.fields a || decide (b = a)) := by
  rw [fields_withAccessor h, Named.taken, List.any_append, List.any_cons, List.any_nil,
    Bool.or_false]
  rfl

/-- A name that a field has already keeps its reverse fields. Otherwise the first grant with the
    name decides. -/
theorem reverseFields_withAccessors (grants : List (Text × Relation)) (e : Entity) (a : Text) :
    (e.withAccessors grants).reverseFields a =
      if Named.taken e.fields a then e.reverseFields a
      else ((grants.find? (·.1 = a)).map fun g =>
        Field.ofReverse a g.2.source g.2.field).toList := by
  induction grants generalizing e with
  | nil =>
    cases h : Named.taken e.fields a with
    | true => rfl
    | false => exact reverseFields_eq_nil h
  | cons g grants ih =>
    obtain ⟨b, r⟩ := g
    show ((e.withAccessor b r).withAccessors grants).reverseFields a = _
    rw [ih]
    by_cases hb : Named.taken e.fields b = true
    · -- The grant is refused. If it is for `a`, then `a` is taken on both sides.
      rw [withAccessor_of_taken hb]
      by_cases hba : b = a
      · subst hba
        rw [if_pos hb, if_pos hb]
      · rw [List.find?_cons_of_neg (by simpa using hba)]
    · have hb' : Named.taken e.fields b = false := by simpa using hb
      rw [taken_fields_withAccessor hb', reverseFields, fields_withAccessor hb',
        List.filter_append, ← reverseFields]
      by_cases hba : b = a
      · subst hba
        rw [hb', reverseFields_eq_nil hb', List.find?_cons_of_pos (by simp)]
        simp [Field.ofReverse, Field.isReverse]
      · rw [List.find?_cons_of_neg (by simpa using hba)]
        simp [Field.ofReverse, hba]

theorem taken_managers_withAccessor {e : Entity} {b : Text} (h : Named.taken e.fields b = false)
    (r : Relation) (a : Text) :
    Named.taken (e.withAccessor b r).managers a =
      (Named.taken e.managers a || decide (b = a)) := by
  rw [managers_withAccessor h, Bool.eq_iff_iff, Named.taken_iff, Named.mem_names_merge,
    Bool.or_eq_true, Named.taken_iff, decide_eq_true_eq, eq_comm]
  rfl

/-- The same for managers, except that a manager with the name keeps a newcomer out, too. -/
theorem reverseManagers_withAccessors (grants : List (Text × Relation)) (e : Entity)
    (a : Text) :
    (e.withAccessors grants).reverseManagers a =
      if Named.taken e.fields a || Named.taken e.managers a then e.reverseManagers a
      else ((grants.find? (·.1 = a)).map fun _ =>
        (⟨a, .reverse, none, []⟩ : Manager)).toList := by
  induction grants generalizing e with
  | nil =>
    cases h : Named.taken e.managers a with
    | true => rw [Bool.or_true]; rfl
    | false =>
      have hnil := reverseManagers_eq_nil h
      split
      · rfl
      · exact hnil
  | cons g grants ih =>
    obtain ⟨b, r⟩ := g
    show ((e.withAccessor b r).withAccessors grants).reverseManagers a = _
    rw [ih]
    by_cases hb : Named.taken e.fields b = true
    · rw [withAccessor_of_taken hb]
      by_cases hba : b = a
      · subst hba
        rw [hb, Bool.true_or, if_pos rfl, if_pos rfl]
      · rw [List.find?_cons_of_neg (by simpa using hba)]
    · have hb' : Named.taken e.fields b = false := by simpa using hb
      rw [taken_fields_withAccessor hb', taken_managers_withAccessor hb', reverseManagers,
        managers_withAccessor hb']
      by_cases hba : b = a
      · subst hba
        rw [hb', List.find?_cons_of_pos (by simp)]
        cases hm : Named.taken e.managers b with
        | true => simp [Named.merge, Named.nameOf, hm, reverseManagers]
        | false =>
          have hnil := reverseManagers_eq_nil hm
          rw [reverseManagers] at hnil
          simp [Named.merge, Named.nameOf, hm, hnil]
      · rw [List.find?_cons_of_neg (by simpa using hba)]
        have hfilter : (Named.merge e.managers ⟨b, .reverse, none, []⟩).filter
            (fun m => m.kind = .reverse && m.name = a) = e.reverseManagers a := by
          unfold Named.merge
          split
          · rfl
          · simp [reverseManagers, hba]
        rw [hfilter]
        simp [hba]

/-! ## What an entity has of its own -/

/-- The entity declares or inherits a field with the name. -/
def HasOwnField (e : Entity) (a : Text) : Prop := ∃ f ∈ e.fields, f.isReverse = false ∧ f.name = a

/-- The entity declares or inherits a manager with the name, or has it by default. -/
def HasOwnManager (e : Entity) (a : Text) : Prop :=
  ∃ m ∈ e.managers, m.kind ≠ .reverse ∧ m.name = a

theorem taken_fields_withoutReverse (e : Entity) (a : Text) :
    Named.taken e.withoutReverse.fields a = true ↔ e.HasOwnField a := by
  have hfields : e.withoutReverse.fields = e.fields.filter (!·.isReverse) := rfl
  rw [Named.taken, hfields, List.any_eq_true]
  simp [HasOwnField, Named.nameOf, and_assoc]

theorem taken_managers_withoutReverse (e : Entity) (a : Text) :
    Named.taken e.withoutReverse.managers a = true ↔ e.HasOwnManager a := by
  have hmanagers : e.withoutReverse.managers = e.managers.filter (·.kind ≠ .reverse) := rfl
  rw [Named.taken, hmanagers, List.any_eq_true]
  simp [HasOwnManager, Named.nameOf, and_assoc]

theorem reverseFields_withoutReverse (e : Entity) (a : Text) :
    e.withoutReverse.reverseFields a = [] := by
  have hfields : e.withoutReverse.fields = e.fields.filter (!·.isReverse) := rfl
  rw [reverseFields, hfields, List.filter_filter, List.filter_eq_nil_iff]
  intro f _
  cases f.isReverse <;> simp

theorem reverseManagers_withoutReverse (e : Entity) (a : Text) :
    e.withoutReverse.reverseManagers a = [] := by
  have hmanagers : e.withoutReverse.managers = e.managers.filter (·.kind ≠ .reverse) := rfl
  rw [reverseManagers, hmanagers, List.filter_filter, List.filter_eq_nil_iff]
  intro m _
  by_cases h : m.kind = .reverse <;> simp [h]

end Entity

/-! ## The first grant of a name -/

/-- The first grant of an accessor comes from the first relation that grants it. -/
theorem find?_grantsOn {t : Table Text Entity} {relations : List Relation} {n a : Text}
    {p : Relation → Bool}
    (hp : ∀ r ∈ relations, p r = true ↔ r.grant? (abstractIn t) n = some (a, r)) :
    (grantsOn t relations n).find? (·.1 = a) = (relations.find? p).map (a, ·) := by
  induction relations with
  | nil => rfl
  | cons r relations ih =>
    have hr := hp r List.mem_cons_self
    have ih := ih fun x hx => hp x (List.mem_cons_of_mem r hx)
    unfold grantsOn at ih ⊢
    by_cases h : p r = true
    · rw [List.filterMap_cons_some (hr.mp h), List.find?_cons_of_pos (by simp),
        List.find?_cons_of_pos h]
      rfl
    · rw [List.find?_cons_of_neg h, ← ih]
      cases hg : r.grant? (abstractIn t) n with
      | none => rw [List.filterMap_cons_none hg]
      | some g =>
        rw [List.filterMap_cons_some hg, List.find?_cons_of_neg]
        -- A grant carries its relation, so one under this name would satisfy `p`.
        intro ha
        obtain ⟨b, r'⟩ := g
        obtain rfl : b = a := by simpa using ha
        obtain ⟨-, -, -, rfl⟩ := Relation.grant?_eq_some_iff.mp hg
        exact h (hr.mpr hg)

end OrmLens.Model
