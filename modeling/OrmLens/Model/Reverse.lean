/-
  Reverse accessors: the fields and managers that relations put on their targets.

  They are taken off and rebuilt as a whole, so they depend on the present relations only.
-/
import OrmLens.Model.Relation

namespace OrmLens.Model

open Framework

/-- An entity without what relations put on it. -/
def Entity.withoutReverse (e : Entity) : Entity :=
  { e with members := { e.members with
      fields := e.fields.filter (!·.isReverse)
      managers := e.managers.filter (·.kind ≠ .reverse) } }

/-- Puts an accessor on an entity, unless a field has its name. A manager that has the name
    stays. -/
def Entity.withAccessor (e : Entity) (accessor : Text) (r : Relation) : Entity :=
  if Named.taken e.fields accessor then e
  else
    { e with members := { e.members with
        fields := e.fields ++ [Field.ofReverse accessor r.source r.field]
        managers := Named.merge e.managers { name := accessor, kind := .reverse } } }

/-- Installs the accessor of one relation. Relations of abstract models are skipped: each concrete
    descendant has its own copy. -/
def installAccessor (entities : Table Text Entity) (r : Relation) : Table Text Entity :=
  match r.target.name?, r.accessor? with
  | some target, some accessor =>
    if (entities.get? r.source).any (·.isAbstract) then entities
    else entities.modify target (·.withAccessor accessor r)
  | _, _ => entities

/-- Rebuilds all reverse accessors. -/
def rebuildAccessors (entities : Table Text Entity) (relations : List Relation) :
    Table Text Entity :=
  relations.foldl installAccessor (entities.mapValues Entity.withoutReverse)

end OrmLens.Model
