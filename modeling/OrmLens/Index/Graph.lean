/-
  The model graph: entities by name, relations by the unit that declares them, and the names in
  the order in which a search by their beginning lists them.
-/
import OrmLens.Model.Reverse
import OrmLens.Model.Schema
import OrmLens.Text.Utf8

namespace OrmLens.Index

open Model

/-! ## Name order -/

/-- The half bytes of a text's UTF-8 encoding, of each byte the low half first. -/
def halfBytes (t : Text) : List Nat :=
  (Text.encode t).flatMap fun b => [b % 16, b / 16]

/-- Whether one list of numbers comes before another: by the first difference, a list before its
    extensions. -/
def listBefore : List Nat → List Nat → Bool
  | [], [] => false
  | [], _ :: _ => true
  | _ :: _, [] => false
  | a :: as, b :: bs => a < b || (a == b && listBefore as bs)

/-- The order of names in a search. -/
def nameBefore (s t : Text) : Bool := listBefore (halfBytes s) (halfBytes t)

/-- Adds a name at its place, once. -/
def insertName (name : Text) : List Text → List Text
  | [] => [name]
  | n :: names =>
    if n = name then n :: names
    else if nameBefore name n then name :: n :: names
    else n :: insertName name names

/-! ## Graphs -/

/-- Entities and relations of all analyzed units. -/
structure Graph where
  entities : Table Text Entity := Table.empty
  relations : Table Text (List Relation) := Table.empty
  /-- The names of the entities in search order. -/
  names : List Text := []
deriving DecidableEq, Repr

namespace Graph

/-- The entity with the name. -/
def entity? (g : Graph) (name : Text) : Option Entity := g.entities.get? name

/-- All relations, unit by unit. -/
def allRelations (g : Graph) : List Relation := g.relations.values.flatten

/-- Adds an entity; one of its name is replaced in place. -/
def insert (g : Graph) (e : Entity) : Graph :=
  { g with entities := g.entities.insert e.name e, names := insertName e.name g.names }

/-- Takes out the entities of a unit. -/
def removeEntitiesOf (g : Graph) (unit : Text) : Graph :=
  let stale := (g.entities.entries.filter (·.2.unit = unit)).map Prod.fst
  { g with
    entities := g.entities.filter fun _ e => e.unit ≠ unit
    names := g.names.filter (!stale.contains ·) }

/-- Rebuilds the reverse accessors of the whole graph. -/
def rebuild (g : Graph) : Graph :=
  { g with entities := rebuildAccessors g.entities g.allRelations }

/-- The relations that start or end at an entity. -/
def relationsAt (g : Graph) (name : Text) : List Relation :=
  g.allRelations.filter (·.touches name)

/-- The entities whose names start with `start`: in order of arrival if it is empty, else in search
    order. -/
def entitiesStarting (g : Graph) (start : Text) : List Entity :=
  if start.isEmpty then g.entities.values
  else (g.names.filter (Text.startsWith · start)).filterMap g.entity?

/-- The fields of the entity that a field is related to. -/
def relatedFields (g : Graph) (f : Field) : List Field :=
  match f.relatedEntity.bind g.entity? with
  | some e => e.fields
  | none => []

/-- The keyword that a query reaches a field with. -/
def queryName (g : Graph) (f : Field) : Text := f.queryName (g.relatedFields f)

/-- The field of an entity that a part of a query keyword names. -/
def filterField? (g : Graph) (e : Entity) (part : Text) : Option Field :=
  e.fields.find? (g.queryName · = part)

/-- The first entity that satisfies a rule, one of `unit` if there is any. -/
def pick? (g : Graph) (unit : Text) (rule : Entity → Bool) : Option Entity :=
  let fitting := g.entities.values.filter rule
  (fitting.find? (·.unit = unit)).or fitting.head?

/-- Binds a name to an entity: exactly, then up to the case of ASCII letters, then from
    `snake_case`, then, if capitalized, as the end of a longer name. -/
def find? (g : Graph) (name unit : Text) : Option Entity :=
  match g.entity? name with
  | some e => some e
  | none =>
    if name.isEmpty then none
    else
      let camel := Text.camelCase name
      (g.pick? unit fun e => Text.eqIgnoringAsciiCase e.name name).or
        ((g.pick? unit fun e => e.name = camel).or
          (g.pick? unit fun e => Text.isCapitalized name && Text.endsWith e.name name))

end Graph

end OrmLens.Index
