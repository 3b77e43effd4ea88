/-
  The schema of a unit: all its models and their relations, computed from the text alone.
-/
import OrmLens.Model.Inheritance

namespace OrmLens.Model

open Source

/-- What a unit contributes to the graph. -/
structure Schema where
  path : Text
  entities : List Entity
  relations : List Relation
deriving DecidableEq, Repr

/-- Whether a base makes its class a model, given the models declared before. -/
def isModelBase (known : List Text) (base : Text) : Bool :=
  let name := Text.afterLast '.' base
  Text.endsWith name "Model" || known.contains name

/-- The model declarations, given the models declared before. -/
def modelDeclarationsFrom (known : List Text) : List Declaration → List Declaration
  | [] => []
  | d :: rest =>
    if d.bases.any (isModelBase known) then d :: modelDeclarationsFrom (d.name :: known) rest
    else modelDeclarationsFrom known rest

/-- The declarations of a unit that are models: a base ends in `Model` or is a model declared
    earlier. -/
def modelDeclarations (u : SourceUnit) : List Declaration := modelDeclarationsFrom [] u.decls

namespace Schema

/-- The models of a unit; of two with one name the later is kept, at the place of the earlier. -/
def ofUnit (u : SourceUnit) : Schema :=
  let entities := ((modelDeclarations u).map (entityOf u)).foldl Named.upsert []
  { path := u.path, entities, relations := entities.flatMap relationsOf }

/-- The models of a text. -/
def extract (path text : Text) : Schema := ofUnit { path, text }

/-- The names of the models. -/
def names (s : Schema) : List Text := s.entities.map (·.name)

end Schema

end OrmLens.Model
