/-
  Entities as JSON, the way a dump of the graph shows them.
-/
import OrmLens.Json.Basic
import OrmLens.Model.Relation

namespace OrmLens.Model

open Framework

/-- A place. -/
def Location.toJson (l : Location) : Json :=
  .obj [("unit", .str l.unit), ("line", .ofNat l.line)]

/-- A default value without its kind. An infinite number has no JSON. -/
def DefaultValue.toJson : DefaultValue → Json
  | .bool value => .bool value
  | .int value => .int value
  | .float value => .ofOption .decimal value.literal?
  | .str content => .str content
  | .expr source => .str source

/-- Where a field comes from. -/
def Origin.toJson : Origin → Json
  | .declared => .str "Declared"
  | .inherited base => .obj [("Inherited", .obj [("from", .str base)])]
  | .reverse field => .obj [("Reverse", .obj [("field", .str field)])]

/-- A field, with its default value and its extra arguments encoded as told. -/
def Field.encode (default : DefaultValue → Json) (extra : List (Text × Text) → Json) (f : Field) :
    Json :=
  .obj [
    ("name", .str f.name),
    ("declared_type", .str f.declaredType),
    ("required", .bool f.required),
    ("help_text", .ofOption .str f.helpText),
    ("max_length", .ofOption .ofNat f.maxLength),
    ("choices", .ofOption .ofTexts f.choices),
    ("default", .ofOption default f.default),
    ("related_entity", .ofOption .str f.relatedEntity),
    ("extra", extra f.extra.entries),
    ("origin", f.origin.toJson),
    ("location", .ofOption Location.toJson f.location)]

/-- A field. -/
def Field.toJson (f : Field) : Json :=
  f.encode DefaultValue.toJson fun extra => .obj (extra.map fun e => (e.1, .str e.2))

/-- How a method is called. -/
def MethodKind.word : MethodKind → Text
  | .onInstance => "Instance"
  | .property => "Property"
  | .onClass => "ClassMethod"
  | .static => "StaticMethod"

/-- A method. -/
def Method.toJson (m : Method) : Json :=
  .obj [
    ("name", .str m.name),
    ("kind", .str m.kind.word),
    ("params", .ofTexts m.params),
    ("location", .ofOption Location.toJson m.location)]

/-- Where a manager comes from. -/
def ManagerKind.word : ManagerKind → Text
  | .stock => "Default"
  | .custom => "Custom"
  | .reverse => "SynthesizedReverse"

/-- A manager. -/
def Manager.toJson (m : Manager) : Json :=
  .obj [
    ("name", .str m.name),
    ("kind", .str m.kind.word),
    ("class", .ofOption .str m.className),
    ("methods", .ofTexts m.methods)]

/-- An entity, with its fields encoded as told. -/
def Entity.encode (field : Field → Json) (e : Entity) : Json :=
  .obj [
    ("name", .str e.name),
    ("source_unit", .str e.unit),
    ("app", .ofOption .str e.app),
    ("location", e.location.toJson),
    ("fields", .ofList field e.fields),
    ("methods", .ofList Method.toJson e.methods),
    ("properties", .ofTexts e.properties),
    ("managers", .ofList Manager.toJson e.managers),
    ("base_classes", .ofTexts e.bases),
    ("is_abstract", .bool e.isAbstract)]

/-- An entity. -/
def Entity.toJson (e : Entity) : Json := e.encode Field.toJson

end OrmLens.Model
