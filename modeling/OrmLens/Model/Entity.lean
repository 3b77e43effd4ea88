/-
  Models: fields, methods, properties and managers under one name.
-/
import OrmLens.Framework.Defaults
import OrmLens.Framework.QuerySet
import OrmLens.Model.Field

namespace OrmLens.Model

open Framework

/-- How a method is called. -/
inductive MethodKind where
  | onInstance
  | property
  | onClass
  | static
deriving DecidableEq, Repr

/-- A method; the receiver is not among its parameters. -/
structure Method where
  name : Text
  kind : MethodKind
  params : List Text
  location : Option Location
deriving DecidableEq, Repr

instance : Named Method := ⟨Method.name⟩

/-- `name(a, b=1)`. -/
def Method.signature (m : Method) : Text := m.name ++ "(" ++ Text.join ", " m.params ++ ")"

/-- Where a manager comes from. -/
inductive ManagerKind where
  /-- The stock manager. -/
  | stock
  | custom
  /-- Put there by a relation to the entity. -/
  | reverse
deriving DecidableEq, Repr

/-- A manager. -/
structure Manager where
  name : Text
  kind : ManagerKind
  /-- The class of a declared manager, or of its query set. -/
  className : Option Text := none
  /-- Methods of a custom manager. -/
  methods : List Text := []
deriving DecidableEq, Repr

instance : Named Manager := ⟨Manager.name⟩

/-- The manager of a model that declares none. -/
def Manager.default : Manager := { name := defaultManager, kind := .stock }

/-- What a class body declares, without anything inherited. -/
structure Members where
  fields : List Field := []
  methods : List Method := []
  properties : List Text := []
  managers : List Manager := []
deriving DecidableEq, Repr

/-- A model. -/
structure Entity where
  name : Text
  /-- The unit that declares it. -/
  unit : Text
  /-- The application, if the path tells. -/
  app : Option Text
  location : Location
  members : Members
  /-- Base expressions as written. -/
  bases : List Text
  isAbstract : Bool
deriving DecidableEq, Repr

instance : Named Entity := ⟨Entity.name⟩

namespace Entity

/-- The fields in order. -/
def fields (e : Entity) : List Field := e.members.fields

/-- The methods in order. -/
def methods (e : Entity) : List Method := e.members.methods

/-- The properties in order. -/
def properties (e : Entity) : List Text := e.members.properties

/-- The managers in order. -/
def managers (e : Entity) : List Manager := e.members.managers

/-- The field with the name. -/
def field? (e : Entity) (name : Text) : Option Field := Named.find? e.fields name

/-- The method with the name. -/
def method? (e : Entity) (name : Text) : Option Method := Named.find? e.methods name

/-- The manager with the name. -/
def manager? (e : Entity) (name : Text) : Option Manager := Named.find? e.managers name

end Entity

end OrmLens.Model
