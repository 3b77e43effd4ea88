/-
  Fields of a model.
-/
import OrmLens.Framework.FieldType
import OrmLens.Model.DefaultValue
import OrmLens.Model.Location
import OrmLens.Model.Named
import OrmLens.Table
import OrmLens.Text.LetterCase

namespace OrmLens.Model

open Framework Source

/-- Where a field of an entity comes from. -/
inductive Origin where
  | declared
  /-- Declared in the body of a base class. -/
  | inherited (base : Text)
  /-- Put there by the relational field `field` of the related entity. -/
  | reverse (field : Text)
deriving DecidableEq, Repr

/-- A field. -/
structure Field where
  name : Text
  /-- The name of its constructor; unknown ones are fields too. -/
  declaredType : Text
  required : Bool := true
  helpText : Option Text := none
  maxLength : Option Nat := none
  choices : Option (List Text) := none
  default : Option DefaultValue := none
  /-- Target of a relation or source of a reverse field; `none` on a relation means unresolved. -/
  relatedEntity : Option Text := none
  /-- Keyword arguments without a place of their own, values as written. -/
  extra : Table Text Text := Table.empty
  origin : Origin := .declared
  location : Option Location := none
deriving DecidableEq, Repr

instance : Named Field := ⟨Field.name⟩

namespace Field

/-- Whether the field declares a relation. -/
def isRelational (f : Field) : Bool := Framework.isRelational f.declaredType

/-- Whether the field was put there by a relation to its entity. -/
def isReverse (f : Field) : Bool :=
  match f.origin with
  | .reverse _ => true
  | _ => false

/-- The string given to a keyword argument without a place of its own. -/
def extraString? (f : Field) (key : Text) : Option Text := (f.extra.get? key).bind stringLiteral?

/-- The field that a relation puts on its target. -/
def ofReverse (name source field : Text) : Field where
  name := name
  declaredType := reverseCollection
  required := false
  relatedEntity := some source
  origin := .reverse field

/-- The keyword that a query reaches the field with, given the fields of the related entity.

    Reverse fields go by the query name of the relational field, then its reverse name, then the
    related entity in lower case; the accessor `_set` is no query keyword. -/
def queryName (f : Field) (related : List Field) : Text :=
  match f.origin with
  | .reverse field =>
    let source := Named.find? related field
    match source.bind (·.extraString? "related_query_name"),
        source.bind (·.extraString? "related_name") with
    | some name, _ => name
    | none, some name => name
    | none, none => Text.toLower (f.relatedEntity.getD f.name)
  | _ => f.name

end Field

end OrmLens.Model
