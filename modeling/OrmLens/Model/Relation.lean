/-
  Relations between models: the target that the arguments of a field name, and the accessor that
  the target gains.
-/
import OrmLens.Model.Entity

namespace OrmLens.Model

open CharClass Framework Source

/-- The model that a relation points to. -/
inductive Target where
  | entity (name : Text)
  /-- The source does not tell, as with a setting. -/
  | unresolved
deriving DecidableEq, Repr

/-- The name of a resolved target. -/
def Target.name? : Target → Option Text
  | .entity name => some name
  | .unresolved => none

/-- A relation declared by a field. -/
structure Relation where
  source : Text
  target : Target
  field : Text
  kind : RelationKind
  /-- The reverse name that the field gives. -/
  reverseName : Option Text
  /-- The unit that declares the source. -/
  unit : Text
deriving DecidableEq, Repr

namespace Relation

/-- The accessor that the target gains; a reverse name that ends in `+` suppresses it. -/
def accessor? (r : Relation) : Option Text :=
  match r.reverseName with
  | some name => if Text.endsWith name ['+'] then none else some name
  | none => some (Text.toLower r.source ++ "_set")

/-- Whether the relation starts or ends at the entity. -/
def touches (r : Relation) (name : Text) : Bool := r.source = name || r.target.name? == some name

end Relation

/-! ## Targets -/

/-- Whether a text is an identifier. -/
def isIdentifier : Text → Bool
  | [] => false
  | c :: t => isIdentStart c && t.all isIdent

/-- The model named by a string: the part after the last dot, `self` standing for the owner. -/
def targetOfString? (owner content : Text) : Option Text :=
  let name := Text.afterLast '.' content
  if name = "self" then some owner
  else if isIdentifier name then some name
  else none

/-- The model named by a dotted expression. A name without small letters is a constant if it is
    dotted or has an underscore, and a dotted name must be capitalized. -/
def targetOfName? (t : Text) : Option Text :=
  let expr := Text.trim t
  if !(Text.splitOn '.' expr).all isIdentifier then none
  else
    let name := Text.afterLast '.' expr
    let dotted := expr.contains '.'
    let constant := !name.any isLower && (dotted || name.contains '_')
    if constant || (dotted && !Text.isCapitalized name) then none else some name

/-- The model named by a target expression. -/
def targetOf? (owner expr : Text) : Option Text :=
  match stringLiteral? expr with
  | some content => targetOfString? owner content
  | none => targetOfName? expr

/-- The model named by the arguments of a relational field: `to=` wins over the first positional
    argument. -/
def resolveTarget? (args : List Argument) (owner : Text) : Option Text :=
  match args.findSome? (·.valueOf? "to"), args.findSome? Argument.positional? with
  | some expr, _ => targetOf? owner expr
  | none, some expr => targetOf? owner expr
  | none, none => none

/-! ## Relations of an entity -/

/-- The relation that a field declares. -/
def relationOf? (e : Entity) (f : Field) : Option Relation :=
  (RelationKind.of? f.declaredType).map fun kind =>
    { source := e.name
      target := match f.relatedEntity with
        | some name => .entity name
        | none => .unresolved
      field := f.name
      kind
      reverseName := f.extraString? "related_name"
      unit := e.unit }

/-- One relation per relational field, inherited ones included. -/
def relationsOf (e : Entity) : List Relation :=
  (e.fields.filter (!·.isReverse)).filterMap (relationOf? e)

end OrmLens.Model
