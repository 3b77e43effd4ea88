/-
  What names and chains stand for at the cursor.

  There is no symbol table. The lines before the cursor are read from the nearest back, no further
  than the settings allow, and the nearest binding of a name decides.
-/
import OrmLens.Cursor.Chain
import OrmLens.Cursor.LineForm
import OrmLens.Index.Basic

namespace OrmLens.Cursor

open Framework Index Model Source

/-- What an expression stands for, as far as models go. -/
inductive Value where
  /-- The model class itself. -/
  | model (e : Entity)
  /-- A manager or query set of the model. -/
  | querySet (e : Entity)
  /-- One record. -/
  | record (e : Entity)
deriving DecidableEq, Repr

namespace Value

/-- The model concerned. -/
def entity : Value → Entity
  | .model e | .querySet e | .record e => e

/-- The model of a record. -/
def record? : Value → Option Entity
  | .record e => some e
  | _ => none

/-- The model of a manager or query set. -/
def querySet? : Value → Option Entity
  | .querySet e => some e
  | _ => none

/-- A subscript takes a record out of a query set, and a slice a query set; nothing else has
    subscripts. -/
def subscript? (v : Value) (s : Segment) : Option Value :=
  match v, s.subscript with
  | v, none => some v
  | .querySet e, some inside => if inside.contains ':' then some (.querySet e) else some (.record e)
  | _, some _ => none

end Value

/-! ## Chains -/

/-- The entity that an expression names: exactly, else by the rules for names. -/
def entityNamed? (g : Graph) (unit expr : Text) : Option Entity :=
  let name := Text.afterLast '.' (Text.trim ((stringLiteral? expr).getD expr))
  (g.entity? name).or (g.find? name unit)

/-- The entity that an annotation names. -/
def annotated? (g : Graph) (note : Text) : Option Entity :=
  let bare := Text.dropEndWhile isQuote ((Text.trim note).dropWhile isQuote)
  g.entity? (Text.afterLast '.' bare)

/-- What the first link stands for, given what names stand for. -/
def rootValue? (g : Graph) (unit : Text) (binding : Text → Option Value) (s : Segment) :
    Option Value :=
  let value? : Option Value :=
    match s.call with
    | none => binding s.name
    | some args =>
      if s.name = "get_object_or_404" then
        ((Argument.parseAll args).findSome? Argument.positional?).bind fun model =>
          (entityNamed? g unit model).map .record
      else if Text.isCapitalized s.name then (entityNamed? g unit s.name).map .record
      else none
  value?.bind (·.subscript? s)

/-- What an attribute of a record stands for. -/
def attributeValue? (g : Graph) (e : Entity) (name : Text) : Option Value :=
  (e.field? name).bind fun field =>
    (field.relatedEntity.bind g.entity?).bind fun target =>
      match RelationKind.of? field.declaredType with
      | some .toOne | some .toOneUnique => some (.record target)
      | some .toMany => some (.querySet target)
      | none => if field.isReverse then some (.querySet target) else none

/-- What one more link stands for. -/
def stepValue? (g : Graph) (v : Value) (s : Segment) : Option Value :=
  let next? : Option Value :=
    match v, s.call with
    | .model e, none =>
      if s.name = defaultManager || (e.manager? s.name).isSome then some (.querySet e) else none
    | .model e, some _ =>
      if isCollectionMethod s.name then some (.querySet e) else some (.record e)
    | .querySet e, some _ =>
      match (querySetOperation? s.name).map Operation.returns with
      | some .querySet => some (.querySet e)
      | some .record => some (.record e)
      | some .scalar => none
      | none => some (.querySet e)
    | .querySet _, none => none
    | .record e, none => attributeValue? g e s.name
    | .record _, some _ => none
  next?.bind (·.subscript? s)

/-- What a chain stands for, given what names stand for. -/
def evaluate? (g : Graph) (unit : Text) (binding : Text → Option Value) :
    List Segment → Option Value
  | [] => none
  | root :: rest => (rootValue? g unit binding root).bind fun v => rest.foldlM (stepValue? g) v

/-- What an expression stands for. -/
def evaluateText? (g : Graph) (unit : Text) (binding : Text → Option Value) (expr : Text) :
    Option Value :=
  (parseChain? expr).bind (evaluate? g unit binding)

/-! ## Bindings -/

/-- The class around the cursor: the nearest class header indented less than every line between it
    and the cursor. -/
def enclosing? (g : Graph) (indent : Nat) : List Text → Option Entity
  | [] => none
  | line :: older =>
    if (Text.trim line).isEmpty then enclosing? g indent older
    else
      match readClassLine line with
      | some (classIndent, name) =>
        if classIndent < indent then g.entity? name
        else enclosing? g (min indent (Text.indentOf line)) older
      | none => enclosing? g (min indent (Text.indentOf line)) older

/-- A name that no line binds: by itself it may name an entity, a capitalized one the class and any
    other a record. -/
def fallback? (g : Graph) (unit name : Text) : Option Value :=
  (g.find? name unit).map fun e => if Text.isCapitalized name then .model e else .record e

/-- What a pair of names is bound to: a record, if the value is a call that returns a record and a
    flag. -/
def pairValue? (g : Graph) (unit : Text) (binding : Text → Option Value) (value : Text) :
    Option Value :=
  (parseChain? value).bind fun chain =>
    chain.getLast?.bind fun last =>
      if last.name = "get_or_create" ∨ last.name = "update_or_create" then
        (evaluate? g unit binding chain.dropLast).bind fun v => v.querySet?.map .record
      else none

/-- What a line says about a name: nothing, or what it stands for from here on. `binding` is what
    names stand for before the line. -/
def lineBinding? (g : Graph) (unit : Text) (binding : Text → Option Value) (line name : Text) :
    Option (Option Value) :=
  match LineForm.ofLine line with
  | .assignment bound note value =>
    if bound = name then
      match note.bind (annotated? g) with
      | some e => some (some (.record e))
      | none => some (evaluateText? g unit binding value)
    else none
  | .pair bound value => if bound = name then some (pairValue? g unit binding value) else none
  | .loop bound values =>
    if bound = name then
      some ((evaluateText? g unit binding values).bind fun v => v.querySet?.map .record)
    else none
  | .note bound note => if bound = name then some ((annotated? g note).map .record) else none
  | .function params =>
    ((params.find? (·.1 = name)).bind fun param => annotated? g param.2).map
      fun e => some (.record e)
  | .other => none

/-- What a name stands for after the lines, which come nearest first. `self` and `cls` are the class
    around the cursor, whatever the lines bind. -/
def binding? (g : Graph) (unit : Text) (indent : Nat) : List Text → Text → Option Value
  | lines, name =>
    if name = "self" then (enclosing? g indent lines).map .record
    else if name = "cls" then (enclosing? g indent lines).map .model
    else
      match lines with
      | [] => fallback? g unit name
      | line :: older =>
        match lineBinding? g unit (binding? g unit indent older) line name with
        | some value => value
        | none => binding? g unit indent older name

/-- Where names are looked up. -/
structure Scope where
  graph : Graph
  unit : Text
  /-- The lines before the cursor's, nearest first. -/
  lines : List Text
  /-- Indentation of the cursor's line. -/
  indent : Nat

namespace Scope

/-- The scope at the end of a text. -/
def ofPreceding (s : State) (preceding unit : Text) : Scope :=
  let lines := (Text.tailLines preceding (s.settings.lookBack + 1)).reverse
  { graph := s.graph, unit, lines := lines.drop 1, indent := Text.indentOf (lines.headD []) }

/-- What a name stands for. -/
def valueOf? (s : Scope) (name : Text) : Option Value :=
  binding? s.graph s.unit s.indent s.lines name

/-- What a chain stands for. -/
def evaluate? (s : Scope) (chain : List Segment) : Option Value :=
  Cursor.evaluate? s.graph s.unit s.valueOf? chain

end Scope

end OrmLens.Cursor
