/-
  What the identifier at the cursor names: its description and the place of its declaration.
-/
import OrmLens.Cursor.Completion

namespace OrmLens.Cursor

open CharClass Framework Index Model

/-- What an identifier names. -/
inductive Symbol where
  | entity (e : Entity)
  | field (e : Entity) (f : Field)
  | method (e : Entity) (m : Method)
  | property (e : Entity) (name : Text)
  | manager (e : Entity) (m : Manager)
  /-- A method of a custom manager. -/
  | managerMethod (m : Manager) (name : Text)
  | operation (op : Operation)
  | lookup (f : Field) (operator : Text)
  | fieldType (type : FieldType)
deriving DecidableEq, Repr

/-- A member of an entity: fields first, then methods, managers and properties. -/
def member? (e : Entity) (word : Text) : Option Symbol :=
  ((e.field? word).map (.field e)).or
    (((e.method? word).map (.method e)).or
      (((e.manager? word).map (.manager e)).or
        ((Named.find? e.properties word).map (.property e))))

/-- A lookup operator of a field, if it is the last part of a keyword. -/
def operator? (f : Field) (op : Text) (more : List Text) : Option Symbol :=
  if (lookupOperators f.declaredType).contains op && more.isEmpty then some (.lookup f op) else none

/-- Follows the parts of a query keyword from an entity, one relation per part. A part that is no
    field of the related entity has to be an operator. -/
def lookupPath? (g : Graph) (e : Entity) : List Text → Option Symbol
  | [] => none
  | [part] => (g.filterField? e part).map (.field e)
  | part :: next :: more =>
    (g.filterField? e part).bind fun f =>
      match f.relatedEntity.bind g.entity? with
      | none => operator? f next more
      | some related =>
        if (g.filterField? related next).isSome then lookupPath? g related (next :: more)
        else operator? f next more

/-- A member of a manager, or of a query set if no manager is named. -/
def managerMember? (e : Entity) (manager : Option Text) (word : Text) : Option Symbol :=
  match manager with
  | none => (querySetOperation? word).map .operation
  | some name =>
    (e.manager? name).bind fun m =>
      if m.methods.contains word then some (.managerMethod m word)
      else
        ((if m.kind = .reverse then relatedManagerOperation? word else none).or
          (querySetOperation? word)).map .operation

/-- What a word right after a text names. Outside of a chain only models are known. -/
def symbol? (s : State) (preceding word unit : Text) : Option Symbol :=
  let g := s.graph
  match context? s preceding unit with
  | some .entityName => (g.find? word unit).map .entity
  | some .fieldType => (fieldType? word).map .fieldType
  | some (.filterKeyword e) => e.bind fun e => lookupPath? g e (Text.splitOnPair '_' word)
  | some (.managerChain e manager) => e.bind fun e => managerMember? e manager word
  | some (.relatedField e field) =>
    (((e.field? field).bind (·.relatedEntity)).bind g.entity?).bind fun target =>
      member? target word
  | some (.record (some e)) => member? e word
  | some (.record none) | none =>
    if Text.endsWith (Text.dropEndWhile isIdent preceding) ['.'] then none
    else (g.entity? word).map .entity

/-! ## Descriptions -/

/-- The line break of a description. -/
def lineBreak : Text := "  \n"

/-- A code block and a line break. -/
def codeBlock (code : Text) : Text := "```python\n" ++ code ++ "\n```"

/-- A word shown as code. -/
def codeWord (word : Text) : Text := "`" ++ word ++ "`"

/-- Words shown as code, with commas between them. -/
def codeWords (words : List Text) : Text := Text.join ", " (words.map codeWord)

/-- A further line: a label and what it says. -/
def labelled (label value : Text) : Text := lineBreak ++ label ++ value

/-- A text, or nothing. -/
def orNothing {α : Type} (value : Option α) (text : α → Text) : Text :=
  match value with
  | some v => text v
  | none => []

/-- The description of a model. -/
def describeEntity (e : Entity) : Text :=
  let reverse := (e.fields.filter (·.isReverse)).map (·.name)
  let mark : Text := if e.isAbstract then "  # abstract" else []
  codeBlock ("class " ++ e.name ++ mark) ++ lineBreak
    ++ orNothing e.app (fun app => "*App:* " ++ codeWord app ++ lineBreak)
    ++ "*Defined in:* " ++ codeWord e.location.shown ++ lineBreak
    ++ "*Fields:* " ++ codeWords ((e.fields.filter (!·.isReverse)).map (·.name))
    ++ (if reverse.isEmpty then [] else labelled "*Reverse:* " (codeWords reverse))
    ++ (e.bases.filter (!frameworkBases.contains ·)).flatMap (labelled "*Inherits:* " <| codeWord ·)

/-- The declaration of a field, in short. -/
def fieldCode (f : Field) : Text :=
  f.name ++ " = " ++
    if f.isReverse then "<reverse of " ++ f.relatedEntity.getD ['?'] ++ ">"
    else "models." ++ f.declaredType ++ "("
      ++ orNothing f.relatedEntity (fun name => "\"" ++ name ++ "\", ") ++ "…)"

/-- Where a field comes from. -/
def describeOrigin : Origin → Text
  | .declared => []
  | .inherited base => " (from " ++ codeWord base ++ ")"
  | .reverse field => " via " ++ codeWord field

/-- The description of a field. -/
def describeField (e : Entity) (f : Field) : Text :=
  codeBlock (fieldCode f) ++ lineBreak
    ++ "*Defined on:* " ++ codeWord e.name ++ describeOrigin f.origin
    ++ (if !f.required && !f.isReverse then labelled "*Optional*" [] else [])
    ++ orNothing f.maxLength (labelled "*Max length:* " <| Text.ofNat ·)
    ++ orNothing f.default (labelled "*Default:* " <| codeWord ·.shown)
    ++ orNothing f.choices (labelled "*Choices:* " <| codeWords ·)
    ++ orNothing f.helpText (labelled [])

/-- The decorator that a kind of method is declared with. -/
def decoratorLine : MethodKind → Text
  | .onInstance => []
  | .property => "@property\n"
  | .onClass => "@classmethod\n"
  | .static => "@staticmethod\n"

/-- The description of a method. -/
def describeMethod (e : Entity) (m : Method) : Text :=
  codeBlock (decoratorLine m.kind ++ "def " ++ m.signature) ++ lineBreak
    ++ "*Defined on:* " ++ codeWord e.name
    ++ orNothing (suppliedDoc? m) (labelled [])

/-- The class of a manager, as shown. -/
def managerClass (m : Manager) : Text :=
  match m.kind with
  | .stock => "Manager"
  | .custom => m.className.getD "Manager"
  | .reverse => "RelatedManager"

/-- The description of a manager. -/
def describeManager (e : Entity) (m : Manager) : Text :=
  codeBlock (e.name ++ "." ++ m.name ++ ": " ++ managerClass m)
    ++ if m.methods.isEmpty then [] else labelled "*Methods:* " (codeWords m.methods)

/-- What is known of a property. -/
def propertyDoc (name : Text) : Text :=
  if defaultProperties.contains name then "The primary key of the instance" else "Property"

/-- The description of a symbol, in Markdown. -/
def Symbol.describe : Symbol → Text
  | .entity e => describeEntity e
  | .field e f => describeField e f
  | .method e m => describeMethod e m
  | .property e name =>
    codeBlock (e.name ++ "." ++ name) ++ lineBreak ++ propertyDoc name
  | .manager e m => describeManager e m
  | .managerMethod m name =>
    codeBlock (m.className.getD m.name ++ "." ++ name ++ "(…)") ++ lineBreak
      ++ "Custom manager method"
  | .operation op => codeBlock (op.name ++ op.signature) ++ lineBreak ++ op.doc
  | .lookup f op =>
    codeWord ("__" ++ op) ++ " lookup on " ++ codeWord f.name ++ " (" ++ f.declaredType ++ ")"
  | .fieldType type => codeBlock ("models." ++ type.name ++ "(…)") ++ lineBreak ++ type.description

/-- The description of a word right after a text. -/
def describe? (s : State) (preceding word unit : Text) : Option Text :=
  (symbol? s preceding word unit).map Symbol.describe

/-! ## Places -/

/-- The place of a field. A reverse field leads to the relational field that put it there. -/
def fieldLocation? (g : Graph) (f : Field) : Option Location :=
  match f.origin with
  | .reverse field =>
    ((f.relatedEntity.bind g.entity?).bind (·.field? field)).bind (·.location)
  | _ => f.location

/-- The place of a symbol's declaration. -/
def Symbol.location? (g : Graph) : Symbol → Option Location
  | .entity e => some e.location
  | .field _ f | .lookup f _ => fieldLocation? g f
  | .method _ m => m.location
  | .property .. | .manager .. | .managerMethod .. | .operation _ | .fieldType _ => none

/-- The place where a word right after a text is declared. -/
def locate? (s : State) (preceding word unit : Text) : Option Location :=
  (symbol? s preceding word unit).bind (Symbol.location? s.graph)

end OrmLens.Cursor
