/-
  The members that a class body declares.

  Fields and managers are call assignments at the indentation of the body's first statement,
  outside all methods; the last assignment to a name wins. Methods are headers at the same
  indentation.
-/
import OrmLens.Model.Relation
import OrmLens.Model.SourceUnit

namespace OrmLens.Model

open CharClass Framework Source

/-! ## Fields -/

/-- The field type that a callee constructs, if it constructs one: a capitalized attribute of
    `models`, or a bare name that ends in `Field` or is a relation. -/
def fieldTypeOf? (callee : Text) : Option Text :=
  match Text.splitLast? '.' callee with
  | some (owner, type) =>
    let fromModels := owner = "models" || Text.endsWith owner ".models"
    let isType := Text.isCapitalized type && !Text.hasPart "Manager" type
      && !Text.hasPart "QuerySet" type
    if fromModels && isType then some type else none
  | none => if Text.endsWith callee "Field" || isRelational callee then some callee else none

/-- The items of a list or tuple literal, as written. -/
def literalItems? (t : Text) : Option (List Text) :=
  let expr := Text.trim t
  let inside (opening closing : Char) : Option Text :=
    (Text.after? [opening] expr).bind (Text.before? [closing])
  ((inside '[' ']').or (inside '(' ')')).map splitArguments

/-- Records one keyword argument; what has no place of its own, or does not fit it, is extra. -/
def Field.withKeyword (textLike : Bool) (f : Field) (key value : Text) : Field :=
  let asExtra : Field := { f with extra := f.extra.insert key value }
  if key = "help_text" then
    match stringLiteral? value with
    | some content => { f with helpText := some content }
    | none => asExtra
  else if key = "max_length" then
    match (if textLike then Number.unsigned? Number.word32 value else none) with
    | some n => { f with maxLength := some n }
    | none => asExtra
  else if key = "choices" then
    match literalItems? value with
    | some items => { f with choices := some items }
    | none => asExtra
  else if key = "default" then { f with default := some (DefaultValue.parse value) }
  else asExtra

/-- Records one argument. -/
def Field.withArgument (textLike : Bool) (f : Field) : Argument → Field
  | .keyword key value => f.withKeyword textLike key value
  | .positional _ => f

/-- Whether an argument makes its field optional. -/
def makesOptional : Argument → Bool
  | .keyword key value => (key = "null" || key = "blank") && value = "True"
  | .positional _ => false

/-- The field that a call declares. `owner` is the model that `self` relations point to. -/
def fieldOf (u : SourceUnit) (owner : Text) (call : CallAssignment) (declaredType : Text)
    (args : List Argument) : Field :=
  let textLike := lookupFamily declaredType == .text
  let plain : Field := { name := call.target, declaredType }
  { args.foldl (Field.withArgument textLike) plain with
    required := !args.any makesOptional
    relatedEntity := if isRelational declaredType then resolveTarget? args owner else none
    location := some (u.locate call.stmt.start) }

/-! ## Managers -/

/-- Whether a method of a manager class is offered. -/
def isOffered (name : Text) : Bool := !Text.startsWith name ['_'] && name ≠ "get_queryset"

/-- The method names that a class declares at its member indentation. -/
def ownMethodNames (u : SourceUnit) (d : Declaration) : List Text :=
  match d.memberIndent? u.text with
  | none => []
  | some indent => ((u.headersOf d).filter (·.indent = indent)).map (·.name)

/-- The bases of a manager class that the search follows. A class whose body stands on the header's
    line ends the search. -/
def managerBasesOf (u : SourceUnit) (d : Declaration) : List Text :=
  match d.memberIndent? u.text with
  | none => []
  | some _ => (d.bases.map (Text.afterLast '.')).filter (!managerBases.contains ·)

/-- The methods offered by a manager or query set class of the unit and by its bases there. -/
def managerMethods (u : SourceUnit) (className : Text) : List Text :=
  let classes := walk (managerBasesOf u) u.decls [className]
  Named.mergeAll [] ((classes.flatMap (ownMethodNames u)).filter isOffered)

/-- A manager of a class declared somewhere. -/
def customManager (u : SourceUnit) (name className : Text) : Manager where
  name := name
  kind := .custom
  className := some className
  methods := managerMethods u className

/-- The manager that a call declares, if it declares one. -/
def managerOf? (u : SourceUnit) (call : CallAssignment) (args : List Argument) : Option Manager :=
  match Text.before? ".as_manager" call.callee with
  | some querySet => some (customManager u call.target (Text.afterLast '.' querySet))
  | none =>
    if Text.endsWith call.callee ".from_queryset" then
      (args.findSome? Argument.positional?).map fun querySet =>
        customManager u call.target (Text.afterLast '.' querySet)
    else
      let className := Text.afterLast '.' call.callee
      if !Text.hasPart "Manager" className then none
      else if className = "Manager" then
        some { name := call.target, kind := .stock, className := some className }
      else some (customManager u call.target className)

/-! ## Attributes -/

/-- A class-level assignment that declares a member. -/
inductive Attribute where
  | field (f : Field)
  | manager (m : Manager)
deriving DecidableEq, Repr

/-- What a call declares. -/
def attributeOf? (u : SourceUnit) (owner : Text) (call : CallAssignment) : Option Attribute :=
  let args := Argument.parseAll (call.args.slice u.text)
  match fieldTypeOf? call.callee with
  | some type => some (.field (fieldOf u owner call type args))
  | none => (managerOf? u call args).map .manager

/-- Adds an attribute; it replaces whatever had its name. -/
def Members.withAttribute (m : Members) : Attribute → Members
  | .field f =>
    { m with fields := Named.upsert m.fields f, managers := Named.without m.managers f.name }
  | .manager g =>
    { m with fields := Named.without m.fields g.name, managers := Named.upsert m.managers g }

/-! ## Methods -/

/-- Whether a name has two underscores at either end. -/
def isDunder (name : Text) : Bool := Text.startsWith name "__" && Text.endsWith name "__"

/-- What a decorator says about a method: another kind, nothing, or that the method belongs to a
    property recorded already. -/
def decoratedKind? (kind : MethodKind) (decorator : Text) : Option MethodKind :=
  let name := Text.afterLast '.' decorator
  if name = "property" ∨ name = "cached_property" then some .property
  else if name = "classmethod" then some .onClass
  else if name = "staticmethod" then some .static
  else if name = "setter" ∨ name = "deleter" then none
  else some kind

/-- The parameters without the receiver. -/
def withoutReceiver (kind : MethodKind) : List Text → List Text
  | [] => []
  | first :: rest =>
    if kind ≠ .static && !Text.startsWith first ['*'] then rest else first :: rest

/-- The method that a header declares, unless the framework supplies it. -/
def methodOf? (u : SourceUnit) (h : MethodHeader) : Option Method :=
  if isDunder h.name || lifecycleMethods.contains h.name then none
  else
    (h.decorators.foldlM decoratedKind? MethodKind.onInstance).map fun kind =>
      { name := h.name, kind, params := withoutReceiver kind h.params
        location := some (u.locate h.start) }

/-- Adds a method; it replaces the one of its name. A property's name is recorded once. -/
def Members.withMethod (m : Members) (method : Method) : Members :=
  { m with
    methods := Named.upsert m.methods method
    properties := if method.kind = .property then Named.merge m.properties method.name
      else m.properties }

/-! ## A class body -/

/-- The assignments at the member indentation and outside all methods. -/
def classLevelCalls (u : SourceUnit) (d : Declaration) (indent : Nat) : List CallAssignment :=
  let spans := (u.headersOf d).map (·.span)
  (u.callsOf d).filter fun call =>
    call.indent = indent && !Span.anyHolds call.stmt.start spans

/-- The members declared in a class body. `owner` is the model that `self` relations point to. -/
def membersOf (u : SourceUnit) (d : Declaration) (owner : Text) : Members :=
  match d.memberIndent? u.text with
  | none => {}
  | some indent =>
    let attributes := (classLevelCalls u d indent).filterMap (attributeOf? u owner)
    let methods := ((u.headersOf d).filter (·.indent = indent)).filterMap (methodOf? u)
    methods.foldl Members.withMethod (attributes.foldl Members.withAttribute {})

end OrmLens.Model
