/-
  What is being typed at the cursor, judged by the text before it.

  The readings are tried in order: an entity's name, a field type, a keyword of a query, then the
  dotted forms, where a manager beats a related field.
-/
import OrmLens.Cursor.Scope

namespace OrmLens.Cursor

open CharClass Framework Index Model Source

/-- What the cursor completes. -/
inductive Context where
  /-- A model: after an import, or as the target of a relation. -/
  | entityName
  /-- A field constructor. -/
  | fieldType
  /-- A keyword of a query on the entity. -/
  | filterKeyword (entity : Option Entity)
  /-- A member of a manager of the entity, or of a query set if no manager is named. -/
  | managerChain (entity : Option Entity) (manager : Option Text)
  /-- A member of what a relational field of the entity leads to. -/
  | relatedField (entity : Entity) (field : Text)
  /-- A member of a record. -/
  | record (entity : Option Entity)
deriving DecidableEq, Repr

namespace Context

/-- The context in one word. -/
def kind : Context → Text
  | .entityName => "entity-name"
  | .fieldType => "field-type"
  | .filterKeyword _ => "filter-kwargs"
  | .managerChain .. => "manager-chain"
  | .relatedField .. => "related-field-chain"
  | .record _ => "instance-access"

/-- The entity whose members the context is about. -/
def entity? : Context → Option Entity
  | .entityName | .fieldType => none
  | .filterKeyword e | .managerChain e _ | .record e => e
  | .relatedField e _ => some e

end Context

/-! ## The line at the cursor -/

/-- The line being edited: its end of identifier characters, and what stands before that. -/
structure CursorLine where
  head : Text
  typed : Text
deriving DecidableEq, Repr

/-- The last line of a text. -/
def CursorLine.ofPreceding (preceding : Text) : CursorLine :=
  let line := Text.afterLast '\n' preceding
  ⟨Text.dropEndWhile isIdent line, Text.takeEndWhile isIdent line⟩

/-- Whether the end of a line lies in a comment or in a string. -/
def inCommentOrString (line : Text) : Bool := (Lexical.run {} line).mode ≠ .code

/-! ## Imports and constructors -/

/-- Whether what follows `import` leaves room for one more name: nothing but blanks and parentheses
    after the last comma. -/
def listsNames (t : Text) : Bool :=
  let names := t.dropWhile isBlank
  let isOpen (c : Char) : Bool := isBlank c || c == '('
  names.all isOpen
    || match Text.splitLast? ',' ((Text.after? ['('] names).getD names) with
      | some (before, last) =>
        before.all (fun c => isWord c || isBlank c || c == ',') && last.all isOpen
      | none => false

/-- The module of `from module import`, if it is one of models and a name may follow. -/
def readModelsImport (head : Text) : Option Text := do
  let afterFrom ← keyword? "from" (head.dropWhile isBlank)
  let inPath (c : Char) : Bool := isWord c || c == '.'
  let path := afterFrom.takeWhile inPath
  let afterImport ← (blanks? (afterFrom.dropWhile inPath)).bind (Text.after? "import")
  if Text.endsWith path "models" && (blanks? afterImport).isSome && listsNames afterImport then
    return path
  else none

/-- Whether a text ends with a word that no word character precedes. -/
def endsWithWord (t word : Text) : Bool :=
  match Text.before? word t with
  | none => false
  | some before => !before.getLast?.any isWord

/-- Whether the cursor stands at the target argument of a relational field. -/
def atRelationTarget (head : Text) : Bool :=
  let unquoted := match head.getLast? with
    | some c => if isQuote c then head.dropLast else head
    | none => head
  let arg := Text.dropEndWhile isBlank unquoted
  let opened? : Option Text :=
    match Text.before? ['='] arg with
    | none => Text.before? ['('] arg
    | some keyword =>
      (Text.before? "to" (Text.dropEndWhile isBlank keyword)).bind fun before =>
        Text.before? ['('] (Text.dropEndWhile isBlank before)
  opened?.any fun callee =>
    (["ForeignKey", "OneToOneField", "ManyToManyField"] : List Text).any (endsWithWord callee)

/-- Whether the cursor stands after `models.`. -/
def atFieldType (head : Text) : Bool :=
  match Text.before? "models." head with
  | none => false
  | some before => !before.getLast?.any fun c => isWord c || c == '.'

/-! ## Calls -/

/-- The state after a character when strings and comments end with their line. An escape that the
    line's end cut off stays pending. -/
def Lexical.nextInLine (s : Lexical) (c : Char) : Lexical :=
  if c = '\n' then { s with mode := .code } else s.next c

/-- The brackets still open at the end of a text that stands at `offset`, innermost first, given
    those open before. -/
def openBracketsFrom (s : Lexical) (offset : Nat) (stack : List (Nat × Char)) :
    Text → List (Nat × Char)
  | [] => stack
  | c :: t =>
    let stack := match s.bracket c with
      | .opening => (offset, c) :: stack
      | .closing => stack.tail
      | .other => stack
    openBracketsFrom (Lexical.nextInLine s c) (offset + c.utf8Size) stack t

/-- The offset of the innermost bracket still open, if it is a parenthesis. -/
def openCall? (t : Text) : Option Nat :=
  match openBracketsFrom {} 0 [] t with
  | (offset, c) :: _ => if c = '(' then some offset else none
  | [] => none

/-- The last `count` lines of a text, at least one. -/
def window (t : Text) (count : Nat) : Text := Text.join ['\n'] (Text.tailLines t (max count 1))

/-- `receiver.filter(` with the cursor where a keyword may start. -/
def filterKeyword? (scope : Scope) (before : Text) : Option Context := do
  let opening ← openCall? before
  let arguments := Text.trimEnd (Text.dropBytes (opening + 1) before)
  if !arguments.isEmpty && !Text.endsWith arguments [','] then none
  else
    let chain ← parseChain? (trailingExpr (Text.takeBytes opening before))
    let call ← chain.getLast?
    let receiver := chain.dropLast
    if call.call.isSome || !filterCalls.contains call.name || receiver.isEmpty then none
    else return .filterKeyword ((scope.evaluate? receiver).bind Value.querySet?)

/-! ## Chains -/

/-- Reads `root.middle` with two bare names: a manager, by the model or by the name, or a relational
    field. -/
def twoNames? (scope : Scope) (root middle : Text) : Option Context :=
  let owner := (scope.valueOf? root).map Value.entity
  let isManager := owner.any (fun e => (e.manager? middle).isSome)
    || middle = defaultManager || managerEndings.any (Text.endsWith middle)
  if isManager then some (.managerChain owner (some middle))
  else
    (owner.filter fun e => (e.field? middle).any (·.isRelational)).map fun e =>
      .relatedField e middle

/-- Reads a chain by its value; a bare name without value is still an access to a record. -/
def chainContext? (scope : Scope) (chain : List Segment) : Option Context :=
  match scope.evaluate? chain with
  | some (.querySet e) => some (.managerChain (some e) none)
  | some v => some (.record (some v.entity))
  | none =>
    match chain with
    | [s] => if s.call.isNone then some (.record none) else none
    | _ => none

/-- Reads what precedes a dot. -/
def dotted? (scope : Scope) (chain : List Segment) : Option Context :=
  match chain with
  | [root, middle] =>
    if root.isPlain && middle.isPlain then
      (twoNames? scope root.name middle.name).or (chainContext? scope chain)
    else chainContext? scope chain
  | _ => chainContext? scope chain

/-- The context at the end of a text. -/
def context? (s : State) (preceding unit : Text) : Option Context :=
  let line := CursorLine.ofPreceding preceding
  match readModelsImport line.head with
  | some path =>
    if Text.endsWith path "django.db.models" then some .fieldType else some .entityName
  | none =>
    if atRelationTarget line.head then some .entityName
    else if inCommentOrString line.head then none
    else if atFieldType line.head then some .fieldType
    else
      let scope := Scope.ofPreceding s preceding unit
      let before := preceding.take (preceding.length - line.typed.length)
      match filterKeyword? scope (window before s.settings.lookBack) with
      | some context => some context
      | none => do
        let receiver ← Text.before? ['.'] line.head
        let chain ← parseChain? (trailingExpr receiver)
        dotted? scope chain

/-- The identifier being typed at the end of a text. -/
def typedName (preceding : Text) : Text := (CursorLine.ofPreceding preceding).typed

end OrmLens.Cursor
