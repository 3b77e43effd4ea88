/-
  Completion: the candidates of a context in order of rank, those that go on with the typed name,
  each name once, as many as the settings allow.
-/
import OrmLens.Bounded
import OrmLens.Cursor.Context

namespace OrmLens.Cursor

open Framework Index Model

/-- What a candidate is. -/
inductive CandidateKind where
  | field
  | lookup
  | method
  | property
  | operation
  | entity
  | fieldType
deriving DecidableEq, Repr

/-- How a candidate is inserted. -/
inductive Insertion where
  /-- The name alone. -/
  | bare
  /-- `name=` -/
  | keyword
  /-- `name()`, with the cursor inside if there are arguments to give. -/
  | call (args : Bool)
  /-- `name('')` -/
  | quotedCall
  /-- `name__`, to be completed again. -/
  | traverse
deriving DecidableEq, Repr

/-- A candidate. -/
structure Candidate where
  name : Text
  kind : CandidateKind
  detail : Text
  insertion : Insertion
  documentation : Option Text := none
deriving DecidableEq, Repr

instance : Named Candidate := ⟨Candidate.name⟩

/-! ## Selection -/

/-- Takes a candidate if there is room, it goes on with the typed name, and its name is new. -/
def select (typed : Text) (taken : Bounded Candidate) (c : Candidate) : Bounded Candidate :=
  if Text.startsWith c.name typed && !Named.taken taken.items c.name then taken.push c else taken

/-- Selects among ranked candidates. -/
def selectAll (limit : Nat) (typed : Text) (ranked : List Candidate) : List Candidate :=
  (ranked.foldl (select typed) { limit }).items

/-! ## Candidates -/

/-- A model's name. -/
def entityCandidate (e : Entity) : Candidate where
  name := e.name
  kind := .entity
  detail := match e.app with
    | some app => app ++ " model"
    | none => "Model"
  insertion := .bare
  documentation := some e.location.shown

/-- A field constructor. -/
def fieldTypeCandidate (type : FieldType) : Candidate where
  name := type.name
  kind := .fieldType
  detail := type.description
  insertion := .call true

/-- A field under the given name. -/
def fieldCandidate (name : Text) (f : Field) (insertion : Insertion) : Candidate where
  name := name
  kind := .field
  detail := if f.isReverse then "Reverse relation from " ++ f.relatedEntity.getD []
    else f.declaredType ++ " field"
  insertion := insertion
  documentation := f.helpText

/-- The lookups of a field reached by `path`. -/
def lookupCandidates (path : Text) (f : Field) : List Candidate :=
  (lookupOperators f.declaredType).map fun op =>
    { name := path ++ "__" ++ op
      kind := .lookup
      detail := f.declaredType ++ " lookup"
      insertion := .keyword }

/-- A field reached by `path`, then its lookups. -/
def queryCandidates (path : Text) (f : Field) : List Candidate :=
  fieldCandidate path f .keyword :: lookupCandidates path f

/-- What a query reaches through a field: the fields of the related model, or a hint to go on if the
    model is not known. -/
def throughCandidates (g : Graph) (path : Text) (f : Field) : List Candidate :=
  if !f.isRelational && !f.isReverse then []
  else
    match f.relatedEntity.bind g.entity? with
    | none =>
      [{ name := path ++ "__", kind := .field, detail := "Related lookup", insertion := .traverse }]
    | some related =>
      (related.fields.filter (!·.isReverse)).flatMap fun inner =>
        queryCandidates (path ++ "__" ++ inner.name) inner

/-- The keywords of a query on an entity. -/
def filterCandidates (g : Graph) (e : Entity) : List Candidate :=
  e.fields.flatMap fun f =>
    let path := g.queryName f
    queryCandidates path f ++ throughCandidates g path f

/-- An operation of a query set. -/
def operationCandidate (op : Operation) : Candidate where
  name := op.name
  kind := .operation
  detail := op.signature
  insertion :=
    if filterCalls.contains op.name then .call true
    else if (["order_by", "values", "values_list"] : List Text).contains op.name then .quotedCall
    else .call (!Text.startsWith op.signature "()")
  documentation := some op.doc

/-- What a manager offers beyond a query set. -/
def ownCandidates (m : Manager) : List Candidate :=
  match m.kind with
  | .stock => []
  | .custom =>
    m.methods.map fun method =>
      { name := method
        kind := .method
        detail := "Custom manager method"
        insertion := .call true
        documentation := m.className }
  | .reverse => relatedManagerOperations.map operationCandidate

/-- What a manager of the entity offers, or a query set if no manager is named. -/
def managerCandidates (e : Entity) : Option Text → List Candidate
  | none => querySetOperations.map operationCandidate
  | some name =>
    match e.manager? name with
    | none => []
    | some m => querySetOperations.map operationCandidate ++ ownCandidates m

/-- The documentation of a method that the framework supplies. -/
def suppliedDoc? (m : Method) : Option Text :=
  if m.location.isNone then (defaultMethods.find? (·.name = m.name)).map DefaultMethod.doc else none

/-- A property. -/
def propertyCandidate (name : Text) (documentation : Option Text) : Candidate where
  name := name
  kind := .property
  detail := "property"
  insertion := .bare
  documentation := documentation

/-- A method. -/
def methodCandidate (m : Method) : Candidate :=
  if m.kind = .property then propertyCandidate m.name (suppliedDoc? m)
  else
    { name := m.name
      kind := .method
      detail := m.signature
      insertion := .call (!m.params.isEmpty)
      documentation := suppliedDoc? m }

/-- The members of a record. -/
def recordCandidates (e : Entity) : List Candidate :=
  e.fields.map (fun f => fieldCandidate f.name f .bare)
    ++ e.methods.map methodCandidate
    ++ e.properties.map (propertyCandidate · none)

/-- The candidates of a context in order of rank. -/
def rankedCandidates (g : Graph) (typed : Text) : Context → List Candidate
  | .entityName => (g.entitiesStarting typed).map entityCandidate
  | .fieldType => declarableTypes.map fieldTypeCandidate
  | .filterKeyword (some e) => filterCandidates g e
  | .managerChain (some e) manager => managerCandidates e manager
  | .relatedField e field =>
    match ((e.field? field).bind (·.relatedEntity)).bind g.entity? with
    | some target => recordCandidates target
    | none => []
  | .record (some e) => recordCandidates e
  | .filterKeyword none | .managerChain none _ | .record none => []

/-- The candidates at the end of a text. -/
def complete (s : State) (preceding unit : Text) : List Candidate :=
  match context? s preceding unit with
  | none => []
  | some context =>
    let typed := typedName preceding
    selectAll s.settings.completionLimit typed (rankedCandidates s.graph typed context)

end OrmLens.Cursor
