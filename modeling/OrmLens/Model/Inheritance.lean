/-
  Complete entities: what the class declares, what the bases in the same unit add, and what the
  framework supplies.

  The class wins over its bases and an earlier base over a later one.
-/
import OrmLens.Model.Members
import OrmLens.UnitPath

namespace OrmLens.Model

open Framework Source

/-- Adds the members whose names are not taken yet. -/
def Members.mergeAll (m base : Members) : Members where
  fields := Named.mergeAll m.fields base.fields
  methods := Named.mergeAll m.methods base.methods
  properties := Named.mergeAll m.properties base.properties
  managers := Named.mergeAll m.managers base.managers

/-- Marks the fields of a base as inherited. -/
def Members.inheritedFrom (m : Members) (base : Text) : Members :=
  { m with fields := m.fields.map fun f => { f with origin := .inherited base } }

/-- The classes of the unit that a class inherits from, depth first in the order of the bases. The
    class itself and the framework's bases are left out. -/
def ancestors (u : SourceUnit) (d : Declaration) : List Declaration :=
  let others := u.decls.filter fun b => b.name ≠ d.name && !frameworkBases.contains b.name
  walk (·.bases) others d.bases

/-- The members of a class with those of its ancestors. -/
def inheritedMembers (u : SourceUnit) (d : Declaration) : Members :=
  (ancestors u d).foldl
    (fun m base => m.mergeAll ((membersOf u base d.name).inheritedFrom base.name))
    (membersOf u d d.name)

/-- The methods that the framework supplies. -/
def suppliedMethods : List Method :=
  defaultMethods.map fun m => ⟨m.name, .onInstance, m.params, none⟩

/-- Adds what every model has; the default manager comes first if the model has none of its name. -/
def Members.withDefaults (m : Members) : Members :=
  { m with
    methods := Named.mergeAll m.methods suppliedMethods
    properties := Named.mergeAll m.properties defaultProperties
    managers := if Named.taken m.managers defaultManager then m.managers
      else Manager.default :: m.managers }

/-! ## Abstract models -/

/-- Whether `abstract = True` stands here. -/
def readsAbstract (t : Text) : Bool :=
  let found := do
    let afterName ← Text.after? "abstract" (t.dropWhile CharClass.isBlank)
    let afterEquals ← mark? '=' afterName
    Text.after? "True" (afterEquals.dropWhile CharClass.isBlank)
  match found with
  | none => false
  | some [] => true
  | some (c :: _) => !CharClass.isWord c

/-- Whether `abstract = True` stands at the start of a line or after a semicolon. `fresh` says that
    the text starts at such a place. -/
def declaresAbstractFrom (fresh : Bool) : Text → Bool
  | [] => false
  | c :: t => (fresh && readsAbstract (c :: t)) || declaresAbstractFrom (c == '\n' || c == ';') t

/-- Whether a class body declares its model abstract. -/
def declaresAbstract (body : Text) : Bool := declaresAbstractFrom true body

/-- Whether a class `Meta` inside the body, indented deeper, declares the model abstract. -/
def isAbstract (u : SourceUnit) (d : Declaration) : Bool :=
  u.decls.any fun inner =>
    inner.name = "Meta" && d.indent < inner.indent && d.body.holds inner.start
      && declaresAbstract (inner.bodyText u.text)

/-! ## Entities -/

/-- The entity of a declaration. -/
def entityOf (u : SourceUnit) (d : Declaration) : Entity where
  name := d.name
  unit := u.path
  app := (UnitPath.ofText u.path).app?
  location := u.locate d.start
  members := (inheritedMembers u d).withDefaults
  bases := d.bases
  isAbstract := isAbstract u d

end OrmLens.Model
