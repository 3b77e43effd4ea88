/-
  Paths of source units, read as their components: repeated and trailing slashes do not count, nor
  does a `.` after the first component.
-/
import OrmLens.Text.Basic

namespace OrmLens

/-- A path by its components. -/
structure UnitPath where
  rooted : Bool
  parts : List Text
deriving DecidableEq, Repr

namespace UnitPath

/-- The components between the slashes of a path. -/
def ofText (t : Text) : UnitPath :=
  let rooted := t.head? == some '/'
  let named := (Text.splitOn '/' t).filter (!·.isEmpty)
  let keepsDot := !rooted && named.head? == some ['.']
  let parts := named.filter (· ≠ ['.'])
  ⟨rooted, if keepsDot then ['.'] :: parts else parts⟩

/-- The path without its last component; the root and the empty path have none. -/
def parent? (p : UnitPath) : Option UnitPath :=
  if p.parts.isEmpty then none else some { p with parts := p.parts.dropLast }

/-- The last component, if it is a name. -/
def fileName? (p : UnitPath) : Option Text :=
  p.parts.getLast?.filter fun name => name ≠ ['.'] ∧ name ≠ ['.', '.']

/-- What follows the last dot of the file name; a leading dot does not count. -/
def extension? (p : UnitPath) : Option Text :=
  p.fileName?.bind fun name =>
    match Text.splitLast? '.' name with
    | some (_ :: _, extension) => some extension
    | _ => none

/-- Whether the path lies at or below `root`, component by component. -/
def isUnder (p root : UnitPath) : Bool :=
  p.rooted == root.rooted && root.parts.isPrefixOf p.parts

/-- Whether a path is a unit of models: `models.py`, or any unit of a folder `models`. -/
def isModels (p : UnitPath) : Bool :=
  p.extension? == some "py"
    && (p.fileName? == some "models.py" || (p.parent?.bind fileName?) == some "models")

/-- The application that a unit belongs to: its folder, or the one above a folder `models`. -/
def app? (p : UnitPath) : Option Text :=
  p.parent?.bind fun folder =>
    folder.fileName?.bind fun name =>
      if name = "models" then folder.parent?.bind fileName? else some name

end UnitPath

end OrmLens
