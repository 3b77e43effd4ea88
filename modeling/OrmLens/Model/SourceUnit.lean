/-
  A source unit with its declarations, and the walk along the base classes declared in it.
-/
import OrmLens.Model.Location
import OrmLens.Source.Assignment
import OrmLens.Source.Method

namespace OrmLens.Model

open Source

/-- A unit of source text. -/
structure SourceUnit where
  path : Text
  text : Text
  decls : List Declaration := declarations text
  decls_eq : decls = declarations text := by rfl

namespace SourceUnit

/-- The first declaration with the name. -/
def find? (u : SourceUnit) (name : Text) : Option Declaration := findDeclaration? name u.decls

/-- The place of an offset. -/
def locate (u : SourceUnit) (offset : Nat) : Location := ⟨u.path, lineOf u.text offset⟩

/-- The method headers of a class body that could be read. -/
def headersOf (u : SourceUnit) (d : Declaration) : List MethodHeader :=
  (methodHeaders u.text d.body).filterMap Except.toOption

/-- The call assignments of a class body that could be read. -/
def callsOf (u : SourceUnit) (d : Declaration) : List CallAssignment :=
  (callAssignments u.text d.body).filterMap Except.toOption

end SourceUnit

/-! ## Walks along base classes -/

/-- The first pending name that has a declaration left, and the names after it. -/
def nextDeclared? (left : List Declaration) : List Text → Option (Declaration × List Text)
  | [] => none
  | name :: rest =>
    match findDeclaration? name left with
    | some d => some (d, rest)
    | none => nextDeclared? left rest

/-- Visits at most `count` classes, depth first: a visited class leaves the declarations that are
    left, and its bases come before the names still pending. -/
def walkFrom (basesOf : Declaration → List Text) :
    (count : Nat) → (left : List Declaration) → (pending : List Text) → List Declaration
  | 0, _, _ => []
  | count + 1, left, pending =>
    match nextDeclared? left pending with
    | none => []
    | some (d, rest) =>
      d :: walkFrom basesOf count (left.filter (·.name ≠ d.name)) (basesOf d ++ rest)

/-- The classes among `decls` that are reached from the names, in depth-first order, each once. -/
def walk (basesOf : Declaration → List Text) (decls : List Declaration) (names : List Text) :
    List Declaration :=
  walkFrom basesOf decls.length decls names

end OrmLens.Model
