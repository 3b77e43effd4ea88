/-
  Class declarations: the header `class Name(bases):` and the block below it.
-/
import OrmLens.Source.Pattern
import OrmLens.Source.Error

namespace OrmLens.Source

open CharClass

/-- A class header. `bases` is the text between its parentheses. -/
structure ClassHeader where
  indent : Nat
  name : Text
  bases : Option Text
deriving DecidableEq, Repr

/-- A declared class. -/
structure Declaration where
  name : Text
  /-- Base expressions as written; keyword arguments are not bases. -/
  bases : List Text
  indent : Nat
  /-- Where the header's line starts. -/
  start : Nat
  /-- From the header's colon to the next line that is not indented deeper than the header. -/
  body : Span
deriving DecidableEq, Repr

/-- The bases of a class and the text after them. The parentheses end at the first closing one. -/
def readBases (t : Text) : Option (Option Text × Text) :=
  match t with
  | '(' :: inside =>
    match inside.dropWhile (· != ')') with
    | _ :: rest => some (some (inside.takeWhile (· != ')')), rest)
    | [] => none
  | _ => some (none, t)

/-- Reads a class header at the start of a line, up to its colon. -/
def readClassHeader : Reader ClassHeader := fun t => do
  let indent := Text.bytes (t.takeWhile isBlank)
  let afterKeyword ← keyword? "class" (t.dropWhile isBlank)
  let (name, afterName) ← word? afterKeyword
  let (bases, afterBases) ← readBases (afterName.dropWhile isBlank)
  let rest ← mark? ':' afterBases
  return (⟨indent, name, bases⟩, rest)

/-- The positional arguments of a base list. -/
def baseExprs (bases : Text) : List Text :=
  (Argument.parseAll bases).filterMap Argument.positional?

namespace Declaration

/-- The declaration of a header. -/
def ofHeader (h : Found ClassHeader) : Declaration where
  name := h.value.name
  bases := (h.value.bases.map baseExprs).getD []
  indent := h.value.indent
  start := h.start
  body := ⟨h.stop, blockEnd h.value.indent h.stop h.rest⟩

/-- The text of the body. -/
def bodyText (d : Declaration) (t : Text) : Text := d.body.slice t

/-- Indentation of the first statement below the header's line, if the body has such a line. -/
def memberIndent? (d : Declaration) (t : Text) : Option Nat :=
  (((Text.lines (d.bodyText t)).drop 1).find? (!Text.isBlankLine ·)).map Text.indentOf

end Declaration

/-- Every class declared in a text, nested ones included, in source order. -/
def declarations (t : Text) : List Declaration :=
  (foundAt readClassHeader 0 t).map Declaration.ofHeader

/-- The first declaration with the name. -/
def findDeclaration? (name : Text) (decls : List Declaration) : Option Declaration :=
  decls.find? (·.name = name)

/-- The first declaration with the name, or the reason why there is none. -/
def declaration (t name : Text) : Except ScanError Declaration :=
  match findDeclaration? name (declarations t) with
  | some d => .ok d
  | none => .error (.missingDeclaration name)

end OrmLens.Source
