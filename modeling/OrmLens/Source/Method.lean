/-
  Method headers: name, parameters, the decorators above and the block below.
-/
import OrmLens.Source.Declaration

namespace OrmLens.Source

open CharClass

/-- The part of a method header up to its opening parenthesis. -/
structure MethodHead where
  indent : Nat
  name : Text
deriving DecidableEq, Repr

/-- A method header. -/
structure MethodHeader where
  name : Text
  /-- Decorators without the `@` and without arguments, from the top. -/
  decorators : List Text
  /-- Parameters as written, the receiver included. -/
  params : List Text
  indent : Nat
  start : Nat
  /-- From the header to the last line of the method's block. -/
  span : Span
deriving DecidableEq, Repr

/-- Reads `def name(` at the start of a line, with or without `async`. -/
def readMethodHead : Reader MethodHead := fun t => do
  let indent := Text.bytes (t.takeWhile isBlank)
  let afterDef ← keyword? "def" (optionalKeyword "async" (t.dropWhile isBlank))
  let (name, afterName) ← word? afterDef
  let rest ← mark? '(' afterName
  return (⟨indent, name⟩, rest)

/-- Whether a character ends the name of a decorator. -/
def endsDecorator (c : Char) : Bool := c == '(' || c == ' ' || c == '\t'

/-- The decorators in the lines above a header, nearest first. Blank lines are skipped. -/
def decoratorsFrom (indent : Nat) : List Text → List Text
  | [] => []
  | line :: above =>
    match Text.trim line with
    | [] => decoratorsFrom indent above
    | '@' :: decorator =>
      if Text.indentOf line = indent then
        decorator.takeWhile (!endsDecorator ·) :: decoratorsFrom indent above
      else []
    | _ => []

/-- The decorators right above a header, given the text before it. -/
def decoratorsAbove (indent : Nat) (before : Text) : List Text :=
  (decoratorsFrom indent (Text.lines before).reverse).reverse

/-- Reads parameters and block of a method found in `body`. -/
def methodHeader (t : Text) (body : Span) (f : Found MethodHead) :
    Except ScanError MethodHeader :=
  match group? (Text.dropBytes f.stop t) with
  | none => .error (.malformedHeader f.value.name)
  | some (inside, rest) =>
    let close := f.stop + Text.bytes inside
    .ok { name := f.value.name
          decorators := decoratorsAbove f.value.indent (Text.takeBytes f.start t)
          params := splitArguments inside
          indent := f.value.indent
          start := f.start
          span := ⟨f.start, min (blockEnd f.value.indent (close + 1) rest) (max body.stop close)⟩ }

/-- The method headers anywhere in `body`, nested functions included. -/
def methodHeaders (t : Text) (body : Span) : List (Except ScanError MethodHeader) :=
  (foundAt readMethodHead body.start (body.slice t)).map (methodHeader t body)

end OrmLens.Source
