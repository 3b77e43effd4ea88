/-
  The forms of a line that binds a name, or shows that a function starts.
-/
import OrmLens.Source.Pattern

namespace OrmLens.Cursor

open CharClass Source

/-- What a line binds. -/
inductive LineForm where
  /-- `name = value` or `name: note = value` -/
  | assignment (name : Text) (note : Option Text) (value : Text)
  /-- `name, other = value` -/
  | pair (name value : Text)
  /-- `for name in values:` -/
  | loop (name values : Text)
  /-- `name: note` -/
  | note (name note : Text)
  /-- `def f(name: note, …` with the annotated parameters -/
  | function (params : List (Text × Text))
  | other
deriving DecidableEq, Repr

/-- A name that starts with an ASCII letter or an underscore. -/
def name? (t : Text) : Option (Text × Text) :=
  match t with
  | c :: _ => if isNameStart c then some (t.takeWhile isWord, t.dropWhile isWord) else none
  | [] => none

/-- The right-hand side after an `=`. It is not empty and does not start with another `=`; a blank
    before it is part of it if nothing else makes it so. -/
def readValue (t : Text) : Option Text :=
  match t.dropWhile isBlank with
  | c :: rest =>
    if c ≠ '=' then some (c :: rest)
    else ((t.takeWhile isBlank).getLast?).map (· :: c :: rest)
  | [] => ((t.takeWhile isBlank).getLast?).map ([·])

/-- `name = value`, with or without an annotation. -/
def readAssignment (line : Text) : Option LineForm := do
  let (name, afterName) ← name? (line.dropWhile isBlank)
  match afterName.dropWhile isBlank with
  | '=' :: rest => (readValue rest).map (.assignment name none)
  | ':' :: noted =>
    match noted.takeWhile (· != '='), noted.dropWhile (· != '=') with
    | c :: note, _ :: rest =>
      (readValue rest).map (.assignment name (some (Text.trim (c :: note))))
    | _, _ => none
  | _ => none

/-- `name, other = value`, with or without parentheses. -/
def readPair (line : Text) : Option LineForm := do
  let opened := line.dropWhile isBlank
  let inside := ((Text.after? ['('] opened).getD opened).dropWhile isBlank
  let (name, afterName) ← name? inside
  let afterComma ← mark? ',' afterName
  let (_, afterOther) ← word? (afterComma.dropWhile isBlank)
  let closed := afterOther.dropWhile isBlank
  let rest ← mark? '=' ((Text.after? [')'] closed).getD closed)
  (readValue rest).map (.pair name)

/-- `for name in values:`. -/
def readLoop (line : Text) : Option LineForm := do
  let afterFor ← keyword? "for" (optionalKeyword "async" (line.dropWhile isBlank))
  let (name, afterName) ← name? afterFor
  let afterIn ← (blanks? afterName).bind (Text.after? "in")
  let body ← blanks? afterIn
  let head ← Text.before? [':'] (Text.dropEndWhile isBlank body)
  match Text.dropEndWhile isBlank head with
  | [] => if 2 ≤ (afterIn.takeWhile isBlank).length then some (.loop name [' ']) else none
  | values => some (.loop name values)

/-- Characters of a short annotation. -/
def isNoteChar (c : Char) : Bool := isWord c || c == '.' || isQuote c

/-- `name: note`, and what follows. -/
def readNote (t : Text) : Option ((Text × Text) × Text) := do
  let (name, afterName) ← name? (t.dropWhile isBlank)
  let noted := (← mark? ':' afterName).dropWhile isBlank
  match noted.takeWhile isNoteChar with
  | [] => none
  | note => some ((name, note), noted.dropWhile isNoteChar)

/-- A line that is an annotation and nothing else. -/
def readBareNote (line : Text) : Option LineForm :=
  (readNote line).bind fun ((name, note), rest) =>
    if (rest.dropWhile isBlank).isEmpty then some (.note name note) else none

/-- The annotated names after an opening parenthesis or a comma. -/
def annotatedParams : Text → List (Text × Text)
  | [] => []
  | c :: t =>
    if c = '(' ∨ c = ',' then
      match readNote t with
      | some (param, _) => param :: annotatedParams t
      | none => annotatedParams t
    else annotatedParams t

/-- `def f(`, with or without `async`. -/
def readFunction (line : Text) : Option LineForm := do
  let afterDef ← keyword? "def" (optionalKeyword "async" (line.dropWhile isBlank))
  let (_, afterName) ← word? afterDef
  let _ ← mark? '(' afterName
  return .function (annotatedParams line)

/-- The form of a line: the first that fits, comments left out. -/
def LineForm.ofLine (line : Text) : LineForm :=
  let code := stripComment line
  let readers := [readAssignment, readPair, readLoop, readBareNote, readFunction]
  (readers.findSome? (· code)).getD .other

/-- The indentation and the name of a class header. -/
def readClassLine (line : Text) : Option (Nat × Text) := do
  let afterKeyword ← keyword? "class" (line.dropWhile isBlank)
  let (name, _) ← word? afterKeyword
  return (Text.bytes (line.takeWhile isBlank), name)

end OrmLens.Cursor
