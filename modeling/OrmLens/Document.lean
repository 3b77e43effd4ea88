/-
  Open documents and the positions in them.

  A position is a line and a column in UTF-16 code units. Lines end at every kind of line break,
  and a carriage return with a newline is one break. A column past the end of its line runs on
  into the next lines.
-/
import OrmLens.Text.CharClass
import OrmLens.Text.Basic

namespace OrmLens.Document

open CharClass

/-- A line and a column, both counted from 0. -/
structure Position where
  line : Nat
  character : Nat
deriving DecidableEq, Repr

/-- The text between two positions. -/
structure Range where
  start : Position
  stop : Position
deriving DecidableEq, Repr

/-- Characters that end a line. -/
def isLineBreak (c : Char) : Bool :=
  let n := c.toNat
  (10 ≤ n && n ≤ 13) || n == 0x85 || n == 0x2028 || n == 0x2029

/-- The lines with their breaks; the last one has none and may be empty. -/
def lines : Text → List Text
  | [] => [[]]
  | '\r' :: '\n' :: t => ['\r', '\n'] :: lines t
  | c :: t => if isLineBreak c then [c] :: lines t else Text.glue c (lines t)

/-- The lines make up the text. -/
theorem flatten_lines (t : Text) : (lines t).flatten = t := by
  fun_induction lines t with
  | case1 => rfl
  | case2 t ih => simp [ih]
  | case3 c t _ hc ih => simp [ih]
  | case4 c t _ hc ih =>
    have glued (l : List Text) : (Text.glue c l).flatten = c :: l.flatten := by
      cases l <;> simp [Text.glue]
    rw [glued, ih]

/-- The text before a line; the line after the last one starts at the end. -/
def beforeLine? (t : Text) (line : Nat) : Option Text :=
  let all := lines t
  if line ≤ all.length then some (all.take line).flatten else none

/-- Code units of one character. -/
def charUnits (c : Char) : Nat := if c.toNat < 0x10000 then 1 else 2

/-- Bytes of the characters that end within the first `units` code units. -/
def bytesWithinUnits (units : Nat) : Text → Nat
  | [] => 0
  | c :: t =>
    if units < charUnits c then 0 else c.utf8Size + bytesWithinUnits (units - charUnits c) t

/-- The characters that end within the first `count` bytes. -/
def takeWithin (count : Nat) : Text → Text
  | [] => []
  | c :: t => if count < c.utf8Size then [] else c :: takeWithin (count - c.utf8Size) t

/-- The byte offset of a position, unless it lies past the end of the text. -/
def offsetOf? (t : Text) (p : Position) : Option Nat :=
  (beforeLine? t p.line).bind fun before =>
    let target := Text.units16 before + p.character
    if target ≤ Text.units16 t then some (bytesWithinUnits target t) else none

/-- The line that holds an offset: its number, the line, and the offset in it. -/
def findLine (offset line : Nat) : List Text → Nat × Text × Nat
  | [] => (line, [], offset)
  | [last] => (line, last, offset)
  | first :: rest =>
    if offset < Text.bytes first then (line, first, offset)
    else findLine (offset - Text.bytes first) (line + 1) rest

/-- The position of a byte offset; inside a character, that of the character. -/
def positionOf? (t : Text) (offset : Nat) : Option Position :=
  if offset ≤ Text.bytes t then
    let (line, text, inLine) := findLine offset 0 (lines t)
    some ⟨line, Text.units16 (takeWithin inLine text)⟩
  else none

/-- The text that an analysis at an offset needs: the line up to it, and `lookBack` lines before. -/
def precedingText? (t : Text) (offset lookBack : Nat) : Option Text :=
  if offset ≤ Text.bytes t then
    let (line, _, _) := findLine offset 0 (lines t)
    (beforeLine? t (line - lookBack)).map fun before =>
      Text.dropBytes (Text.bytes before) (Text.takeBytes offset t)
  else none

/-- An identifier of a document. -/
structure Word where
  word : Text
  /-- The text before it, as an analysis needs it. -/
  preceding : Text
  range : Range
deriving DecidableEq, Repr

/-- The identifier that a position touches. -/
def wordAt? (t : Text) (p : Position) (lookBack : Nat) : Option Word := do
  let offset ← offsetOf? t p
  let (_, line, inLine) := findLine offset 0 (lines t)
  let left := Text.takeEndWhile isIdent (Text.takeBytes inLine line)
  let right := (Text.dropBytes inLine line).takeWhile isIdent
  if left.isEmpty && right.isEmpty then none
  else
    let start := offset - Text.bytes left
    let stop := offset + Text.bytes right
    let preceding ← precedingText? t start lookBack
    return ⟨left ++ right, preceding, ⟨← positionOf? t start, ← positionOf? t stop⟩⟩

end OrmLens.Document
