/-
  Readers of one construct at one place, and the search for all the places where a reader
  succeeds.

  A search looks at the starts of lines only, and not inside what an earlier reading has taken.
-/
import OrmLens.Source.Span
import OrmLens.Source.Argument

namespace OrmLens.Source

open CharClass

/-- Reads something at the start of a text and returns the rest. -/
abbrev Reader (α : Type) := Text → Option (α × Text)

/-- Skips blanks, at least one. -/
def blanks? (t : Text) : Option Text :=
  match t with
  | c :: rest => if isBlank c then some (rest.dropWhile isBlank) else none
  | [] => none

/-- Skips a keyword and the blanks that must follow it. -/
def keyword? (word t : Text) : Option Text := (Text.after? word t).bind blanks?

/-- Skips a keyword and its blanks if they are there. -/
def optionalKeyword (word t : Text) : Text := (keyword? word t).getD t

/-- Skips blanks and one given character. -/
def mark? (c : Char) (t : Text) : Option Text := Text.after? [c] (t.dropWhile isBlank)

/-- A reading, where it starts and stops, and the text after it. -/
structure Found (α : Type) where
  start : Nat
  stop : Nat
  value : α
  rest : Text
deriving Repr

/-- Searches a text that stands at `offset`. `fresh` says that a line starts here; nothing is read
    before the offset `resume`. -/
def foundFrom {α : Type} (read : Reader α) (offset resume : Nat) (fresh : Bool) :
    Text → List (Found α)
  | [] => []
  | c :: t =>
    match (if fresh && resume ≤ offset then read (c :: t) else none) with
    | some (value, rest) =>
      let stop := offset + (Text.bytes (c :: t) - Text.bytes rest)
      ⟨offset, stop, value, rest⟩ :: foundFrom read (offset + c.utf8Size) stop (c == '\n') t
    | none => foundFrom read (offset + c.utf8Size) resume (c == '\n') t

/-- All readings at line starts of a text that stands at `offset`; its first character starts a
    line. -/
def foundAt {α : Type} (read : Reader α) (offset : Nat) (t : Text) : List (Found α) :=
  foundFrom read offset offset true t

/-! ## Blocks -/

/-- The offset of the first line that carries code and is indented at most `indent`, or `total`. -/
def blockEndFrom (indent total : Nat) (offset : Nat) : List Text → Nat
  | [] => total
  | line :: rest =>
    if !Text.isBlankLine line && Text.indentOf line ≤ indent then offset
    else blockEndFrom indent total (offset + Text.bytes line + 1) rest

/-- Where the block of a header ends, given the text from the header's end on. The rest of the
    header's own line belongs to the block. -/
def blockEnd (indent offset : Nat) (rest : Text) : Nat :=
  match Text.lines rest with
  | [] => offset
  | first :: below =>
    blockEndFrom indent (offset + Text.bytes rest) (offset + Text.bytes first + 1) below

end OrmLens.Source
