/-
  Upper and lower case of characters and texts, with the full mappings: a letter may become
  several characters, and a capital sigma becomes a final sigma at the end of a word.
-/
import OrmLens.Text.Basic
import OrmLens.Text.CharClass

namespace OrmLens

namespace CharClass

/-- Letters that take part in casing. -/
def isCased (c : Char) : Bool :=
  if c.toNat < 128 then c.isAlpha else withinBounds casedBounds c.toNat false

/-- Characters that casing looks through: marks, modifiers and some punctuation. -/
def isCaseIgnorable (c : Char) : Bool :=
  if c.toNat < 128 then c == '\'' || c == '.' || c == ':' || c == '^' || c.toNat == 0x60
  else withinBounds caseIgnorableBounds c.toNat false

/-- The shift of the row that holds `c`, applied to it. -/
def shifted (rows : List Shift) (c : Char) : Char :=
  match rows.find? (·.holds c.toNat) with
  | some row => Char.ofNat (Int.toNat (Int.ofNat c.toNat + row.delta))
  | none => c

/-- Lower case of one character, away from any word. -/
def lower (c : Char) : Text :=
  if c.toNat < 128 then [c.toLower]
  else if c.toNat = 0x130 then ['i', '\u0307']
  else [shifted lowerShifts c]

/-- Upper case of one character. -/
def upper (c : Char) : Text :=
  if c.toNat < 128 then [c.toUpper]
  else match upperExpansions.find? (·.1 == c.toNat) with
    | some (_, codes) => codes.map Char.ofNat
    | none => [shifted upperShifts c]

end CharClass

namespace Text

open CharClass

/-- Whether the first character that casing does not look through is cased. -/
def meetsCased (t : Text) : Bool :=
  match t.dropWhile isCaseIgnorable with
  | c :: _ => isCased c
  | [] => false

/-- Lower case of the rest of a text, given the characters before it, nearest first. -/
def lowerAfter (before : Text) : Text → Text
  | [] => []
  | c :: t =>
    (if c = 'Σ' then (if meetsCased before && !meetsCased t then ['ς'] else ['σ']) else lower c)
      ++ lowerAfter (c :: before) t

/-- Lower case of a text. -/
def toLower (t : Text) : Text := lowerAfter [] t

/-- Whether the text starts with a capital letter. -/
def isCapitalized : Text → Bool
  | [] => false
  | c :: _ => isUpper c

/-- A piece with its first character in upper case. -/
def capitalize : Text → Text
  | [] => []
  | c :: t => upper c ++ t

/-- `snake_case` to `CamelCase`: each piece between underscores, capitalized. -/
def camelCase (t : Text) : Text := (splitOn '_' t).flatMap capitalize

end Text

end OrmLens
