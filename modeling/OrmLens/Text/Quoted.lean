/-
  Quoted text: double quotes around it, and an escape for every character that would not show as
  itself.
-/
import OrmLens.Text.Basic
import OrmLens.Text.PrintTable
import OrmLens.Text.CharClass

namespace OrmLens

namespace CharClass

/-- Characters that attach to the one before them. -/
def isGraphemeExtend (c : Char) : Bool :=
  if c.toNat < 128 then false else withinBounds graphemeExtendBounds c.toNat false

/-- Characters that show as themselves. -/
def isPrintable (c : Char) : Bool :=
  if c.toNat < 128 then 32 ≤ c.toNat && c.toNat != 127
  else !withinBounds unprintableBounds c.toNat false

end CharClass

namespace Text

open CharClass

/-- A character by its code point, as `\u{…}` in small hexadecimal digits. -/
def codeEscape (c : Char) : Text :=
  ['\\', 'u', '\x7b'] ++ Nat.toDigits 16 c.toNat ++ ['\x7d']

/-- How one character stands inside double quotes. -/
def escaped (c : Char) : Text :=
  if c.toNat = 0 then ['\\', '0']
  else if c = '\t' then ['\\', 't']
  else if c = '\r' then ['\\', 'r']
  else if c = '\n' then ['\\', 'n']
  else if c = '"' then ['\\', '"']
  else if c = '\\' then ['\\', '\\']
  else if isGraphemeExtend c then codeEscape c
  else if isPrintable c then [c]
  else codeEscape c

/-- The text in double quotes. -/
def quoted (t : Text) : Text := '"' :: t.flatMap escaped ++ ['"']

end Text

end OrmLens
