/-
  Lines: white space at their ends, their indentation, and the last few lines of a text. A line
  ends at a newline only; a carriage return is white space like any other.
-/
import OrmLens.Text.Basic
import OrmLens.Text.CharClass

namespace OrmLens.Text

open CharClass

/-- The text without white space at its start. -/
def trimStart (t : Text) : Text := t.dropWhile isSpace

/-- The text without white space at its end. -/
def trimEnd (t : Text) : Text := dropEndWhile isSpace t

/-- The text without white space at either end. -/
def trim (t : Text) : Text := trimEnd (trimStart t)

/-- Bytes of leading white space. A tab counts one. -/
def indentOf (line : Text) : Nat := bytes (line.takeWhile isSpace)

/-- Whether a line carries no code: it is empty or holds only a comment. -/
def isBlankLine (line : Text) : Bool :=
  match trimStart line with
  | [] => true
  | c :: _ => c == '#'

/-- The lines of a text, without their newlines; the last one may be empty. -/
def lines (t : Text) : List Text := splitOn '\n' t

/-- The last `count` lines, the one being edited included. -/
def tailLines (t : Text) (count : Nat) : List Text :=
  let all := lines t
  all.drop (all.length - count)

theorem takeWhile_append_trimStart (t : Text) : t.takeWhile isSpace ++ trimStart t = t :=
  List.takeWhile_append_dropWhile

end OrmLens.Text
