/-
  Strings, comments and brackets.

  One state machine decides what a character means: code, part of a comment, or part of a string.
  `group?` follows brackets with it to the one that closes a group; `pieces` cuts at the commas
  that no bracket encloses. Both read the same characters as code, so inside a group the two agree
  on the depth of every character.

  A second, simpler reading (`segments`) knows no escapes. It is the one that removes comments.
-/
import OrmLens.Text.Line

namespace OrmLens.Source

open CharClass

/-- What the next character is part of. -/
inductive Mode where
  | code
  | comment
  | quoted (delim : Char)
deriving DecidableEq, Repr

/-- The state between two characters. `escaped` says that a backslash came just before, inside a
    string. -/
structure Lexical where
  mode : Mode := .code
  escaped : Bool := false
deriving DecidableEq, Repr

/-- Single or double quote. -/
def isQuote (c : Char) : Bool := c == '\'' || c == '"'

theorem eq_of_isQuote {c : Char} (h : isQuote c = true) : c = '\'' ∨ c = '"' := by
  simpa [isQuote] using h

/-- Opening brackets of the three kinds. -/
def isOpening (c : Char) : Bool := c == '(' || c == '[' || c == '\x7b'

/-- Closing brackets of the three kinds. -/
def isClosing (c : Char) : Bool := c == ')' || c == ']' || c == '\x7d'

/-- What a character does to the nesting. -/
inductive Bracket where
  | opening
  | closing
  | other
deriving DecidableEq, Repr

namespace Lexical

/-- The state after a character. -/
def next (s : Lexical) (c : Char) : Lexical :=
  match s.mode with
  | .comment => if c = '\n' then { s with mode := .code } else s
  | .quoted delim =>
    if s.escaped then { s with escaped := false }
    else if c = '\\' then { s with escaped := true }
    else if c = delim then { s with mode := .code }
    else s
  | .code =>
    if isQuote c then { s with mode := .quoted c }
    else if c = '#' then { s with mode := .comment }
    else s

/-- The state after a text. -/
def run (s : Lexical) (t : Text) : Lexical := t.foldl next s

/-- Brackets count in code only. -/
def bracket (s : Lexical) (c : Char) : Bracket :=
  if s.mode ≠ .code then .other
  else if isOpening c then .opening
  else if isClosing c then .closing
  else .other

/-- Whether a character is a comma of the code. -/
def comma (s : Lexical) (c : Char) : Bool := s.mode == .code && c == ','

theorem run_append (s : Lexical) (t u : Text) : s.run (t ++ u) = (s.run t).run u :=
  List.foldl_append ..

end Lexical

/-! ## Groups -/

/-- Reads on inside a group, with `depth` further brackets open: what is left of the group, and what
    follows its closing bracket. -/
def groupFrom (s : Lexical) (depth : Nat) : Text → Option (Text × Text)
  | [] => none
  | c :: t =>
    match s.bracket c, depth with
    | .closing, 0 => some ([], t)
    | .closing, depth + 1 => (groupFrom (s.next c) depth t).map fun g => (c :: g.1, g.2)
    | .opening, depth => (groupFrom (s.next c) (depth + 1) t).map fun g => (c :: g.1, g.2)
    | .other, depth => (groupFrom (s.next c) depth t).map fun g => (c :: g.1, g.2)

/-- For a text that starts right after an opening bracket: the inside of the group, and what follows
    the closing bracket. Brackets of the three kinds are not told apart. -/
def group? (t : Text) : Option (Text × Text) := groupFrom {} 0 t

/-- The offset of the bracket that closes the group whose inside starts at `start`. -/
def closingBracket? (t : Text) (start : Nat) : Option Nat :=
  (group? (Text.dropBytes start t)).map fun g => start + Text.bytes g.1

/-! ## Pieces between commas -/

/-- Reads on at `depth` open brackets: the pieces between the commas outside all brackets. A closing
    bracket without partner leaves the depth at zero. -/
def piecesFrom (s : Lexical) (depth : Nat) : Text → List Text
  | [] => [[]]
  | c :: t =>
    if s.comma c && depth == 0 then [] :: piecesFrom (s.next c) depth t
    else
      let depth := match s.bracket c with
        | .opening => depth + 1
        | .closing => depth - 1
        | .other => depth
      Text.glue c (piecesFrom (s.next c) depth t)

theorem piecesFrom_ne_nil (s : Lexical) (depth : Nat) (t : Text) : piecesFrom s depth t ≠ [] := by
  cases t with
  | nil => simp [piecesFrom]
  | cons c t =>
    rw [piecesFrom]
    split
    · simp
    · exact Text.glue_ne_nil _ _

/-- The pieces between top-level commas. -/
def pieces (t : Text) : List Text := piecesFrom {} 0 t

/-! ## Comments -/

/-- The stretches of code between comments. A string ends at the next quote of its kind, escaped or
    not, and a comment at the end of its line. -/
def segmentsFrom : Mode → Text → List Text
  | _, [] => [[]]
  | .comment, c :: t => if c = '\n' then segmentsFrom .code t else segmentsFrom .comment t
  | .quoted delim, c :: t =>
    Text.glue c (segmentsFrom (if c = delim then .code else .quoted delim) t)
  | .code, c :: t =>
    if c = '#' then [] :: segmentsFrom .comment t
    else Text.glue c (segmentsFrom (if isQuote c then .quoted c else .code) t)

/-- The stretches of code between the comments of a text. -/
def segments (t : Text) : List Text := segmentsFrom .code t

/-- The first stretch of code that is not white space, trimmed; empty if there is none. -/
def firstCode (t : Text) : Text :=
  (((segments t).map Text.trim).find? (!·.isEmpty)).getD []

/-- A line up to its comment, without white space at its end. -/
def stripComment (line : Text) : Text := Text.trimEnd ((segments line).headD [])

end OrmLens.Source
