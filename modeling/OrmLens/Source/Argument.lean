/-
  Arguments of a call: the list cut at its commas, each argument positional or by keyword, and the
  string literals among their values.
-/
import OrmLens.Source.Lexical

namespace OrmLens.Source

open CharClass

/-- An argument as written. -/
inductive Argument where
  | positional (expr : Text)
  | keyword (key value : Text)
deriving DecidableEq, Repr

/-- A non-empty run of word characters, and what follows it. -/
def word? (t : Text) : Option (Text × Text) :=
  match t.takeWhile isWord with
  | [] => none
  | name => some (name, t.dropWhile isWord)

/-- Cuts an argument list at its top-level commas; each item is trimmed and freed of comments, and
    empty items are dropped. -/
def splitArguments (t : Text) : List Text :=
  ((pieces t).map firstCode).filter (!·.isEmpty)

namespace Argument

/-- Reads `key = value`, unless a second `=` makes it a comparison. -/
def parse (t : Text) : Argument :=
  match word? t with
  | none => .positional t
  | some (key, rest) =>
    match rest.dropWhile isBlank with
    | '=' :: '=' :: _ => .positional t
    | '=' :: value => .keyword key (Text.trim value)
    | _ => .positional t

/-- The arguments of an argument list. -/
def parseAll (t : Text) : List Argument := (splitArguments t).map parse

/-- The expression of a positional argument. -/
def positional? : Argument → Option Text
  | .positional expr => some expr
  | .keyword .. => none

/-- The value given to `key`. -/
def valueOf? (key : Text) : Argument → Option Text
  | .keyword k value => if k = key then some value else none
  | .positional _ => none

end Argument

/-! ## String literals -/

/-- Calls that mark their string for localization. -/
def markerCalls : List Text := ["_(", "gettext_lazy(", "gettext("]

/-- The argument of a localization call, or the expression itself. -/
def unmarked (expr : Text) : Text :=
  match markerCalls.findSome? (Text.after? · expr) with
  | none => expr
  | some inside =>
    match Text.before? [')'] inside with
    | some arg => Text.trim arg
    | none => expr

/-- Letters that may stand before a string. -/
def isStringLetter (c : Char) : Bool :=
  c == 'r' || c == 'u' || c == 'b' || c == 'R' || c == 'U' || c == 'B'

/-- Delimiters in the order in which they are tried. -/
def delimiters : List Text := [['"', '"', '"'], ['\'', '\'', '\''], ['"'], ['\'']]

/-- What stands between a delimiter and the same delimiter at the very end. -/
def between? (delim t : Text) : Option Text := (Text.after? delim t).bind (Text.before? delim)

/-- The content of an expression that starts and ends as one string literal. -/
def stringLiteral? (expr : Text) : Option Text :=
  let bare := (unmarked (Text.trim expr)).dropWhile isStringLetter
  delimiters.findSome? (between? · bare)

end OrmLens.Source
