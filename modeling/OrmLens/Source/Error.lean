/-
  What can go wrong while a unit is scanned.
-/
import OrmLens.Text.Basic

namespace OrmLens.Source

/-- The causes. -/
inductive ScanError where
  /-- The bracket of a call is never closed. -/
  | unterminatedCall (callee : Text) (offset : Nat)
  /-- The parameter list of a method is never closed. -/
  | malformedHeader (name : Text)
  /-- No declaration has the name. -/
  | missingDeclaration (name : Text)
deriving DecidableEq, Repr

namespace ScanError

/-- The cause in one word. -/
def kind : ScanError → Text
  | .unterminatedCall .. => "UnterminatedCall"
  | .malformedHeader _ => "MalformedHeader"
  | .missingDeclaration _ => "MissingDeclaration"

/-- The cause in words. -/
def message : ScanError → Text
  | .unterminatedCall callee offset =>
    "unterminated call to `" ++ callee ++ "` at byte " ++ Text.ofNat offset
  | .malformedHeader name => "unterminated parameter list for `" ++ name ++ "`"
  | .missingDeclaration name => "declaration `" ++ name ++ "` not found in unit"

end ScanError

end OrmLens.Source
