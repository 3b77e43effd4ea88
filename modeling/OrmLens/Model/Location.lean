/-
  Places of declarations.
-/
import OrmLens.Text.Basic

namespace OrmLens.Model

/-- A line of a source unit, counted from 0. -/
structure Location where
  unit : Text
  line : Nat
deriving DecidableEq, Repr

/-- `unit:line`, with the line counted from 1. -/
def Location.shown (l : Location) : Text := l.unit ++ ":" ++ Text.ofNat (l.line + 1)

end OrmLens.Model
