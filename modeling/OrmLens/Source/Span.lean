/-
  Spans of a text: a half-open interval of byte offsets.
-/
import OrmLens.Text.Basic

namespace OrmLens.Source

/-- The bytes from `start` up to, and without, `stop`. -/
structure Span where
  start : Nat
  stop : Nat
deriving DecidableEq, Repr

namespace Span

/-- Whether an offset lies in the span. -/
def holds (s : Span) (offset : Nat) : Bool := s.start ≤ offset && offset < s.stop

/-- Whether an offset lies in the span or at its end. -/
def holdsClosed (s : Span) (offset : Nat) : Bool := s.holds offset || s.stop == offset

/-- The part of a text that the span covers. -/
def slice (s : Span) (t : Text) : Text :=
  Text.takeBytes (s.stop - s.start) (Text.dropBytes s.start t)

/-- Whether an offset lies in one of the spans. -/
def anyHolds (offset : Nat) (spans : List Span) : Bool := spans.any (·.holds offset)

end Span

/-- The 0-based line that an offset lies on: the number of newlines before it. -/
def lineOf (t : Text) (offset : Nat) : Nat := (Text.takeBytes offset t).count '\n'

end OrmLens.Source
