/-
  Assignments of a call, `target = callee(arguments)`. The call may go on over several lines.
-/
import OrmLens.Source.Declaration

namespace OrmLens.Source

open CharClass

/-- The part of an assignment up to the opening parenthesis. -/
structure CallHead where
  indent : Nat
  target : Text
  callee : Text
deriving DecidableEq, Repr

/-- An assignment of a call. -/
structure CallAssignment where
  target : Text
  callee : Text
  indent : Nat
  /-- From the target to the closing parenthesis. -/
  stmt : Span
  /-- Between the parentheses. -/
  args : Span
deriving DecidableEq, Repr

/-- Skips an annotation, which is not empty, and the `=` of an assignment. -/
def readEquals (t : Text) : Option Text :=
  match t.dropWhile isBlank with
  | '=' :: rest => some rest
  | ':' :: noted =>
    let inNote (c : Char) : Bool := c != '=' && c != '\n'
    match noted.takeWhile inNote, noted.dropWhile inNote with
    | _ :: _, '=' :: rest => some rest
    | _, _ => none
  | _ => none

/-- A dotted name that starts with an ASCII letter or an underscore. -/
def readCallee (t : Text) : Option (Text × Text) :=
  match t with
  | [] => none
  | c :: _ =>
    if isNameStart c then
      some (t.takeWhile fun d => isWord d || d == '.', t.dropWhile fun d => isWord d || d == '.')
    else none

/-- Reads `target = callee(` at the start of a line. -/
def readCallHead : Reader CallHead := fun t => do
  let indent := Text.bytes (t.takeWhile isBlank)
  let (target, afterTarget) ← word? (t.dropWhile isBlank)
  let afterEquals ← readEquals afterTarget
  let (callee, afterCallee) ← readCallee (afterEquals.dropWhile isBlank)
  let rest ← mark? '(' afterCallee
  return (⟨indent, target, callee⟩, rest)

/-- Closes each call in turn. A head that starts before `consumed` is part of an earlier call: a
    keyword argument on a line of its own looks like an assignment too. -/
def closeCalls (t : Text) (consumed : Nat) :
    List (Found CallHead) → List (Except ScanError CallAssignment)
  | [] => []
  | f :: rest =>
    if f.start < consumed then closeCalls t consumed rest
    else
      match closingBracket? t f.stop with
      | none => .error (.unterminatedCall f.value.callee f.start) :: closeCalls t consumed rest
      | some close =>
        .ok { target := f.value.target
              callee := f.value.callee
              indent := f.value.indent
              stmt := ⟨f.start + f.value.indent, close + 1⟩
              args := ⟨f.stop, close⟩ }
          :: closeCalls t close rest

/-- The call assignments anywhere in `body`; one that is never closed is reported in its place. -/
def callAssignments (t : Text) (body : Span) : List (Except ScanError CallAssignment) :=
  closeCalls t 0 (foundAt readCallHead body.start (body.slice t))

end OrmLens.Source
