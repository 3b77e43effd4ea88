/-
  Candidates, positions and ranges the way an editor receives them.
-/
import OrmLens.Cursor.Completion
import OrmLens.Document
import OrmLens.Json.Basic

namespace OrmLens.Server

open Cursor Document

/-- A position. -/
def positionJson (p : Position) : Json :=
  .obj [("line", .ofNat p.line), ("character", .ofNat p.character)]

/-- A range. -/
def rangeJson (r : Range) : Json :=
  .obj [("start", positionJson r.start), ("end", positionJson r.stop)]

/-- Text in Markdown. -/
def markdown (value : Text) : Json :=
  .obj [("kind", .str "markdown"), ("value", .str value)]

/-- The number that stands for a kind of item. -/
def kindCode : CandidateKind → Nat
  | .method | .operation => 2
  | .fieldType => 4
  | .field => 5
  | .entity => 7
  | .property => 10
  | .lookup => 24

/-- The snippet of a candidate, unless its name is inserted as it is. -/
def snippet? (c : Candidate) : Option Text :=
  match c.insertion with
  | .bare => none
  | .keyword => some (c.name ++ "=$0")
  | .call true => some (c.name ++ "($0)")
  | .call false => some (c.name ++ "()")
  | .quotedCall => some (c.name ++ "('$0')")
  | .traverse => some (c.name ++ "$0")

/-- The command that makes an editor complete again. -/
def suggestAgain : Json :=
  .obj [("title", .str "Suggest"), ("command", .str "editor.action.triggerSuggest")]

/-- The item of a candidate, which replaces the text in the range. -/
def itemJson (range : Range) (c : Candidate) : Json :=
  let snippet := snippet? c
  let edit := Json.obj [("newText", .str (snippet.getD c.name)), ("range", rangeJson range)]
  .sparse [
    ("label", some (.str c.name)),
    ("kind", some (.ofNat (kindCode c.kind))),
    ("detail", some (.str c.detail)),
    ("documentation", c.documentation.map markdown),
    ("insertTextFormat", snippet.map fun _ => .ofNat 2),
    ("textEdit", some edit),
    ("command", if c.insertion = .traverse then some suggestAgain else none)]

end OrmLens.Server
