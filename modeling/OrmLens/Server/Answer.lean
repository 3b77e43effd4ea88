/-
  Answers about places in open documents. A place in no open document, or past the end of its
  text, has none.
-/
import OrmLens.Cursor.Symbol
import OrmLens.Server.Item
import OrmLens.Server.State

namespace OrmLens.Server

open Cursor Document Workspace

/-- The unit and the text of the document at a place. -/
def documentAt? (s : State) (uri : Uri) : Option (Text × Text) :=
  uri.unit?.bind fun unit => (s.documents.get? uri.path).map fun text => (unit, text)

/-- The range that a completion replaces: the identifier before the position. -/
def typedRange (preceding : Text) (p : Position) : Range :=
  let typed := Text.units16 (Text.takeEndWhile CharClass.isIdent preceding)
  ⟨{ p with character := p.character - typed }, p⟩

/-- The candidates at a place. The list counts as incomplete when it is as long as it may be. -/
def completion? (s : State) (place : Place) : Option Json := do
  let (unit, text) ← documentAt? s place.uri
  let offset ← offsetOf? text place.position
  let preceding ← precedingText? text offset s.index.settings.lookBack
  let candidates := complete s.index preceding unit
  let range := typedRange preceding place.position
  return .obj [
    ("isIncomplete", .bool (s.index.settings.completionLimit ≤ candidates.length)),
    ("items", .ofList (itemJson range) candidates)]

/-- The description of the identifier at a place. -/
def hover? (s : State) (place : Place) : Option Json := do
  let (unit, text) ← documentAt? s place.uri
  let word ← wordAt? text place.position s.index.settings.lookBack
  let value ← describe? s.index word.preceding word.word unit
  return .obj [("contents", markdown value), ("range", rangeJson word.range)]

/-- The declaration of the identifier at a place. -/
def definition? (s : State) (place : Place) : Option Json := do
  let (unit, text) ← documentAt? s place.uri
  let word ← wordAt? text place.position s.index.settings.lookBack
  let location ← locate? s.index word.preceding word.word unit
  let uri ← Uri.ofUnit? location.unit
  let start : Position := ⟨location.line, 0⟩
  return .obj [("uri", .str uri.fileText), ("range", rangeJson ⟨start, start⟩)]

end OrmLens.Server
