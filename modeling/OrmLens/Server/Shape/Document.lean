/-
  Shapes of what messages say about documents: places and ranges in them, edits, commands and
  diagnostics.
-/
import OrmLens.Server.Shape

namespace OrmLens.Server.Shape

/-! ## Places -/

/-- A line and a column. -/
def position : Shape := parts [part "line" nat32, part "character" nat32]

/-- A start and an end. -/
def range : Shape := parts [part "start" position, part "end" position]

/-- A document by its address. -/
def document : Shape := parts [part "uri" .address]

/-- A range of a document. -/
def location : Shape := parts [part "uri" .address, part "range" range]

/-- A place in a document. -/
def place : List Part := [part "textDocument" document, part "position" position]

/-! ## Progress -/

/-- A number or a text that names something. -/
def token : Shape := .either .int32 .text

/-- The token under which progress is reported. -/
def progress : List Part := [maybe "workDoneToken" token]

/-- The tokens under which progress and parts of the answer are reported. -/
def reporting : List Part := progress ++ [maybe "partialResultToken" token]

/-! ## Edits -/

/-- A new text for a range. -/
def textEdit : Shape := parts [part "range" range, part "newText" .text]

/-- An edit with the name of its annotation. -/
def annotatedEdit : Shape :=
  members [part "range" range, part "newText" .text, part "annotationId" .text]

/-- Edits of one document. -/
def documentEdit : Shape :=
  parts [
    part "textDocument" (parts [part "uri" .address, maybe "version" .int32]),
    part "edits" (.list (.either textEdit annotatedEdit))]

/-- A file to be created, renamed or deleted. -/
def fileOperation : Shape :=
  let overwriting := flags ["overwrite", "ignoreIfExists"]
  let create := parts [
    part "kind" (.word ["create"]),
    part "uri" .address,
    maybe "options" overwriting,
    maybe "annotationId" .text]
  let rename := parts [
    part "kind" (.word ["rename"]),
    part "oldUri" .address,
    part "newUri" .address,
    maybe "options" overwriting,
    maybe "annotationId" .text]
  let delete := parts [
    part "kind" (.word ["delete"]),
    part "uri" .address,
    maybe "options" (parts [
      maybe "recursive" .bool, maybe "ignoreIfNotExists" .bool, maybe "annotationId" .text])]
  .either create (.either rename delete)

/-- Edits of a whole workspace. -/
def workspaceEdit : Shape :=
  let annotation := parts [
    part "label" .text, maybe "needsConfirmation" .bool, maybe "description" .text]
  parts [
    ("changes", .defaulted, .nullable (.dictionary .address (.list textEdit))),
    maybe "documentChanges"
      (.either (.list documentEdit) (.list (.either fileOperation documentEdit))),
    maybe "changeAnnotations" (.dictionary .text annotation)]

/-! ## Texts and commands -/

/-- How a text is marked up. -/
def markupKind : Shape := .word ["plaintext", "markdown"]

/-- A text, plain or with its markup. -/
def documentation : Shape :=
  .either .text (parts [part "kind" markupKind, part "value" .text])

/-- A command with its arguments. -/
def command : Shape :=
  parts [part "title" .text, part "command" .text, maybe "arguments" (.list .any)]

/-- A diagnostic of a document. -/
def diagnostic : Shape :=
  parts [
    part "range" range,
    maybe "severity" .int32,
    maybe "code" token,
    maybe "codeDescription" (parts [part "href" .address]),
    maybe "source" .text,
    part "message" .text,
    maybe "relatedInformation"
      (.list (parts [part "location" location, part "message" .text])),
    maybe "tags" (.list .int32),
    maybe "data" .any]

/-! ## Workspaces -/

/-- A folder. -/
def folder : Shape := parts [part "uri" .address, part "name" .text]

end OrmLens.Server.Shape
