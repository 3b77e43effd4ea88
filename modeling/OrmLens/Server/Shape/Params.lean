/-
  Shapes of the parameters of every request and notification that a client may send, the first
  message apart.
-/
import OrmLens.Server.Shape.Document

namespace OrmLens.Server.Shape

/-! ## Messages that are acted upon -/

/-- A request about a place, the progress of which may be reported. -/
def hover : Shape := members (place ++ progress)

/-- A request about a place that may be answered in parts. -/
def lookup : Shape := members (place ++ reporting)

/-- A request for completions, with what triggered it. -/
def completion : Shape :=
  members (place ++ reporting ++ [
    maybe "context" (parts [part "triggerKind" .int32, maybe "triggerCharacter" .text])])

/-- An opened document. -/
def opened : Shape :=
  parts [part "textDocument" (parts [
    part "uri" .address, part "languageId" .text, part "version" .int32, part "text" .text])]

/-- A changed document with its new texts. -/
def changed : Shape :=
  parts [
    part "textDocument" (parts [part "uri" .address, part "version" .int32]),
    part "contentChanges" (.list (parts [
      maybe "range" range, maybe "rangeLength" nat32, part "text" .text]))]

/-- A saved document, with its text or without. -/
def saved : Shape := parts [part "textDocument" document, maybe "text" .text]

/-- A closed document. -/
def closed : Shape := parts [part "textDocument" document]

/-- Changed settings. -/
def settings : Shape := parts [part "settings" .any]

/-- Changed folders. -/
def folders : Shape :=
  parts [part "event" (parts [part "added" (.list folder), part "removed" (.list folder)])]

/-- Changed files. -/
def files : Shape :=
  parts [part "changes" (.list (parts [part "uri" .address, part "type" .int32]))]

/-! ## Requests that are declined -/

/-- An item of a hierarchy; `tags` is the shape of its tags. -/
def hierarchyItem (tags : Shape) : Shape :=
  parts [
    part "name" .text,
    part "kind" .int32,
    maybe "tags" tags,
    maybe "detail" .text,
    part "uri" .address,
    part "range" range,
    part "selectionRange" range,
    maybe "data" .any]

/-- A request about an item of a call hierarchy. -/
def callItem : Shape := members (part "item" (hierarchyItem (.list .int32)) :: reporting)

/-- A request about an item of a type hierarchy. -/
def typeItem : Shape := members (part "item" (hierarchyItem .int32) :: reporting)

/-- A code action. -/
def codeAction : Shape :=
  parts [
    part "title" .text,
    maybe "kind" .text,
    maybe "diagnostics" (.list diagnostic),
    maybe "edit" workspaceEdit,
    maybe "command" command,
    maybe "isPreferred" .bool,
    maybe "disabled" (parts [part "reason" .text]),
    maybe "data" .any]

/-- A completion. -/
def completionItem : Shape :=
  let insertReplace := parts [part "newText" .text, part "insert" range, part "replace" range]
  parts [
    part "label" .text,
    maybe "labelDetails" (parts [maybe "detail" .text, maybe "description" .text]),
    maybe "kind" .int32,
    maybe "detail" .text,
    maybe "documentation" documentation,
    maybe "deprecated" .bool,
    maybe "preselect" .bool,
    maybe "sortText" .text,
    maybe "filterText" .text,
    maybe "insertText" .text,
    maybe "insertTextFormat" .int32,
    maybe "insertTextMode" .int32,
    maybe "textEdit" (.either textEdit insertReplace),
    maybe "additionalTextEdits" (.list textEdit),
    maybe "command" command,
    maybe "commitCharacters" (.list .text),
    maybe "data" .any,
    maybe "tags" (.list .int32)]

/-- A hint between the characters of a document. -/
def inlayHint : Shape :=
  let labelPart := parts [
    part "value" .text,
    maybe "tooltip" documentation,
    maybe "location" location,
    maybe "command" command]
  parts [
    part "position" position,
    part "label" (.either .text (.list labelPart)),
    maybe "kind" .int32,
    maybe "textEdits" (.list textEdit),
    maybe "tooltip" documentation,
    maybe "paddingLeft" .bool,
    maybe "paddingRight" .bool,
    maybe "data" .any]

/-- How a document is to be formatted. Further options are truth values, numbers or texts. -/
def formatting : Shape :=
  .record false [
    part "tabSize" nat32,
    part "insertSpaces" .bool,
    maybe "trimTrailingWhitespace" .bool,
    maybe "insertFinalNewline" .bool,
    maybe "trimFinalNewlines" .bool]
    (.either .bool (.either .int32 .text))

/-- A request for signatures, with what triggered it. -/
def signatureHelp : Shape :=
  let parameter := parts [
    part "label" (.either .text (.pair nat32)), maybe "documentation" documentation]
  let signature := parts [
    part "label" .text,
    maybe "documentation" documentation,
    maybe "parameters" (.list parameter),
    maybe "activeParameter" nat32]
  let help := parts [
    part "signatures" (.list signature),
    maybe "activeSignature" nat32,
    maybe "activeParameter" nat32]
  members (maybe "context" (parts [
    part "triggerKind" .int32,
    maybe "triggerCharacter" .text,
    part "isRetrigger" .bool,
    maybe "activeSignatureHelp" help]) :: place ++ progress)

/-- A list of files, each named under the keys. -/
def fileNames (keys : List Text) : Shape :=
  parts [part "files" (.list (parts (keys.map (part · .text))))]

/-- A symbol of a workspace, with its range or without. -/
def workspaceSymbol : Shape :=
  parts [
    part "name" .text,
    part "kind" .int32,
    maybe "tags" (.list .int32),
    maybe "containerName" .text,
    part "location" (.either location document),
    maybe "data" .any]

/-- What is known about a range for which code actions are asked. -/
def codeActionContext : Shape :=
  parts [
    part "diagnostics" (.list diagnostic),
    maybe "only" (.list .text),
    maybe "triggerKind" .int32]

/-- A color by its four shares. -/
def color : Shape :=
  parts [part "red" .number, part "green" .number, part "blue" .number, part "alpha" .number]

/-- Where a program has stopped. -/
def stopContext : Shape := parts [part "frameId" .int32, part "stoppedLocation" range]

/-- The earlier answers about documents. -/
def earlierResults : Shape := .list (parts [part "uri" .address, part "value" .text])

/-- A request with the shape of its parameters. -/
def request (method : Text) (params : Shape) : Text × Shape := (method, params)

/-- A request about a document, with further parameters. -/
def ofDocument (method : Text) (more : List Part) : Text × Shape :=
  request method (members (part "textDocument" document :: more))

/-- A request about a range of a document, with further parameters. -/
def ofRange (method : Text) (more : List Part) : Text × Shape :=
  ofDocument method (part "range" range :: more)

/-- A request about a place in a document, with further parameters. -/
def ofPlace (method : Text) (more : List Part) : Text × Shape :=
  request method (members (place ++ more))

/-- Requests of the protocol that this server does not offer, with their parameters. -/
def declined : List (Text × Shape) := [
  request "callHierarchy/incomingCalls" callItem,
  request "callHierarchy/outgoingCalls" callItem,
  request "codeAction/resolve" codeAction,
  request "codeLens/resolve"
    (parts [part "range" range, maybe "command" command, maybe "data" .any]),
  request "completionItem/resolve" completionItem,
  request "documentLink/resolve"
    (parts [
      part "range" range, maybe "target" .address, maybe "tooltip" .text, maybe "data" .any]),
  request "inlayHint/resolve" inlayHint,
  ofRange "textDocument/codeAction" (part "context" codeActionContext :: reporting),
  ofDocument "textDocument/codeLens" reporting,
  ofRange "textDocument/colorPresentation" (part "color" color :: reporting),
  ofPlace "textDocument/declaration" reporting,
  ofDocument "textDocument/diagnostic"
    ([maybe "identifier" .text, maybe "previousResultId" .text] ++ reporting),
  ofDocument "textDocument/documentColor" reporting,
  ofPlace "textDocument/documentHighlight" reporting,
  ofDocument "textDocument/documentLink" reporting,
  ofDocument "textDocument/documentSymbol" reporting,
  ofDocument "textDocument/foldingRange" reporting,
  ofDocument "textDocument/formatting" (part "options" formatting :: progress),
  ofPlace "textDocument/implementation" reporting,
  ofRange "textDocument/inlayHint" progress,
  ofRange "textDocument/inlineValue" (part "context" stopContext :: progress),
  ofPlace "textDocument/linkedEditingRange" progress,
  ofPlace "textDocument/moniker" reporting,
  ofPlace "textDocument/onTypeFormatting" [part "ch" .text, part "options" formatting],
  ofPlace "textDocument/prepareCallHierarchy" progress,
  request "textDocument/prepareRename" (parts place),
  ofPlace "textDocument/prepareTypeHierarchy" progress,
  ofRange "textDocument/rangeFormatting" (part "options" formatting :: progress),
  ofPlace "textDocument/references"
    (part "context" (parts [part "includeDeclaration" .bool]) :: reporting),
  ofPlace "textDocument/rename" (part "newName" .text :: progress),
  ofDocument "textDocument/selectionRange" (part "positions" (.list position) :: reporting),
  ofDocument "textDocument/semanticTokens/full" reporting,
  ofDocument "textDocument/semanticTokens/full/delta" (part "previousResultId" .text :: reporting),
  ofRange "textDocument/semanticTokens/range" reporting,
  request "textDocument/signatureHelp" signatureHelp,
  ofPlace "textDocument/typeDefinition" reporting,
  request "textDocument/willSaveWaitUntil"
    (parts [part "textDocument" document, part "reason" .int32]),
  request "typeHierarchy/subtypes" typeItem,
  request "typeHierarchy/supertypes" typeItem,
  request "workspace/diagnostic"
    (members ([maybe "identifier" .text, part "previousResultIds" earlierResults] ++ reporting)),
  request "workspace/executeCommand"
    (members ([part "command" .text, ("arguments", .defaulted, .list .any)] ++ progress)),
  request "workspace/symbol" (members (part "query" .text :: reporting)),
  request "workspace/willCreateFiles" (fileNames ["uri"]),
  request "workspace/willDeleteFiles" (fileNames ["uri"]),
  request "workspace/willRenameFiles" (fileNames ["oldUri", "newUri"]),
  request "workspaceSymbol/resolve" workspaceSymbol]

end OrmLens.Server.Shape
