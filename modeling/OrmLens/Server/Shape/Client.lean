/-
  The shape of the first message, most of which describes what the client can do. A capability is
  checked whether the server makes use of it or not.
-/
import OrmLens.Server.Shape.Document

namespace OrmLens.Server.Shape

/-- A capability that may be registered on demand. -/
def registered : Shape := flags ["dynamicRegistration"]

/-- A capability whose results may be asked for anew. -/
def refreshed : Shape := flags ["refreshSupport"]

/-- A list of property names. -/
def properties : Shape := parts [part "properties" (.list .text)]

/-- A set of numbered kinds, which may be absent. -/
def kinds : Shape := parts [maybe "valueSet" (.list .int32)]

/-- A set of numbered tags. A truth value stands for no tags. -/
def tags : Part :=
  ("tagSupport", .defaulted, .nullable (.either .bool (parts [part "valueSet" (.list .int32)])))

/-! ## Workspaces -/

/-- What a client can do for a workspace. -/
def workspaceClient : Shape :=
  parts [
    maybe "applyEdit" .bool,
    maybe "workspaceEdit" (parts [
      maybe "documentChanges" .bool,
      maybe "resourceOperations" (.list (.word ["create", "rename", "delete"])),
      maybe "failureHandling"
        (.word ["abort", "transactional", "textOnlyTransactional", "undo"]),
      maybe "normalizesLineEndings" .bool,
      maybe "changeAnnotationSupport" (flags ["groupsOnLabel"])]),
    maybe "didChangeConfiguration" registered,
    maybe "didChangeWatchedFiles" (flags ["dynamicRegistration", "relativePatternSupport"]),
    maybe "symbol" (parts [
      maybe "dynamicRegistration" .bool,
      maybe "symbolKind" kinds,
      tags,
      maybe "resolveSupport" properties]),
    maybe "executeCommand" registered,
    maybe "workspaceFolders" .bool,
    maybe "configuration" .bool,
    maybe "semanticTokens" refreshed,
    maybe "codeLens" refreshed,
    maybe "fileOperations" (flags [
      "dynamicRegistration", "didCreate", "willCreate", "didRename", "willRename", "didDelete",
      "willDelete"]),
    maybe "inlineValue" refreshed,
    maybe "inlayHint" refreshed,
    maybe "diagnostic" refreshed]

/-! ## Documents -/

/-- What a client can do with completions. -/
def completionClient : Shape :=
  parts [
    maybe "dynamicRegistration" .bool,
    maybe "completionItem" (parts [
      maybe "snippetSupport" .bool,
      maybe "commitCharactersSupport" .bool,
      maybe "documentationFormat" (.list markupKind),
      maybe "deprecatedSupport" .bool,
      maybe "preselectSupport" .bool,
      tags,
      maybe "insertReplaceSupport" .bool,
      maybe "resolveSupport" properties,
      maybe "insertTextModeSupport" (parts [part "valueSet" (.list .int32)]),
      maybe "labelDetailsSupport" .bool]),
    maybe "completionItemKind" kinds,
    maybe "contextSupport" .bool,
    maybe "insertTextMode" .int32,
    maybe "completionList" (parts [maybe "itemDefaults" (.list .text)])]

/-- What a client can do with signatures. -/
def signatureClient : Shape :=
  parts [
    maybe "dynamicRegistration" .bool,
    maybe "signatureInformation" (parts [
      maybe "documentationFormat" (.list markupKind),
      maybe "parameterInformation" (flags ["labelOffsetSupport"]),
      maybe "activeParameterSupport" .bool]),
    maybe "contextSupport" .bool]

/-- What a client can do with code actions. -/
def codeActionClient : Shape :=
  parts [
    maybe "dynamicRegistration" .bool,
    maybe "codeActionLiteralSupport" (parts [
      part "codeActionKind" (parts [part "valueSet" (.list .text)])]),
    maybe "isPreferredSupport" .bool,
    maybe "disabledSupport" .bool,
    maybe "dataSupport" .bool,
    maybe "resolveSupport" properties,
    maybe "honorsChangeAnnotations" .bool]

/-- What a client can do with folded ranges. -/
def foldingClient : Shape :=
  parts [
    maybe "dynamicRegistration" .bool,
    maybe "rangeLimit" nat32,
    maybe "lineFoldingOnly" .bool,
    maybe "foldingRangeKind" (parts [
      maybe "valueSet" (.list (.word ["comment", "imports", "region"]))]),
    maybe "foldingRange" (flags ["collapsedText"])]

/-- What a client can do with semantic tokens. -/
def semanticClient : Shape :=
  parts [
    maybe "dynamicRegistration" .bool,
    part "requests" (parts [
      maybe "range" .bool,
      maybe "full" (.either .bool (members [maybe "delta" .bool]))]),
    part "tokenTypes" (.list .text),
    part "tokenModifiers" (.list .text),
    part "formats" (.list .text),
    maybe "overlappingTokenSupport" .bool,
    maybe "multilineTokenSupport" .bool,
    maybe "serverCancelSupport" .bool,
    maybe "augmentsSyntaxTokens" .bool]

/-- What a client can do for a document. -/
def documentClient : Shape :=
  let linked := flags ["dynamicRegistration", "linkSupport"]
  parts [
    maybe "synchronization"
      (flags ["dynamicRegistration", "willSave", "willSaveWaitUntil", "didSave"]),
    maybe "completion" completionClient,
    maybe "hover" (parts [
      maybe "dynamicRegistration" .bool, maybe "contentFormat" (.list markupKind)]),
    maybe "signatureHelp" signatureClient,
    maybe "references" registered,
    maybe "documentHighlight" registered,
    maybe "documentSymbol" (parts [
      maybe "dynamicRegistration" .bool,
      maybe "symbolKind" kinds,
      maybe "hierarchicalDocumentSymbolSupport" .bool,
      tags]),
    maybe "formatting" registered,
    maybe "rangeFormatting" registered,
    maybe "onTypeFormatting" registered,
    maybe "declaration" linked,
    maybe "definition" linked,
    maybe "typeDefinition" linked,
    maybe "implementation" linked,
    maybe "codeAction" codeActionClient,
    maybe "codeLens" registered,
    maybe "documentLink" (flags ["dynamicRegistration", "tooltipSupport"]),
    maybe "colorProvider" registered,
    maybe "rename" (parts [
      maybe "dynamicRegistration" .bool,
      maybe "prepareSupport" .bool,
      maybe "prepareSupportDefaultBehavior" .int32,
      maybe "honorsChangeAnnotations" .bool]),
    maybe "publishDiagnostics" (parts [
      maybe "relatedInformation" .bool,
      tags,
      maybe "versionSupport" .bool,
      maybe "codeDescriptionSupport" .bool,
      maybe "dataSupport" .bool]),
    maybe "foldingRange" foldingClient,
    maybe "selectionRange" registered,
    maybe "linkedEditingRange" registered,
    maybe "callHierarchy" registered,
    maybe "semanticTokens" semanticClient,
    maybe "moniker" registered,
    maybe "typeHierarchy" registered,
    maybe "inlineValue" registered,
    maybe "inlayHint" (parts [
      maybe "dynamicRegistration" .bool, maybe "resolveSupport" properties]),
    maybe "diagnostic" (flags ["dynamicRegistration", "relatedDocumentSupport"])]

/-! ## The rest -/

/-- What a client can do with notebooks. -/
def notebookClient : Shape :=
  parts [part "synchronization" (flags ["dynamicRegistration", "executionSummaryReport"])]

/-- What a client can do with its window. -/
def windowClient : Shape :=
  parts [
    maybe "workDoneProgress" .bool,
    maybe "showMessage" (parts [
      maybe "messageActionItem" (flags ["additionalPropertiesSupport"])]),
    maybe "showDocument" (parts [part "support" .bool])]

/-- What a client can do in general. -/
def generalClient : Shape :=
  parts [
    maybe "regularExpressions" (parts [part "engine" .text, maybe "version" .text]),
    maybe "markdown" (parts [
      part "parser" .text, maybe "version" .text, maybe "allowedTags" (.list .text)]),
    maybe "staleRequestSupport" (parts [
      part "cancel" .bool, part "retryOnContentModified" (.list .text)]),
    maybe "positionEncodings" (.list .text)]

/-- What a client can do. -/
def client : Shape :=
  parts [
    maybe "workspace" workspaceClient,
    maybe "textDocument" documentClient,
    maybe "notebookDocument" notebookClient,
    maybe "window" windowClient,
    maybe "general" generalClient,
    maybe "experimental" .any]

/-- The parameters of the first message. -/
def handshake : Shape :=
  members ([
    maybe "processId" nat32,
    maybe "rootPath" .text,
    maybe "rootUri" .address,
    maybe "initializationOptions" .any,
    part "capabilities" client,
    maybe "trace" (.word ["off", "messages", "verbose"]),
    maybe "workspaceFolders" (.list folder),
    maybe "clientInfo" (parts [part "name" .text, maybe "version" .text]),
    maybe "locale" .text] ++ progress)

end OrmLens.Server.Shape
