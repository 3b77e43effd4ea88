/-
  Messages that the server understands, decoded from their parameters. A parameter that is
  missing, of the wrong kind or out of range makes the message invalid.
-/
import OrmLens.Document
import OrmLens.Server.Shape.Client
import OrmLens.Server.Shape.Params

namespace OrmLens.Server

open Document Workspace

/-- What a client can do when it is told to. -/
structure Capabilities where
  /-- It reports changed settings. -/
  reportsConfig : Bool := false
  /-- It reports changed files. -/
  reportsFiles : Bool := false
deriving DecidableEq, Repr

/-- A place in a document. -/
structure Place where
  uri : Uri
  position : Position
deriving DecidableEq, Repr

/-- A change of a file. -/
structure FileChange where
  uri : Uri
  deleted : Bool
deriving DecidableEq, Repr

/-- Messages with an answer. -/
inductive Request where
  /-- The first message: folders, settings and capabilities. -/
  | handshake (folders : List Uri) (options : Option Json) (capabilities : Capabilities)
  | completion (place : Place)
  | hover (place : Place)
  | definition (place : Place)
  | shutdown

/-- Messages without an answer. -/
inductive Notification where
  /-- The client is ready. -/
  | ready
  | opened (uri : Uri) (language text : Text)
  /-- The new texts, of which the last one counts. -/
  | changed (uri : Uri) (texts : List Text)
  | saved (uri : Uri) (text : Option Text)
  | closed (uri : Uri)
  | settingsChanged (settings : Json)
  | foldersChanged (removed added : List Uri)
  | filesChanged (changes : List FileChange)

/-! ## Parts of parameters -/

/-- A member that must be there. -/
def required? {α : Type} (key : Text) (decode : Json → Option α) (j : Json) : Option α :=
  (j.get? key).bind decode

/-- The items of a member that may be absent. -/
def itemsOf (key : Text) (j : Json) : List Json := ((j.given? key).bind Json.items?).getD []

/-- An address. -/
def uri? (j : Json) : Option Uri := j.text?.bind Uri.parse?

/-- A position. -/
def position? (j : Json) : Option Position := do
  let column ← required? "character" (Json.nat? Number.word32) j
  return ⟨← required? "line" (Json.nat? Number.word32) j, column⟩

/-- The address in the member `textDocument`. -/
def documentUri? (j : Json) : Option Uri := required? "textDocument" (required? "uri" uri?) j

/-- A place. -/
def place? (j : Json) : Option Place := do
  return ⟨← documentUri? j, ← required? "position" position? j⟩

/-- The addresses of folders. -/
def folders? (folders : List Json) : Option (List Uri) := folders.mapM (required? "uri" uri?)

/-- A change of a file. -/
def fileChange? (j : Json) : Option FileChange := do
  return ⟨← required? "uri" uri? j, (← required? "type" Json.int? j) = 3⟩

/-- Whether a client lets a server register for a kind of notification. -/
def registers (kind : Text) (client : Json) : Bool :=
  ((client.under? ["workspace", kind, "dynamicRegistration"]).bind Json.bool?).getD false

/-! ## Messages -/

/-- The first message. -/
def handshake? (j : Json) : Option Request := do
  let client ← j.get? "capabilities"
  return .handshake (← folders? (itemsOf "workspaceFolders" j)) (j.given? "initializationOptions")
    ⟨registers "didChangeConfiguration" client, registers "didChangeWatchedFiles" client⟩

/-- An opened document. -/
def opened? (j : Json) : Option Notification :=
  required? "textDocument" (fun d => do
    return .opened (← required? "uri" uri? d) (← required? "languageId" Json.text? d)
      (← required? "text" Json.text? d)) j

/-- A changed document. -/
def changed? (j : Json) : Option Notification := do
  let texts ← (itemsOf "contentChanges" j).mapM (required? "text" Json.text?)
  return .changed (← documentUri? j) texts

/-- A saved document. -/
def saved? (j : Json) : Option Notification := do
  return .saved (← documentUri? j) ((j.given? "text").bind Json.text?)

/-- Changed folders. -/
def foldersChanged? (j : Json) : Option Notification := do
  let event ← j.get? "event"
  return .foldersChanged (← folders? (itemsOf "removed" event)) (← folders? (itemsOf "added" event))

/-- Changed files. -/
def filesChanged? (j : Json) : Option Notification :=
  ((itemsOf "changes" j).mapM fileChange?).map .filesChanged

/-- A message that is acted upon: its method, the shape of its parameters, and how it is read from
    them once they have that shape. -/
structure Handler (α : Type) where
  method : Text
  shape : Shape
  read : Json → Option α

/-- Reads the parameters of a message. -/
def Handler.decode? {α : Type} (h : Handler α) (params : Json) : Option α :=
  (h.shape.read? params).bind h.read

/-- The first request. -/
def handshake : Handler Request := ⟨"initialize", Shape.handshake, handshake?⟩

/-- The requests that are answered, the first one apart. -/
def requests : List (Handler Request) := [
  ⟨"textDocument/completion", Shape.completion, fun j => (place? j).map .completion⟩,
  ⟨"textDocument/hover", Shape.hover, fun j => (place? j).map .hover⟩,
  ⟨"textDocument/definition", Shape.lookup, fun j => (place? j).map .definition⟩]

/-- The notifications that are acted upon. -/
def notifications : List (Handler Notification) := [
  ⟨"initialized", Shape.parts [], fun _ => some .ready⟩,
  ⟨"textDocument/didOpen", Shape.opened, opened?⟩,
  ⟨"textDocument/didChange", Shape.changed, changed?⟩,
  ⟨"textDocument/didSave", Shape.saved, saved?⟩,
  ⟨"textDocument/didClose", Shape.closed, fun j => (documentUri? j).map .closed⟩,
  ⟨"workspace/didChangeConfiguration", Shape.settings, fun j =>
    (j.get? "settings").map .settingsChanged⟩,
  ⟨"workspace/didChangeWorkspaceFolders", Shape.folders, foldersChanged?⟩,
  ⟨"workspace/didChangeWatchedFiles", Shape.files, filesChanged?⟩]

/-- Notifications of the protocol that this server does not act upon. -/
def ignoredNotifications : List Text := [
  "notebookDocument/didChange", "notebookDocument/didClose", "notebookDocument/didOpen",
  "notebookDocument/didSave", "textDocument/willSave", "window/workDoneProgress/cancel",
  "workspace/didCreateFiles", "workspace/didDeleteFiles", "workspace/didRenameFiles"]

/-- The notification that takes back a request. -/
def cancellation : Text := "$/cancelRequest"

end OrmLens.Server
