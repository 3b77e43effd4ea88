/-
  The server as a step function: a message changes the state and gives an answer, and the server
  may ask the client something on the way.
-/
import OrmLens.Server.Answer

namespace OrmLens.Server

open Workspace

/-- What a message is answered with. -/
inductive Reply where
  | result (value : Json)
  | error (code : Int)
  /-- Notifications, and requests that are none of the server's business. -/
  | silence
  /-- The connection is over. -/
  | exited

/-- The first message has not been handled yet. -/
def notReady : Int := -32002

/-- The message does not fit the phase of the connection. -/
def invalidRequest : Int := -32600

/-- The method is not offered. -/
def unknownMethod : Int := -32601

/-- The parameters are not those of the method. -/
def invalidParams : Int := -32602

/-- A request to the client. -/
structure Query where
  method : Text
  params : Json

/-- The outcome of a message: the new state, the answer, what the client was asked, and the client's
    replies that are left. -/
structure Outcome where
  state : State
  reply : Reply
  queries : List Query := []
  replies : List Json := []

/-! ## The first messages -/

/-- Name and version of the server. -/
def serverInfo : Json := .obj [("name", .str "django-lsp"), ("version", .str "0.1.0")]

/-- Characters after which an editor asks for completion. -/
def triggers : List Text := [".", "(", ",", " ", "_", "'", "\""]

/-- What the server offers. -/
def offer : Json :=
  .obj [
    ("definitionProvider", .bool true),
    ("hoverProvider", .bool true),
    ("textDocumentSync", .obj [
      ("openClose", .bool true),
      ("change", .ofNat 1),
      ("save", .obj [("includeText", .bool true)])]),
    ("completionProvider", .obj [("triggerCharacters", .ofTexts triggers)]),
    ("workspace", .obj [("workspaceFolders", .obj [
      ("supported", .bool true),
      ("changeNotifications", .bool true)])])]

/-- Takes folders, settings and capabilities of a client. -/
def greet (s : State) (folders : List Uri) (options : Option Json)
    (capabilities : Capabilities) : State :=
  let s := { s with workspaces := (folders.filterMap Uri.unit?).foldl addPath s.workspaces }
  let s := match options with
    | some config => s.configure config
    | none => s
  { s with capabilities }

/-- What the client is asked to report. -/
def registrations (s : State) : List Json :=
  let config := Json.obj [
    ("id", .str "django-lsp/did-change-config"),
    ("method", .str "workspace/didChangeConfiguration")]
  let watcher (glob : Text) : Json := .obj [("globPattern", .str glob), ("kind", .ofNat 7)]
  let files := Json.obj [
    ("id", .str "django-lsp/did-change-watched-files"),
    ("method", .str "workspace/didChangeWatchedFiles"),
    ("registerOptions",
      .obj [("watchers", .ofList watcher s.index.settings.modelGlobs)])]
  (if s.capabilities.reportsConfig then [config] else [])
    ++ (if s.capabilities.reportsFiles then [files] else [])

/-- Asks for the reports that the client can give. -/
def registerQueries (s : State) : List Query :=
  match registrations s with
  | [] => []
  | list => [⟨"client/registerCapability", .obj [("registrations", .arr list)]⟩]

/-- Asks for the settings of this server. -/
def settingsQuery : Query :=
  ⟨"workspace/configuration",
    .obj [("items", .arr [.obj [("section", .str Config.sectionName)]])]⟩

/-! ## Handlers -/

/-- The answer to a request of a running connection. -/
def answer (s : State) : Request → State × Json
  | .handshake folders options capabilities =>
    (greet s folders options capabilities,
      .obj [("serverInfo", serverInfo), ("capabilities", offer)])
  | .completion place => (s, (completion? s place).getD .null)
  | .hover place => (s, (hover? s place).getD .null)
  | .definition place => (s, (definition? s place).getD .null)
  | .shutdown => (s, .null)

/-- Merges the settings in a client's reply. -/
def mergeReply (s : State) (reply : Json) : State :=
  (reply.items?.getD []).foldl State.configure s

/-- What a notification does, given the client's replies to come. -/
def notice (files : FileTree) (replies : List Json) (s : State) : Notification → Outcome
  | .ready =>
    let queries := registerQueries s
    { state := s.indexWorkspaces files, reply := .silence, queries
      replies := replies.drop queries.length }
  | .opened uri language text =>
    keep (if State.isFollowed uri language then s.update files uri text else s)
  | .changed uri texts =>
    keep (match texts.getLast? with
      | some text => s.update files uri text
      | none => s)
  | .saved uri text =>
    keep (match text with
      | some text => s.update files uri text
      | none => s)
  | .closed uri => keep { s with documents := s.documents.erase uri.path }
  | .settingsChanged settings =>
    if (settings.get? Config.sectionName).isSome then keep (s.configure settings)
    else
      { state := mergeReply s (replies.headD .null), reply := .silence
        queries := [settingsQuery], replies := replies.tail }
  | .foldersChanged removed added =>
    let s := (removed.filterMap Uri.unit?).foldl (fun s root => s.removeRoot files root) s
    keep ((added.filterMap Uri.unit?).foldl (fun s root => s.addRoot files root) s)
  | .filesChanged changes => keep (changes.foldl (fun s c => s.fileChanged files c) s)
where
  /-- An outcome without questions to the client. -/
  keep (s : State) : Outcome := { state := s, reply := .silence, replies }

/-! ## Messages -/

/-- A message as it arrives. `wantsAnswer` tells a request from a notification. -/
structure Message where
  method : Text
  params : Option Json
  wantsAnswer : Bool

/-- The parameters that are given; null is none. -/
def Message.given? (m : Message) : Option Json :=
  match m.params with
  | some .null | none => none
  | some params => some params

/-- The error that a phase other than `running` gives. -/
def phaseError (phase : Phase) : Int :=
  if phase = .waiting then notReady else invalidRequest

/-- The first message of a connection. If it is invalid the server goes on waiting. -/
def firstStep (s : State) (m : Message) : State × Reply :=
  if s.phase ≠ .waiting then (s, .error invalidRequest)
  else if !m.wantsAnswer then (s, .silence)
  else
    match m.given?.bind handshake.decode? with
    | none => (s, .error invalidParams)
    | some request =>
      let (s, value) := answer s request
      ({ s with phase := .running }, .result value)

/-- The last message but one of a connection. It has no parameters. -/
def shutdownStep (s : State) (m : Message) : State × Reply :=
  if s.phase ≠ .running then (s, .error (phaseError s.phase))
  else
    let s := { s with phase := .stopped }
    if !m.wantsAnswer then (s, .silence)
    else if m.given?.isSome then (s, .error invalidParams)
    else (s, .result .null)

/-- A request for an answer. -/
def requestStep (s : State) (h : Handler Request) (m : Message) : State × Reply :=
  if s.phase ≠ .running then (s, .error (phaseError s.phase))
  else if !m.wantsAnswer then (s, .silence)
  else
    match m.given?.bind h.decode? with
    | none => (s, .error invalidParams)
    | some request =>
      let (s, value) := answer s request
      (s, .result value)

/-- A request that the protocol knows and the server declines. Its parameters are looked at all the
    same. -/
def declinedStep (s : State) (params : Shape) (m : Message) : State × Reply :=
  if s.phase ≠ .running then (s, .error (phaseError s.phase))
  else if (m.given?.bind params.read?).isNone then (s, .error invalidParams)
  else (s, .error unknownMethod)

/-- A notification that is acted upon. -/
def noticeStep (files : FileTree) (replies : List Json) (s : State)
    (h : Handler Notification) (m : Message) : Outcome :=
  if s.phase ≠ .running then { state := s, reply := .error (phaseError s.phase), replies }
  else if m.wantsAnswer then { state := s, reply := .error invalidRequest, replies }
  else
    match m.given?.bind h.decode? with
    | none => { state := s, reply := .error invalidParams, replies }
    | some notification => notice files replies s notification

/-- A message that nothing is done about, by its method. Notifications that are sent as requests are
    invalid, and requests may be left without an answer if their method starts with `$/`. -/
def otherStep (s : State) (m : Message) : State × Reply :=
  match Shape.declined.find? (·.1 = m.method) with
  | some (_, params) => declinedStep s params m
  | none =>
    if ignoredNotifications.contains m.method then
      (s, .error (if s.phase = .running then invalidRequest else phaseError s.phase))
    else if m.method = cancellation then (s, .error invalidRequest)
    else if Text.startsWith m.method "$/" then (s, .silence)
    else (s, .error unknownMethod)

/-- A message by its method. -/
def dispatch (files : FileTree) (replies : List Json) (s : State) (m : Message) : Outcome :=
  let plain (r : State × Reply) : Outcome := { state := r.1, reply := r.2, replies }
  if m.method = "exit" then plain ({ s with phase := .exited }, .silence)
  else if m.method = handshake.method then plain (firstStep s m)
  else if m.method = "shutdown" then plain (shutdownStep s m)
  else
    match requests.find? (·.method = m.method), notifications.find? (·.method = m.method) with
    | some h, _ => plain (requestStep s h m)
    | none, some h => noticeStep files replies s h m
    | none, none => plain (otherStep s m)

/-- One step of the server. Errors go to requests only. -/
def step (files : FileTree) (replies : List Json) (s : State) (m : Message) : Outcome :=
  if s.phase = .exited then { state := s, reply := .exited, replies }
  else
    let outcome := dispatch files replies s m
    match outcome.reply with
    | .error code => { outcome with reply := if m.wantsAnswer then .error code else .silence }
    | _ => outcome

end OrmLens.Server
