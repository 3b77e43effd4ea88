/-
  The program: prints the model graph of a folder, or serves an editor over standard input and
  output.

  All decisions are made by `Cli.run?` and `Server.step`; this module reads files and messages for
  them and writes what they return.
-/
import OrmLens.Cli
import OrmLens.Server.Frame
import OrmLens.Server.Reads

namespace OrmLens.Program

open Server Workspace

/-! ## Files -/

/-- A path, seen from the current folder. -/
def locate (path : Text) : IO IO.FS.DirEntry := do
  return ⟨← IO.currentDir, String.ofList path⟩

/-- The content of a file; `none` if it cannot be read as text. -/
def content (file : IO.FS.DirEntry) : IO Content := do
  try
    let bytes ← IO.FS.readBinFile file.path
    return (String.fromUTF8? bytes).map String.toList
  catch _ => return none

/-- The selected files at and below an entry, by their paths relative to the root. -/
partial def selectedBelow (globs : Globs) (root : Text) (entry : IO.FS.DirEntry)
    (relative : Text) : IO (List (Text × Content)) := do
  let mut found := []
  if ← entry.path.isDir then
    for inner in ← entry.path.readDir do
      let name := inner.fileName.toList
      let path := if relative.isEmpty then name else FileTree.below relative name
      found := found ++ (← selectedBelow globs root inner path)
  else if (← entry.path.pathExists) && globs.selects root relative then
    found := [(relative, ← content entry)]
  return found

/-- Adds the selected files of a folder to a tree. A folder that is not there has none. -/
def addFolder (patterns : List Text) (tree : FileTree) (root : Text) : IO FileTree := do
  match Globs.parse? patterns with
  | none => return tree
  | some globs =>
    let files ← try selectedBelow globs root (← locate root) [] catch _ => pure []
    return files.foldl (fun t file => t.write (FileTree.below root file.1) file.2) tree

/-- Adds one file to a tree, if it is there. -/
def addFile (tree : FileTree) (path : Text) : IO FileTree := do
  match ← content (← locate path) with
  | some text => return tree.write path (some text)
  | none => return tree

/-- The files that a message may look at. -/
def load (s : Server.State) (m : Message) : IO FileTree := do
  let reads := m.reads s
  let tree ← reads.files.foldlM addFile {}
  reads.folders.foldlM (addFolder s.index.settings.modelGlobs) tree

/-! ## The wire -/

/-- A connection to an editor. -/
structure Connection where
  input : IO.FS.Stream
  output : IO.FS.Stream
  /-- Messages that came in while an answer was awaited, the oldest first. -/
  waiting : List Incoming := []
  /-- The number of the next question to the client. -/
  nextId : Nat := 0

/-- Writes one body. -/
def Connection.send (c : Connection) (body : Json) : IO Unit := do
  c.output.putStr (String.ofList (Frame.render body))
  c.output.flush

/-- The header lines up to the empty one; `none` at the end of the input. -/
partial def headerLines (input : IO.FS.Stream) : IO (Option (List Text)) := do
  let line ← input.getLine
  if line.isEmpty then return none
  match Text.trim line.toList with
  | [] => return some []
  | text => return (← headerLines input).map (text :: ·)

/-- Reads bytes until there are `size` of them or the input ends. -/
partial def readBytes (input : IO.FS.Stream) (size : Nat) (read : ByteArray) : IO ByteArray := do
  if size ≤ read.size then return read
  let more ← input.read (size - read.size).toUSize
  if more.isEmpty then return read
  readBytes input size (read ++ more)

/-- The next body that is part of the protocol; `none` at the end of the input. -/
partial def Connection.receive (c : Connection) : IO (Option Incoming) := do
  match ← headerLines c.input with
  | none => return none
  | some lines =>
    let bytes ← readBytes c.input ((Frame.length? lines).getD 0) ByteArray.empty
    match (String.fromUTF8? bytes).bind fun text => Json.parse? text.toList with
    | none =>
      c.send (Frame.failure .null Frame.parseError)
      c.receive
    | some body =>
      match Frame.incoming? body with
      | some incoming => return some incoming
      | none =>
        c.send (Frame.failure .null invalidRequest)
        c.receive

/-- Asks the client something and waits for the reply; other messages are kept for later. -/
partial def Connection.ask (c : Connection) (q : Query) : IO (Json × Connection) := do
  c.send (Frame.question c.nextId q)
  await { c with nextId := c.nextId + 1 }
where
  /-- Waits for the reply to the question asked. -/
  await (after : Connection) : IO (Json × Connection) := do
    match ← c.receive with
    | none => return (.null, after)
    | some (.reply id result) =>
      if id.int? = some (c.nextId : Int) then return (result, after) else await after
    | some other => await { after with waiting := after.waiting ++ [other] }

/-! ## Serving -/

/-- Takes one step. If the server has questions, the step is taken again with the replies. -/
def handle (c : Connection) (s : Server.State) (m : Message) :
    IO (Reply × Server.State × Connection) := do
  let files ← load s m
  let first := step files [] s m
  let mut c := c
  let mut replies := []
  for q in first.queries do
    let (reply, next) ← c.ask q
    c := next
    replies := replies ++ [reply]
  let outcome := if replies.isEmpty then first else step files replies s m
  return (outcome.reply, outcome.state, c)

/-- Handles messages until the connection is over. The index sees the time that passes. -/
partial def serve (c : Connection) (s : Server.State) (clock : Nat) : IO Unit := do
  let (next, c) ← match c.waiting with
    | first :: rest => pure (some first, { c with waiting := rest })
    | [] => pure (← c.receive, c)
  let now ← IO.monoMsNow
  let s := { s with index := s.index.wait (now - clock) }
  match next with
  | none => return
  | some (.reply ..) => serve c s now
  | some (.notification m) =>
    let (_, s, c) ← handle c s m
    if s.phase = .exited then return else serve c s now
  | some (.request id m) =>
    let (reply, s, c) ← handle c s m
    if let some body := Frame.answer? id reply then c.send body
    serve c s now

/-- Runs the program with its arguments. -/
def run (arguments : List Text) : IO Unit := do
  let parsed := Cli.parse arguments
  let settings := parsed.arguments.settings
  let tree ← match parsed.arguments.dump with
    | some root => addFolder settings.modelGlobs {} root
    | none => pure {}
  match Cli.run? tree parsed with
  | some report =>
    for line in report.notices do IO.eprintln (String.ofList line)
    IO.print (String.ofList report.output)
  | none =>
    for line in parsed.notices do IO.eprintln (String.ofList line)
    let c := { input := ← IO.getStdin, output := ← IO.getStdout : Connection }
    serve c (.new settings) (← IO.monoMsNow)

end OrmLens.Program

/-- Prints the model graph of a folder, or serves an editor. -/
def main (arguments : List String) : IO Unit :=
  OrmLens.Program.run (arguments.map String.toList)
