/-
  The state of the server, and what its messages do to the model graph.

  A document that is open counts with the text it has in the editor; every other unit counts with
  the text of its file. A unit that lost an entity to another unit is restored as soon as the
  definition that won is gone.
-/
import OrmLens.Index.Basic
import OrmLens.Server.Config
import OrmLens.Server.Message
import OrmLens.Workspace.FileTree

namespace OrmLens.Server

open Document Index Model Workspace

/-- How far a connection has come. -/
inductive Phase where
  | waiting
  | running
  | stopped
  | exited
deriving DecidableEq, Repr

/-- The state of the server. -/
structure State where
  phase : Phase := .waiting
  index : Index.State
  /-- Open documents by the path of their address, as written. -/
  documents : Table Text Text := Table.empty
  /-- Folders whose units have been indexed. -/
  roots : List Text := []
  /-- Folders that the client has open. -/
  workspaces : List Text := []
  capabilities : Capabilities := {}

/-- Adds a path unless the same path is there, written this way or another. -/
def addPath (paths : List Text) (path : Text) : List Text :=
  if paths.any (UnitPath.ofText · = UnitPath.ofText path) then paths else paths ++ [path]

/-- Takes a path out, however it is written. -/
def dropPath (paths : List Text) (path : Text) : List Text :=
  paths.filter (UnitPath.ofText · ≠ UnitPath.ofText path)

/-- Whether a unit lies below a folder. -/
def isUnder (root unit : Text) : Bool := (UnitPath.ofText unit).isUnder (UnitPath.ofText root)

namespace State

/-- The server before the first message. -/
def new (settings : Settings) : State := { index := Index.State.new settings }

/-- The open document of a unit. -/
def buffer? (s : State) (unit : Text) : Option Text :=
  (Uri.ofUnit? unit).bind fun uri => s.documents.get? uri.path

/-- The text that counts for a unit. -/
def textOf? (s : State) (files : FileTree) (unit : Text) : Option Text :=
  (s.buffer? unit).or (files.read? unit)

/-- Merges a configuration, if it is one. -/
def configure (s : State) (config : Json) : State :=
  match Config.ofJson? config with
  | some c => { s with index := s.index.configure (s.index.settings.merge c) }
  | none => s

/-! ## Restoring units -/

/-- The first unit that has not been seen, and the units after it. -/
def nextUnseen? (seen : List Text) : List Text → Option (Text × List Text)
  | [] => none
  | unit :: rest => if seen.contains unit then nextUnseen? seen rest else some (unit, rest)

/-- Analyzes at most `count` pending units again, each once, the last reported first. Units that a
    commit reports in turn come next. -/
def restoreFrom (files : FileTree) :
    (count : Nat) → (seen pending : List Text) → State → State
  | 0, _, _, s => s
  | count + 1, seen, pending, s =>
    match nextUnseen? seen pending with
    | none => s
    | some (unit, rest) =>
      match s.textOf? files unit with
      | none => restoreFrom files count (unit :: seen) rest s
      | some text =>
        let (index, orphans) := s.index.commit (Schema.extract unit text) text
        restoreFrom files count (unit :: seen) (orphans.reverse ++ rest) { s with index }

/-- A bound on the units that can come up while others are restored: those pending, those with
    entities in the graph and those that lost one. -/
def restorable (s : State) (pending : List Text) : Nat :=
  pending.length + s.index.graph.entities.size + s.index.shadowed.size

/-- Analyzes the pending units again. -/
def restore (s : State) (files : FileTree) (pending : List Text) : State :=
  restoreFrom files (s.restorable pending) [] pending.reverse s

/-- Commits a text and restores what that gives back. -/
def commit (s : State) (files : FileTree) (unit text : Text) : State :=
  let (index, orphans) := s.index.commit (Schema.extract unit text) text
  restore { s with index } files orphans

/-- Analyzes a text, if the unit is one of models and the text is new. -/
def analyze (s : State) (files : FileTree) (unit text : Text) : State :=
  if !(UnitPath.ofText unit).isModels || s.index.isFresh unit text then s
  else s.commit files unit text

/-! ## Documents and files -/

/-- Takes the text of a document from the editor. -/
def update (s : State) (files : FileTree) (uri : Uri) (text : Text) : State :=
  match uri.unit? with
  | none => s
  | some unit => { s with documents := s.documents.insert uri.path text }.analyze files unit text

/-- Whether an opened document is one to follow. -/
def isFollowed (uri : Uri) (language : Text) : Bool :=
  language = "python" || (Text.splitLast? '.' uri.path).any fun parts => parts.2 = ("py" : Text)

/-- Forgets a deleted unit of models. -/
def forget (s : State) (files : FileTree) (uri : Uri) : State :=
  match uri.unit? with
  | none => s
  | some unit =>
    if (UnitPath.ofText unit).isModels then
      let (index, orphans) := s.index.remove unit
      restore { s with index } files orphans
    else s

/-- Takes notice of a changed file. An open document is left alone. -/
def fileChanged (s : State) (files : FileTree) (change : FileChange) : State :=
  if change.deleted then s.forget files change.uri
  else if s.documents.has change.uri.path then s
  else
    match change.uri.unit?.bind fun unit => (files.read? unit).map fun text => (unit, text) with
    | some (unit, text) => s.analyze files unit text
    | none => s

/-! ## Folders -/

/-- Commits the units that a folder's patterns select; those that cannot be read are skipped. The
    files are read at the same time, and each is committed when its read is done, so any order may
    come about. Here it is the order of the list, and no result about folders depends on it. -/
def indexUnits (s : State) (files : FileTree) (units : List (Text × Content)) : State :=
  units.foldl
    (fun s unit =>
      match unit.2 with
      | some text => s.commit files unit.1 text
      | none => s)
    s

/-- Indexes a folder, once, with its files in the order of their paths. A pattern that cannot be read
    leaves the graph as it is. -/
def indexRoot (s : State) (files : FileTree) (root : Text) : State :=
  if s.roots.any (UnitPath.ofText · = UnitPath.ofText root) then s
  else
    let s := { s with roots := addPath s.roots root }
    match Globs.parse? s.index.settings.modelGlobs with
    | none => s
    | some globs => s.indexUnits files (files.selected root globs)

/-- Indexes every open folder. -/
def indexWorkspaces (s : State) (files : FileTree) : State :=
  s.workspaces.foldl (fun s root => s.indexRoot files root) s

/-- The units with entities below a folder, sorted. -/
def unitsUnder (s : State) (root : Text) : List Text :=
  let units := (s.index.graph.entities.values.map (·.unit)).filter (isUnder root)
  (Named.mergeAll [] units).mergeSort fun a b => decide (¬ b < a)

/-- Removes units one after another; the reported orphans are collected. -/
def removeUnits (index : Index.State) : List Text → Index.State × List Text
  | [] => (index, [])
  | unit :: rest =>
    let (index, orphans) := index.remove unit
    let (index, more) := removeUnits index rest
    (index, orphans ++ more)

/-- Forgets a folder and all units below it. -/
def removeRoot (s : State) (files : FileTree) (root : Text) : State :=
  let (index, orphans) := removeUnits s.index (s.unitsUnder root)
  restore
    { s with index, roots := dropPath s.roots root, workspaces := dropPath s.workspaces root }
    files (orphans.filter (!isUnder root ·))

/-- Opens a folder and indexes it. -/
def addRoot (s : State) (files : FileTree) (root : Text) : State :=
  { s with workspaces := addPath s.workspaces root }.indexRoot files root

end State

end OrmLens.Server
