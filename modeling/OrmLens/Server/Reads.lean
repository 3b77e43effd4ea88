/-
  What of the file system a message may look at, so that an outer layer can have it at hand before
  the step is taken: single files, and folders that are searched by pattern.
-/
import OrmLens.Server.Step

namespace OrmLens.Server

open Model Workspace

/-- Parts of the file system. -/
structure Reads where
  files : List Text := []
  folders : List Text := []

/-- The units that may be analyzed again after a change: those with entities, and those that lost
    one. -/
def restoredUnits (s : State) : List Text :=
  Named.mergeAll [] (s.index.graph.entities.values.map (·.unit) ++ s.index.shadowed.values)

/-- What a notification may look at. -/
def Notification.reads (s : State) : Notification → Reads
  | .ready => { files := restoredUnits s, folders := s.workspaces }
  | .opened .. => { files := restoredUnits s }
  | .changed .. => { files := restoredUnits s }
  | .saved .. => { files := restoredUnits s }
  | .closed _ => {}
  | .settingsChanged _ => {}
  | .foldersChanged _ added =>
    { files := restoredUnits s, folders := added.filterMap Uri.unit? }
  | .filesChanged changes =>
    { files := Named.mergeAll (restoredUnits s) (changes.filterMap (·.uri.unit?)) }

/-- What a message may look at. Requests need no files. -/
def Message.reads (s : State) (m : Message) : Reads :=
  match notifications.find? (·.method = m.method) with
  | none => {}
  | some h =>
    match m.given?.bind h.decode? with
    | none => {}
    | some notification => notification.reads s

end OrmLens.Server
