/-
  Files as far as an analysis sees them: folders, and files with a text if their content is one.

  A path is followed segment by segment, so that `a/../b` needs a folder `a`. Relative paths start
  at the current folder, about whose surroundings nothing is known.
-/
import OrmLens.Table
import OrmLens.UnitPath
import OrmLens.Workspace.Glob

namespace OrmLens.Workspace

/-- The content of a file; `none` if it is not text. -/
abbrev Content := Option Text

/-- Files and folders by where they are, which is a path without dots. -/
structure FileTree where
  files : Table UnitPath Content := Table.empty
  /-- The folders besides the current one and the root of all. -/
  folders : List UnitPath := []

namespace FileTree

/-! ## Following paths -/

/-- Where a path starts. -/
def start (path : Text) : UnitPath := ⟨path.head? == some '/', []⟩

/-- Where a segment leads. The folder above the root is the root. -/
def enter (place : UnitPath) (segment : Text) : UnitPath :=
  if segment.isEmpty || segment = ['.'] then place
  else if segment = ['.', '.'] then { place with parts := place.parts.dropLast }
  else { place with parts := place.parts ++ [segment] }

/-- Whether there is a folder at a place. -/
def isFolder (tree : FileTree) (place : UnitPath) : Bool :=
  place.parts.isEmpty || tree.folders.contains place

/-- Follows one segment; it leads on from folders only, and not out of the current one. -/
def follow? (tree : FileTree) (place : UnitPath) (segment : Text) : Option UnitPath :=
  let leaves := segment = ['.', '.'] && !place.rooted && place.parts.isEmpty
  if tree.isFolder place && !leaves then some (enter place segment) else none

/-- Where a path leads, be there anything or not. The empty path leads nowhere. -/
def resolve? (tree : FileTree) (path : Text) : Option UnitPath :=
  if path.isEmpty then none
  else (Text.splitOn '/' path).foldlM tree.follow? (start path)

/-- The file at a path. -/
def file? (tree : FileTree) (path : Text) : Option Content :=
  (tree.resolve? path).bind tree.files.get?

/-- The text at a path; none if there is no file or it is not text. -/
def read? (tree : FileTree) (path : Text) : Option Text := (tree.file? path).join

/-! ## Changes -/

/-- The places on the way along the segments, the last one first. -/
def visited (place : UnitPath) (segments : List Text) : List UnitPath :=
  segments.foldl
    (fun places segment => enter (places.headD place) segment :: places) [place]

/-- Puts a file in place, and a folder wherever its path passes through. -/
def write (tree : FileTree) (path : Text) (content : Content) : FileTree :=
  match visited (start path) (Text.splitOn '/' path) with
  | [] => tree
  | place :: folders =>
    { files := tree.files.insert place content
      folders := tree.folders ++ folders.filter (!tree.folders.contains ·) }

/-- Takes a file away. Its folder stays. -/
def unlink (tree : FileTree) (path : Text) : FileTree :=
  match tree.resolve? path with
  | some place => { tree with files := tree.files.erase place }
  | none => tree

/-! ## Searches -/

/-- A path below a root. -/
def below (root relative : Text) : Text :=
  if root.getLast? == some '/' then root ++ relative
  else root ++ '/' :: relative

/-- The path of a place relative to another that it lies below or is. -/
def relativeTo? (base place : UnitPath) : Option Text :=
  if place.isUnder base then some (Text.join ['/'] (place.parts.drop base.parts.length)) else none

/-- The files at and below a root, with their paths relative to it, and in the order of these paths.
    A walk over a file system gives them in some order; this is one of them. -/
def filesBelow (tree : FileTree) (root : Text) : List (Text × Content) :=
  match tree.resolve? root with
  | none => []
  | some base =>
    let found := tree.files.entries.filterMap fun e =>
      (relativeTo? base e.1).map fun path => (path, e.2)
    found.mergeSort fun a b => decide (¬ b.1 < a.1)

/-- The files below a root that the patterns select, by their paths from the root on. -/
def selected (tree : FileTree) (root : Text) (globs : Globs) : List (Text × Content) :=
  ((tree.filesBelow root).filter fun file => globs.selects root file.1).map fun file =>
    (below root file.1, file.2)

end FileTree

end OrmLens.Workspace
