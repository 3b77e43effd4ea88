/-
  The command line: its arguments, and the one-shot command that prints the model graph of a
  folder.
-/
import OrmLens.Index.Basic
import OrmLens.Json.Printer
import OrmLens.Model.Encode
import OrmLens.Workspace.FileTree

namespace OrmLens.Cli

open Index Model Workspace

/-- Name and version of the program. -/
def programName : Text := "django-lsp"

/-- Version of the program. -/
def version : Text := "0.1.0"

/-- How log lines look. -/
inductive LogFormat where
  | compact
  | json
deriving DecidableEq, Repr

/-- What the arguments ask for. -/
structure Arguments where
  globs : List Text := []
  logFormat : LogFormat := .compact
  /-- The folder to dump; without one the server runs. -/
  dump : Option Text := none
deriving DecidableEq, Repr

/-- The arguments, and the lines for standard error that reading them gave. `stop` says that the
    program ends there. -/
structure Parsed where
  arguments : Arguments := {}
  notices : List Text := []
  stop : Bool := false
deriving DecidableEq, Repr

/-- The help text. -/
def help : Text := Text.join ['\n'] [
  "Language server for Django models.",
  "",
  "USAGE:",
  "    django-lsp [OPTIONS]              Serve LSP over stdio",
  "    django-lsp dump <ROOT> [OPTIONS]  Print the model graph under ROOT as JSON",
  "",
  "OPTIONS:",
  "    -h, --help              Print this message",
  "    -v, --version           Print the version",
  "    --models-glob <GLOBS>   Comma-separated globs selecting models units",
  "    --log-format <FORMAT>   compact (default) or json",
  "",
  "Logs go to stderr and honor RUST_LOG."]

/-- An option with its value, if the two go together. -/
def Arguments.withValue? (a : Arguments) (option value : Text) : Option Arguments :=
  if option = "dump" then some { a with dump := some value }
  else if option = "--models-glob" then some { a with globs := a.globs ++ Text.splitOn ',' value }
  else if option = "--log-format" && value = "json" then some { a with logFormat := .json }
  else if option = "--log-format" && value = "compact" then some { a with logFormat := .compact }
  else none

/-- The notice that an argument by itself gives, and whether the program ends with it. -/
def notice (argument : Text) : Text × Bool :=
  if argument = "-h" || argument = "--help" then (help, true)
  else if argument = "-v" || argument = "--version" then (programName ++ " v" ++ version, true)
  else ("Unknown flag " ++ argument, false)

/-- Reads on. -/
def parseFrom (p : Parsed) : List Text → Parsed
  | [] => p
  | [argument] =>
    let (line, stop) := notice argument
    { p with notices := p.notices ++ [line], stop }
  | argument :: value :: rest =>
    match p.arguments.withValue? argument value with
    | some arguments => parseFrom { p with arguments } rest
    | none =>
      let (line, stop) := notice argument
      let p := { p with notices := p.notices ++ [line], stop }
      if stop then p else parseFrom p (value :: rest)

/-- Reads the arguments. -/
def parse (arguments : List Text) : Parsed := parseFrom {} arguments

/-- The settings that the arguments ask for. -/
def Arguments.settings (a : Arguments) : Settings :=
  if a.globs.isEmpty then {} else { modelGlobs := a.globs }

/-! ## Dumps -/

/-- Why a folder could not be dumped. -/
inductive DumpError where
  | invalidPattern (root : Text)
  | unreadable (path : Text)
deriving DecidableEq, Repr

/-- The reason in words. -/
def DumpError.message : DumpError → Text
  | .invalidPattern root => "dump failed: could not glob into " ++ root
  | .unreadable path => "dump failed: could not read " ++ path

/-- Commits the units one after another. -/
def commitAll (s : State) : List (Text × Content) → Except DumpError State
  | [] => .ok s
  | (path, some text) :: rest => commitAll (s.commit (Schema.extract path text) text).1 rest
  | (path, none) :: _ => .error (.unreadable path)

/-- The graph of the units below a folder. -/
def dump (tree : FileTree) (root : Text) (settings : Settings) : Except DumpError Json :=
  match Globs.parse? settings.modelGlobs with
  | none => .error (.invalidPattern root)
  | some globs =>
    (commitAll (State.new settings) (tree.selected root globs)).map fun s =>
      .obj (s.graph.entities.entries.map fun e => (e.1, e.2.toJson))

/-- What a run of the program writes. -/
structure Report where
  output : Text := []
  notices : List Text := []
deriving DecidableEq, Repr

/-- A run that does not serve; `none` if the arguments ask for the server. -/
def run? (tree : FileTree) (p : Parsed) : Option Report :=
  if p.stop then some { notices := p.notices }
  else
    p.arguments.dump.map fun root =>
      match dump tree root p.arguments.settings with
      | .ok graph => { output := graph.pretty ++ ['\n'], notices := p.notices }
      | .error e => { notices := p.notices ++ [e.message] }

end OrmLens.Cli
