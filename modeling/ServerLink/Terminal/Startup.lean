import ServerLink.Terminal.Shell

namespace ServerLink.Terminal

open ServerLink.Storage

structure Surroundings where
  environment : Environment
  workingDirectory : Path
  programDirectory : Path
  /-- The directory to work on, if one is given. -/
  argument : Option Path
  tree : Tree
  deriving Repr

structure Started where
  shell : Shell
  printed : List String
  /-- What the user is told apart from what is printed. -/
  warnings : List String
  deriving Repr

namespace Surroundings

def installationVariable : String := "JIMPLE_HOME"

def installation (s : Surroundings) : Path :=
  match s.environment.find? (Text.Utf8.bytes installationVariable) with
  | some bytes => ⟨bytes⟩
  | none => s.programDirectory

/-- The path of something that exists, without steps upwards. -/
def resolve (s : Surroundings) (p : Path) : Except FileError Path :=
  if p.bytes.isEmpty then .error .notFound
  else do
    let p := s.workingDirectory.join p
    let _ ← s.tree.find p
    return Path.ofParts true (← s.tree.locate p)

def workspaceComplaint (p : Path) (e : FileError) : List String :=
  ["Error: workspace " ++ p.text ++ " does not exist", "", "Caused by:", "    " ++ e.message]

/-- The workspace: the directory that is given, or the working directory. -/
def workspace (s : Surroundings) : Except (List String) Path :=
  match s.argument with
  | none => .ok s.workingDirectory
  | some p => (s.resolve p).mapError (workspaceComplaint p)

def panelDirectory (s : Surroundings) : Path :=
  ((Home.directory? s.environment).getD (Path.ofText Home.directoryName)).join (Path.ofText "panels")

/-- The notice that is due, with the version recorded. Nothing is shown where the record cannot be
used. -/
def dueNotice (faults : Tree.Faults) (s : Surroundings) : Option Release.Notice × Tree :=
  match Home.stateFile? s.environment with
  | none => (none, s.tree)
  | some path =>
      match (State.Store.mk path).checkVersion faults Product.version s.tree with
      | (.ok notice, t) => (notice, t)
      | (.error _, t) => (none, t)

/-- Sets the shell up; without its workspace it is not. -/
def start (faults : Tree.Faults) (s : Surroundings) : Except (List String) Started :=
  let (settings, warnings) := Shell.loadSettings s.environment s.tree
  match s.workspace with
  | .error lines => .error (warnings ++ lines)
  | .ok workspace =>
      let host : Host := {
        settings
        installation := s.installation
        workspace := some workspace
        panelDirectory := s.panelDirectory
        settingsFile := Home.settingsFile? s.environment }
      let (notice, tree) := s.dueNotice faults
      let (printed, host) := match notice with
        | some n => host.showNotice n.message
        | none => ([], host)
      .ok ⟨⟨host, tree, s.environment, s.workingDirectory⟩, printed, warnings⟩

end Surroundings

end ServerLink.Terminal
