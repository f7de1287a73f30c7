import ServerLink.Controller.Basic
import ServerLink.Controller.Event
import ServerLink.Path.FileUri
import ServerLink.Settings.File
import ServerLink.State.Store
import ServerLink.Terminal.Command
import ServerLink.Terminal.Host

namespace ServerLink.Terminal

open ServerLink.Storage

structure Shell where
  host : Host
  tree : Tree
  environment : Environment
  workingDirectory : Path
  deriving Repr

structure Response where
  printed : List String := []
  event : Option Controller.Event := none
  reloads : Bool := false
  goesOn : Bool := true
  deriving Repr

namespace Shell

def loadSettings (env : Environment) (t : Tree) : Settings × List String :=
  match Home.settingsFile? env with
  | none => ({}, [])
  | some path =>
      match Settings.File.load path t with
      | .ok (some f) => (f.effective env, [])
      | .ok none => ({}, [])
      | .error e => ({}, [e.message ++ "; using default settings"])

def unreadableInput : List String :=
  ["Error: failed to read stdin", "", "Caused by:", "    stream did not contain valid UTF-8"]

def complaint (what : String) (path : Path) (why : String) : String :=
  what ++ " " ++ path.text ++ ": " ++ why

def readDocument (s : Shell) (path : Path) : Except String String :=
  match s.tree.read path with
  | .error e => .error (complaint "failed to read" path e.message)
  | .ok bytes =>
      match Text.Utf8.text? bytes with
      | some text => .ok text
      | none => .error (complaint "failed to read" path "stream did not contain valid UTF-8")

def languageOf (path : Path) : String :=
  (path.extension?.bind Text.Utf8.text?).getD "plaintext"

/-- What is reported of a document. Its text is read where the report carries it. -/
def deedOf (s : Shell) (path : Path) : DocumentAction → Except String Document.Deed
  | .opens => (s.readDocument path).map .opened
  | .changes => (s.readDocument path).map .changed
  | .saves => .ok .saved
  | .closes => .ok .closed

def documentEvent (s : Shell) (action : DocumentAction) (path : Path) :
    Except String Document.Event := do
  let path := path.absolute s.workingDirectory
  let some url := path.fileUrl? | .error path.noFileUriMessage
  return ⟨url, languageOf path, ← s.deedOf path action⟩

def noticeLine (s : Shell) (action : Release.Notice.Action) : String :=
  match action.page with
  | some page => "Open " ++ page
  | none => s.host.settingsLine

def execute (s : Shell) : Command → Shell × Response
  | .blank => (s, {})
  | .quit => (s, { goesOn := false })
  | .help => (s, { printed := helpLines })
  | .reload => (s, { reloads := true })
  | .choose n =>
      let (choice, host) := s.host.choose n
      let s := { s with host }
      match choice with
      | some (.recovery prompt action) => (s, { event := some (.chosen prompt action) })
      | some (.notice action) => (s, { printed := [s.noticeLine action] })
      | none => (s, { printed := ["No pending option " ++ toString n] })
  | .document action path =>
      match s.documentEvent action path with
      | .ok e => (s, { event := some (.document e) })
      | .error text => (s, { printed := [text] })
  | .file kind path =>
      (s, { event := some (.filesChanged [⟨path.absolute s.workingDirectory, kind⟩]) })
  | .post m =>
      let (result, host) := s.host.post m
      let s := { s with host }
      match result with
      | .ok _ => (s, {})
      | .error e => (s, { printed := [e.message] })
  | .closePanel =>
      let (closed, host) := s.host.closeLatest
      let s := { s with host }
      match closed with
      | some panel => (s, { printed := ["Closed panel " ++ toString panel] })
      | none => (s, { printed := ["No panel is open"] })
  | .unknown line => (s, { printed := ["Unknown command: " ++ line ++ " (try \x60help\x60)"] })

/-- Uses other settings from the next start on. -/
def useSettings (s : Shell) (settings : Settings) : Shell :=
  { s with host := { s.host with settings } }

def editor (s : Shell) (process : Nat) : Editor where
  settings := s.host.settings
  installation := s.host.installation
  workspace := s.host.workspace
  process

end Shell

end ServerLink.Terminal
