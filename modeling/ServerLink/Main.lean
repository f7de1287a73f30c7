import ServerLink.Rehearsal.Evening
import ServerLink.Terminal.Startup
/-!
The command line. It shows the notice that is due and takes commands until the input ends, with the
environment and the files as they are when a command is given. It has no way to reach a server: no process is
started and no port is dialled, so that every attempt ends as it does where nothing is there.
-/

namespace ServerLink.Program

open ServerLink.Storage ServerLink.Terminal ServerLink.Rehearsal

/-- Takes what is at a path into a tree. What is there and is no file that can be read counts as a
directory. -/
def takeIn (t : Tree) (p : Path) : IO Tree := do
  try
    let bytes ← IO.FS.readBinFile p.text
    return t.place p (some bytes.toList)
  catch
    | .noFileOrDirectory .. => return t
    | _ => return t.place p none

def lookUp (names : List String) : IO Environment := do
  let entries ← names.filterMapM fun name => do
    return (← IO.getEnv name).map fun value => (Text.Utf8.bytes name, Text.Utf8.bytes value)
  return ⟨entries⟩

def fixedNames : List String := ["HOME", Surroundings.installationVariable]

def see (directory : Path) (files : List Path) : IO (Environment × Tree) := do
  let env ← lookUp fixedNames
  let known := (Home.settingsFile? env).toList ++ (Home.stateFile? env).toList
  let tree ← (known ++ files).foldlM takeIn (({} : Tree).place directory none)
  let names := match (Home.settingsFile? env).map (Settings.File.load · tree) with
    | some (.ok (some f)) => (f.settings.getD {}).names
    | _ => []
  return (← lookUp (fixedNames ++ names), tree)

def replace (p : Path) (bytes : List UInt8) : IO Unit := do
  let finished := p.text ++ ".new"
  IO.FS.createDirAll p.directory.text
  IO.FS.writeBinFile finished ⟨bytes.toArray⟩
  IO.FS.rename finished p.text

/-- Sets the shell up and keeps what is recorded on the way. Where it cannot be kept, nothing is. -/
def start (s : Surroundings) : IO (Except (List String) Started) := do
  let result := s.start Tree.noFaults
  match result, Home.stateFile? s.environment with
  | .ok started, some p =>
      let recorded := (started.shell.tree.read p).toOption
      if recorded = (s.tree.read p).toOption then return result
      try
        recorded.forM (replace p)
        return result
      catch _ => return s.start fun _ => some .notFound
  | _, _ => return result

def resolve (argument : String) (t : Tree) : IO (Option Path × Tree) := do
  try
    let p := Path.ofText (← IO.FS.realPath argument).toString
    return (some p, t.place p none)
  catch _ => return (some (Path.ofText argument), t)

def tell : Session.Act → IO Unit
  | .printed line => IO.println line
  | .warned line => IO.eprintln line
  | _ => pure ()

def documentsOf (directory : Path) (line : String) : List Path :=
  match Command.parse line with
  | .document _ p => [p.absolute directory]
  | _ => []

partial def readLine (input : IO.FS.Stream) (read : ByteArray) : IO ByteArray := do
  let next ← input.read 1
  if next.isEmpty then return read
  else if next.toList = ['\n'.toUInt8] then return read ++ next
  else readLine input (read ++ next)

/-- Takes commands until the input ends, and gives the status to end with. -/
partial def converse (directory : Path) (e : Evening) : IO UInt32 := do
  (← IO.getStdout).flush
  let bytes ← readLine (← IO.getStdin) .empty
  match Text.Utf8.text? bytes.toList with
  | none =>
      (e.play .endInput).2.forM tell
      Shell.unreadableInput.forM IO.eprintln
      return 1
  | some "" =>
      (e.play .endInput).2.forM tell
      return 0
  | some line =>
      let (environment, tree) ← see directory (documentsOf directory line)
      let shell := { e.session.shell with environment, tree }
      let (e, acts) := { e with session := { e.session with shell } }.play (.line line)
      acts.forM tell
      if e.session.shellRuns then converse directory e else return 0

end ServerLink.Program

open ServerLink ServerLink.Program in
/-- Works on the directory that is given, or else on the working directory. -/
def main (args : List String) : IO UInt32 := do
  let directory := Path.ofText (← IO.currentDir).toString
  let (environment, tree) ← see directory []
  let (argument, tree) ← match args.head? with
    | some a => resolve a tree
    | none => pure (none, tree)
  let started ← start {
    environment
    workingDirectory := directory
    programDirectory := Path.ofText (← IO.appDir).toString
    argument
    tree }
  match started with
  | .error lines =>
      lines.forM IO.eprintln
      return 1
  | .ok s =>
      s.warnings.forM IO.eprintln
      s.printed.forM IO.println
      let (e, acts) := Rehearsal.Evening.begin s.shell 0 {}
      acts.forM tell
      converse directory e
