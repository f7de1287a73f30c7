import ServerLink.Home
import ServerLink.Release.Notice
import ServerLink.Storage.Tree
import ServerLink.Toml.Document
/-!
The file in which the client keeps what it has to remember: the version for which a notice was last shown.
All else in the file is kept. A version is recorded by replacing the file as a whole, and a notice is given
only when the version that it is about has been recorded.
-/

namespace ServerLink.State

open ServerLink.Storage

inductive Failure where
  | unreadable
  | malformed
  | unwritable
  deriving DecidableEq, Repr

structure Error where
  failure : Failure
  path : Path
  deriving DecidableEq, Repr

def Error.message (e : Error) : String :=
  let verb := match e.failure with
    | .unreadable => "read"
    | .malformed => "parse"
    | .unwritable => "write"
  "failed to " ++ verb ++ " state at " ++ e.path.text

def versionKey : String := "last_version"

def isNarrow (n : Int) : Bool :=
  -(Nat.pow 2 63 : Nat) ≤ n && n < (Nat.pow 2 63 : Nat)

def document? (text : List Char) : Option Toml.Document :=
  (Toml.Document.read? text).filter fun d => Toml.entriesAllIntegers isNarrow d.contents

/-- The document that was read, if there is a file. -/
def documentOf (content : Except FileError (List UInt8)) : Except Failure (Option Toml.Document) :=
  match content with
  | .error .notFound => .ok none
  | .error _ => .error .unreadable
  | .ok bytes =>
      match Text.Utf8.decode bytes with
      | none => .error .unreadable
      | some text =>
          match document? text with
          | none => .error .malformed
          | some d => .ok (some d)

/-- The version that is recorded in what was read, if it is a text. -/
def lastVersionIn (content : Except FileError (List UInt8)) : Except Failure (Option String) := do
  return (← documentOf content).bind (·.string? versionKey)

def withVersion (content : Except FileError (List UInt8)) (version : String) :
    Except Failure (List UInt8) := do
  let d := (← documentOf content).getD .empty
  return Text.Utf8.encode (d.setString versionKey version).write

structure Store where
  path : Path
  deriving DecidableEq, Repr

namespace Store

/-- What is read of the file, unless reading fails for reasons that are not in the tree. -/
def read (s : Store) (fault : Option FileError) (t : Tree) : Except FileError (List UInt8) :=
  match fault with
  | some e => .error e
  | none => t.read s.path

def lastVersionOf (s : Store) (content : Except FileError (List UInt8)) : Except Error (Option String) :=
  (lastVersionIn content).mapError fun f => ⟨f, s.path⟩

def lastVersion (s : Store) (t : Tree) : Except Error (Option String) :=
  s.lastVersionOf (t.read s.path)

def recordIn (s : Store) (content : Except FileError (List UInt8)) (faults : Tree.Faults)
    (version : String) (t : Tree) : Except Error Unit × Tree :=
  match withVersion content version with
  | .error f => (.error ⟨f, s.path⟩, t)
  | .ok bytes =>
      match t.replaceFile faults s.path bytes with
      | (.ok (), t) => (.ok (), t)
      | (.error _, t) => (.error ⟨.unwritable, s.path⟩, t)

def recordVersion (s : Store) (faults : Tree.Faults) (version : String) (t : Tree) :
    Except Error Unit × Tree :=
  s.recordIn (s.read none t) faults version t

/-- The notice that is due for the running version in what was read of the file. The version is recorded
before the notice is given, in what is read of the file again. -/
def checkIn (s : Store) (content again : Except FileError (List UInt8)) (faults : Tree.Faults)
    (current : String) (t : Tree) : Except Error (Option Release.Notice) × Tree :=
  match s.lastVersionOf content with
  | .error e => (.error e, t)
  | .ok previous =>
      match Release.Notice.evaluate previous current with
      | none => (.ok none, t)
      | some notice =>
          match s.recordIn again faults current t with
          | (.ok (), t) => (.ok (some notice), t)
          | (.error e, t) => (.error e, t)

def checkVersion (s : Store) (faults : Tree.Faults) (current : String) (t : Tree) :
    Except Error (Option Release.Notice) × Tree :=
  s.checkIn (s.read none t) (s.read none t) faults current t

end Store

end ServerLink.State
