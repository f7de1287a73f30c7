import ServerLink.Glob.Collection
import ServerLink.Path.FileUri

namespace ServerLink.Document

inductive ChangeKind where
  | created
  | changed
  | deleted
  deriving DecidableEq, Repr, Inhabited

namespace ChangeKind

def all : List ChangeKind := [.created, .changed, .deleted]

def code : ChangeKind → Nat
  | .created => 1
  | .changed => 2
  | .deleted => 3

def name : ChangeKind → String
  | .created => "created"
  | .changed => "changed"
  | .deleted => "deleted"

def ofName? (name : String) : Option ChangeKind :=
  all.find? (·.name == name)

end ChangeKind

structure FileChange where
  path : Path
  kind : ChangeKind
  deriving DecidableEq, Repr, Inhabited

def watchedPatterns : List String :=
  ["**/*.jimple", "**/*.apk", "**/*.jar"]

def extensionGlob (extension : String) : Glob :=
  ⟨.leadingDirectories :: .anyBytes :: .literal '.' :: extension.toList.map .literal⟩

def watchedGlobs : List Glob :=
  ["jimple", "apk", "jar"].map extensionGlob

def isWatched (path : Path) : Bool :=
  Glob.anyMatch watchedGlobs path.bytes

/-- The changes that the server is told of, with the URIs of their files. A file without a URI is left
out. -/
def reportable (changes : List FileChange) : List (String × ChangeKind) :=
  (changes.filter fun c => isWatched c.path).filterMap fun c =>
    c.path.fileUri?.map fun uri => (uri, c.kind)

end ServerLink.Document
