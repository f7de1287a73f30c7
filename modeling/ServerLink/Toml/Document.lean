import ServerLink.Toml.Reader
/-!
TOML documents as texts. A document that is read and written again keeps its comments and its order;
carriage returns and a mark of the byte order are dropped, and the entries of one path stand together.
-/

namespace ServerLink.Toml

/-- A document: the entries of its outermost table, and what stands behind its last line. -/
structure Document where
  entries : Entries
  last : List Char
  deriving Inhabited

namespace Document

def empty : Document := ⟨[], []⟩

def dropMark : List Char → List Char
  | '\ufeff' :: s => s
  | s => s

def read? (s : List Char) : Option Document := do
  let (lines, last) ← readLines (dropMark s)
  return ⟨← Entries.ofLines? lines, last⟩

def write (d : Document) : List Char :=
  (Entries.lines d.entries).flatMap Line.write ++ d.last

def contents (d : Document) : List (String × Content) :=
  Entries.contents d.entries

def string? (name : String) (d : Document) : Option String :=
  match Entries.find? name d.entries with
  | some (.value _ ⟨.string s, _⟩) => some s
  | _ => none

def stringValue (s : String) : Value :=
  ⟨.string s, Quoted.write s.toList⟩

/-- Puts a text under a key of the outermost table, in the place of what is there. The key is written as
it stands in the document; a new key needs no quotes. -/
def setString (name s : String) (d : Document) : Document :=
  { d with
    entries := Entries.set { name, written := name.toList }
      (.value ⟨[' '], []⟩ (stringValue s)) d.entries }

end Document

end ServerLink.Toml
