import ServerLink.Text.Utf8
import ServerLink.Text.Split

namespace ServerLink

structure Path where
  bytes : List UInt8
  deriving DecidableEq, Repr, Inhabited

namespace Path

def slash : UInt8 := 47

def dot : UInt8 := 46

def ofText (s : String) : Path :=
  ⟨Text.Utf8.bytes s⟩

def text (p : Path) : String :=
  Text.Utf8.text p.bytes

def isAbsolute (p : Path) : Bool :=
  p.bytes.head? == some slash

/-- A path below another one; an absolute path stands for itself. -/
def join (base p : Path) : Path :=
  if p.isAbsolute || base.bytes.isEmpty then p
  else if base.bytes.getLast? = some slash then ⟨base.bytes ++ p.bytes⟩
  else ⟨base.bytes ++ slash :: p.bytes⟩

/-- The names of a path, in order, without empty ones and single dots. -/
def names (p : Path) : List (List UInt8) :=
  (Text.splitOn slash p.bytes).filter fun n => !n.isEmpty && n != [dot]

def startsAtDot (p : Path) : Bool :=
  !p.isAbsolute && (Text.splitOn slash p.bytes).head? == some [dot]

/-- The parts of a path: its names, and before them a dot it starts with. -/
def parts (p : Path) : List (List UInt8) :=
  if p.startsAtDot then [dot] :: p.names else p.names

def ofParts (absolute : Bool) (parts : List (List UInt8)) : Path :=
  ⟨(if absolute then [slash] else []) ++ Text.joinWith slash parts⟩

/-- The path without its last part; nothing for the root and for a path without parts. -/
def parent? (p : Path) : Option Path :=
  if p.parts.isEmpty then none else some (ofParts p.isAbsolute p.parts.dropLast)

/-- The front parts of a list, the longest first. -/
def fronts {α : Type} : List α → List (List α)
  | [] => [[]]
  | a :: l => (fronts l).map (a :: ·) ++ [[]]

def ancestors (p : Path) : List Path :=
  p :: ((fronts p.parts).drop 1).map (ofParts p.isAbsolute)

/-- The directory around a path; for a single name, the working directory. -/
def directory (p : Path) : Path :=
  match p.parent? with
  | some q => if q.bytes.isEmpty then ⟨[dot]⟩ else q
  | none => ⟨[dot]⟩

/-- The last name of a path, unless it leads upwards. -/
def fileName? (p : Path) : Option (List UInt8) :=
  match p.parts.getLast? with
  | some n => if n = [dot] ∨ n = [dot, dot] then none else some n
  | none => none

/-- What stands behind the last dot of the last name, if something stands before it. -/
def extension? (p : Path) : Option (List UInt8) := do
  let name ← p.fileName?
  let (after, before) ← Text.splitOnce dot name.reverse
  if before.isEmpty then none else some after.reverse

/-- Whether a path can only stand for a directory: it ends in a slash or in a single dot. -/
def isOfDirectory (p : Path) : Bool :=
  match (Text.splitOn slash p.bytes).getLast? with
  | some n => n.isEmpty || n == [dot]
  | none => true

/-- What an absolute path begins with: one slash, or two where exactly two stand there. -/
def root (p : Path) : Path :=
  match p.bytes with
  | a :: b :: c :: _ =>
      if a = slash ∧ b = slash ∧ c ≠ slash then ⟨[slash, slash]⟩ else ⟨[slash]⟩
  | [a, b] => if a = slash ∧ b = slash then ⟨[slash, slash]⟩ else ⟨[slash]⟩
  | _ => ⟨[slash]⟩

def closeWithSlash (p : Path) : Path :=
  if p.bytes.getLast? = some slash then p else ⟨p.bytes ++ [slash]⟩

/-- An absolute path for a path that is seen from a working directory. Single dots and repeated
slashes go, upward steps stay, and a slash at the end stays. -/
def absolute (p cwd : Path) : Path :=
  let base := if p.isAbsolute then p.root else cwd
  let path := p.names.foldl (fun q n => q.join ⟨n⟩) base
  if p.bytes.getLast? = some slash then path.closeWithSlash else path

end Path

end ServerLink
