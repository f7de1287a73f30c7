import ServerLink.Assoc
import ServerLink.Path.Basic
import ServerLink.Storage.FileError
/-!
Trees of directories and files, and the operations on them that the client needs. A file is replaced as a
whole: a temporary file beside it is written first and then takes its place, so that a failure on the way
leaves what was there.
-/

namespace ServerLink.Storage

inductive Node where
  | file (bytes : List UInt8)
  /-- A directory, which may be closed to new entries. -/
  | directory (closed : Bool)
  deriving DecidableEq, Repr, Inhabited

abbrev Place := List (List UInt8)

/-- A tree: what is at its places, apart from the outermost directory, in levels of places that have
equally many names. -/
structure Tree where
  levels : List (List (Place × Node)) := []
  deriving DecidableEq, Repr, Inhabited

namespace Tree

/-- Changes the level at a depth. Levels that are not there have no places. -/
def changeLevel {α : Type} (f : List α → List α) : Nat → List (List α) → List (List α)
  | 0, [] => [f []]
  | 0, l :: ls => f l :: ls
  | d + 1, [] => [] :: changeLevel f d []
  | d + 1, l :: ls => l :: changeLevel f d ls

theorem getD_changeLevel {α : Type} (f : List α → List α) (d e : Nat) (ls : List (List α)) :
    (changeLevel f d ls).getD e [] = if e = d then f (ls.getD d []) else ls.getD e [] := by
  induction d generalizing e ls with
  | zero => cases ls <;> cases e <;> simp [changeLevel]
  | succ d ih =>
      cases ls with
      | nil =>
          cases e with
          | zero => simp [changeLevel]
          | succ e => simpa [changeLevel] using ih e []
      | cons l ls =>
          cases e with
          | zero => simp [changeLevel]
          | succ e => simpa [changeLevel] using ih e ls

def nodes (t : Tree) : List (Place × Node) :=
  t.levels.flatten

def node? (t : Tree) (place : Place) : Option Node :=
  if place.isEmpty then some (.directory false)
  else Assoc.find? place (t.levels.getD place.length [])

def put (t : Tree) (place : Place) (n : Node) : Tree :=
  ⟨changeLevel (Assoc.insert place n) place.length t.levels⟩

theorem node?_put {place : Place} (h : place ≠ []) (t : Tree) (other : Place) (n : Node) :
    (t.put place n).node? other = if other = place then some n else t.node? other := by
  unfold node? put
  cases other with
  | nil => simp [h.symm]
  | cons x xs =>
      simp only [List.isEmpty_cons, Bool.false_eq_true, if_false, getD_changeLevel]
      split
      · next hl => rw [Assoc.find?_insert, ← hl]
      · next hl =>
        have : x :: xs ≠ place := fun e => hl (by rw [e])
        simp [this]

def upward : List UInt8 := [Path.dot, Path.dot]

def longestName : Nat := 255

def pathLimit : Nat := 4096

/-- Follows names from a place on. All but the last have to be those of directories. -/
def follow (t : Tree) (place : Place) : List (List UInt8) → Except FileError Place
  | [] => .ok place
  | n :: names =>
      match t.node? place with
      | some (.directory closed) =>
          if !closed ∧ longestName < n.length then .error .nameTooLong
          else follow t (if n = upward then place.dropLast else place ++ [n]) names
      | some (.file _) => .error .notDirectory
      | none => .error .notFound

/-- The place of a path, of which the last name may be a new one. -/
def locate (t : Tree) (p : Path) : Except FileError Place :=
  if p.bytes.contains 0 then .error .zeroByte
  else if pathLimit ≤ p.bytes.length then .error .nameTooLong
  else t.follow [] p.names

def find (t : Tree) (p : Path) : Except FileError Node := do
  match t.node? (← t.locate p) with
  | none => .error .notFound
  | some (.file bytes) =>
      if p.isOfDirectory then .error .notDirectory else .ok (.file bytes)
  | some n => .ok n

def contains (t : Tree) (p : Path) : Bool :=
  (t.find p).toBool

def directory? (t : Tree) (p : Path) : Option Place :=
  match t.locate p with
  | .error _ => none
  | .ok place =>
      match t.node? place with
      | some (.directory _) => some place
      | _ => none

def read (t : Tree) (p : Path) : Except FileError (List UInt8) := do
  match ← t.find p with
  | .file bytes => .ok bytes
  | .directory _ => .error .isDirectory

/-- Whether a place can be taken: the directory around it is there and open. -/
def checkParent (t : Tree) (place : Place) : Except FileError Unit :=
  match t.node? place.dropLast with
  | some (.directory false) => .ok ()
  | some (.directory true) => .error .notFound
  | some (.file _) => .error .notDirectory
  | none => .error .notFound

/-- Makes a directory at the end of names from a place on, and gives its place too. -/
def makeDirectory (t : Tree) (start : Place) (names : List (List UInt8)) :
    Except FileError (Place × Tree) := do
  let place ← t.follow start names
  match t.node? place with
  | some _ => .error .alreadyExists
  | none => do
      t.checkParent place
      return (place, t.put place (.directory false))

/-- What has come of making a directory at the end of a path: one that was there before will do. -/
def settle (t : Tree) (p : Path) : Except FileError (Place × Tree) → Except FileError Place × Tree
  | .ok (place, t) => (.ok place, t)
  | .error e =>
      match t.directory? p with
      | some place => (.ok place, t)
      | none => (.error e, t)

/-- Makes the first of the directories, which lie inside one another from the last to the first, and those
around it as far as they are missing, and gives its place. The tree is left as far as it was made. -/
def makeFirst (t : Tree) : List Path → Except FileError Place × Tree
  | [] => (.error .notFound, t)
  | p :: around =>
      match (do t.makeDirectory (← t.locate p) [] : Except FileError (Place × Tree)) with
      | .error .notFound =>
          match t.makeFirst around with
          | (.error e, t) => (.error e, t)
          | (.ok outer, t) =>
              let known := (around.head?.map (·.names.length)).getD 0
              t.settle p (t.makeDirectory outer (p.names.drop known))
      | made => t.settle p made

/-- Makes the directory at the end of a path, and those around it as far as they are missing. -/
def makeDirectories (t : Tree) (p : Path) : Except FileError Unit × Tree :=
  let (made, t) := t.makeFirst p.ancestors
  (made.map fun _ => (), t)

def write (t : Tree) (p : Path) (bytes : List UInt8) : Except FileError Tree := do
  let place ← t.locate p
  match t.node? place with
  | some (.directory _) => .error .isDirectory
  | some (.file _) => return t.put place (.file bytes)
  | none => do
      t.checkParent place
      return t.put place (.file bytes)

/-- Puts a file at the end of a path, or a directory where no content is given, with the directories
around it. What cannot be put leaves the tree as it is. -/
def place (t : Tree) (p : Path) : Option (List UInt8) → Tree
  | some bytes =>
      let t := (t.makeDirectories p.directory).2
      (t.write p bytes).toOption.getD t
  | none => (t.makeDirectories p).2

inductive ReplaceStep where
  | makeDirectories
  | createTemporary
  | writeTemporary
  | syncTemporary
  | rename
  deriving DecidableEq, Repr

/-- Which steps fail for reasons that are not in the tree. -/
abbrev Faults := ReplaceStep → Option FileError

def noFaults : Faults := fun _ => none

def checkFault (faults : Faults) (step : ReplaceStep) : Except FileError Unit :=
  match faults step with
  | some e => .error e
  | none => .ok ()

def checkOpen (t : Tree) (directory : Path) : Except FileError Unit := do
  match ← t.find directory with
  | .directory false => .ok ()
  | .directory true => .error .notFound
  | .file _ => .error .notDirectory

def moveTo (t : Tree) (p : Path) (bytes : List UInt8) : Except FileError Tree := do
  let place ← t.locate p
  match t.node? place with
  | some (.directory _) => .error .isDirectory
  | _ => if p.isOfDirectory then .error .notDirectory else return t.put place (.file bytes)

/-- Replaces a file, or makes it, with the directories around it. -/
def replaceFile (faults : Faults) (t : Tree) (p : Path) (bytes : List UInt8) :
    Except FileError Unit × Tree :=
  let directory := p.directory
  match checkFault faults .makeDirectories with
  | .error e => (.error e, t)
  | .ok () =>
      match t.makeDirectories directory with
      | (.error e, t) => (.error e, t)
      | (.ok (), t) =>
          -- Nothing is put into the tree before the move, which is the last thing that can fail.
          let replaced : Except FileError Tree := do
            checkFault faults .createTemporary
            t.checkOpen directory
            checkFault faults .writeTemporary
            checkFault faults .syncTemporary
            checkFault faults .rename
            t.moveTo p bytes
          match replaced with
          | .error e => (.error e, t)
          | .ok t => (.ok (), t)

end Tree

end ServerLink.Storage
