import ServerLink.Home
import ServerLink.Settings.Expansion
import ServerLink.Settings.Record
import ServerLink.Storage.Tree
import ServerLink.Toml.Document

namespace ServerLink.Settings

open ServerLink.Storage

structure File where
  settings : Option Settings
  deriving DecidableEq, Repr

namespace File

inductive Failure where
  | unreadable
  | malformed
  deriving DecidableEq, Repr

structure Error where
  failure : Failure
  path : Path
  deriving DecidableEq, Repr

def Error.message (e : Error) : String :=
  let verb := match e.failure with
    | .unreadable => "read"
    | .malformed => "parse"
  "failed to " ++ verb ++ " config at " ++ e.path.text

def tableKey : String := "lsp"

mutual

/-- A value in terms of JSON. A time counts as a table without entries, and no setting is a number that is
not whole. -/
def toJson : Toml.Content → Json
  | .string s => .string s
  | .integer n => .int n
  | .float _ => .number (.float ⟨false, 0, Binary64.minExponent⟩)
  | .boolean b => .bool b
  | .time _ => .object []
  | .array items => .array (itemsToJson items)
  | .table entries => .ofFields (entriesToJson entries)

def itemsToJson : List Toml.Content → List Json
  | [] => []
  | c :: cs => toJson c :: itemsToJson cs

def entriesToJson : List (String × Toml.Content) → List (String × Json)
  | [] => []
  | (k, c) :: es => (k, toJson c) :: entriesToJson es

end

/-- The settings in a document. A table given as an array may hold more than the settings. -/
def ofDocument? (d : Toml.Document) : Option File :=
  match Assoc.find? tableKey d.contents with
  | none => some ⟨none⟩
  | some c => do return ⟨some (← Settings.ofJson? true (toJson c))⟩

def isWide (n : Int) : Bool :=
  -(Nat.pow 2 127 : Nat) ≤ n && n < (Nat.pow 2 128 : Nat)

def ofText? (text : List Char) : Option File := do
  let d ← Toml.Document.read? text
  if Toml.entriesAllIntegers isWide d.contents then ofDocument? d else none

def ofBytes (content : Except FileError (List UInt8)) : Except Failure File :=
  match content with
  | .error _ => .error .unreadable
  | .ok bytes =>
      match Text.Utf8.decode bytes with
      | none => .error .unreadable
      | some text =>
          match ofText? text with
          | none => .error .malformed
          | some f => .ok f

def load (p : Path) (t : Tree) : Except Error (Option File) :=
  if t.contains p then
    match ofBytes (t.read p) with
    | .ok f => .ok (some f)
    | .error f => .error ⟨f, p⟩
  else .ok none

/-- The settings to use: those of the file with the references to the environment replaced. -/
def effective (env : Environment) (f : File) : Settings :=
  (f.settings.getD {}).expand env

end File

end ServerLink.Settings
