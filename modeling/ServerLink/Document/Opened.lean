import ServerLink.Document.Event
import ServerLink.Json.Basic
/-!
The documents that are open at the server. Each has the version that was last sent, counted from one; a
document that is not open is opened by its first change, and neither saved nor closed.
-/

namespace ServerLink.Document

inductive Notice where
  | opened (uri language : String) (version : Int32) (text : String)
  | changed (uri : String) (version : Int32) (text : String)
  | saved (uri : String)
  | closed (uri : String)
  deriving DecidableEq, Repr

namespace Notice

def uri : Notice → String
  | .opened uri _ _ _ | .changed uri _ _ | .saved uri | .closed uri => uri

def method : Notice → String
  | .opened .. => "textDocument/didOpen"
  | .changed .. => "textDocument/didChange"
  | .saved _ => "textDocument/didSave"
  | .closed _ => "textDocument/didClose"

def versionMember (version : Int32) : String × Json :=
  ("version", .int version.toInt)

def params : Notice → Json
  | .opened uri language version text =>
      .ofFields [("textDocument", .ofFields [("uri", .string uri), ("languageId", .string language),
        versionMember version, ("text", .string text)])]
  | .changed uri version text =>
      .ofFields [("textDocument", .ofFields [("uri", .string uri), versionMember version]),
        ("contentChanges", .array [.ofFields [("text", .string text)]])]
  | .saved uri | .closed uri =>
      .ofFields [("textDocument", .ofFields [("uri", .string uri)])]

end Notice

/-- The versions of the open documents, by their URIs. -/
structure Opened where
  versions : List (String × Int32) := []
  deriving DecidableEq, Repr

namespace Opened

def version? (d : Opened) (uri : String) : Option Int32 :=
  Assoc.find? uri d.versions

def set (d : Opened) (uri : String) (version : Int32) : Opened :=
  ⟨Assoc.insert uri version d.versions⟩

/-- Opens a document, whether it is open or not. -/
def opens (d : Opened) (uri language text : String) : Opened × Notice :=
  (d.set uri 1, .opened uri language 1 text)

def changes (d : Opened) (uri language text : String) : Opened × Notice :=
  match d.version? uri with
  | none => d.opens uri language text
  | some version => (d.set uri (version + 1), .changed uri (version + 1) text)

def saves (d : Opened) (uri : String) : Option Notice :=
  (d.version? uri).map fun _ => .saved uri

def closes (d : Opened) (uri : String) : Opened × Option Notice :=
  match d.version? uri with
  | none => (d, none)
  | some _ => (⟨Assoc.erase uri d.versions⟩, some (.closed uri))

def take (d : Opened) (uri language : String) : Deed → Opened × Option Notice
  | .opened text =>
      let (d, n) := d.opens uri language text
      (d, some n)
  | .changed text =>
      let (d, n) := d.changes uri language text
      (d, some n)
  | .saved => (d, d.saves uri)
  | .closed => d.closes uri

end Opened

end ServerLink.Document
