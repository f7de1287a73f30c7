import ServerLink.Document.Opened
import ServerLink.Document.Selector
import ServerLink.Document.Watch
import ServerLink.Feature.Basic
import ServerLink.Rpc.Message

namespace ServerLink.Client

structure Offer where
  name : String
  process : Nat
  rootUri : Option String
  capabilities : Json
  deriving Repr

def baseCapabilities : Json :=
  .ofFields [
    ("textDocument", .ofFields [("synchronization", .ofFields [("dynamicRegistration", .bool false),
      ("willSave", .bool false), ("willSaveWaitUntil", .bool false), ("didSave", .bool true)])]),
    ("workspace", .ofFields [("configuration", .bool true),
      ("didChangeWatchedFiles", .ofFields [("dynamicRegistration", .bool false)])])]

def Offer.params (o : Offer) : Json :=
  .ofFields [("processId", .nat o.process),
    ("clientInfo", .ofFields [("name", .string o.name), ("version", .string Product.version)]),
    ("rootUri", .ofOption (o.rootUri.map .string)), ("capabilities", o.capabilities),
    ("workspaceFolders", .ofOption (o.rootUri.map fun uri =>
      .array [.ofFields [("uri", .string uri), ("name", .string "workspace")]]))]

def watchedParams (changes : List (String × Document.ChangeKind)) : Json :=
  .ofFields [("changes", .array (changes.map fun (uri, kind) =>
    .ofFields [("uri", .string uri), ("type", .nat kind.code)]))]

inductive Message where
  | introduce (id : Nat) (offer : Offer)
  | introduced
  | document (notice : Document.Notice)
  | watched (changes : List (String × Document.ChangeKind))
  | shutdown (id : Nat)
  | exit
  | reply (id : Json) (answer : Rpc.Answer)
  deriving Repr

inductive Method where
  | introduce
  | shutdown
  deriving DecidableEq, Repr

def Method.name : Method → String
  | .introduce => "initialize"
  | .shutdown => "shutdown"

def Message.toJson : Message → Json
  | .introduce id offer => Rpc.request id Method.introduce.name (some offer.params)
  | .introduced => Rpc.notification "initialized" (some (.object []))
  | .document notice => Rpc.notification notice.method (some notice.params)
  | .watched changes => Rpc.notification "workspace/didChangeWatchedFiles" (some (watchedParams changes))
  | .shutdown id => Rpc.request id Method.shutdown.name none
  | .exit => Rpc.notification "exit" none
  | .reply id answer => Rpc.reply id answer

end ServerLink.Client
