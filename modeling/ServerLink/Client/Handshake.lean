import ServerLink.Client.Basic
import ServerLink.Path.FileUri
import ServerLink.Transport.Basic
/-!
The handshake: the client introduces itself, waits for the answer, lets its features set themselves up, and
says that the introduction is over. Between any two of its steps the client takes what the server sends.
-/

namespace ServerLink.Client

inductive Error where
  | commandMissing (command : String)
  | notStarted (command : String)
  | unreachable (address : Transport.LocalPort)
  | workspaceUri (path : Path)
  | lost
  | unanswered (method : Method) (limit : Duration)
  | rejected (reason : String)
  deriving Repr

def Error.message : Error → String
  | .commandMissing command => command ++ " not found in PATH"
  | .notStarted command => "failed to spawn " ++ command
  | .unreachable address => "failed to connect to the language server at " ++ address.text
  | .workspaceUri path => path.noFileUriMessage
  | .lost => "connection to the language server closed"
  | .unanswered method limit =>
      "language server did not answer " ++ method.name ++ " within " ++ limit.text
  | .rejected reason => "language server rejected initialize: " ++ reason

inductive Handshake where
  | prepare
  | enter (offer : Offer)
  | write (id : Nat) (offer : Offer)
  | await (id : Nat)
  | settle (answer : Json)
  | conclude
  deriving Repr

namespace Handshake

inductive Progress where
  | next (c : Client) (h : Handshake)
  | waits
  | failed (e : Error)
  | done (c : Client)
  deriving Repr

def rootUri? (o : Options) : Except Error (Option String) :=
  match o.workspace with
  | none => .ok none
  | some path =>
      match path.fileUri? with
      | some uri => .ok (some uri)
      | none => .error (.workspaceUri path)

def offer (c : Client) (rootUri : Option String) : Offer where
  name := c.options.name
  process := c.options.process
  rootUri
  capabilities := Feature.contribute c.features baseCapabilities

def callAll (c : Client) (call : Feature.Call) : List Act :=
  (List.range c.features.length).map (.called · call)

/-- The reason in an error with which a server answers. -/
def reason (error : Json) : String :=
  ((error.get? "message").bind Json.string?).getD "unknown error"

def announced (answer : Json) : Json :=
  .ofOption ((answer.get? "result").bind (·.get? "capabilities"))

def setUp (c : Client) (capabilities : Json) : Client :=
  { c with serverCapabilities := capabilities, subscriptions := .ofFeatures c.features }

def step (c : Client) : Handshake → Progress × List Act
  | .prepare =>
      match rootUri? c.options with
      | .error e => (.failed e, [])
      | .ok uri => (.next c (.enter (offer c uri)), callAll c .contribute)
  | .enter offer =>
      let (id, c) := c.enter
      (.next c (.write id offer), [])
  | .write id offer =>
      if c.writable then (.next c (.await id), [.wrote (.introduce id offer)])
      else (.failed .lost, [])
  | .await id =>
      match c.waiting.state id with
      | .answered body => (.next c (.settle body), [])
      | .awaited => (.waits, [])
      | .lost => (.failed .lost, [])
  | .settle answer =>
      match answer.get? "error" with
      | some error => (.failed (.rejected (reason error)), [])
      | none =>
          (.next (setUp c (announced answer)) .conclude,
            callAll c (.setUp (announced answer) c.options.selector.toJson))
  | .conclude =>
      if c.writable then (.done c, [.wrote .introduced]) else (.failed .lost, [])

def expire (c : Client) : Handshake → Option Error
  | .await id =>
      match c.options.timeout, c.waiting.state id with
      | some limit, .awaited => some (.unanswered .introduce limit)
      | _, _ => none
  | _ => none

end Handshake

end ServerLink.Client
