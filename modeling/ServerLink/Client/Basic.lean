import ServerLink.Client.Configuration
import ServerLink.Client.Log
import ServerLink.Client.Message
import ServerLink.Duration
import ServerLink.Feature.Subscriptions
import ServerLink.Path.Basic
import ServerLink.Rpc.Waiting
import ServerLink.Wire.Frame
/-!
One end of a connection to a server. What comes in is taken one message at a time, whatever the client
itself is about to do: an answer goes to the request that waits for it, a request is answered at once, and a
notification goes to its subscriber. Once the stream has come to its end, the requests that wait are given
up, and then the connection is known to be lost.
-/

namespace ServerLink

/-- How a client introduces itself and what it answers with. -/
structure Client.Options where
  name : String := Product.name
  process : Nat := 0
  workspace : Option Path := none
  selector : Document.Selector := {}
  timeout : Option Duration := none
  settings : Json := .null
  deriving Repr

/-- How far the stream from the server has been read. -/
inductive Client.Inflow where
  | running
  /-- The stream is at its end, or holds what cannot be read. -/
  | ended
  /-- The requests that waited have been given up. -/
  | givenUp
  | lost
  deriving DecidableEq, Repr

structure Client where
  options : Client.Options
  features : List Feature
  nextId : Nat := 1
  waiting : Rpc.Waiting := {}
  subscriptions : Feature.Subscriptions := {}
  serverCapabilities : Json := .null
  documents : Document.Opened := {}
  inflow : Client.Inflow := .running
  /-- The server takes what is written. -/
  writable : Bool := true
  deriving Repr

namespace Client

inductive Act where
  | wrote (m : Message)
  | called (feature : Nat) (call : Feature.Call)
  | openedPanel (page : Panel.Page)
  | logged (gravity : Gravity) (text : String)
  | hungUp
  deriving Repr

def isConnected (c : Client) : Bool :=
  c.inflow != .lost

def write (c : Client) (m : Message) : List Act :=
  if c.writable then [.wrote m] else []

def enter (c : Client) : Nat × Client :=
  (c.nextId, { c with nextId := c.nextId + 1, waiting := c.waiting.enter c.nextId })

def withdraw (c : Client) (id : Nat) : Client :=
  { c with waiting := c.waiting.withdraw id }

def callTakers (c : Client) (method : String) (call : Feature.Call) : List Act :=
  (Feature.takers c.features method).map (.called · call)

def answer (c : Client) (method : String) (params : Option Json) : List Act × Rpc.Answer :=
  if method = "client/registerCapability" then
    ((Feature.registrations params).flatMap fun r => c.callTakers r.method (.register r),
      .result .null)
  else if method = "client/unregisterCapability" then
    ((Feature.unregistrations params).flatMap fun r => c.callTakers r.method (.unregister r.id),
      .result .null)
  else if method = "workspace/configuration" then
    ([], .result (.array (requestedSettings c.options.settings params)))
  else ([], .unknownMethod method)

def heed (c : Client) (method : String) (params : Option Json) : List Act :=
  match c.subscriptions.find? method with
  | some (_, .showPage) =>
      ((Panel.htmlOfParams? params).map fun html => Act.openedPanel (.ofHtml html)).toList
  | some (feature, .heed) => [.called feature (.heed method params)]
  | none => ((logLine? method params).map fun (gravity, text) => Act.logged gravity text).toList

def dispatch (c : Client) (frame : Json) : Client × List Act :=
  match Rpc.Incoming.ofFrame? frame with
  | none => (c, [])
  | some (.response id body) => ({ c with waiting := c.waiting.complete id body }, [])
  | some (.request id method params) =>
      let (calls, answer) := c.answer method params
      (c, calls ++ c.write (.reply id answer))
  | some (.notification method params) => (c, c.heed method params)

/-- Takes what was read off the stream. After its end, or what cannot be read, nothing more is taken. -/
def arrive (c : Client) (r : Wire.Reading) : Client × List Act :=
  match c.inflow, r with
  | .running, .frame j => c.dispatch j
  | .running, .ended => ({ c with inflow := .ended }, [])
  | .running, .error _ => ({ c with inflow := .ended }, [])
  | _, _ => (c, [])

/-- Does what is to be done next after the end of the stream. -/
def wind (c : Client) : Client :=
  match c.inflow with
  -- Two steps: between them a request may still be entered, which nobody gives up any more.
  | .ended => { c with inflow := .givenUp, waiting := c.waiting.clear }
  | .givenUp => { c with inflow := .lost }
  | _ => c

/-- The server takes nothing more. -/
def jam (c : Client) : Client :=
  { c with writable := false }

def report (c : Client) (uri language : String) (deed : Document.Deed) : Client × List Act :=
  let (documents, notice) := c.documents.take uri language deed
  ({ c with documents }, (notice.map (c.write <| .document ·)).getD [])

def reportChanges (c : Client) (changes : List (String × Document.ChangeKind)) : List Act :=
  c.write (.watched changes)

end Client

end ServerLink
