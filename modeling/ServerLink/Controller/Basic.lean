import ServerLink.Client.Farewell
import ServerLink.Client.Handshake
import ServerLink.Document.Selector
import ServerLink.Recovery
import ServerLink.Settings.Basic
/-!
The controller holds at most one client and decides when one is started and stopped. What it is asked to do
it does step by step; it takes up nothing else until it is done, while what the server sends is taken at any
time. When the server cannot be reached at its port, or a connection to it is lost, the user is offered to
recover, and only the last offer counts.
-/

namespace ServerLink

/-- What the editor provides. -/
structure Editor where
  settings : Settings := {}
  installation : Path
  workspace : Option Path := none
  process : Nat := 0
  deriving Repr

namespace Controller

/-- What is started or dialled to reach a server. -/
inductive Target where
  | command (launch : Transport.Launch)
  | port (address : Transport.LocalPort)
  deriving DecidableEq, Repr

namespace Target

def ofTransport (debug : Bool) : Transport → Target
  | .subprocess launches => .command (launches.pick debug)
  | .socket address => .port address

def mode : Target → Transport.Mode
  | .command _ => .stdio
  | .port _ => .socket

/-- Whether the loss of a connection to a target is one to recover from. -/
def isPort : Target → Bool
  | .command _ => false
  | .port _ => true

def ofEditor? (e : Editor) : Option Target :=
  let s := e.settings
  (Transport.select? s.transport s.executable (Transport.launchArgs (s.artifactPath e.installation))
    s.port).map (ofTransport s.debug)

end Target

def optionsFor (e : Editor) : Client.Options where
  process := e.process
  workspace := e.workspace
  timeout := e.settings.handshakeTimeout
  settings := e.settings.exported

def features : List Feature := [.pages]

/-- What follows a farewell. -/
inductive Sequel where
  | rest
  | start
  | offer
  deriving DecidableEq, Repr

inductive Phase where
  | idle
  | connecting (target : Target) (options : Client.Options)
  | opening (target : Target) (client : Client) (next : Client.Handshake)
  | active (target : Target) (client : Client)
  | closing (client : Client) (next : Client.Farewell) (sequel : Sequel)
  deriving Repr

inductive Outcome where
  | started
  | alreadyActive
  | disabled
  /-- The port could not be reached, and an offer to recover was made. -/
  | unreachable (prompt : Nat)
  | failed (e : Client.Error)
  deriving Repr

inductive Act where
  | attempted (attempt : Nat) (target : Target)
  | client (attempt : Nat) (act : Client.Act)
  | offered (prompt : Recovery.Prompt)
  | openedSettings
  | concluded (outcome : Outcome)
  deriving Repr

end Controller

structure Controller where
  phase : Controller.Phase := .idle
  /-- How many targets have been tried. The client that is held, if any, belongs to the last attempt. -/
  attempts : Nat := 0
  nextPrompt : Nat := 1
  outstanding : Option Nat := none
  deriving Repr

namespace Controller

/-- The client that is held, whether it is being started, active or being stopped. -/
def Phase.client? : Phase → Option Client
  | .opening _ c _ | .active _ c | .closing c _ _ => some c
  | _ => none

def Phase.setClient (c : Client) : Phase → Phase
  | .opening target _ next => .opening target c next
  | .active target _ => .active target c
  | .closing _ next sequel => .closing c next sequel
  | p => p

def active? (s : Controller) : Option Client :=
  match s.phase with
  | .active _ c => some c
  | _ => none

/-- Whether the controller takes up what it is asked to do. -/
def isReady (s : Controller) : Bool :=
  match s.phase with
  | .idle | .active .. => true
  | _ => false

end Controller

end ServerLink
