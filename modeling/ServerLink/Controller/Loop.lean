import ServerLink.Controller.Step
/-!
The loop of the controller. It starts a client at once, then takes events from a channel, one at a time, while
it watches the connection, and stops its client when the session is over or nobody can send an event any
more.
-/

namespace ServerLink.Controller

/-- Whether an input is nothing that the controller is asked to do. -/
def Input.isInternal : Input → Bool
  | .perform _ => false
  | _ => true

structure Loop where
  controller : Controller := {}
  queue : List Event := []
  /-- Nobody can send another event. -/
  isClosed : Bool := false
  isRunning : Bool := true
  deriving Repr

namespace Loop

inductive Input where
  | send (event : Event)
  | close
  | take
  /-- The controller takes notice of a lost connection by itself. -/
  | noticeLoss
  /-- Something but an operation happens to the controller. -/
  | control (i : Controller.Input)
  deriving Repr

def send (l : Loop) (event : Event) : Loop :=
  if l.isClosed then l else { l with queue := l.queue ++ [event] }

/-- Takes the next event, if the controller is not busy, and gives what it asks for. After the last event
the client is only stopped. -/
def take (l : Loop) : Loop × Option Operation :=
  if l.isRunning && l.controller.isReady then
    match l.queue with
    | event :: queue =>
        if event.continues then ({ l with queue }, some (.handle event))
        else ({ l with queue, isRunning := false }, some .stop)
    | [] => if l.isClosed then ({ l with isRunning := false }, some .stop) else (l, none)
  else (l, none)

/-- What becomes of the channel, and what then happens to the controller. -/
def lead (l : Loop) : Input → Loop × Option Controller.Input
  | .send event => (l.send event, none)
  | .close => ({ l with isClosed := true }, none)
  | .take =>
      let (l, op) := l.take
      (l, op.map .perform)
  | .noticeLoss => (l, if l.isRunning then some (.perform .noticeLoss) else none)
  | .control i => (l, if i.isInternal then some i else none)

def step (e : Editor) (l : Loop) (i : Input) : Loop × List Act :=
  match l.lead i with
  | (l, none) => (l, [])
  | (l, some i) =>
      let (controller, acts) := l.controller.step e i
      ({ l with controller }, acts)

def begin (e : Editor) : Loop × List Act :=
  let (controller, acts) := ({} : Controller).step e (.perform .restart)
  ({ controller }, acts)

def run (l : Loop) : List (Editor × Input) → Loop × List Act
  | [] => (l, [])
  | (e, i) :: inputs =>
      let (l, acts) := l.step e i
      let (l, more) := l.run inputs
      (l, acts ++ more)

end Loop

end ServerLink.Controller
