import ServerLink.Document.Event
import ServerLink.Document.Watch
import ServerLink.Recovery

namespace ServerLink.Controller

inductive Event where
  | settingsChanged
  | chosen (prompt : Nat) (action : Recovery.Action)
  | document (e : Document.Event)
  | filesChanged (changes : List Document.FileChange)
  /-- The connection seems to be lost. -/
  | connectionLost
  | shutdown
  deriving Repr

def Event.continues : Event → Bool
  | .shutdown => false
  | _ => true

inductive Operation where
  | start
  | stop
  | restart
  | retry (prompt : Nat)
  | noticeLoss
  | handle (e : Event)
  deriving Repr

end ServerLink.Controller
