import ServerLink.Panel.Message
/-!
The queue between the window that shows a panel and the session that relays its messages. It holds a bounded
number of messages, in the order in which they were posted. The window may close it, after which what waits
in it is still received; the session may leave it, after which nothing more is received.
-/

namespace ServerLink.Panel

structure Queue where
  capacity : Nat
  waiting : List Message := []
  closed : Bool := false
  abandoned : Bool := false
  deriving DecidableEq, Repr

namespace Queue

inductive Refusal where
  | abandoned
  | full
  deriving DecidableEq, Repr

def post (q : Queue) (m : Message) : Except Refusal Queue :=
  if q.abandoned then .error .abandoned
  else if q.waiting.length < q.capacity then .ok { q with waiting := q.waiting ++ [m] }
  else .error .full

inductive Receipt where
  | message (m : Message)
  | empty
  /-- All messages have been received, and the window has been closed. -/
  | ended
  deriving DecidableEq, Repr

def receive (q : Queue) : Receipt × Queue :=
  match q.waiting with
  | m :: ms => (.message m, { q with waiting := ms })
  | [] => (if q.closed then .ended else .empty, q)

def close (q : Queue) : Queue :=
  { q with closed := true }

def abandon (q : Queue) : Queue :=
  { q with abandoned := true, waiting := [] }

end Queue

end ServerLink.Panel
