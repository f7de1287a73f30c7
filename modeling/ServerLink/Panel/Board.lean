import ServerLink.Assoc
import ServerLink.Panel.Queue

namespace ServerLink.Panel

structure Board where
  queues : List (Nat × Queue) := []
  deriving DecidableEq, Repr

namespace Board

def queue? (b : Board) (panel : Nat) : Option Queue :=
  Assoc.find? panel b.queues

def set (b : Board) (panel : Nat) (q : Queue) : Board :=
  ⟨Assoc.insert panel q b.queues⟩

theorem queue?_set (b : Board) (panel other : Nat) (q : Queue) :
    (b.set panel q).queue? other = if other = panel then some q else b.queue? other :=
  Assoc.find?_insert panel other q b.queues

def isAttended (b : Board) (panel : Nat) : Bool :=
  (b.queue? panel).any fun q => !q.abandoned

def add (b : Board) (panel capacity : Nat) : Board :=
  b.set panel { capacity }

/-- Posts a message in a panel. A panel that was never opened takes none. -/
def post (b : Board) (panel : Nat) (m : Message) : Except Queue.Refusal Board :=
  match b.queue? panel with
  | none => .error .abandoned
  | some q => (q.post m).map (b.set panel)

def close (b : Board) (panel : Nat) : Board :=
  match b.queue? panel with
  | none => b
  | some q => b.set panel q.close

def abandon (b : Board) (panel : Nat) : Board :=
  match b.queue? panel with
  | none => b
  | some q => b.set panel q.abandon

/-- Lets the session of a panel ask for a message; a session that is not there gets none. -/
def receive (b : Board) (panel : Nat) : Option Queue.Receipt × Board :=
  match b.queue? panel with
  | none => (none, b)
  | some q =>
      if q.abandoned then (none, b)
      else
        let (receipt, q) := q.receive
        (some receipt, b.set panel q)

def relay (b : Board) (panel : Nat) : Option Request × Board :=
  match b.receive panel with
  | (some (.message m), b) => (m.request?, b)
  | (_, b) => (none, b)

end Board

end ServerLink.Panel
