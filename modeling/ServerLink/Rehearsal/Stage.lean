import ServerLink.Controller.Step
import ServerLink.Rehearsal.Peer
/-!
A stage on which the controller meets servers that follow scripts. Things happen one at a time: the controller
goes on as long as it can, then what a server has sent is read, and then the time for an answer runs out.
-/

namespace ServerLink.Rehearsal

open ServerLink.Controller

structure Scenery where
  /-- What comes of starting a command; any other command is missing. -/
  commands : List (String × Reach) := []
  ports : List UInt16 := []
  deriving Repr

def Scenery.reach (w : Scenery) : Target → Reach
  | .command launch => (Assoc.find? launch.command w.commands).getD .missing
  | .port address => if w.ports.contains address.port then .established else .failed

structure Stage where
  scenery : Scenery := {}
  /-- The scripts of the connections in order, of which the last repeats. -/
  scripts : List Script := []
  /-- The servers that were reached, by the numbers of the attempts, from the last to the first. -/
  peers : List (Nat × Peer) := []
  deriving Repr

namespace Stage

def nextScript (s : Stage) : Script :=
  (s.scripts[s.peers.length]?.or s.scripts.getLast?).getD {}

def welcome (s : Stage) (attempt : Nat) : Reach → Stage
  | .established => { s with peers := (attempt, { script := s.nextScript }) :: s.peers }
  | _ => s

def setPeer (s : Stage) (attempt : Nat) (p : Peer) : Stage :=
  { s with peers := s.peers.map fun (n, q) => if n = attempt then (n, p) else (n, q) }

def hear (s : Stage) : Act → Stage
  | .client attempt (.wrote m) =>
      match Assoc.find? attempt s.peers with
      | some p => s.setPeer attempt (p.hear m)
      | none => s
  | _ => s

def direct (s : Stage) (f : Peer → Peer) : Stage :=
  match s.peers with
  | (n, p) :: peers => { s with peers := (n, f p) :: peers }
  | [] => s

/-- What the client of the last attempt reads next, or does at the end of its stream. -/
def incoming? (s : Stage) (attempt : Nat) (c : Client) : Option (Input × Stage) :=
  match c.inflow with
  | .running => do
      let (r, p) ← (← Assoc.find? attempt s.peers).next?
      return (.arrive attempt r, s.setPeer attempt p)
  | .ended | .givenUp => some (.wind attempt, s)
  | .lost => none

def next? (s : Stage) (c : Controller) : Option (Input × Stage) :=
  match c.phase with
  | .idle => none
  | .connecting target _ =>
      let r := s.scenery.reach target
      some (.reached r, s.welcome c.attempts r)
  | .opening _ client next =>
      match (next.step client).1 with
      | .waits =>
          (s.incoming? c.attempts client).or
            (if client.options.timeout.isSome then some (.expire, s) else none)
      | _ => some (.proceed, s)
  | .active _ client => s.incoming? c.attempts client
  | .closing client next _ =>
      match (next.step client).1 with
      | .waits => (s.incoming? c.attempts client).or (some (.expire, s))
      | _ => some (.proceed, s)

end Stage

def untilQuiet {σ α : Type} (step : σ → Option (σ × List α)) : Nat → σ → σ × List α
  | 0, s => (s, [])
  | n + 1, s =>
      match step s with
      | none => (s, [])
      | some (t, acts) =>
          let (u, more) := untilQuiet step n t
          (u, acts ++ more)

def bound : Nat := 100000

structure Performance where
  controller : Controller := {}
  editor : Editor
  stage : Stage := {}
  deriving Repr

namespace Performance

def happen (p : Performance) (i : Input) : Performance × List Act :=
  let (controller, acts) := p.controller.step p.editor i
  ({ p with controller, stage := acts.foldl Stage.hear p.stage }, acts)

def step (p : Performance) : Option (Performance × List Act) :=
  (p.stage.next? p.controller).map fun (i, stage) => { p with stage }.happen i

def settle (p : Performance) : Performance × List Act :=
  untilQuiet step bound p

def ask (p : Performance) (op : Operation) : Performance × List Act :=
  let (p, acts) := p.happen (.perform op)
  let (p, more) := p.settle
  (p, acts ++ more)

def hasLost (p : Performance) : Bool :=
  (p.controller.active?).any fun c => !c.isConnected

/-- Lets the controller take notice of lost connections by itself. -/
def attend (p : Performance) : Performance × List Act :=
  untilQuiet (fun p => if p.hasLost then some (p.ask .noticeLoss) else none) bound p

end Performance

end ServerLink.Rehearsal
