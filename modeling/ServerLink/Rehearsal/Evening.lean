import ServerLink.Rehearsal.Stage
import ServerLink.Terminal.Session

namespace ServerLink.Rehearsal

open ServerLink.Terminal

structure Evening where
  session : Session
  stage : Stage := {}
  deriving Repr

namespace Evening

def hear (s : Stage) : Session.Act → Stage
  | .controller act => s.hear act
  | _ => s

def happen (e : Evening) (i : Session.Input) : Evening × List Session.Act :=
  let (session, acts) := e.session.step i
  ({ session, stage := acts.foldl hear e.stage }, acts)

def isUnderWay : Reload → Bool
  | .none => false
  | _ => true

def waitingPanels (s : Session) : List Nat :=
  (s.shell.host.board.queues.filter fun (_, q) => !q.waiting.isEmpty).map (·.1)

/-- What happens in the session itself when nothing comes from outside. -/
def inner? (s : Session) : Option Session.Input :=
  if s.held.isSome || isUnderWay s.shellReload then some .proceedShell
  else if s.hungUp || isUnderWay s.hangupReload then some .proceedHangup
  else if s.loop.isRunning && s.controller.isReady && !s.loop.queue.isEmpty then some .take
  else if s.loop.isRunning && (s.controller.active?).any (fun c => !c.isConnected) then
    some .noticeLoss
  else (waitingPanels s).head?.map .relay

def step (e : Evening) : Option (Evening × List Session.Act) :=
  match e.stage.next? e.session.controller with
  | some (i, stage) => some ({ e with stage }.happen (.control i))
  | none => (inner? e.session).map e.happen

def play (e : Evening) (i : Session.Input) : Evening × List Session.Act :=
  let (e, acts) := e.happen i
  let (e, more) := untilQuiet step bound e
  (e, acts ++ more)

def begin (shell : Shell) (process : Nat) (stage : Stage) : Evening × List Session.Act :=
  let (session, acts) := Session.begin shell process
  let (e, more) := untilQuiet step bound ⟨session, acts.foldl hear stage⟩
  (e, acts ++ more)

inductive Scene where
  | input (i : Session.Input)
  /-- A line that is no text ends the input. -/
  | unreadable
  | direct (f : Peer → Peer)

def playScene (e : Evening) : Scene → Evening × List Session.Act × Bool
  | .input i =>
      let (e, acts) := e.play i
      (e, acts, false)
  | .unreadable =>
      let (next, acts) := e.play .endInput
      (next, acts, e.session.shellRuns)
  | .direct f =>
      let (e, acts) := untilQuiet step bound { e with stage := e.stage.direct f }
      (e, acts, false)

def playScenes (e : Evening) : List Scene → Evening × List Session.Act × Bool
  | [] => (e, [], false)
  | s :: ss =>
      let (e, acts, failed) := e.playScene s
      let (e, more, failing) := e.playScenes ss
      (e, acts ++ more, failed || failing)

/-- Plays all acts, and gives what was done in each and after the last one, when the input ends. -/
def playAll (e : Evening) : List (List Scene) → Evening × List (List Session.Act) × Bool
  | [] =>
      let (e, acts) := e.play .endInput
      (e, [acts], false)
  | a :: rest =>
      let (e, acts, failed) := e.playScenes a
      let (e, more, failing) := e.playAll rest
      (e, acts :: more, failed || failing)

end Evening

end ServerLink.Rehearsal
