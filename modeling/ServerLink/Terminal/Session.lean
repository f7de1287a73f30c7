import ServerLink.Controller.Loop
import ServerLink.Terminal.Shell
/-!
The shell, the controller and what runs between them. The shell sends its events through a channel of bounded
size, from which the controller takes them one at a time. Settings are reloaded by the shell and, when the
terminal hangs up, by a task of its own; each reads the file, then sets what it read, and then sends an event,
and the two may get in each other's way.
-/

namespace ServerLink.Terminal

open ServerLink.Storage

inductive Reload where
  | none
  | load
  | set (settings : Settings)
  | tell
  deriving Repr

structure Session where
  shell : Shell
  loop : Controller.Loop := {}
  process : Nat := 0
  /-- The event that the shell is about to send. -/
  held : Option Controller.Event := none
  shellReload : Reload := .none
  /-- The reload by the task that waits for the terminal to hang up. -/
  hangupReload : Reload := .none
  /-- The terminal has hung up since that task last took notice. -/
  hungUp : Bool := false
  shellRuns : Bool := true
  deriving Repr

namespace Session

inductive Act where
  | printed (line : String)
  | warned (line : String)
  | controller (act : Controller.Act)
  | requested (panel : Nat) (request : Panel.Request)
  deriving Repr

def controller (s : Session) : Controller :=
  s.loop.controller

def capacity : Nat := 16

def hasRoom (s : Session) : Bool :=
  s.loop.queue.length < capacity

def showAct (s : Session) (act : Controller.Act) : Session × List Act :=
  match act with
  | .offered prompt =>
      let (lines, host) := s.shell.host.showPrompt prompt
      ({ s with shell := { s.shell with host } }, .controller act :: lines.map .printed)
  | .openedSettings => (s, [.controller act, .printed s.shell.host.settingsLine])
  | .client _ (.openedPanel page) =>
      let ((_, line), host, tree) := s.shell.host.createPanel page s.shell.tree
      ({ s with shell := { s.shell with host, tree } }, [.controller act, .printed line])
  | _ => (s, [.controller act])

def showActs (s : Session) : List Controller.Act → Session × List Act
  | [] => (s, [])
  | act :: acts =>
      let (s, first) := s.showAct act
      let (s, rest) := s.showActs acts
      (s, first ++ rest)

def drive (s : Session) (i : Controller.Loop.Input) : Session × List Act :=
  let (loop, acts) := s.loop.step (s.shell.editor s.process) i
  { s with loop }.showActs acts

/-- Whether the shell takes a command: it has done all that the last one asked for. -/
def isPrompt (s : Session) : Bool :=
  s.shellRuns && s.held.isNone && (match s.shellReload with | .none => true | _ => false)

def enter (s : Session) (line : String) : Session × List Act :=
  if s.isPrompt then
    let (shell, r) := s.shell.execute (Command.parse line)
    let s := { s with
      shell
      held := r.event
      shellReload := if r.reloads then .load else .none
      shellRuns := r.goesOn }
    -- The end takes its turn in the channel, behind all that waits there.
    (if r.goesOn then s else { s with held := some .shutdown }, r.printed.map .printed)
  else (s, [])

def endInput (s : Session) : Session :=
  if s.isPrompt then { s with shellRuns := false, held := some .shutdown } else s

/-- Takes the next step of a reload other than telling the controller. -/
def advance (s : Session) : Reload → Session × Reload × List Act
  | .none => (s, .none, [])
  | .load =>
      let (settings, warnings) := Shell.loadSettings s.shell.environment s.shell.tree
      (s, .set settings, warnings.map .warned)
  -- What the other reload may have set in the meantime is replaced.
  | .set settings => ({ s with shell := s.shell.useSettings settings }, .tell, [])
  | .tell =>
      if s.hasRoom then ({ s with loop := s.loop.send .settingsChanged }, .none, [])
      else (s, .tell, [])

def proceedShell (s : Session) : Session × List Act :=
  match s.held with
  | some e =>
      if s.hasRoom then ({ s with held := none, loop := s.loop.send e }, []) else (s, [])
  | none =>
      let (s, shellReload, acts) := s.advance s.shellReload
      ({ s with shellReload }, acts)

def proceedHangup (s : Session) : Session × List Act :=
  match s.hangupReload with
  | .none => (if s.hungUp then { s with hungUp := false, hangupReload := .load } else s, [])
  | reload =>
      let (s, hangupReload, acts) := s.advance reload
      ({ s with hangupReload }, acts)

def relay (s : Session) (panel : Nat) : Session × List Act :=
  let (request, board) := s.shell.host.board.relay panel
  ({ s with shell := { s.shell with host := { s.shell.host with board } } },
    (request.map (Act.requested panel)).toList)

inductive Input where
  | line (text : String)
  | endInput
  | hangUp
  | proceedShell
  | proceedHangup
  | take
  | noticeLoss
  /-- Something but an operation happens to the controller. -/
  | control (i : Controller.Input)
  | relay (panel : Nat)
  | edit (path : Path) (content : Option (List UInt8))
  deriving Repr

def step (s : Session) : Input → Session × List Act
  | .line text => s.enter text
  | .endInput => (s.endInput, [])
  | .hangUp => ({ s with hungUp := true }, [])
  | .proceedShell => s.proceedShell
  | .proceedHangup => s.proceedHangup
  | .take => s.drive .take
  | .noticeLoss => s.drive .noticeLoss
  | .control i => s.drive (.control i)
  | .relay panel => s.relay panel
  | .edit path content =>
      ({ s with shell := { s.shell with tree := s.shell.tree.place path content } }, [])

def run (s : Session) : List Input → Session × List Act
  | [] => (s, [])
  | i :: inputs =>
      let (s, acts) := s.step i
      let (s, more) := s.run inputs
      (s, acts ++ more)

def begin (shell : Shell) (process : Nat) : Session × List Act :=
  let (loop, acts) := Controller.Loop.begin (shell.editor process)
  { shell, loop, process : Session }.showActs acts

end Session

end ServerLink.Terminal
