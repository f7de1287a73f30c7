import ServerLink.Controller.Basic
import ServerLink.Controller.Event
/-!
The steps of the controller. A run is the list of what happens to it, in order: it is asked to do something,
goes on with what it is doing, or something comes from outside. The steps of the controller and the arrival
of messages may follow one another in any order.
-/

namespace ServerLink.Controller

def ofClient (s : Controller) (acts : List Client.Act) : List Act :=
  acts.map (.client s.attempts)

def offer (s : Controller) : Controller × List Act :=
  ({ s with nextPrompt := s.nextPrompt + 1, outstanding := some s.nextPrompt },
    [.offered (.ofId s.nextPrompt)])

def begin (e : Editor) (s : Controller) : Controller × List Act :=
  let s := { s with phase := .idle, outstanding := none }
  match Target.ofEditor? e with
  | none => (s, [.concluded .disabled])
  | some target =>
      ({ s with phase := .connecting target (optionsFor e), attempts := s.attempts + 1 },
        [.attempted (s.attempts + 1) target])

def stopThen (e : Editor) (s : Controller) (sequel : Sequel) : Controller × List Act :=
  match s.phase, sequel with
  -- What follows waits for the end of the farewell. No second client is there until then.
  | .active _ c, _ => ({ s with phase := .closing c .dispose sequel }, [])
  | _, .rest => (s, [])
  | _, .start => s.begin e
  | _, .offer => s.offer

/-- Starts a client for an offer that was accepted. Any but the outstanding offer is void. -/
def retry (e : Editor) (s : Controller) (prompt : Nat) : Controller × List Act :=
  if s.outstanding = some prompt ∧ s.active?.isNone then
    { s with outstanding := none }.stopThen e .start
  else (s, [])

/-- Takes notice of a lost connection. The loss of a connection to a port is one to recover from. -/
def noticeLoss (s : Controller) : Controller × List Act :=
  match s.phase with
  | .active target c =>
      if c.isConnected then (s, [])
      else
        ({ s with phase := .closing c .dispose (if target.isPort then .offer else .rest) }, [])
  | _ => (s, [])

def dismiss (s : Controller) (prompt : Nat) : Controller :=
  if s.outstanding = some prompt then { s with outstanding := none } else s

def selector : Document.Selector := {}

def reportDocument (s : Controller) (e : Document.Event) : Controller × List Act :=
  match s.phase with
  | .active target c =>
      if selector.covers e.url e.language then
        let (c, acts) := c.report e.url.text e.language e.deed
        ({ s with phase := .active target c }, s.ofClient acts)
      else (s, [])
  | _ => (s, [])

def reportFiles (s : Controller) (changes : List Document.FileChange) : List Act :=
  match s.active?, Document.reportable changes with
  | some c, change :: changes => s.ofClient (c.reportChanges (change :: changes))
  | _, _ => []

def handle (e : Editor) (s : Controller) : Event → Controller × List Act
  | .settingsChanged => s.stopThen e .start
  | .chosen prompt .reconnect => s.retry e prompt
  | .chosen prompt .openSettings => (s.dismiss prompt, [.openedSettings])
  | .document event => s.reportDocument event
  | .filesChanged changes => (s, s.reportFiles changes)
  | .connectionLost => s.noticeLoss
  | .shutdown => (s, [])

/-- Does what the controller is asked to do, as far as nothing has to be awaited. -/
def perform (e : Editor) (s : Controller) : Operation → Controller × List Act
  | .start =>
      if s.active?.isSome then (s, [.concluded .alreadyActive]) else s.begin e
  | .stop => s.stopThen e .rest
  | .restart => s.stopThen e .start
  | .retry prompt => s.retry e prompt
  | .noticeLoss => s.noticeLoss
  | .handle event => s.handle e event

inductive Reach where
  | established
  | missing
  | failed
  deriving DecidableEq, Repr

def Reach.error? (target : Target) : Reach → Option Client.Error
  | .established => none
  | .missing =>
      match target with
      | .command launch => some (.commandMissing launch.command)
      | .port address => some (.unreachable address)
  | .failed =>
      match target with
      | .command launch => some (.notStarted launch.command)
      | .port address => some (.unreachable address)

def fail (s : Controller) (e : Client.Error) : Controller × List Act :=
  let s := { s with phase := .idle }
  match e with
  -- Only a port that was dialled in vain is something to recover from; the phase is idle by now.
  | .unreachable _ =>
      let (t, acts) := s.offer
      (t, acts ++ [.concluded (.unreachable s.nextPrompt)])
  | e => (s, [.concluded (.failed e)])

def reached (s : Controller) (r : Reach) : Controller × List Act :=
  match s.phase with
  | .connecting target options =>
      match r.error? target with
      | some e => s.fail e
      | none => ({ s with phase := .opening target { options, features } .prepare }, [])
  | _ => (s, [])

def abandon (s : Controller) (e : Client.Error) : Controller × List Act :=
  let (t, acts) := s.fail e
  (t, s.ofClient [.hungUp] ++ acts)

def proceed (e : Editor) (s : Controller) : Controller × List Act :=
  match s.phase with
  | .opening target c next =>
      let (progress, acts) := next.step c
      match progress with
      | .next c next => ({ s with phase := .opening target c next }, s.ofClient acts)
      | .waits => (s, s.ofClient acts)
      | .failed error =>
          let (t, more) := s.abandon error
          (t, s.ofClient acts ++ more)
      | .done c => ({ s with phase := .active target c }, s.ofClient acts ++ [.concluded .started])
  | .closing c next sequel =>
      let (progress, acts) := next.step c
      match progress with
      | .next c next => ({ s with phase := .closing c next sequel }, s.ofClient acts)
      | .waits => (s, s.ofClient acts)
      | .done =>
          let (t, more) := { s with phase := .idle }.stopThen e sequel
          (t, s.ofClient acts ++ more)
  | _ => (s, [])

def expire (s : Controller) : Controller × List Act :=
  match s.phase with
  | .opening _ c next =>
      match next.expire c with
      | some e => s.abandon e
      | none => (s, [])
  | .closing c next sequel =>
      match next.expire c with
      | some (c, next) => ({ s with phase := .closing c next sequel }, [])
      | none => (s, [])
  | _ => (s, [])

def onClient (s : Controller) (attempt : Nat) (f : Client → Client × List Client.Act) :
    Controller × List Act :=
  if attempt = s.attempts then
    match s.phase.client? with
    | some c =>
        let (c, acts) := f c
        ({ s with phase := s.phase.setClient c }, s.ofClient acts)
    | none => (s, [])
  else (s, [])

inductive Input where
  /-- It is asked to do something. It does not take that up while it is doing something else. -/
  | perform (op : Operation)
  | reached (r : Reach)
  | proceed
  | expire
  | arrive (attempt : Nat) (r : Wire.Reading)
  /-- The reader of an attempt goes on after the end of its stream. -/
  | wind (attempt : Nat)
  | jam (attempt : Nat)
  deriving Repr

def step (e : Editor) (s : Controller) : Input → Controller × List Act
  | .perform op => if s.isReady then s.perform e op else (s, [])
  | .reached r => s.reached r
  | .proceed => s.proceed e
  | .expire => s.expire
  | .arrive attempt r => s.onClient attempt (·.arrive r)
  | .wind attempt => s.onClient attempt fun c => (c.wind, [])
  | .jam attempt => s.onClient attempt fun c => (c.jam, [])

/-- A run: what the editor provides may change from step to step. -/
def run (s : Controller) : List (Editor × Input) → Controller × List Act
  | [] => (s, [])
  | (e, i) :: inputs =>
      let (s, acts) := s.step e i
      let (s, more) := s.run inputs
      (s, acts ++ more)

end ServerLink.Controller
