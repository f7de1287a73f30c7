import ServerLink.Client.Message
import ServerLink.Wire.Frame

namespace ServerLink.Rehearsal

inductive Reply where
  /-- With these members beside those of every answer. -/
  | members (fields : List (String × Json))
  | ignore
  /-- The sending side is closed instead. -/
  | close
  deriving Repr

structure Script where
  before : List Json := []
  introduction : Reply := .members [("result", .ofFields [("capabilities", .object [])])]
  after : List Json := []
  closesAfter : Bool := false
  shutdown : Reply := .members [("result", .null)]
  deriving Repr

structure Peer where
  script : Script := {}
  unread : List UInt8 := []
  closed : Bool := false
  deriving Repr

namespace Peer

def send (p : Peer) (bytes : List UInt8) : Peer :=
  if p.closed then p else { p with unread := p.unread ++ bytes }

def sendFrames (p : Peer) (frames : List Json) : Peer :=
  p.send (frames.flatMap Wire.writeFrame)

def close (p : Peer) : Peer :=
  { p with closed := true }

def answer (p : Peer) (id : Nat) : Reply → Peer
  | .members fields => p.sendFrames [.ofFields ([("jsonrpc", .string "2.0"), ("id", .nat id)] ++ fields)]
  | .ignore => p
  | .close => p.close

def hear (p : Peer) : Client.Message → Peer
  | .introduce id _ => (p.sendFrames p.script.before).answer id p.script.introduction
  | .introduced =>
      let p := p.sendFrames p.script.after
      if p.script.closesAfter then p.close else p
  | .shutdown id => p.answer id p.script.shutdown
  | _ => p

/-- Whether a reading would come out otherwise if more were sent. -/
def isOpenEnded (p : Peer) : Wire.Reading → Bool
  | .ended | .error .bodyCut | .error .truncatedHeaders => true
  | .error .headerNotText => !p.unread.contains 10
  | _ => false

/-- What the client reads next, once it can be told. -/
def next? (p : Peer) : Option (Wire.Reading × Peer) :=
  let (r, rest) := Wire.readFrame p.unread
  if p.isOpenEnded r && !p.closed then none else some (r, { p with unread := rest })

end Peer

end ServerLink.Rehearsal
