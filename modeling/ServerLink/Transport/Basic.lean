import ServerLink.Path.Basic
import ServerLink.Transport.Mode

namespace ServerLink.Transport

structure Launch where
  command : String
  args : List String
  deriving DecidableEq, Repr, Inhabited

structure Launches where
  run : Launch
  debug : Launch
  deriving DecidableEq, Repr, Inhabited

def Launches.pick (l : Launches) (debug : Bool) : Launch :=
  if debug then l.debug else l.run

structure LocalPort where
  port : UInt16
  deriving DecidableEq, Repr, Inhabited

def LocalPort.text (p : LocalPort) : String :=
  "127.0.0.1:" ++ toString p.port.toNat

end ServerLink.Transport

namespace ServerLink

inductive Transport where
  | subprocess (launches : Transport.Launches)
  | socket (address : Transport.LocalPort)
  deriving DecidableEq, Repr

namespace Transport

def mode : Transport → Mode
  | .subprocess _ => .stdio
  | .socket _ => .socket

def launchArgs (artifact : Path) : List String :=
  ["-jar", artifact.text]

/-- The way to a server in a mode: one command for both uses, a port, or none. -/
def select? (mode : Mode) (executable : String) (args : List String) (port : UInt16) :
    Option Transport :=
  match mode with
  | .stdio => some (.subprocess ⟨⟨executable, args⟩, ⟨executable, args⟩⟩)
  | .socket => some (.socket ⟨port⟩)
  | .unrecognized _ => none

end Transport

end ServerLink
