namespace ServerLink.Transport

inductive Mode where
  | stdio
  | socket
  /-- Any other name: the client is not started. -/
  | unrecognized (name : String)
  deriving DecidableEq, Repr

namespace Mode

def ofName (name : String) : Mode :=
  if name = "stdio" then .stdio
  else if name = "socket" then .socket
  else .unrecognized name

def name : Mode → String
  | .stdio => "stdio"
  | .socket => "socket"
  | .unrecognized name => name

def isRecognized : Mode → Bool
  | .unrecognized _ => false
  | _ => true

@[simp]
theorem name_ofName (name : String) : (ofName name).name = name := by
  unfold ofName
  split
  · simp [Mode.name, *]
  · split <;> simp [Mode.name, *]

end Mode

end ServerLink.Transport
