namespace ServerLink.Recovery

inductive Action where
  | openSettings
  | reconnect
  deriving DecidableEq, Repr, Inhabited

def Action.label : Action → String
  | .openSettings => "Open settings"
  | .reconnect => "Reconnect"

def actions : List Action := [.openSettings, .reconnect]

def message : String :=
  "Failed to connect to the Jimple language server. Make sure that the language server is " ++
    "running -or- configure the extension to connect via standard IO."

/-- An offer. Each has a number of its own. -/
structure Prompt where
  id : Nat
  message : String
  actions : List Action
  deriving DecidableEq, Repr

def Prompt.ofId (id : Nat) : Prompt :=
  ⟨id, Recovery.message, Recovery.actions⟩

end ServerLink.Recovery
