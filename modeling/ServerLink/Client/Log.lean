import ServerLink.Json.Basic

namespace ServerLink.Client

inductive Gravity where
  | error
  | warning
  | info
  | detail
  deriving DecidableEq, Repr

def Gravity.ofCode : Option Nat → Gravity
  | some 1 => .error
  | some 2 => .warning
  | some 3 => .info
  | _ => .detail

def logLine? (method : String) (params : Option Json) : Option (Gravity × String) :=
  if method = "window/logMessage" ∨ method = "window/showMessage" then
    some (.ofCode ((params.bind (·.get? "type")).bind Json.nat?),
      ((params.bind (·.get? "message")).bind Json.string?).getD "")
  else none

end ServerLink.Client
