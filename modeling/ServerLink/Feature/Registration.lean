import ServerLink.Json.Basic

namespace ServerLink.Feature

structure Registration where
  id : String
  method : String
  options : Option Json
  deriving Repr, Inhabited

structure Unregistration where
  id : String
  method : String
  deriving DecidableEq, Repr, Inhabited

def textMember? (j : Option Json) : Option String :=
  j.bind Json.string?

/-- A member that is there and not `null`. -/
def filled? : Option Json → Option Json
  | some .null => none
  | j => j

def Registration.ofJson? (j : Json) : Option Registration := do
  let [id, method, options] ← Json.record? false ["id", "method", "registerOptions"] j | none
  return ⟨← textMember? id, ← textMember? method, filled? options⟩

def Unregistration.ofJson? (j : Json) : Option Unregistration := do
  let [id, method] ← Json.record? false ["id", "method"] j | none
  return ⟨← textMember? id, ← textMember? method⟩

/-- The values in a member that holds a list; none where the member is missing. -/
def listMember? {α : Type} (read : Json → Option α) : Option Json → Option (List α)
  | none => some []
  | some j => do (← j.items?).mapM read

def only? {α : Type} (name : String) (read : Json → Option α) (params : Option Json) :
    Option (List α) := do
  let [member] ← Json.record? false [name] (← params) | none
  listMember? read member

/-- The registrations of a request: all, or none if one of them cannot be read. -/
def registrations (params : Option Json) : List Registration :=
  (only? "registrations" Registration.ofJson? params).getD []

/-- The unregistrations of a request: all, or none if one of them cannot be read. The name of the list
is misspelt in the protocol. -/
def unregistrations (params : Option Json) : List Unregistration :=
  (only? "unregisterations" Unregistration.ofJson? params).getD []

end ServerLink.Feature
