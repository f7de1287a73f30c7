import ServerLink.Text.Split
import ServerLink.Json.Reader

namespace ServerLink.Panel

structure Message where
  command : String
  text : String
  deriving DecidableEq, Repr

inductive Request where
  | get (url : String)
  | post (url : String) (body : String)
  deriving DecidableEq, Repr

def formSeparator : Char := '?'

namespace Message

/-- The address and the body of a form. The first separator ends the address; without one the body
is empty. -/
def form (text : String) : String × String :=
  match Text.splitOnce formSeparator text.toList with
  | some (url, body) => (String.ofList url, String.ofList body)
  | none => (text, "")

/-- The request that a message asks for; commands of no meaning ask for none. -/
def request? (m : Message) : Option Request :=
  if m.command = "action" then some (.get m.text)
  else if m.command = "configuration" then some (.post (form m.text).1 (form m.text).2)
  else none

def ofMembers? : List (Option Json) → Option Message
  | [some (.string command), none] => some ⟨command, ""⟩
  | [some (.string command), some (.string text)] => some ⟨command, text⟩
  | _ => none

def members : List String := ["command", "text"]

def ofJson? (j : Json) : Option Message := do
  ofMembers? (← j.record? false members)

/-- The members of a written object that have the given names. A name may occur once; the other
members do not count. -/
def formMembers? (names : List String) (fields : List (List Json.Piece × Json.Form)) :
    Option (List (Option Json)) := do
  let keyed ← fields.mapM fun (p, f) => do return (← Json.pieceText? p, f)
  names.mapM fun name =>
    match keyed.filter (·.1 = name) with
    | [] => some none
    | [(_, f)] => do return some (← f.value?)
    | _ => none

def ofForm? : Json.Form → Option Message
  | .object fields => do ofMembers? (← formMembers? members fields)
  | f => do ofJson? (← f.value?)

def read? (s : List Char) : Option Message := do
  ofForm? (← Json.Form.read? s)

end Message

end ServerLink.Panel
