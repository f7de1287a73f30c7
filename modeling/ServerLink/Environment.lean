import ServerLink.Text.Utf8
/-!
The environment: named byte strings. A name is found where an entry, written with an equals sign
behind its name, starts with the name and an equals sign.
-/

namespace ServerLink

structure Environment where
  entries : List (List UInt8 × List UInt8) := []
  deriving DecidableEq, Repr, Inhabited

namespace Environment

def equals : UInt8 := 61

/-- What stands in a byte string behind another one, if it starts with that. -/
def behind? : List UInt8 → List UInt8 → Option (List UInt8)
  | [], s => some s
  | _ :: _, [] => none
  | a :: p, b :: s => if a = b then behind? p s else none

def find? (env : Environment) (name : List UInt8) : Option (List UInt8) :=
  if name.isEmpty || name.contains 0 then none
  else env.entries.findSome? fun e => behind? (name ++ [equals]) (e.1 ++ equals :: e.2)

/-- The value under a name, if it is a text. -/
def text? (env : Environment) (name : String) : Option String :=
  (env.find? (Text.Utf8.bytes name)).bind Text.Utf8.text?

end Environment

end ServerLink
