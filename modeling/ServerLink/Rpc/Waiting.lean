import ServerLink.Json.Basic
/-!
Requests that wait for their answers. The first answer to a request that waits is kept for it; an answer to
any other request is dropped. Giving up on all requests keeps the answers that have come.
-/

namespace ServerLink.Rpc

/-- The requests that wait, and the answers that have come. -/
structure Waiting where
  pending : List Nat := []
  delivered : List (Nat × Json) := []
  deriving Repr

namespace Waiting

inductive State where
  | answered (body : Json)
  | awaited
  /-- Nobody is left to answer. -/
  | lost
  deriving Repr

def enter (w : Waiting) (id : Nat) : Waiting :=
  { w with pending := id :: w.pending }

def withdraw (w : Waiting) (id : Nat) : Waiting :=
  { w with pending := w.pending.filter (· != id) }

def complete (w : Waiting) (id : Nat) (body : Json) : Waiting :=
  if id ∈ w.pending then
    { pending := w.pending.filter (· != id), delivered := (id, body) :: w.delivered }
  else w

def clear (w : Waiting) : Waiting :=
  { w with pending := [] }

def state (w : Waiting) (id : Nat) : State :=
  -- An answer that has come counts, also when all that waited has been given up since.
  match w.delivered.find? (·.1 == id) with
  | some (_, body) => .answered body
  | none => if id ∈ w.pending then .awaited else .lost

end Waiting

end ServerLink.Rpc
