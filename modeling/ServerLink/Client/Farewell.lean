import ServerLink.Client.Basic
/-!
The farewell: the features are disposed of, the server is asked to shut down and, if it does not refuse,
told to exit, and the client hangs up. A connection that is known to be lost is only hung up. Between any two
of its steps the client takes what the server sends.
-/

namespace ServerLink.Client

inductive Farewell where
  | dispose
  | unsubscribe
  | check
  | enter
  | write (id : Nat)
  | await (id : Nat)
  | exit
  | hangUp
  deriving DecidableEq, Repr

namespace Farewell

inductive Progress where
  | next (c : Client) (f : Farewell)
  /-- There is nothing to do before something else happens. -/
  | waits
  | done
  deriving Repr

def step (c : Client) : Farewell → Progress × List Act
  | .dispose =>
      (.next c .unsubscribe, (List.range c.features.length).map (.called · .dispose))
  | .unsubscribe => (.next { c with subscriptions := {} } .check, [])
  -- The only look at the connection. A loss behind it shows in the answer that does not come.
  | .check => (.next c (if c.isConnected then .enter else .hangUp), [])
  | .enter =>
      let (id, c) := c.enter
      (.next c (.write id), [])
  | .write id =>
      if c.writable then (.next c (.await id), [.wrote (.shutdown id)])
      else (.next (c.withdraw id) .hangUp, [])
  | .await id =>
      match c.waiting.state id with
      | .answered body => (.next c (if (body.get? "error").isSome then .hangUp else .exit), [])
      | .awaited => (.waits, [])
      | .lost => (.next c .hangUp, [])
  | .exit => (.next c .hangUp, c.write .exit)
  | .hangUp => (.done, [.hungUp])

/-- What comes of the time for the answer running out. An answer that has come counts. -/
def expire (c : Client) : Farewell → Option (Client × Farewell)
  | .await id =>
      match c.waiting.state id with
      | .awaited => some (c.withdraw id, .hangUp)
      | _ => none
  | _ => none

end Farewell

end ServerLink.Client
