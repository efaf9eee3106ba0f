/-!
# Connectors

A `Connector` makes the connections of a client. How an attempt goes depends on the connector's mode
when the attempt begins: it succeeds or fails at once, never ends, or gets through after a delay. A
connector whose listener is gone fails. `Connector.attempts` counts the attempts that were made.
-/

namespace ChatSockets

/-- How attempts to connect go. -/
inductive ConnectorMode
  | reachable
  | unreachable
  /-- every attempt fails, by a cause of a cause and so on; the innermost cause comes first -/
  | failing (causes : List String)
  /-- no attempt ends -/
  | hanging
  /-- an attempt gets through after a number of milliseconds -/
  | late (ms : Nat)
  deriving DecidableEq, Repr

/-- An attempt to connect. -/
inductive Attempt
  | hanging
  /-- it will get through at a time -/
  | arriving (time : Nat)
  | failed (reason : String)
  | connected
  deriving DecidableEq, Repr

/-- The way from a client to its server. -/
structure Connector where
  mode : ConnectorMode := .reachable
  /-- whether anybody listens at the other end -/
  listening : Bool := true
  /-- how many attempts were made -/
  attempts : Nat := 0
  deriving DecidableEq, Repr

namespace Connector

/-- An attempt that gets through, if somebody listens. -/
def arrival (c : Connector) : Attempt :=
  if c.listening then .connected else .failed "memory listener dropped"

/-- One more attempt. -/
def count (c : Connector) : Connector := { c with attempts := c.attempts + 1 }

/-- Begins an attempt. One that is late counts when it gets through. -/
def begin (c : Connector) (now : Nat) : Attempt × Connector :=
  match c.mode with
  | .reachable => (c.arrival, c.count)
  | .unreachable => (.failed "memory transport unreachable", c.count)
  | .failing causes => (.failed (": ".intercalate causes.reverse), c.count)
  | .hanging => (.hanging, c.count)
  | .late ms => (.arriving (now + ms), c)

/-- An attempt as it stands at a time. -/
def look (c : Connector) (now : Nat) : Attempt → Attempt × Connector
  | .arriving time => if time ≤ now then (c.arrival, c.count) else (.arriving time, c)
  | attempt => (attempt, c)

end Connector

end ChatSockets
