import ChatSockets.Socket.Policy

/-!
# Scripts of a policy

A `PolicySide` is the policy of a socket with the stores it looks at and the tokens that were taken,
by name. A `PolicyReport` follows each `PolicyAct` (`PolicySide.reports`).
-/

namespace ChatSockets.Script

/-- A policy, its stores and the tokens that are held. -/
structure PolicySide where
  now : Nat := 0
  policy : Policy
  stores : Stores
  /-- whether the policy hears of the expiry of the build -/
  expires : Bool := true
  tokens : List String := []

/-- One thing that happens to a policy. -/
inductive PolicyAct
  | look (pending : Nat)
  | active (on : Bool)
  | expired (on : Bool)
  | credentials (held : Option Credentials)
  | acquire (name : String)
  | release (name : String)
  | extend (ms : Nat)
  | advance (ms : Nat)
  | wake
  | takeWake
  | reconnect
  | shutDown

/-- What the one who did something is told at once. -/
inductive PolicyReply
  | nothing
  | yes (answer : Bool)
  | token (shown : String)
  /-- whether a waiter goes on before a request to reconnect, then whether it goes on after it, and
  whether one does that comes later -/
  | released (before after late : Bool)

/-- What there is to see of a policy. -/
structure PolicyReport where
  reply : PolicyReply
  /-- whether the socket should be open if no request waits -/
  wantedIdle : Bool
  /-- whether it should be open with the number of requests that was named -/
  wanted : Bool
  tokens : Nat
  shutDown : Bool
  login : Option String
  /-- how long the latest push still counts -/
  pushLeft : Option Nat

namespace PolicySide

/-- One thing happens. A token takes the place of an earlier one of its name, which is given back.
-/
def act (w : PolicySide) : PolicyAct → PolicyReply × PolicySide
  | .look _ => (.nothing, w)
  | .active on => (.nothing, { w with policy := w.policy.setActive on })
  | .expired on => (.nothing, { w with stores := { w.stores with expired := on && w.expires } })
  | .credentials held => (.nothing, { w with stores := { w.stores with credentials := held } })
  | .acquire name =>
    let policy := w.policy.acquire
    (.token (tokenShown policy.socket),
      if w.tokens.contains name then { w with policy := policy.release }
      else { w with policy, tokens := name :: w.tokens })
  | .release name =>
    if w.tokens.contains name then
      (.yes true, { w with policy := w.policy.release, tokens := w.tokens.erase name })
    else (.yes false, w)
  | .extend ms => (.nothing, { w with policy := w.policy.extendPush w.now ms })
  | .advance ms => (.nothing, { w with now := w.now + ms })
  | .wake => (.nothing, { w with policy := w.policy.wake })
  | .takeWake => (.yes w.policy.woken, { w with policy := w.policy.takeWake })
  | .reconnect =>
    let joined := w.policy.reconnects
    let policy := w.policy.requestReconnect
    (.released (w.policy.reconnectSince joined) (policy.reconnectSince joined)
      (policy.reconnectSince policy.reconnects), { w with policy })
  | .shutDown => (.nothing, { w with policy := w.policy.close })

/-- What there is to see; a number of requests counts as waiting. -/
def report (w : PolicySide) (reply : PolicyReply) (pending : Nat) : PolicyReport where
  reply
  wantedIdle := w.policy.wants w.stores w.now 0
  wanted := w.policy.wants w.stores w.now pending
  tokens := w.policy.tokens
  shutDown := w.policy.shutDown
  login := w.stores.credentials.map Credentials.login
  pushLeft := (w.policy.pushDeadline? w.now).map (· - w.now)

/-- The number of requests that count as waiting in a report. -/
def pendingOf : PolicyAct → Nat
  | .look pending => pending
  | _ => 1

/-- A report for each thing that happens. -/
def reports (w : PolicySide) : List PolicyAct → List PolicyReport
  | [] => []
  | a :: script =>
    let (reply, w) := w.act a
    w.report reply (pendingOf a) :: w.reports script

end PolicySide

end ChatSockets.Script
