import ChatSockets.Account
import ChatSockets.Request

/-!
# When a socket is wanted

A socket is wanted while somebody needs it: the application is active, a token says that a request
is about to come, a request waits for its response, or a push was heard of lately. It is never
wanted after its shutdown or in an expired build, and the identified socket only with credentials.

A change of these reasons leaves a wake-up for the task of the socket; wake-ups do not add up, at
most one is left (`Policy.wake`, `Policy.takeWake`). A request to reconnect reaches whoever waits
for one at that moment and nobody later: `Policy.reconnects` counts them, and a waiter compares the
count with the one it began with.
-/

namespace ChatSockets

/-- What the application's stores hold: the credentials, and whether the build has expired. -/
structure Stores where
  credentials : Option Credentials := none
  expired : Bool := false
  deriving DecidableEq, Repr

/-- The reasons for a socket to be open. -/
structure Policy where
  socket : SocketKind
  appActive : Bool := false
  /-- how many requests are about to be submitted -/
  tokens : Nat := 0
  /-- the time at which the latest push ceases to count -/
  pushUntil : Option Nat := none
  shutDown : Bool := false
  /-- whether a wake-up is left -/
  woken : Bool := false
  /-- how often a reconnection was asked for -/
  reconnects : Nat := 0
  deriving DecidableEq, Repr

namespace Policy

/-- The end of the time for which a push counts, if it has not passed. -/
def pushDeadline? (p : Policy) (now : Nat) : Option Nat := p.pushUntil.filter fun t => now < t

/-- Whether the socket should be open, when `pending` requests wait for their responses. -/
def wants (p : Policy) (stores : Stores) (now pending : Nat) : Bool :=
  if p.shutDown || stores.expired then false
  else if p.socket = .identified && stores.credentials.isNone then false
  else p.appActive || p.tokens > 0 || pending > 0 || (p.pushDeadline? now).isSome

/-- A wake-up is left, if none was. -/
def wake (p : Policy) : Policy := { p with woken := true }

/-- The wake-up is taken. -/
def takeWake (p : Policy) : Policy := { p with woken := false }

/-- The application went to the foreground or left it. -/
def setActive (p : Policy) (active : Bool) : Policy :=
  if p.appActive = active then p else { p with appActive := active }.wake

/-- One more request is about to be submitted. -/
def acquire (p : Policy) : Policy := { p with tokens := p.tokens + 1 }.wake

/-- One request fewer is about to be submitted. -/
def release (p : Policy) : Policy := { p with tokens := p.tokens - 1 }.wake

/-- The socket is wanted for at least `ms` from now on. -/
def extendPush (p : Policy) (now ms : Nat) : Policy :=
  let later := match p.pushUntil with
    | none => true
    | some t => t < now + ms
  (if later then { p with pushUntil := some (now + ms) } else p).wake

/-- Whoever waits for a request to reconnect has one. -/
def requestReconnect (p : Policy) : Policy := { p with reconnects := p.reconnects + 1 }

/-- Whether a reconnection was asked for since the count was `joined`. -/
def reconnectSince (p : Policy) (joined : Nat) : Bool := joined < p.reconnects

/-- The socket is never wanted again. -/
def close (p : Policy) : Policy := { p with shutDown := true }.wake.requestReconnect

end Policy

/-- The word for a token of a socket in a log. -/
def tokenShown (socket : SocketKind) : String :=
  let name := match socket with
    | .identified => "Identified"
    | .unidentified => "Unidentified"
  "UnsubmittedRequestToken \x7b connection_type: " ++ name ++ " \x7d"

end ChatSockets
