import ChatSockets.Account
import ChatSockets.Header
import ChatSockets.Wire.Message

/-!
# Mailboxes and live sessions

A `Mailroom` keeps the messages that each account has not acknowledged yet, and knows the session
that is signed in to it. A message goes into the recipient's mailbox in any case; if a session is
live, it is also sent down that session's line. A session that signs in is sent the whole mailbox
and then the word that this was all. Only an acknowledgement takes a message out of its mailbox.

A line is the queue of requests on their way to one session. It takes requests until the session
hangs up (`Mailroom.hangUp`).
-/

namespace ChatSockets

/-- A message that its recipient has not acknowledged. -/
structure Queued where
  /-- also the id of the request that carries it -/
  id : UInt64
  body : ByteArray
  /-- when the server accepted it, in milliseconds -/
  timestamp : Nat

/-- The request that carries a message to its recipient. -/
def Queued.request (m : Queued) : Wire.Request :=
  { verb := "PUT", path := Path.message, body := m.body, id := m.id,
    headers := [Header.line serverTimestamp (Nat.repr m.timestamp)] }

/-- The request that says that a mailbox has been sent. -/
def queueEmptyRequest (id : UInt64) : Wire.Request := .plain id "PUT" Path.queueEmpty

/-- A session that is signed in: its id and its line. -/
structure Handle where
  session : UInt64
  line : Nat
  deriving DecidableEq, Repr

/-- Where a message went besides its mailbox. -/
inductive Delivery
  /-- down the line of the recipient's session -/
  | live
  /-- nowhere else -/
  | queued
  deriving DecidableEq, Repr

/-- What a server keeps about its accounts. -/
structure Mailroom where
  accounts : Accounts
  /-- the next id for a message or a word to a session -/
  nextId : UInt64 := 1
  /-- the live session of each login -/
  live : Table String Handle := .empty
  /-- what each login has not acknowledged, in the order of delivery; no mailbox is empty -/
  mailboxes : Table String (List Queued) := .empty
  /-- the requests on each line that has not been hung up -/
  lines : Table Nat (List Wire.Request) := .empty
  /-- the next line -/
  nextLine : Nat := 0

namespace Mailroom

/-- A mailroom in which nothing has happened. -/
def new (accounts : Accounts) : Mailroom := { accounts }

/-! ## Accounts and ids -/

/-- Whether a password is that of a login. -/
def authenticate (m : Mailroom) (login password : String) : Bool :=
  m.accounts.get? login = some password

/-- Whether a login has an account. -/
def hasAccount (m : Mailroom) (login : String) : Bool := m.accounts.contains login

/-- An id that was not given out before. -/
def draw (m : Mailroom) : UInt64 × Mailroom := (m.nextId, { m with nextId := m.nextId + 1 })

/-! ## Lines -/

/-- A line for a new session. -/
def openLine (m : Mailroom) : Nat × Mailroom :=
  (m.nextLine, { m with lines := m.lines.insert m.nextLine [], nextLine := m.nextLine + 1 })

/-- The session at the other end of a line is gone. -/
def hangUp (m : Mailroom) (line : Nat) : Mailroom := { m with lines := m.lines.erase line }

/-- Whether the session at the other end of a line is there. -/
def isListening (m : Mailroom) (line : Nat) : Bool := m.lines.contains line

/-- Requests sent down a line; those of a line that was hung up are lost. -/
def send (m : Mailroom) (line : Nat) (requests : List Wire.Request) : Mailroom :=
  { m with lines := m.lines.modify line (· ++ requests) }

/-- The first request on a line, and the line without it. -/
def receive? (m : Mailroom) (line : Nat) : Option (Wire.Request × Mailroom) :=
  match m.lines.get? line with
  | some (r :: rest) => some (r, { m with lines := m.lines.insert line rest })
  | _ => none

/-! ## Sessions and mailboxes -/

/-- What a login has not acknowledged. -/
def mailbox (m : Mailroom) (login : String) : List Queued := (m.mailboxes.get? login).getD []

/-- How many messages a login has not acknowledged. -/
def queuedCount (m : Mailroom) (login : String) : Nat := (m.mailbox login).length

/-- Whether a login has a live session. -/
def isOnline (m : Mailroom) (login : String) : Bool := m.live.contains login

/-- A session becomes the live one of a login, in place of an older one. It is sent the mailbox and
the word that this was all. Gives back how many messages it was sent. -/
def register (m : Mailroom) (login : String) (h : Handle) : Nat × Mailroom :=
  let backlog := m.mailbox login
  let sent := if m.isListening h.line then backlog.length else 0
  let (id, m) := m.draw
  let m := m.send h.line (backlog.map Queued.request ++ [queueEmptyRequest id])
  (sent, { m with live := m.live.insert login h })

/-- The live session of a login is gone, if it is the one with this id. -/
def unregister (m : Mailroom) (login : String) (session : UInt64) : Mailroom :=
  match m.live.get? login with
  | some h => if h.session = session then { m with live := m.live.erase login } else m
  | none => m

/-- A message under its id goes to a login. A live session whose line was hung up is forgotten. -/
def post (m : Mailroom) (login : String) (message : Queued) : Delivery × Mailroom :=
  let (delivery, m) := match m.live.get? login with
    | none => (Delivery.queued, m)
    | some h =>
      if m.isListening h.line then (.live, m.send h.line [message.request])
      else (.queued, { m with live := m.live.erase login })
  (delivery, { m with mailboxes := m.mailboxes.insert login (m.mailbox login ++ [message]) })

/-- A message is accepted at a time for a login; without an account nothing happens at all. -/
def deliver (m : Mailroom) (now : Nat) (login : String) (body : ByteArray) :
    Option Delivery × Mailroom :=
  if m.hasAccount login then
    let (id, m) := m.draw
    let (delivery, m) := m.post login ⟨id, body, now⟩
    (some delivery, m)
  else (none, m)

/-- A login confirms a message, which leaves the mailbox. Gives back whether it was there. -/
def acknowledge (m : Mailroom) (login : String) (id : UInt64) : Bool × Mailroom :=
  let box := m.mailbox login
  if box.any (·.id = id) then
    match box.eraseP (·.id = id) with
    | [] => (true, { m with mailboxes := m.mailboxes.erase login })
    | rest => (true, { m with mailboxes := m.mailboxes.insert login rest })
  else (false, m)

end Mailroom

end ChatSockets
