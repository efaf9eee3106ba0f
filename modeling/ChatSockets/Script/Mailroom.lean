import ChatSockets.Server.Mailroom

/-!
# Scripts of a mailroom

A `MailroomSide` is a mailroom with the sessions that the script makes up: the handle of each, and
its end of the line, at which it takes what is sent. A session may be dead from the beginning,
which means that its line is hung up. A `MailroomReport` follows each `MailroomAct`
(`MailroomSide.reports`).
-/

namespace ChatSockets.Script

/-- A mailroom and the sessions that were made up. -/
structure MailroomSide where
  mailroom : Mailroom
  /-- the line of each session's handle -/
  handles : Table UInt64 Nat := .empty
  /-- the lines at whose ends somebody listens -/
  receivers : Table UInt64 Nat := .empty

/-- One thing that happens to a mailroom. -/
inductive MailroomAct
  | authenticate (login password : String)
  | hasAccount (login : String)
  | nextId
  /-- a session signs in, which may be dead -/
  | register (session : UInt64) (login : String) (dead : Bool)
  | hangUp (session : UInt64)
  /-- a session is sent the word that its mailbox was sent -/
  | pushEmpty (session : UInt64) (id : UInt64)
  | unregister (login : String) (session : UInt64)
  | deliver (login : String) (body : ByteArray)
  | acknowledge (login : String) (id : UInt64)
  | queued (login : String)
  | online (login : String)

/-- What the one who did something is told at once. -/
inductive MailroomReply
  | nothing
  | yes (answer : Bool)
  | number (n : Nat)
  | delivery (d : Delivery)

/-- What there is to see of a mailroom. -/
structure MailroomReport where
  reply : MailroomReply
  /-- what came to each session that listens -/
  pushed : List (UInt64 × List Wire.Request)
  mailroom : Mailroom

namespace MailroomSide

/-- The line at whose end a session listens is hung up. -/
def hangUp (w : MailroomSide) (session : UInt64) : Bool × MailroomSide :=
  match w.receivers.get? session with
  | none => (false, w)
  | some line =>
    (true, { w with mailroom := w.mailroom.hangUp line, receivers := w.receivers.erase session })

/-- A session gets a line. It takes the place of an earlier one, unless it is dead: then the earlier
one still listens at the end of its own line. -/
def openLine (w : MailroomSide) (session : UInt64) (dead : Bool) : Nat × MailroomSide :=
  let (line, mailroom) := w.mailroom.openLine
  let w := { w with mailroom, handles := w.handles.insert session line }
  if dead then (line, { w with mailroom := w.mailroom.hangUp line })
  else
    let (_, w) := w.hangUp session
    (line, { w with receivers := w.receivers.insert session line })

/-- One thing happens at a time. -/
def act (w : MailroomSide) (now : Nat) : MailroomAct → MailroomReply × MailroomSide
  | .authenticate login password => (.yes (w.mailroom.authenticate login password), w)
  | .hasAccount login => (.yes (w.mailroom.hasAccount login), w)
  | .nextId =>
    let (id, mailroom) := w.mailroom.draw
    (.number id.toNat, { w with mailroom })
  | .register session login dead =>
    let (line, w) := w.openLine session dead
    let (sent, mailroom) := w.mailroom.register login ⟨session, line⟩
    (.number sent, { w with mailroom })
  | .hangUp session =>
    let (listened, w) := w.hangUp session
    (.yes listened, w)
  | .pushEmpty session id =>
    match w.handles.get? session with
    | none => (.yes false, w)
    | some line =>
      (.yes (w.mailroom.isListening line),
        { w with mailroom := w.mailroom.send line [queueEmptyRequest id] })
  | .unregister login session =>
    (.nothing, { w with mailroom := w.mailroom.unregister login session })
  | .deliver login body =>
    match w.mailroom.deliver now login body with
    | (none, mailroom) => (.nothing, { w with mailroom })
    | (some d, mailroom) => (.delivery d, { w with mailroom })
  | .acknowledge login id =>
    let (there, mailroom) := w.mailroom.acknowledge login id
    (.yes there, { w with mailroom })
  | .queued login => (.number (w.mailroom.queuedCount login), w)
  | .online login => (.yes (w.mailroom.isOnline login), w)

/-- What came to each session that listens. -/
def pushed (w : MailroomSide) : List (UInt64 × List Wire.Request) :=
  (w.receivers.entries.map fun e => (e.1, (w.mailroom.lines.get? e.2).getD [])).filter
    fun e => !e.2.isEmpty

/-- The mailroom with nothing left on its lines. -/
def cleared (w : MailroomSide) : MailroomSide :=
  { w with mailroom := { w.mailroom with lines := w.mailroom.lines.map fun _ => [] } }

/-- A report for each thing that happens at a time. -/
def reports (w : MailroomSide) (now : Nat) : List MailroomAct → List MailroomReport
  | [] => []
  | a :: script =>
    let (reply, w) := w.act now a
    ⟨reply, w.pushed, w.mailroom⟩ :: w.cleared.reports now script

end MailroomSide

end ChatSockets.Script
