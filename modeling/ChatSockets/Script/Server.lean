import ChatSockets.Script.Crew
import ChatSockets.Script.WallClock
import ChatSockets.Server.Session

/-!
# Scripts of a server

A `ServerSide` is a server with its sessions, and at the other end of each link a `Visitor` that
writes what the script tells it to and takes down what it reads. After each `ServerAct` the sessions
and the visitors settle, and a `ServerReport` says what came to whom (`ServerSide.reports`).
-/

namespace ChatSockets.Script

/-- The client's end of a link to a server. -/
structure Visitor where
  decoder : Wire.Decoder := .new
  /-- what is still to be written -/
  unsent : ByteArray := .empty
  /-- whether that is the last -/
  ending : Bool := false
  /-- whether it reads -/
  reading : Bool := true
  responses : Array Wire.Response := #[]
  pushes : Array Wire.Request := #[]
  /-- whether it found the end of the stream -/
  sawEnd : Bool := false

namespace Visitor

/-- Whether there is something to write, or the end to be made known. -/
def canWrite (link : Link) (v : Visitor) : Bool :=
  if v.unsent.isEmpty then v.ending && !link.up.closed else link.up.writable

/-- Whether there is something to read. -/
def canRead (link : Link) (v : Visitor) : Bool := v.reading && link.down.readable

/-- Writes as much as there is room for; what a session that is gone does not take is lost. -/
def write (link : Link) (v : Visitor) : Visitor × Link :=
  if v.unsent.isEmpty then (v, link.closeUp)
  else
    match link.up.write? v.unsent with
    | none => ({ v with unsent := .empty }, link)
    | some (rest, up) => ({ v with unsent := rest }, { link with up })

/-- Takes down a message. -/
def take (v : Visitor) (m : Wire.Message) : Visitor :=
  let v := match m.response with
    | none => v
    | some r => { v with responses := v.responses.push r }
  match m.request with
  | none => v
  | some r => { v with pushes := v.pushes.push r }

/-- Reads a piece of the stream. -/
def read (link : Link) (v : Visitor) : Visitor × Link :=
  match link.down.read Pipe.readSize with
  | (.nothing, _) => (v, link)
  | (.ended, _) => ({ v with reading := false, sawEnd := true }, link)
  | (.bytes b, down) =>
    let (items, decoder) := v.decoder.feed b
    ((items.filterMap Except.toOption).foldl take { v with decoder }, { link with down })

/-- The visitor with nothing taken down. -/
def cleared (v : Visitor) : Visitor := { v with responses := #[], pushes := #[], sawEnd := false }

/-- Whether something was taken down. -/
def hasNews (v : Visitor) : Bool := v.sawEnd || !v.responses.isEmpty || !v.pushes.isEmpty

end Visitor

/-- A link with both of its ends. -/
structure Visit where
  /-- the name of the visitor; none, once another visitor took it -/
  name : Option String
  link : Link := {}
  visitor : Visitor := {}
  session : Session

/-- A part that makes steps. -/
inductive ServerPart
  | session (index : Nat)
  | visitor (index : Nat)
  deriving DecidableEq, Repr

/-- A server with its sessions and their visitors. -/
structure ServerSide where
  clock : Clock ServerPart := {}
  mailroom : Mailroom
  visits : Array Visit := #[]
  /-- what sessions ended in since the last report, by the name of the visitor -/
  ended : Array (String × Except SessionError Unit) := #[]

/-- One thing that happens to a server. -/
inductive ServerAct
  /-- a visitor comes, perhaps with a handshake; its session has the next number or a given one -/
  | connect (name : String) (session : Option UInt64) (hello : ByteArray)
  | send (name : String) (bytes : ByteArray)
  /-- a visitor will write no more -/
  | endInput (name : String)
  /-- a visitor lets go of the link -/
  | close (name : String)
  | deliver (login : String) (body : ByteArray)
  | advance (ms : Nat)

/-- What there is to see of a server. -/
structure ServerReport where
  now : Nat
  delivery : Option Delivery
  /-- the visitors that took something down -/
  visitors : List (String × Visitor)
  ended : Array (String × Except SessionError Unit)
  mailroom : Mailroom

namespace ServerSide

/-- The time. -/
def now (w : ServerSide) : Nat := w.clock.now

/-! ## Steps -/


/-- A step of a session. -/
def serve (w : ServerSide) (n : Nat) (v : Visit) (branch : Session.Branch) : ServerSide :=
  let t := Session.step branch w.now (wallClock w.now) ⟨v.session, w.mailroom, v.link⟩
  let w := { w with
    mailroom := t.mailroom
    visits := w.visits.modify n fun v => { v with link := t.link, session := t.session } }
  match t.session.result?, v.name with
  | some r, some name => { w with ended := w.ended.push (name, r) }
  | _, _ => w

/-- A step of a visitor, which writes what it has to write first. -/
def attend (w : ServerSide) (n : Nat) (v : Visit) : ServerSide :=
  let (visitor, link) :=
    if v.visitor.canWrite v.link then v.visitor.write v.link else v.visitor.read v.link
  { w with visits := w.visits.modify n fun v => { v with visitor, link } }

/-- A step of a part; a session passes on a request from its line before it reads. -/
def step (w : ServerSide) : ServerPart → ServerSide
  | .session n =>
    match w.visits[n]? with
    | none => w
    | some v =>
      w.serve n v (if v.session.canTake w.mailroom v.link .push then .push else .frame)
  | .visitor n =>
    match w.visits[n]? with
    | none => w
    | some v => w.attend n v

/-- Whether a part would change anything by a step. -/
def ready (w : ServerSide) : ServerPart → Bool
  | .session n => w.visits[n]?.any fun v => v.session.ready w.now w.mailroom v.link
  | .visitor n => w.visits[n]?.any fun v => v.visitor.canWrite v.link || v.visitor.canRead v.link

/-- The times at which a part goes on by itself. -/
def alarms (w : ServerSide) : ServerPart → List Nat
  | .session n =>
    match w.visits[n]? with
    | some { session := { phase := .greeting deadline, .. }, .. } => [deadline]
    | _ => []
  | .visitor _ => []

/-- The parts of a server and its visitors as tasks. -/
def crew : Crew ServerSide ServerPart where
  tasks w := (List.range w.visits.size).flatMap fun n => [.session n, .visitor n]
  ready := ready
  step := step
  alarms := alarms
  clock := clock
  setClock w clock := { w with clock }

/-! ## What happens -/

/-- The visit under a name put through `f`. -/
def withVisit (w : ServerSide) (name : String) (f : Visit → Visit) : ServerSide :=
  { w with visits := w.visits.map fun v => if v.name = some name then f v else v }

/-- One thing happens, and nobody goes on yet. A visitor that will write no more, or let go of the
link, sends nothing. -/
def act (w : ServerSide) : ServerAct → Option Delivery × ServerSide
  | .connect name session hello =>
    let id := session.getD (w.visits.size + 1).toUInt64
    let w := w.withVisit name fun v => { v with name := none, visitor := { reading := false } }
    let visit : Visit := ⟨some name, {}, { unsent := hello }, .start id w.now⟩
    (none, { w with visits := w.visits.push visit })
  | .send name bytes =>
    (none, w.withVisit name fun v =>
      if v.visitor.ending || v.link.isClosed then v
      else { v with visitor := { v.visitor with unsent := v.visitor.unsent ++ bytes } })
  | .endInput name =>
    (none, w.withVisit name fun v => { v with visitor := { v.visitor with ending := true } })
  | .close name =>
    (none, w.withVisit name fun v =>
      { v with link := v.link.close, visitor := { ending := true, reading := false } })
  | .deliver login body =>
    let (delivery, mailroom) := w.mailroom.deliver (wallClock w.now) login body
    (delivery, { w with mailroom })
  | .advance ms => (none, crew.advance w ms)

/-! ## What there is to see -/

/-- What there is to see after something that happened. -/
def report (w : ServerSide) (delivery : Option Delivery) : ServerReport where
  now := w.now
  delivery
  visitors := w.visits.toList.filterMap fun v =>
    if v.visitor.hasNews then v.name.map fun name => (name, v.visitor) else none
  ended := w.ended
  mailroom := w.mailroom

/-- The server with nothing left to report. -/
def cleared (w : ServerSide) : ServerSide :=
  { w with ended := #[], visits := w.visits.map fun v => { v with visitor := v.visitor.cleared } }

/-- A report for each thing that happens. -/
def reports (w : ServerSide) (script : List ServerAct) : List ServerReport :=
  (script.foldl (fun (reports, w) a =>
    let (delivery, w) := act w a
    let w := crew.settle w
    (reports.push (w.report delivery), w.cleared)) ((#[] : Array ServerReport), w)).1.toList

end ServerSide

end ChatSockets.Script
