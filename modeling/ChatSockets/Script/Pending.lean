import ChatSockets.Socket.Pending

/-!
# Scripts of a table of requests that wait

A `Desk` is the table with all receivers that there have been; they are numbered in the order in
which they were registered. A receiver that was dropped by whoever held it may still stand in the
table, but it is told nothing any more.

A script gives names to the receivers: a `PendingSide` is a desk and the names under which its
receivers are held. A `PendingReport` follows each `PendingAct` (`PendingSide.reports`).
-/

namespace ChatSockets.Script

/-- What a receiver gets: an outcome, or the word that there will be none. -/
inductive Receipt
  | outcome (o : Outcome)
  | dropped

/-- What the one who did something is told at once. -/
inductive PendingReply
  | nothing
  | yes (answer : Bool)
  | number (n : Nat)

/-- A table of requests that wait, with the receivers that there have been. -/
structure Desk where
  pending : Pending Nat := .empty
  /-- the ids under which the receivers were registered -/
  ids : List UInt64 := []
  /-- the receivers that were dropped by those who held them -/
  dropped : List Nat := []
  /-- what receivers were told, and who -/
  told : List (Nat × Receipt) := []

namespace Desk

/-- One thing that happens at a desk. -/
inductive Act
  | draw
  | register (id : UInt64)
  /-- a receiver is dropped by whoever holds it -/
  | giveUp (n : Nat)
  | complete (r : Wire.Response)
  | remove (id : UInt64)
  | failAll (e : ChatError)

/-- Receivers are told something, unless they were dropped. -/
def tell (d : Desk) (receivers : List Nat) (receipt : Receipt) : Desk :=
  { d with told := d.told ++ (receivers.filter (· ∉ d.dropped)).map (·, receipt) }

/-- One thing happens; what the one who did it is told. -/
def act (d : Desk) : Act → PendingReply × Desk
  | .draw =>
    let (id, pending) := d.pending.draw
    (.number id.toNat, { d with pending })
  | .register id =>
    let (before, pending) := d.pending.register id d.ids.length
    (.nothing, { d with pending, ids := d.ids ++ [id] }.tell before.toList .dropped)
  | .giveUp n =>
    if n < d.ids.length then (.yes true, { d with dropped := n :: d.dropped }) else (.yes false, d)
  | .complete r =>
    match d.pending.complete r with
    | (none, pending) => (.yes false, { d with pending })
    | (some (receiver, outcome), pending) =>
      (.yes true, { d with pending }.tell [receiver] (.outcome outcome))
  | .remove id =>
    let (before, pending) := d.pending.remove id
    (.yes before.isSome, { d with pending }.tell before.toList .dropped)
  | .failAll e =>
    let (receivers, pending) := d.pending.failAll
    (.number receivers.length, { d with pending }.tell receivers (.outcome (.error e)))

/-- The desk after some acts. -/
def acts (d : Desk) (as : List Act) : Desk := as.foldl (fun d a => (d.act a).2) d

end Desk

/-- One thing that happens to the table. -/
inductive PendingAct
  | nextId
  | register (id : UInt64) (name : String)
  /-- a receiver is dropped by its holder -/
  | giveUp (name : String)
  | complete (r : Wire.Response)
  | remove (id : UInt64)
  | failAll (e : ChatError)
  | wait

/-- A desk, and who holds its receivers. -/
structure PendingSide where
  desk : Desk := {}
  held : Table String Nat := .empty

/-- What there is to see of the table. -/
structure PendingReport where
  reply : PendingReply
  size : Nat
  /-- what receivers got, by name -/
  done : List (String × Receipt)
  /-- the names of those that got nothing yet -/
  waiting : List String

namespace PendingSide

/-- The holder of a receiver drops it. -/
def giveUp (w : PendingSide) (name : String) : PendingReply × PendingSide :=
  match w.held.get? name with
  | some n => ((w.desk.act (.giveUp n)).1, ⟨(w.desk.act (.giveUp n)).2, w.held.erase name⟩)
  | none => (.yes false, w)

/-- Something happens at the desk: what is said about it, and the desk after it. -/
def atDesk (w : PendingSide) (a : Desk.Act) : PendingReply × PendingSide :=
  ((w.desk.act a).1, { w with desk := (w.desk.act a).2 })

/-- One thing happens. A name that is given to a new receiver is taken from the one that had it,
which is dropped. -/
def act (w : PendingSide) : PendingAct → PendingReply × PendingSide
  | .nextId => w.atDesk .draw
  | .register id name =>
    let w := (w.giveUp name).2
    { w with held := w.held.insert name w.desk.ids.length }.atDesk (.register id)
  | .giveUp name => w.giveUp name
  | .complete r => w.atDesk (.complete r)
  | .remove id => w.atDesk (.remove id)
  | .failAll e => w.atDesk (.failAll e)
  | .wait => (.nothing, w)

/-- Those who were told something since `count` things were told stop to wait: what they got, by
name. -/
def settle (w : PendingSide) (count : Nat) : List (String × Receipt) × PendingSide :=
  let news := w.desk.told.drop count
  let done := w.held.entries.filterMap fun e =>
    (news.find? (·.1 = e.2)).map fun t => (e.1, t.2)
  (done, { w with held := done.foldl (fun t e => t.erase e.1) w.held })

/-- A report for each thing that happens. -/
def reports (w : PendingSide) : List PendingAct → List PendingReport
  | [] => []
  | a :: script =>
    let (reply, after) := w.act a
    let (done, after) := after.settle w.desk.told.length
    ⟨reply, after.desk.pending.size, done, after.held.keys⟩ :: after.reports script

end PendingSide

end ChatSockets.Script
