import ChatSockets.Proofs.Socket.Standing

/-!
# An application with its two sockets

An `Application` is the two sockets of a client with all the calls that were ever made on them, and
the record of each socket. `Move` lists what can happen, with the choices and the times that decide
how it goes: calls are made, make their steps and are abandoned; the application changes the reasons
for a socket to be open; and the keepers go on. What is at the other end is anything at all: at
every step of a keeper the link may hold any bytes, have any room, and be closed or not.

Each socket that opens runs over a link with a new number.
-/

namespace ChatSockets

open Keeper

/-- A call that was made. -/
structure Caller where
  goal : Goal
  phase : Call.Phase

/-- The two sockets of a client, with their records and all calls. -/
structure Application where
  sockets : Sockets
  records : SocketKind → Record := fun _ => {}
  callers : List Caller := []
  /-- the number of the next link, or a number below it -/
  opened : Nat := 0

namespace Application

/-- What can happen. -/
inductive Move
  /-- a call is made -/
  | call (goal : Goal)
  /-- a call makes a step -/
  | step (j : Nat) (stores : Stores) (now : Nat)
  /-- a call is abandoned -/
  | cancel (j : Nat)
  /-- the application does something with a socket that is no part of a call -/
  | operate (k : SocketKind) (op : Operation)
  /-- a keeper begins its loop anew -/
  | atHead (k : SocketKind) (stores : Stores) (now : Nat) (attempt : Attempt)
  /-- a keeper's attempt to connect fails -/
  | connectFailed (k : SocketKind) (stores : Stores) (now : Nat) (e : ChatError)
  /-- a keeper's attempt to connect gets through, after some links that belong to others -/
  | connected (k : SocketKind) (stores : Stores) (now : Nat) (others : Nat) (link : Link)
  /-- a keeper that is not at the head of its loop and not dialing makes a step -/
  | keeper (k : SocketKind) (branch : Branch) (stores : Stores) (now : Nat) (link : Link)

/-- The connection of a socket. -/
def connection (a : Application) (k : SocketKind) : Connection := a.sockets.get k

/-- The ledger of a socket. -/
def ledger (a : Application) (k : SocketKind) : Ledger := (a.connection k).ledger

/-- A change of one connection. -/
def modify (a : Application) (k : SocketKind) (f : Connection → Connection) : Application :=
  { a with sockets := a.sockets.modify k f }

/-- A request that a call submits now. -/
def issueOf (a : Application) (j : Nat) (k : SocketKind) (r : Request) : Issue where
  request := r.toWire (a.ledger k).nextId
  link? := (a.ledger k).link?
  caller? := some j
  since := (a.records k).heard.length

/-- A call has gone on, and has submitted a request if it had one to submit. -/
def goOn (a : Application) (j : Nat) (goal : Goal) (submitted : Option (SocketKind × Request))
    (after : Call.Phase × Sockets) : Application :=
  { a with
    sockets := after.2
    callers := a.callers.set j ⟨goal, after.1⟩
    records := match submitted with
      | none => a.records
      | some (k, r) => Function.update a.records k ((a.records k).issue (a.issueOf j k r)) }

/-- The bytes that were put into a pipe. -/
def gained (before after : Pipe) : ByteArray :=
  after.held.extract before.held.size after.held.size

/-- A keeper has made a step from one turn to another, on a link with a number if it has one. -/
def turn (a : Application) (k : SocketKind) (n? : Option Nat)
    (uttered : Option (Purpose × Wire.Message)) (heard : Option Wire.Message) (t t' : Turn) :
    Application :=
  { a with
    sockets := a.sockets.set k t'.connection
    records := match n? with
      | none => a.records
      | some n => Function.update a.records k
          (((a.records k).after n uttered heard).put n (gained t.link.up t'.link.up)) }

/-- A keeper has a new link and wrote its handshake on it, or a part of it. -/
def connect (a : Application) (k : SocketKind) (n : Nat) (hello : Wire.Handshake) (t t' : Turn) :
    Application :=
  { a with
    sockets := a.sockets.set k t'.connection
    records := Function.update a.records k
      (((a.records k).say ⟨n, none, .ofHandshake hello⟩).put n (gained t.link.up t'.link.up))
    opened := n + 1 }

/-- The application after a move. -/
def make (a : Application) : Move → Application
  | .call goal => { a with callers := a.callers ++ [⟨goal, .fresh goal⟩] }
  | .step j stores now =>
    match a.callers[j]? with
    | none => a
    | some ⟨goal, phase⟩ =>
      a.goOn j goal (Call.submits? a.sockets stores now phase)
        (Call.step a.sockets stores now phase)
  | .cancel j =>
    match a.callers[j]? with
    | none => a
    | some ⟨goal, phase⟩ => a.goOn j goal none (Call.cancel a.sockets phase)
  | .operate k op => if op.ofCall then a else a.modify k (·.perform op)
  | .atHead k stores now attempt =>
    match (a.connection k).phase with
    | .atHead => a.modify k (·.atHead stores now attempt)
    | _ => a
  | .connectFailed k stores now e =>
    match (a.connection k).phase with
    | .dialing .. => a.modify k (·.connectFailed stores now e)
    | _ => a
  | .connected k stores now others link =>
    match (a.connection k).phase with
    | .dialing hello _ _ =>
      let t : Turn := ⟨a.connection k, link, none⟩
      a.connect k (a.opened + others) hello t
        (connected stores now (a.opened + others) hello t)
    | _ => a
  | .keeper k branch stores now link =>
    let t : Turn := ⟨a.connection k, link, none⟩
    a.turn k (linkOf? (a.connection k)) (utters branch now t) (hears t) t
      (step branch stores now t)

/-- The application after some moves. -/
def makeAll (a : Application) (moves : List Move) : Application := moves.foldl make a

/-- The two steps in which the keeper of an open socket looks whether it is wanted, and for how long
a push counts. -/
def looks (k : SocketKind) (stores : Stores) (now : Nat) : List Move :=
  [.keeper k .woken stores now {}, .keeper k .woken stores now {}]

/-- An application of which nothing has happened. -/
def start (config : ClientConfig) : Application := { sockets := .new config }

/-! ## What a move does -/

variable {a a' : Application} {k : SocketKind} {c : Connection}

/-- What a move does to calls, ledgers and records. -/
inductive Does (a : Application) : Application → Prop
  /-- nothing that calls see -/
  | waits (a' : Application) (hledger : ∀ k, a'.ledger k = a.ledger k)
    (hrecords : a'.records = a.records) (hcallers : a'.callers = a.callers) : Does a a'
  | calls (goal : Goal) : Does a { a with callers := a.callers ++ [⟨goal, .fresh goal⟩] }
  /-- a call makes a step, or is abandoned -/
  | goes (j : Nat) (goal : Goal) (p p' : Call.Phase) (submitted : Option (SocketKind × Request))
    (s' : Sockets) (hj : a.callers[j]? = some ⟨goal, p⟩)
    (h : Call.Does a.sockets p submitted p' s') : Does a (a.goOn j goal submitted (p', s'))
  /-- a keeper makes a step -/
  | turns (k : SocketKind) (a' : Application)
    (h : Shifts (a.ledger k) (a.records k) (a'.ledger k) (a'.records k))
    (hledger : ∀ j, j ≠ k → a'.ledger j = a.ledger j)
    (hrecords : ∀ j, j ≠ k → a'.records j = a.records j) (hcallers : a'.callers = a.callers) :
    Does a a'

theorem ledger_modify (a : Application) (k j : SocketKind) (f : Connection → Connection) :
    (a.modify k f).ledger j = if j = k then (f (a.connection j)).ledger else a.ledger j := by
  rw [ledger, connection, modify, Sockets.get_modify]
  split <;> rfl

/-- A change of one connection in which its keeper goes on. -/
theorem Does.of_modify (k : SocketKind) (f : Connection → Connection)
    (h : Shifts (a.ledger k) (a.records k) (f (a.connection k)).ledger (a.records k)) :
    Does a (a.modify k f) := by
  refine .turns k _ ?_ (fun j hj => ?_) (fun j hj => rfl) rfl
  · rw [ledger_modify, if_pos rfl]
    exact h
  · rw [ledger_modify, if_neg hj]

theorem ledger_set {s : Sockets} (hs : a'.sockets = s.set k c) (j : SocketKind) :
    a'.ledger j = if j = k then c.ledger else (s.get j).ledger := by
  rw [ledger, connection, hs, Sockets.get_set]
  split <;> rfl

/-- The connection of a keeper that makes a step. -/
theorem connection_keeper (a : Application) (k : SocketKind) (branch : Branch) (stores : Stores)
    (now : Nat) (link : Link) : (a.make (.keeper k branch stores now link)).connection k =
      (step branch stores now ⟨a.connection k, link, none⟩).connection :=
  (Sockets.get_set _ k k _).trans (if_pos rfl)

/-- A step in which a keeper and its record go on. -/
theorem Does.of_set {r : Record} (h : Shifts (a.ledger k) (a.records k) c.ledger r)
    (hsockets : a'.sockets = a.sockets.set k c)
    (hrecords : a'.records = Function.update a.records k r) (hcallers : a'.callers = a.callers) :
    Does a a' := by
  refine .turns k _ ?_ (fun j hj => ?_) (fun j hj => ?_) hcallers
  · rw [ledger_set hsockets, if_pos rfl, hrecords, Function.update_self]
    exact h
  · rw [ledger_set hsockets, if_neg hj]
    rfl
  · rw [hrecords, Function.update_of_ne hj]

/-- **A move does one of these things.** -/
theorem make_does (a : Application) (move : Move) : Does a (a.make move) := by
  have hsame : Does a a := .waits a (fun _ => rfl) rfl rfl
  cases move with
  | call goal => exact .calls goal
  | step j stores now =>
    unfold make
    dsimp only
    split
    · exact hsame
    · next goal p hj =>
      exact .goes j goal p _ _ _ hj (Call.step_does a.sockets stores now p)
  | cancel j =>
    unfold make
    dsimp only
    split
    · exact hsame
    · next goal p hj => exact .goes j goal p _ none _ hj (Call.cancel_does a.sockets p)
  | operate k op =>
    unfold make
    dsimp only
    split
    · exact hsame
    · next hop =>
      refine .waits _ (fun j => ?_) rfl rfl
      rw [ledger_modify]
      split
      · exact (Connection.perform_alike _ (by simpa using hop)).ledger
      · rfl
  | atHead k stores now attempt =>
    unfold make
    dsimp only
    split
    · next hphase =>
      exact .of_modify k _ (atHead_shifts _ stores now attempt (by rw [hphase]; rfl) _)
    · exact hsame
  | connectFailed k stores now e =>
    unfold make
    dsimp only
    split
    · next hphase =>
      exact .of_modify k _ (connectFailed_shifts _ stores now e (by rw [hphase]; rfl) _)
    · exact hsame
  | connected k stores now others link =>
    unfold make
    dsimp only
    split
    · next hello _ _ hphase =>
      have hgreets := connected_greets stores now (a.opened + others) hello
        ⟨a.connection k, link, none⟩
      have hhello := (Shift.tells (l := a.ledger k) (r := a.records k) (a.opened + others) none
        (.ofHandshake hello) nofun rfl).shifts
      refine .of_set ((hhello.trans (hgreets.shifts _ ?_ ?_ ?_)).tail (.puts _ _)) rfl rfl rfl
      · exact congrArg Phase.shown hphase
      · exact congrArg Phase.openLink? hphase
      · exact congrArg Phase.probes hphase
    · exact hsame
  | keeper k branch stores now link =>
    have hacts := step_acts branch stores now ⟨a.connection k, link, none⟩
    unfold make turn
    dsimp only
    cases hlink : linkOf? (a.connection k) with
    | none =>
      obtain ⟨-, hledger, -⟩ := hacts.of_unlinked hlink
      refine .waits _ (fun j => ?_) rfl rfl
      rw [ledger_set rfl]
      split
      · next heq => rw [hledger, heq]; rfl
      · rfl
    | some n => exact .of_set ((hacts.shifts hlink (a.records k)).tail (.puts n _)) rfl rfl rfl

end Application

end ChatSockets
