import ChatSockets.Proofs.Application.Responses
import ChatSockets.Proofs.Network.Invariant
import ChatSockets.Proofs.Server.Execution

/-!
# An application and the server

In an `Exchange` the two sockets of an application run to a server: what one end of a link writes is
what the other end reads, after it was carried there. Around them is all that a `Network` has: other
clients, who are strangers here and write what they like, messages that are accepted from outside,
and links that are lost at any byte. The server keeps a list of what it executed.
-/

namespace ChatSockets

open Keeper

/-- The number of a socket, as an owner of visits. -/
def SocketKind.number : SocketKind → Nat
  | identified => 0
  | unidentified => 1

theorem SocketKind.number_inj {k k' : SocketKind} (h : k.number = k'.number) : k = k' := by
  cases k <;> cases k' <;> first | rfl | cases h

/-- The execution that a step of a session is, if it is one. -/
def Visit.execution? (v : Visit) (m : Mailroom) (n : Nat) (branch : Session.Branch)
    (now wallClock : Nat) : Option Execution :=
  (Session.answers? branch wallClock ⟨v.session, m, v.far⟩).map fun x =>
    ⟨n, x.1, x.2, m, (Session.step branch now wallClock ⟨v.session, m, v.far⟩).mailroom⟩

theorem Visit.execution?_eq_some {v : Visit} {m : Mailroom} {n : Nat} {branch : Session.Branch}
    {now wallClock : Nat} {e : Execution} (h : v.execution? m n branch now wallClock = some e) :
    e.visit = n ∧ e.before = m ∧
      e.after = (Session.step branch now wallClock ⟨v.session, m, v.far⟩).mailroom ∧ e.Right := by
  obtain ⟨x, hx, rfl⟩ := Option.map_eq_some_iff.1 h
  obtain ⟨login, hresponse, hafter⟩ := Session.step_answers hx now
  exact ⟨rfl, rfl, rfl, wallClock, login, hresponse, hafter⟩

/-- The execution that a move of a network is, if it is one. -/
def Network.execution? (w : Network) : Network.Move → Option Execution
  | .session n branch now wallClock =>
    w.visits[n]?.bind fun v => v.execution? w.mailroom n branch now wallClock
  | _ => none

/-- An application and a server, with all that the server executed. -/
structure Exchange where
  app : Application
  /-- the server, the links of the application and the strangers; the only client is the application
  -/
  network : Network
  executed : List Execution := []

namespace Exchange

/-- What can happen. -/
inductive Move
  /-- the application makes a move that touches no link -/
  | application (move : Application.Move)
  /-- a keeper of the application makes a step, on its end of the link if it has one -/
  | keeper (k : SocketKind) (branch : Branch) (stores : Stores) (now : Nat)
  /-- a keeper's attempt to connect gets through, and a session with an id begins -/
  | connected (k : SocketKind) (stores : Stores) (now : Nat) (id : UInt64)
  /-- something happens at the server, on the links or among the strangers -/
  | server (move : Network.Move)

/-- A step of a keeper on its link. -/
def stepKeeper (x : Exchange) (k : SocketKind) (branch : Branch) (stores : Stores) (now : Nat) :
    Exchange :=
  match linkOf? (x.app.connection k) with
  | none => { x with app := x.app.make (.keeper k branch stores now {}) }
  | some n =>
    match x.network.visits[n]? with
    | none => x
    | some v =>
      let t := step branch stores now ⟨x.app.connection k, v.near, none⟩
      { x with
        app := x.app.make (.keeper k branch stores now v.near)
        network := { x.network with visits := x.network.visits.set n { v with near := t.link } } }

/-- A keeper that dials has a new link, at the other end of which a session begins. -/
def connect (x : Exchange) (k : SocketKind) (stores : Stores) (now : Nat) (id : UInt64) :
    Exchange :=
  match (x.app.connection k).phase with
  | .dialing hello _ _ =>
    let n := x.network.visits.length
    let t := Keeper.connected stores now n hello ⟨x.app.connection k, {}, none⟩
    { x with
      app := x.app.make (.connected k stores now (n - x.app.opened) {})
      network := { x.network with
        visits := x.network.visits ++
          [{ session := .start id now, near := t.link, owner := some k.number }] } }
  | _ => x

/-- The exchange after a move. -/
def make (x : Exchange) : Move → Exchange
  | .application move => if move.isQuiet then { x with app := x.app.make move } else x
  | .keeper k branch stores now => x.stepKeeper k branch stores now
  | .connected k stores now id => x.connect k stores now id
  | .server move =>
    { x with
      network := x.network.make move
      executed := x.executed ++ (x.network.execution? move).toList }

/-- The exchange after some moves. -/
def makeAll (x : Exchange) (moves : List Move) : Exchange := moves.foldl make x

@[simp] theorem makeAll_nil (x : Exchange) : x.makeAll [] = x := rfl

/-- An application and a server with some accounts, before anything happened. -/
def start (config : ClientConfig) (accounts : Accounts) : Exchange where
  app := .start config
  network := .start accounts []

/-- A socket of the application is one of the visits at the server. -/
def Owns (x : Exchange) (k : SocketKind) (n : Nat) : Prop :=
  ∃ v, x.network.visits[n]? = some v ∧ v.owner = some k.number

/-- Whether an execution is that of the request of a call: the call submitted a request under this
id on this link. -/
def isOf (x : Exchange) (j : Nat) (e : Execution) : Bool :=
  [SocketKind.identified, .unidentified].any fun k =>
    (x.app.records k).issued.any fun i =>
      i.caller? = some j ∧ i.link? = some e.visit ∧ i.id = e.request.id

/-- The executions of the request of a call. -/
def executions (x : Exchange) (j : Nat) : List Execution := x.executed.filter (x.isOf j)

variable {x : Exchange}

theorem isOf_iff (x : Exchange) (j : Nat) (e : Execution) : x.isOf j e = true ↔
    ∃ k, ∃ i ∈ (x.app.records k).issued, i.caller? = some j ∧ i.link? = some e.visit ∧
      i.id = e.request.id := by
  simp only [isOf, List.any_eq_true, decide_eq_true_eq]
  constructor
  · rintro ⟨k, -, i, hi, h⟩
    exact ⟨k, i, hi, h⟩
  · rintro ⟨k, i, hi, h⟩
    exact ⟨k, by cases k <;> simp, i, hi, h⟩

theorem mem_executions_iff (x : Exchange) (j : Nat) (e : Execution) : e ∈ x.executions j ↔
    e ∈ x.executed ∧ ∃ k, ∃ i ∈ (x.app.records k).issued, i.caller? = some j ∧
      i.link? = some e.visit ∧ i.id = e.request.id := by
  rw [executions, List.mem_filter, isOf_iff]

/-! ## What a move does -/

/-- A move of an exchange is a move of its application, or none. -/
theorem make_app (x : Exchange) (move : Move) :
    (x.make move).app = x.app ∨ ∃ m, (x.make move).app = x.app.make m := by
  cases move with
  | application m =>
    unfold make
    dsimp only
    split
    · exact .inr ⟨m, rfl⟩
    · exact .inl rfl
  | keeper k branch stores now =>
    unfold make stepKeeper
    dsimp only
    split
    · exact .inr ⟨.keeper k branch stores now {}, rfl⟩
    · split
      · exact .inl rfl
      · next v _ => exact .inr ⟨.keeper k branch stores now v.near, rfl⟩
  | connected k stores now id =>
    unfold make connect
    dsimp only
    split
    · exact .inr ⟨.connected k stores now (x.network.visits.length - x.app.opened) {}, rfl⟩
    · exact .inl rfl
  | server m => exact .inl rfl

/-- Some moves of an exchange are moves of its application. -/
theorem makeAll_app (x : Exchange) (moves : List Move) :
    ∃ ms, (x.makeAll moves).app = x.app.makeAll ms := by
  induction moves generalizing x with
  | nil => exact ⟨[], rfl⟩
  | cons move rest ih =>
    obtain ⟨ms, hms⟩ := ih (x.make move)
    rcases x.make_app move with hsame | ⟨m, hm⟩
    · exact ⟨ms, hms.trans (by rw [hsame])⟩
    · exact ⟨m :: ms, hms.trans (by rw [hm]; rfl)⟩

theorem executed_make (x : Exchange) (move : Move) : x.executed <+: (x.make move).executed := by
  cases move with
  | application m =>
    unfold make
    dsimp only
    split <;> exact List.prefix_rfl
  | keeper k branch stores now =>
    unfold make stepKeeper
    dsimp only
    split
    · exact List.prefix_rfl
    · split <;> exact List.prefix_rfl
  | connected k stores now id =>
    unfold make connect
    dsimp only
    split <;> exact List.prefix_rfl
  | server m => exact List.prefix_append _ _

/-- What was executed stays executed. -/
theorem executed_makeAll (x : Exchange) (moves : List Move) :
    x.executed <+: (x.makeAll moves).executed := by
  induction moves generalizing x with
  | nil => exact List.prefix_rfl
  | cons move rest ih => exact (x.executed_make move).trans (ih (x.make move))

/-- **What puts a message into a mailbox**: a message from outside that is posted, or an execution.
-/
theorem mailbox_make (x : Exchange) (move : Move) (login : String) :
    ((x.make move).network.mailroom.mailbox login).Sublist (x.network.mailroom.mailbox login) ∨
      (∃ n, move = .server (.post n)) ∨
      ∃ e, (x.make move).executed = x.executed ++ [e] ∧ e.before = x.network.mailroom ∧
        e.after = (x.make move).network.mailroom := by
  have hsame : ∀ {m : Mailroom}, m.mailbox login = x.network.mailroom.mailbox login →
      (m.mailbox login).Sublist (x.network.mailroom.mailbox login) :=
    fun h => h ▸ List.Sublist.refl _
  cases move with
  | application m =>
    refine .inl (hsame ?_)
    unfold make
    dsimp only
    split <;> rfl
  | keeper k branch stores now =>
    refine .inl (hsame ?_)
    unfold make stepKeeper
    dsimp only
    split
    · rfl
    · split <;> rfl
  | connected k stores now id =>
    refine .inl (hsame ?_)
    unfold make connect
    dsimp only
    split <;> rfl
  | server m =>
    show (((x.network.make m).mailroom.mailbox login).Sublist _) ∨ _
    cases m with
    | accept recipient body now =>
      refine .inl (hsame ?_)
      unfold Network.make
      dsimp only
      split <;> rfl
    | post n => exact .inr (.inl ⟨n, rfl⟩)
    | session n branch now wallClock =>
      cases hv : x.network.visits[n]? with
      | none =>
        refine .inl (hsame ?_)
        show (x.network.stepSession n branch now wallClock).mailroom.mailbox login = _
        rw [Network.stepSession_of_none hv]
      | some v =>
        have hmailroom : (x.network.make (.session n branch now wallClock)).mailroom =
            (Session.step branch now wallClock ⟨v.session, x.network.mailroom, v.far⟩).mailroom :=
          congrArg Network.mailroom (Network.stepSession_of_some hv branch now wallClock)
        cases hexecution : v.execution? x.network.mailroom n branch now wallClock with
        | none =>
          rw [hmailroom]
          exact .inl (Session.step_mailbox (Option.map_eq_none_iff.1 hexecution) login)
        | some e =>
          obtain ⟨-, hbefore, hafter, -⟩ := Visit.execution?_eq_some hexecution
          refine .inr (.inr ⟨e, ?_, hbefore, hafter.trans hmailroom.symm⟩)
          show x.executed ++ (x.network.execution? _).toList = _
          rw [Network.execution?, hv, Option.bind_some, hexecution]
          rfl
    | keeper k branch stores now => exact .inl (hsame (by simp [Network.make]))
    | atHead k stores now attempt => exact .inl (hsame (by simp [Network.make]))
    | connectFailed k stores now e => exact .inl (hsame (by simp [Network.make]))
    | connected k stores now id => exact .inl (hsame (by simp [Network.make]))
    | application k op => exact .inl (hsame (by simp [Network.make]))
    | stranger id now => exact .inl (hsame rfl)
    | speaks n b => exact .inl (hsame (by simp [Network.make]))
    | carry n up down => exact .inl (hsame (by simp [Network.make]))
    | closeNear n => exact .inl (hsame (by simp [Network.make]))
    | closeFar n => exact .inl (hsame (by simp [Network.make]))

end Exchange

end ChatSockets
