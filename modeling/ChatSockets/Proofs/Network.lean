import ChatSockets.Proofs.Server.Custody
import ChatSockets.Proofs.Socket.Step
import ChatSockets.Proofs.Wire.Stream

/-!
# A server, its clients and the links between them

A `Network` is a mailroom, the sockets that were ever opened to it (`Visit`), and clients. A socket
runs over a link of which the two ends are apart: what is written at one end is carried to the other
in pieces of any size, and each end may find the link closed at any time, so that a connection can
be lost at any byte. Sockets are opened by the keepers of the clients, or by strangers, who write
what they like.

Everything happens in any order: `Move` lists what can happen, with the choices and the times that
decide how it goes, and `Network.make` does it. What is accepted from outside the sockets gets its
id at one move and is posted at another (`make_post_accept`).
-/

namespace ChatSockets

/-- A socket at the server with its link. -/
structure Visit where
  session : Session
  /-- the client's end of the link -/
  near : Link := {}
  /-- the server's end of the link -/
  far : Link := {}
  /-- the client that opened the socket, if it was none of the strangers -/
  owner : Option Nat := none
  /-- whom the session was signed in as, if it ever was -/
  login : Option String := none

/-- A connection of a client with what it put on the channel of incoming messages. -/
structure Client where
  connection : Connection
  /-- the incoming messages, each with the id of the request that brought it -/
  incoming : List (UInt64 × Incoming) := []

/-- A mailroom with everybody around it. -/
structure Network where
  mailroom : Mailroom
  /-- the messages that have an id and are about to be posted, each with its recipient -/
  accepted : List (String × Queued) := []
  visits : List Visit := []
  clients : List Client := []
  /-- how many ids were drawn -/
  drawn : Nat := 0

/-- The request that a keeper takes next, if it is about to take one. -/
def Keeper.Phase.request? : Keeper.Phase → Option Wire.Request
  | .draining live =>
    match live.decoder.next with
    | (.ok (some m), _) => m.request
    | _ => none
  | _ => none

namespace Client

/-- The client after a step of its keeper. -/
def after (c : Client) (t : Keeper.Turn) : Client where
  connection := t.connection
  incoming :=
    match c.connection.phase.request?, t.incoming with
    | some r, some i => c.incoming ++ [(r.id, i)]
    | _, _ => c.incoming

/-- The body of a message was put on the channel for the request that carried the message. -/
def HasReceived (c : Client) (q : Queued) : Prop := ∃ i, (q.id, i) ∈ c.incoming ∧ i.body = q.body

end Client

namespace Visit

/-- The socket after a step of its session. -/
def after (v : Visit) (t : Session.Turn) : Visit :=
  { v with
    session := t.session
    far := t.link
    login := v.login <|> t.session.phase.signIn?.map SignIn.login }

@[simp] theorem after_session (v : Visit) (t : Session.Turn) : (v.after t).session = t.session :=
  rfl

/-- Bytes are carried from one end of the link to the other. -/
def carry (v : Visit) (up down : Nat) : Visit :=
  { v with
    near :=
      { up := { v.near.up with held := v.near.up.held.extract up v.near.up.held.size }
        down := { v.near.down with held := v.near.down.held ++ v.far.down.held.extract 0 down } }
    far :=
      { up := { v.far.up with held := v.far.up.held ++ v.near.up.held.extract 0 up }
        down := { v.far.down with held := v.far.down.held.extract down v.far.down.held.size } } }

/-- A stranger writes some bytes. -/
def speaks (v : Visit) (b : ByteArray) : Visit :=
  if v.owner.isSome then v
  else { v with near := { v.near with up := { v.near.up with held := v.near.up.held ++ b } } }

end Visit

namespace Network

/-- What can happen. -/
inductive Move
  /-- a message from outside the sockets is given an id, if its recipient has an account -/
  | accept (login : String) (body : ByteArray) (now : Nat)
  /-- a message that has its id is posted -/
  | post (n : Nat)
  /-- a session makes a step -/
  | session (n : Nat) (branch : Session.Branch) (now wallClock : Nat)
  /-- a keeper that is not at the head of its loop and not dialing makes a step -/
  | keeper (k : Nat) (branch : Keeper.Branch) (stores : Stores) (now : Nat)
  /-- a keeper begins its loop anew -/
  | atHead (k : Nat) (stores : Stores) (now : Nat) (attempt : Attempt)
  /-- a keeper's attempt to connect fails -/
  | connectFailed (k : Nat) (stores : Stores) (now : Nat) (e : ChatError)
  /-- a keeper's attempt to connect gets through, and a session with an id begins -/
  | connected (k : Nat) (stores : Stores) (now : Nat) (id : UInt64)
  /-- an application does something with a connection -/
  | application (k : Nat) (op : Operation)
  /-- a stranger opens a socket, at which a session with an id begins -/
  | stranger (id : UInt64) (now : Nat)
  /-- a stranger writes -/
  | speaks (n : Nat) (b : ByteArray)
  /-- the link of a socket carries bytes in both directions -/
  | carry (n up down : Nat)
  /-- the client's end of a link finds it closed -/
  | closeNear (n : Nat)
  /-- the server's end of a link finds it closed -/
  | closeFar (n : Nat)

/-- A change of one connection. -/
def atClient (w : Network) (k : Nat) (f : Connection → Connection) : Network :=
  match w.clients[k]? with
  | none => w
  | some c => { w with clients := w.clients.set k { c with connection := f c.connection } }

@[simp] theorem mailroom_atClient (w : Network) (k : Nat) (f : Connection → Connection) :
    (w.atClient k f).mailroom = w.mailroom := by
  unfold atClient
  split <;> rfl

/-- A change of one socket. -/
def atVisit (w : Network) (n : Nat) (f : Visit → Visit) : Network :=
  match w.visits[n]? with
  | none => w
  | some v => { w with visits := w.visits.set n (f v) }

@[simp] theorem mailroom_atVisit (w : Network) (n : Nat) (f : Visit → Visit) :
    (w.atVisit n f).mailroom = w.mailroom := by
  unfold atVisit
  split <;> rfl

/-- A step of a session. -/
def stepSession (w : Network) (n : Nat) (branch : Session.Branch) (now wallClock : Nat) : Network :=
  match w.visits[n]? with
  | none => w
  | some v =>
    let t := Session.step branch now wallClock ⟨v.session, w.mailroom, v.far⟩
    { w with
      mailroom := t.mailroom
      visits := w.visits.set n (v.after t)
      drawn := w.drawn + (t.mailroom.nextId - w.mailroom.nextId).toNat }

/-- A step of a keeper, on its end of the link if it has one. -/
def stepKeeper (w : Network) (k : Nat) (branch : Keeper.Branch) (stores : Stores) (now : Nat) :
    Network :=
  match w.clients[k]? with
  | none => w
  | some c =>
    match Keeper.linkOf? c.connection with
    | none =>
      { w with
        clients := w.clients.set k
          (c.after (Keeper.step branch stores now ⟨c.connection, {}, none⟩)) }
    | some n =>
      match w.visits[n]? with
      | none => w
      | some v =>
        let t := Keeper.step branch stores now ⟨c.connection, v.near, none⟩
        { w with
          clients := w.clients.set k (c.after t)
          visits := w.visits.set n { v with near := t.link } }

@[simp] theorem mailroom_stepKeeper (w : Network) (k : Nat) (branch : Keeper.Branch)
    (stores : Stores) (now : Nat) : (w.stepKeeper k branch stores now).mailroom = w.mailroom := by
  unfold stepKeeper
  split
  · rfl
  · split
    · rfl
    · split <;> rfl

/-- A keeper that dials has a new link, at the other end of which a session begins. -/
def connect (w : Network) (k : Nat) (stores : Stores) (now : Nat) (id : UInt64) : Network :=
  match w.clients[k]? with
  | none => w
  | some c =>
    match c.connection.phase with
    | .dialing hello _ _ =>
      let t := Keeper.connected stores now w.visits.length hello ⟨c.connection, {}, none⟩
      { w with
        clients := w.clients.set k (c.after t)
        visits := w.visits ++ [{ session := .start id now, near := t.link, owner := some k }] }
    | _ => w

@[simp] theorem mailroom_connect (w : Network) (k : Nat) (stores : Stores) (now : Nat)
    (id : UInt64) : (w.connect k stores now id).mailroom = w.mailroom := by
  unfold connect
  split
  · rfl
  · split <;> rfl

/-- The network after a move. -/
def make (w : Network) : Move → Network
  | .accept login body now =>
    if w.mailroom.hasAccount login then
      { w with
        mailroom := w.mailroom.draw.2
        accepted := w.accepted ++ [(login, ⟨w.mailroom.draw.1, body, now⟩)]
        drawn := w.drawn + 1 }
    else w
  | .post n =>
    match w.accepted[n]? with
    | none => w
    | some (login, q) =>
      { w with mailroom := (w.mailroom.post login q).2, accepted := w.accepted.eraseIdx n }
  | .session n branch now wallClock => w.stepSession n branch now wallClock
  | .keeper k branch stores now => w.stepKeeper k branch stores now
  | .atHead k stores now attempt =>
    w.atClient k fun c =>
      match c.phase with
      | .atHead => c.atHead stores now attempt
      | _ => c
  | .connectFailed k stores now e =>
    w.atClient k fun c =>
      match c.phase with
      | .dialing .. => c.connectFailed stores now e
      | _ => c
  | .connected k stores now id => w.connect k stores now id
  | .application k op => w.atClient k (·.perform op)
  | .stranger id now => { w with visits := w.visits ++ [{ session := .start id now }] }
  | .speaks n b => w.atVisit n (·.speaks b)
  | .carry n up down => w.atVisit n (·.carry up down)
  | .closeNear n => w.atVisit n fun v => { v with near := v.near.close }
  | .closeFar n => w.atVisit n fun v => { v with far := v.far.close }

/-- A server with some accounts, and some clients, before anything happened. -/
def start (accounts : Accounts) (clients : List (SocketKind × ClientConfig)) : Network where
  mailroom := .new accounts
  clients := clients.map fun c => { connection := .new c.1 c.2 }

/-- Every session that was ever signed in as a login was opened by one of the clients. -/
def Served (w : Network) (login : String) : Prop :=
  ∀ v ∈ w.visits, v.login = some login → v.owner ≠ none

instance (w : Network) (login : String) : Decidable (w.Served login) :=
  inferInstanceAs (Decidable (∀ v ∈ w.visits, v.login = some login → v.owner ≠ none))

/-- What can come of a network in which every session of a login was opened by one of the clients.
-/
inductive Run (login : String) (w : Network) : Network → Prop
  | refl : Run login w w
  | step {w' : Network} (before : Run login w w') (move : Move)
    (hserved : (w'.make move).Served login) : Run login w (w'.make move)

/-- The network after some moves. -/
def makeAll (w : Network) (moves : List Move) : Network := moves.foldl make w

/-- After each of some moves every session of a login was opened by one of the clients. -/
def ServedThrough (login : String) : Network → List Move → Prop
  | _, [] => True
  | w, move :: rest => (w.make move).Served login ∧ ServedThrough login (w.make move) rest

instance decidableServedThrough (login : String) :
    (w : Network) → (moves : List Move) → Decidable (ServedThrough login w moves)
  | _, [] => .isTrue trivial
  | w, move :: rest =>
    haveI := decidableServedThrough login (w.make move) rest
    inferInstanceAs
      (Decidable ((w.make move).Served login ∧ ServedThrough login (w.make move) rest))

theorem Run.trans {login : String} {w w' w'' : Network} (h : Run login w w')
    (h' : Run login w' w'') : Run login w w'' := by
  induction h' with
  | refl => exact h
  | step _ move hserved ih => exact .step ih move hserved

/-- A move accepts a message for a login: a message from outside is posted, or a session answers a
request that brings the message. -/
inductive Accepts (login : String) (w : Network) : Move → Queued → Prop
  | outside (n : Nat) (q : Queued) (h : w.accepted[n]? = some (login, q)) :
    Accepts login w (.post n) q
  | request (n : Nat) (v : Visit) (now wallClock : Nat) (signIn : Option SignIn)
    (m : Wire.Message) (decoder : Wire.Decoder) (r : Wire.Request) (hv : w.visits[n]? = some v)
    (hphase : v.session.phase = .serving signIn)
    (hnext : v.session.decoder.next = (.ok (some m), decoder)) (hkind : m.kindOf = .request)
    (hr : m.request = some r) (hverb : r.verb = "PUT") (hpath : r.path = Path.messagesTo ++ login)
    (haccount : w.mailroom.hasAccount login = true) :
    Accepts login w (.session n .frame now wallClock) ⟨w.mailroom.nextId, r.body, wallClock⟩

/-- A client that opened a session of a login has received a message. -/
def Received (w : Network) (login : String) (q : Queued) : Prop :=
  ∃ v ∈ w.visits, v.login = some login ∧
    ∃ k c, v.owner = some k ∧ w.clients[k]? = some c ∧ c.HasReceived q

/-- The bytes that a client still has to write on the link of a socket. -/
def unwritten (w : Network) (n : Nat) (v : Visit) : ByteArray :=
  match v.owner.bind fun k => w.clients[k]? with
  | none => .empty
  | some c =>
    if Keeper.linkOf? c.connection = some n then c.connection.phase.unwritten else .empty

/-- The bytes that are under way to a session: at its end of the link, at the other end, and still
to be written. -/
def underWay (w : Network) (n : Nat) (v : Visit) : ByteArray :=
  v.far.up.held ++ v.near.up.held ++ w.unwritten n v

/-- A delivery from outside between whose two parts nothing happens is what `deliver` does. -/
theorem make_post_accept (w : Network) (login : String) (body : ByteArray) (now : Nat)
    (h : w.mailroom.hasAccount login = true) :
    let w' := (w.make (.accept login body now)).make (.post w.accepted.length)
    w'.mailroom = (w.mailroom.deliver now login body).2 ∧ w'.accepted = w.accepted := by
  have hlast : (w.accepted ++ [(login, ⟨w.mailroom.draw.1, body, now⟩)])[w.accepted.length]? =
      some (login, ⟨w.mailroom.draw.1, body, now⟩) := List.getElem?_concat_length
  simp only [make, if_pos h, hlast]
  constructor
  · rw [Mailroom.deliver_eq, if_pos h]
    rfl
  · rw [List.eraseIdx_append_of_length_le (Nat.le_refl _), Nat.sub_self]
    simp

end Network

end ChatSockets
