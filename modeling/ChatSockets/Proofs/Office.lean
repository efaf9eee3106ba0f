import ChatSockets.Proofs.Server.Mailroom

/-!
# A mailroom and its story

An `Office` is a mailroom that any number of tasks work on, in any order. A delivery is two things
to the others: first the message gets its id (`Move.accept`), and later it goes to its mailbox and
perhaps down a line (`Move.post`); what happens in between is up to the others. `Move.deliver` is
a delivery that nothing comes between. Every other operation is one thing.

`Office.story` tells what happened, as a list of entries that is kept beside the office. A move is
one effect or two (`make_does`), so what every effect keeps is true of an office and its story
after all moves (`induct`). What the story says of a login does not depend on the mailroom:
`outstanding` is what was posted to it and not acknowledged since, `sessionOf` the session that was
last registered for it.
-/

namespace ChatSockets

/-- A mailroom with the deliveries that are under way. -/
structure Office where
  room : Mailroom
  /-- the messages that have their id and are still to be posted, with their recipients -/
  accepted : List (String × Queued) := []

namespace Office

/-- What can happen in an office. -/
inductive Move
  /-- a line for a new session is there -/
  | openLine
  /-- the receiver of a line is gone -/
  | hangUp (line : Nat)
  /-- the receiver of a line takes the next request -/
  | receive (line : Nat)
  /-- an id is drawn for something that the mailroom does not know -/
  | draw
  | register (login : String) (h : Handle)
  | unregister (login : String) (session : UInt64)
  | acknowledge (login : String) (id : UInt64)
  /-- the first half of a delivery -/
  | accept (now : Nat) (login : String) (body : ByteArray)
  /-- the second half of a delivery -/
  | post (n : Nat)
  | deliver (now : Nat) (login : String) (body : ByteArray)

/-- What an id was drawn for. -/
inductive Use
  | message (login : String)
  | queueEmpty (login : String)
  | other
  deriving DecidableEq

/-- One thing that happened. -/
inductive Entry
  | drew (id : UInt64) (use : Use)
  /-- a session was registered while the mailbox was this backlog, and the signal got this id -/
  | registered (login : String) (h : Handle) (backlog : List Queued) (signal : UInt64)
  | unregistered (login : String) (session : UInt64)
  | posted (login : String) (q : Queued)
  | acknowledged (login : String) (id : UInt64)
  | received (line : Nat) (r : Wire.Request)

/-- The office after a move. A handle is made with its line, so that of one that is registered was
opened before. -/
def make (o : Office) : Move → Office
  | .openLine => { o with room := o.room.openLine.2 }
  | .hangUp line => { o with room := o.room.hangUp line }
  | .receive line =>
    match o.room.receive? line with
    | some (_, room) => { o with room }
    | none => o
  | .draw => { o with room := o.room.draw.2 }
  | .register login h =>
    if h.line < o.room.nextLine then { o with room := (o.room.register login h).2 } else o
  | .unregister login session => { o with room := o.room.unregister login session }
  | .acknowledge login id => { o with room := (o.room.acknowledge login id).2 }
  | .accept now login body =>
    if o.room.hasAccount login then
      { room := o.room.draw.2, accepted := o.accepted ++ [(login, ⟨o.room.nextId, body, now⟩)] }
    else o
  | .post n =>
    match o.accepted[n]? with
    | some (login, q) =>
      { room := (o.room.post login q).2, accepted := o.accepted.eraseIdx n }
    | none => o
  | .deliver now login body => { o with room := (o.room.deliver now login body).2 }

/-- The office after some moves. -/
def makeAll (o : Office) (moves : List Move) : Office := moves.foldl make o

/-- An office in which nothing has happened. -/
def start (accounts : Accounts) : Office := { room := .new accounts }

/-! ## The story -/

/-- What a move adds to the story. -/
def entries (o : Office) : Move → List Entry
  | .openLine | .hangUp _ => []
  | .receive line =>
    match o.room.receive? line with
    | some (r, _) => [.received line r]
    | none => []
  | .draw => [.drew o.room.nextId .other]
  | .register login h =>
    if h.line < o.room.nextLine then
      [.drew o.room.nextId (.queueEmpty login),
        .registered login h (o.room.mailbox login) o.room.nextId]
    else []
  | .unregister login session => [.unregistered login session]
  | .acknowledge login id => [.acknowledged login id]
  | .accept _ login _ =>
    if o.room.hasAccount login then [.drew o.room.nextId (.message login)] else []
  | .post n =>
    match o.accepted[n]? with
    | some (login, q) => [.posted login q]
    | none => []
  | .deliver now login body =>
    if o.room.hasAccount login then
      [.drew o.room.nextId (.message login), .posted login ⟨o.room.nextId, body, now⟩]
    else []

/-- What happened in some moves. -/
def story (o : Office) : List Move → List Entry
  | [] => []
  | move :: moves => o.entries move ++ (o.make move).story moves

theorem makeAll_append (o : Office) (moves more : List Move) :
    o.makeAll (moves ++ more) = (o.makeAll moves).makeAll more := List.foldl_append

theorem story_append (o : Office) (moves more : List Move) :
    o.story (moves ++ more) = o.story moves ++ (o.makeAll moves).story more := by
  induction moves generalizing o with
  | nil => rfl
  | cons move moves ih =>
    rw [List.cons_append, story, story, ih, List.append_assoc]
    rfl

/-- The ids that were drawn, with what for. -/
def draws (σ : List Entry) : List (UInt64 × Use) :=
  σ.filterMap fun
    | .drew id use => some (id, use)
    | _ => none

/-- The messages that were posted, with their recipients. -/
def posts (σ : List Entry) : List (String × Queued) :=
  σ.filterMap fun
    | .posted login q => some (login, q)
    | _ => none

/-- The requests that a receiver has taken from its line. -/
def receivedFrom (line : Nat) (σ : List Entry) : List Wire.Request :=
  σ.filterMap fun
    | .received l r => if l = line then some r else none
    | _ => none

/-- Whether an entry is the acknowledgement of an id by a login. -/
def Entry.isAckOf (login : String) (id : UInt64) : Entry → Bool
  | .acknowledged l i => l = login ∧ i = id
  | _ => false

/-- The messages that were posted to a login, in this order, and not acknowledged by it since. -/
def outstanding (login : String) : List Entry → List Queued
  | [] => []
  | .posted l q :: rest =>
    if l = login ∧ ¬ rest.any (·.isAckOf login q.id) then q :: outstanding login rest
    else outstanding login rest
  | _ :: rest => outstanding login rest

/-- The session of a login after an entry. -/
def sessionAfter (login : String) (session? : Option Handle) : Entry → Option Handle
  | .registered l h _ _ => if l = login then some h else session?
  | .unregistered l session =>
    if l = login then session?.filter (·.session ≠ session) else session?
  | _ => session?

/-- The session that was registered last for a login, unless it was unregistered since. -/
def sessionOf (login : String) (σ : List Entry) : Option Handle :=
  σ.foldl (sessionAfter login) none

/-! ## What a move does -/

/-- One effect, with what it adds to the story. -/
inductive Does (o : Office) : List Entry → Office → Prop
  | idle : Does o [] o
  | opens : Does o [] { o with room := o.room.openLine.2 }
  | hangsUp (line : Nat) : Does o [] { o with room := o.room.hangUp line }
  | receives (line : Nat) (r : Wire.Request) (room : Mailroom)
    (h : o.room.receive? line = some (r, room)) : Does o [.received line r] { o with room }
  | draws : Does o [.drew o.room.nextId .other] { o with room := o.room.draw.2 }
  | registers (login : String) (h : Handle) (hline : h.line < o.room.nextLine) :
    Does o
      [.drew o.room.nextId (.queueEmpty login),
        .registered login h (o.room.mailbox login) o.room.nextId]
      { o with room := (o.room.register login h).2 }
  | unregisters (login : String) (session : UInt64) :
    Does o [.unregistered login session] { o with room := o.room.unregister login session }
  | acknowledges (login : String) (id : UInt64) :
    Does o [.acknowledged login id] { o with room := (o.room.acknowledge login id).2 }
  | accepts (now : Nat) (login : String) (body : ByteArray)
    (haccount : o.room.hasAccount login = true) :
    Does o [.drew o.room.nextId (.message login)]
      { room := o.room.draw.2, accepted := o.accepted ++ [(login, ⟨o.room.nextId, body, now⟩)] }
  | posts (login : String) (q : Queued) (before after : List (String × Queued))
    (haccepted : o.accepted = before ++ (login, q) :: after) :
    Does o [.posted login q]
      { room := (o.room.post login q).2, accepted := before ++ after }

/-- **A move is one effect, or two in a row.** -/
theorem make_does (o : Office) (move : Move) :
    ∃ es es' mid, o.entries move = es ++ es' ∧ o.Does es mid ∧ mid.Does es' (o.make move) := by
  have one : ∀ {es : List Entry} {o' : Office}, o.Does es o' →
      ∃ es₁ es₂ mid, es = es₁ ++ es₂ ∧ o.Does es₁ mid ∧ mid.Does es₂ o' :=
    fun h => ⟨[], _, o, rfl, .idle, h⟩
  cases move with
  | openLine => exact one .opens
  | hangUp line => exact one (.hangsUp line)
  | receive line =>
    unfold entries make
    dsimp only
    cases h : o.room.receive? line with
    | none => exact one .idle
    | some received => exact one (.receives line _ _ h)
  | draw => exact one .draws
  | register login h =>
    unfold entries make
    dsimp only
    split
    · next hline => exact one (.registers login h hline)
    · exact one .idle
  | unregister login session => exact one (.unregisters login session)
  | acknowledge login id => exact one (.acknowledges login id)
  | accept now login body =>
    unfold entries make
    dsimp only
    split
    · next haccount => exact one (.accepts now login body haccount)
    · exact one .idle
  | post n =>
    unfold entries make
    dsimp only
    cases h : o.accepted[n]? with
    | none => exact one .idle
    | some p =>
      obtain ⟨hn, hp⟩ := List.getElem?_eq_some_iff.1 h
      have hsplit : o.accepted = o.accepted.take n ++ p :: o.accepted.drop (n + 1) := by
        rw [← hp, ← List.drop_eq_getElem_cons hn, List.take_append_drop]
      rw [List.eraseIdx_eq_take_drop_succ]
      exact one (.posts p.1 p.2 _ _ hsplit)
  | deliver now login body =>
    unfold entries make
    dsimp only
    rw [Mailroom.deliver_eq]
    split
    · next haccount =>
      refine ⟨_, _, _, rfl, .accepts now login body haccount, ?_⟩
      -- nothing came between, so that the message is the last of those under way
      simpa using Does.posts (o := ⟨o.room.draw.2, _⟩) login _ o.accepted [] rfl
    · exact one .idle

/-- **What every effect keeps is true after all moves.** -/
theorem induct {P : Office → List Entry → Prop} (accounts : Accounts) (h0 : P (start accounts) [])
    (hstep : ∀ o σ es o', P o σ → o.Does es o' → P o' (σ ++ es)) (moves : List Move) :
    P ((start accounts).makeAll moves) ((start accounts).story moves) := by
  suffices h : ∀ o σ, P o σ → P (o.makeAll moves) (σ ++ o.story moves) from h _ [] h0
  induction moves with
  | nil =>
    intro o σ h
    rw [story, List.append_nil]
    exact h
  | cons move moves ih =>
    intro o σ h
    obtain ⟨es, es', mid, hes, hfirst, hsecond⟩ := o.make_does move
    have hmade := hstep _ _ _ _ (hstep _ _ _ _ h hfirst) hsecond
    have hall := ih _ _ hmade
    rwa [List.append_assoc, List.append_assoc, ← List.append_assoc es, ← hes] at hall

end Office

end ChatSockets
