import ChatSockets.Proofs.Server.Push
import ChatSockets.Proofs.Socket.Step

/-!
# A client's socket and its session over one link

A `Pair` is a connection of a client whose keeper just got a link, and the session at the other end.
Both make steps in any order, the application does what it likes with the connection, and the rest
of the server does what it likes with the mailroom.

While one side writes a frame it does not read. So the two can wait for each other: each has bytes
of a frame left, and both pipes are full (`Pair.Blocked`). This is for good, and it comes about
exactly if at some time there are, in both directions at once, more bytes of frames begun and not
yet read than a pipe holds (`Pair.blocked_iff`).
-/

namespace ChatSockets

/-- A connection and a session at the two ends of a link. -/
structure Pair where
  connection : Connection
  session : Session
  mailroom : Mailroom
  link : Link

namespace Pair

/-- What can happen to a pair. -/
inductive Move
  /-- a step of the keeper -/
  | keeper (branch : Keeper.Branch) (stores : Stores) (now : Nat)
  /-- a step of the session -/
  | session (branch : Session.Branch) (now wallClock : Nat)
  /-- the application does something -/
  | application (op : Operation)
  /-- the rest of the server does something -/
  | server (mailroom : Mailroom)

/-- The pair after a move. -/
def make (s : Pair) : Move → Pair
  | .keeper branch stores now =>
    let t := Keeper.step branch stores now ⟨s.connection, s.link, none⟩
    { s with connection := t.connection, link := t.link }
  | .session branch now wallClock =>
    let t := Session.step branch now wallClock ⟨s.session, s.mailroom, s.link⟩
    { s with session := t.session, mailroom := t.mailroom, link := t.link }
  | .application op => { s with connection := s.connection.perform op }
  | .server mailroom => { s with mailroom }

/-- A keeper got a new link, at the other end of which a session begins. -/
def opened (c : Connection) (hello : Wire.Handshake) (stores : Stores) (now : Nat) (id : UInt64)
    (mailroom : Mailroom) : Pair :=
  let t := Keeper.connected stores now 0 hello ⟨c, {}, none⟩
  ⟨t.connection, .start id now, mailroom, t.link⟩

/-- All that can come of a pair. -/
inductive Run (s : Pair) : Pair → Prop
  | refl : Run s s
  | step {s' : Pair} (before : Run s s') (move : Move) : Run s (s'.make move)

/-! ## Being blocked -/

/-- Both sides have bytes of a frame to write, and both pipes are full. -/
structure Blocked (s : Pair) : Prop where
  client : s.connection.phase.unwritten ≠ .empty
  server : s.session.phase.unwritten ≠ .empty
  up : s.link.up.writable = false
  down : s.link.down.writable = false

/-- How many bytes of frames the client has begun that the session has not read. -/
def upstream (s : Pair) : Nat := s.link.up.held.size + s.connection.phase.unwritten.size

/-- How many bytes of frames the session has begun that the client has not read. -/
def downstream (s : Pair) : Nat := s.link.down.held.size + s.session.phase.unwritten.size

/-- In both directions there is more on the way than a pipe holds. -/
structure Overfull (s : Pair) : Prop where
  upOpen : s.link.up.closed = false
  downOpen : s.link.down.closed = false
  up : Pipe.capacity < s.upstream
  down : Pipe.capacity < s.downstream

/-- A pipe that a writer cannot go on with is open and full. -/
theorem writable_eq_false_iff (p : Pipe) :
    p.writable = false ↔ p.closed = false ∧ Pipe.capacity ≤ p.held.size := by
  rw [Pipe.writable, Bool.or_eq_false_iff, decide_eq_false_iff_not, Nat.not_lt]
  exact And.comm

theorem size_ne_zero {b : ByteArray} (h : b ≠ .empty) : 0 < b.size :=
  Nat.pos_of_ne_zero fun hb => h (ByteArray.size_eq_zero_iff.1 hb)

/-- A pair that is blocked has more on the way than the pipes hold. -/
theorem Blocked.overfull {s : Pair} (h : s.Blocked) : s.Overfull := by
  obtain ⟨hup, hupFull⟩ := (writable_eq_false_iff _).1 h.up
  obtain ⟨hdown, hdownFull⟩ := (writable_eq_false_iff _).1 h.down
  have hclient := size_ne_zero h.client
  have hserver := size_ne_zero h.server
  exact ⟨hup, hdown, by unfold upstream; omega, by unfold downstream; omega⟩

/-- A keeper that finds its pipe full stays as it is. -/
theorem keeper_of_full {c : Connection} {link : Link} (hwriting : c.phase.unwritten ≠ .empty)
    (hfull : link.up.writable = false) (branch : Keeper.Branch) (stores : Stores) (now : Nat) :
    (Keeper.step branch stores now ⟨c, link, none⟩).link = link ∧
      (Keeper.step branch stores now ⟨c, link, none⟩).connection.phase = c.phase := by
  obtain ⟨hopen, hsize⟩ := (writable_eq_false_iff _).1 hfull
  have hrest : ∀ rest : ByteArray, rest ≠ .empty → ¬ rest.isEmpty = true := fun rest hne he =>
    hne ((Keeper.isEmpty_iff rest).1 he)
  cases hphase : c.phase with
  | greeting n rest =>
    rw [hphase] at hwriting
    simp only [Keeper.step, hphase, Keeper.Turn.greet, Pipe.write?_of_full hopen hsize,
      if_neg (hrest rest hwriting), and_self]
  | writing live rest purpose =>
    rw [hphase] at hwriting
    simp only [Keeper.step, hphase, Keeper.Turn.write, Pipe.write?_of_full hopen hsize,
      if_neg (hrest rest hwriting), and_self]
  | _ =>
    rw [hphase] at hwriting
    exact absurd rfl hwriting

/-- A session that finds its pipe full stays as it is. -/
theorem session_of_full (mailroom : Mailroom) {session : Session} {link : Link}
    (hwriting : session.phase.unwritten ≠ .empty) (hfull : link.down.writable = false)
    (branch : Session.Branch) (now wallClock : Nat) :
    Session.step branch now wallClock ⟨session, mailroom, link⟩ = ⟨session, mailroom, link⟩ := by
  obtain ⟨hopen, hsize⟩ := (writable_eq_false_iff _).1 hfull
  cases hphase : session.phase with
  | writing signIn rest =>
    rw [hphase] at hwriting
    have hrest : ¬ rest.isEmpty = true := fun he => hwriting ((Keeper.isEmpty_iff rest).1 he)
    simp only [Session.step, hphase, Session.Turn.write, Pipe.write?_of_full hopen hsize,
      if_neg hrest, Session.Turn.goTo]
    rw [← hphase]
  | _ =>
    rw [hphase] at hwriting
    exact absurd rfl hwriting

/-- **Nothing changes a pair that is blocked.** -/
theorem Blocked.make {s : Pair} (h : s.Blocked) (move : Move) :
    (s.make move).Blocked ∧ (s.make move).link = s.link ∧
      (s.make move).connection.phase = s.connection.phase ∧
      (s.make move).session = s.session := by
  cases move with
  | keeper branch stores now =>
    obtain ⟨hlink, hphase⟩ := keeper_of_full h.client h.up branch stores now
    change (s.make (.keeper branch stores now)).link = s.link at hlink
    change (s.make (.keeper branch stores now)).connection.phase = s.connection.phase at hphase
    refine ⟨⟨?_, h.server, ?_, ?_⟩, hlink, hphase, rfl⟩
    · rw [hphase]
      exact h.client
    · rw [hlink]
      exact h.up
    · rw [hlink]
      exact h.down
  | session branch now wallClock =>
    have hstay := session_of_full s.mailroom h.server h.down branch now wallClock
    simp only [Pair.make, hstay]
    exact ⟨h, trivial, trivial, trivial⟩
  | application op =>
    have hphase := (s.connection.perform_spec op).1
    exact ⟨⟨fun he => h.client (hphase ▸ he), h.server, h.up, h.down⟩, rfl, hphase, rfl⟩
  | server mailroom => exact ⟨⟨h.client, h.server, h.up, h.down⟩, rfl, rfl, rfl⟩

/-- Nothing that comes of a pair that is blocked differs from it in the link or in what is left to
be written. -/
theorem Run.blocked {s s' : Pair} (h : Run s s') (hs : s.Blocked) :
    s'.Blocked ∧ s'.link = s.link ∧ s'.connection.phase = s.connection.phase ∧
      s'.session = s.session := by
  induction h with
  | refl => exact ⟨hs, rfl, rfl, rfl⟩
  | step _ move ih =>
    obtain ⟨hblocked, hlink, hphase, hsession⟩ := ih
    obtain ⟨hblocked', hlink', hphase', hsession'⟩ := hblocked.make move
    exact ⟨hblocked', hlink'.trans hlink, hphase'.trans hphase, hsession'.trans hsession⟩

/-! ## Becoming blocked -/

/-- No pipe holds more than its capacity. -/
structure Bounded (s : Pair) : Prop where
  up : s.link.up.held.size ≤ Pipe.capacity
  down : s.link.down.held.size ≤ Pipe.capacity

theorem Bounded.make {s : Pair} (h : s.Bounded) (move : Move) : (s.make move).Bounded := by
  cases move with
  | keeper branch stores now =>
    have hacts := Keeper.step_acts branch stores now ⟨s.connection, s.link, none⟩
    cases hlink : Keeper.linkOf? s.connection with
    | none =>
      obtain ⟨-, -, -, -, hsame⟩ := hacts.of_unlinked hlink
      rw [Pair.make]
      exact ⟨by rw [hsame]; exact h.up, by rw [hsame]; exact h.down⟩
    | some n =>
      obtain ⟨-, -, hdown, hup⟩ := hacts.keeps hlink
      exact ⟨hup h.up, Nat.le_trans hdown h.down⟩
  | session branch now wallClock =>
    obtain ⟨hup, hdown⟩ :=
      (Session.step_does branch now wallClock ⟨s.session, s.mailroom, s.link⟩).pipes
    exact ⟨Nat.le_trans hup h.up, hdown h.down⟩
  | application op => exact ⟨h.up, h.down⟩
  | server mailroom => exact ⟨h.up, h.down⟩

theorem Run.bounded {s s' : Pair} (h : Run s s') (hs : s.Bounded) : s'.Bounded := by
  induction h with
  | refl => exact hs
  | step _ move ih => exact ih.make move

theorem bounded_opened (c : Connection) (hello : Wire.Handshake) (stores : Stores) (now : Nat)
    (id : UInt64) (mailroom : Mailroom) : (opened c hello stores now id mailroom).Bounded := by
  have h := Keeper.connected_leaves stores now 0 hello ⟨c, {}, none⟩
  have hempty : ByteArray.empty.size ≤ Pipe.capacity := Nat.zero_le _
  have hlink : (opened c hello stores now id mailroom).link =
      (Keeper.connected stores now 0 hello ⟨c, {}, none⟩).link := rfl
  constructor
  · rw [hlink]
    exact h.room hempty
  · rw [hlink, h.down]
    exact hempty

/-- What does not fit into an open pipe comes back, and leaves the pipe full. -/
theorem write?_of_overfull {p : Pipe} {b : ByteArray} (hopen : p.closed = false)
    (hp : p.held.size ≤ Pipe.capacity) (hb : Pipe.capacity < p.held.size + b.size) :
    ∃ rest p', p.write? b = some (rest, p') ∧ ¬ rest.isEmpty = true ∧ p'.writable = false ∧
      p'.held.size + rest.size = p.held.size + b.size := by
  obtain ⟨rest, p', hwrite⟩ : ∃ rest p', p.write? b = some (rest, p') := by
    unfold Pipe.write?
    rw [if_neg (by simp [hopen])]
    exact ⟨_, _, rfl⟩
  obtain ⟨hheld, hrest⟩ := Pipe.size_write? hp hwrite
  refine ⟨rest, p', hwrite, ?_, ?_, by omega⟩
  · intro he
    rw [(Keeper.isEmpty_iff rest).1 he, ByteArray.size_empty] at hrest
    omega
  · rw [writable_eq_false_iff]
    exact ⟨(Pipe.write?_eq_some hwrite).2.1, by omega⟩

/-- A keeper that offers more than there is room for fills its pipe and is left with the rest. -/
theorem keeper_write_of_overfull {t : Keeper.Turn} {b : ByteArray}
    (hopen : t.link.up.closed = false) (hroom : t.link.up.held.size ≤ Pipe.capacity)
    (hover : Pipe.capacity < t.link.up.held.size + b.size) (stores : Stores) (now : Nat)
    (live : Keeper.Live) (purpose : Keeper.Purpose) :
    let t' := t.write stores now live purpose b
    t'.link.down = t.link.down ∧ t'.link.up.writable = false ∧
      t'.connection.phase.unwritten ≠ .empty ∧
      t'.link.up.held.size + t'.connection.phase.unwritten.size =
        t.link.up.held.size + b.size := by
  obtain ⟨rest, up, hwrite, hrest, hfull, hsum⟩ := write?_of_overfull hopen hroom hover
  simp only [Keeper.Turn.write, hwrite, if_neg hrest]
  exact ⟨trivial, hfull, fun he => hrest ((Keeper.isEmpty_iff rest).2 he), hsum⟩

/-- A session that offers more than there is room for fills its pipe and is left with the rest. -/
theorem session_write_of_overfull {t : Session.Turn} {b : ByteArray}
    (hopen : t.link.down.closed = false) (hroom : t.link.down.held.size ≤ Pipe.capacity)
    (hover : Pipe.capacity < t.link.down.held.size + b.size) (signIn : Option SignIn) :
    let t' := t.write signIn b
    t'.link.up = t.link.up ∧ t'.link.down.writable = false ∧ t'.session.phase.unwritten ≠ .empty ∧
      t'.link.down.held.size + t'.session.phase.unwritten.size =
        t.link.down.held.size + b.size := by
  obtain ⟨rest, down, hwrite, hrest, hfull, hsum⟩ := write?_of_overfull hopen hroom hover
  simp only [Session.Turn.write, hwrite, if_neg hrest, Session.Turn.goTo]
  exact ⟨trivial, hfull, fun he => hrest ((Keeper.isEmpty_iff rest).2 he), hsum⟩

/-- A keeper with more to write than there is room for fills its pipe and is left with the rest. -/
theorem keeper_of_overfull {c : Connection} {link : Link} (hopen : link.up.closed = false)
    (hroom : link.up.held.size ≤ Pipe.capacity)
    (hover : Pipe.capacity < link.up.held.size + c.phase.unwritten.size) (branch : Keeper.Branch)
    (stores : Stores) (now : Nat) :
    let t := Keeper.step branch stores now ⟨c, link, none⟩
    t.link.down = link.down ∧ t.link.up.writable = false ∧
      t.connection.phase.unwritten ≠ .empty ∧
      t.link.up.held.size + t.connection.phase.unwritten.size =
        link.up.held.size + c.phase.unwritten.size := by
  cases hphase : c.phase with
  | greeting n rest =>
    rw [hphase] at hover
    change Pipe.capacity < link.up.held.size + rest.size at hover
    obtain ⟨rest', up, hwrite, hrest, hfull, hsum⟩ := write?_of_overfull hopen hroom hover
    simp only [Keeper.step, hphase, Keeper.Turn.greet, hwrite, if_neg hrest]
    exact ⟨trivial, hfull, fun he => hrest ((Keeper.isEmpty_iff rest').2 he), hsum⟩
  | writing live rest purpose =>
    rw [hphase] at hover
    simp only [Keeper.step, hphase]
    exact keeper_write_of_overfull (t := ⟨c, link, none⟩) (b := rest) hopen hroom hover stores now
      live purpose
  | _ =>
    rw [hphase] at hover
    exact absurd hover (Nat.not_lt.2 hroom)

/-- A session with more to write than there is room for fills its pipe and is left with the rest. -/
theorem session_of_overfull (mailroom : Mailroom) {session : Session} {link : Link}
    (hopen : link.down.closed = false) (hroom : link.down.held.size ≤ Pipe.capacity)
    (hover : Pipe.capacity < link.down.held.size + session.phase.unwritten.size)
    (branch : Session.Branch) (now wallClock : Nat) :
    let t := Session.step branch now wallClock ⟨session, mailroom, link⟩
    t.link.up = link.up ∧ t.link.down.writable = false ∧ t.session.phase.unwritten ≠ .empty ∧
      t.link.down.held.size + t.session.phase.unwritten.size =
        link.down.held.size + session.phase.unwritten.size := by
  cases hphase : session.phase with
  | writing signIn rest =>
    rw [hphase] at hover
    simp only [Session.step, hphase]
    exact session_write_of_overfull (t := ⟨session, mailroom, link⟩) (b := rest) hopen hroom hover
      signIn
  | _ =>
    rw [hphase] at hover
    exact absurd hover (Nat.not_lt.2 hroom)

/-- A step of the keeper of an overfull pair fills the pipe up; nothing else changes. -/
theorem Overfull.keeper {s : Pair} (h : s.Overfull) (hs : s.Bounded) (branch : Keeper.Branch)
    (stores : Stores) (now : Nat) :
    let s' := s.make (.keeper branch stores now)
    s'.Overfull ∧ s'.upstream = s.upstream ∧ s'.downstream = s.downstream ∧
      s'.link.down = s.link.down ∧ s'.link.up.writable = false ∧
      s'.connection.phase.unwritten ≠ .empty := by
  obtain ⟨hdown, hfull, hclient, hsum⟩ := keeper_of_overfull h.upOpen hs.up h.up branch stores now
  generalize hs' : s.make (.keeper branch stores now) = s'
  have hdown : s'.link.down = s.link.down := by rw [← hs']; exact hdown
  have hfull : s'.link.up.writable = false := by rw [← hs']; exact hfull
  have hclient : s'.connection.phase.unwritten ≠ .empty := by rw [← hs']; exact hclient
  have hup : s'.upstream = s.upstream := by rw [← hs']; exact hsum
  have hsession : s'.session = s.session := by rw [← hs']; rfl
  have hdownstream : s'.downstream = s.downstream := by
    rw [downstream, hdown, hsession]
    rfl
  refine ⟨⟨((writable_eq_false_iff _).1 hfull).1, ?_, ?_, ?_⟩, hup, hdownstream, hdown, hfull,
    hclient⟩
  · rw [hdown]
    exact h.downOpen
  · rw [hup]
    exact h.up
  · rw [hdownstream]
    exact h.down

/-- A step of the session of an overfull pair fills the pipe up; nothing else changes. -/
theorem Overfull.session {s : Pair} (h : s.Overfull) (hs : s.Bounded) (branch : Session.Branch)
    (now wallClock : Nat) :
    let s' := s.make (.session branch now wallClock)
    s'.Overfull ∧ s'.upstream = s.upstream ∧ s'.downstream = s.downstream ∧
      s'.link.up = s.link.up ∧ s'.link.down.writable = false ∧
      s'.session.phase.unwritten ≠ .empty := by
  obtain ⟨hup, hfull, hserver, hsum⟩ :=
    session_of_overfull s.mailroom h.downOpen hs.down h.down branch now wallClock
  generalize hs' : s.make (.session branch now wallClock) = s'
  have hup : s'.link.up = s.link.up := by rw [← hs']; exact hup
  have hfull : s'.link.down.writable = false := by rw [← hs']; exact hfull
  have hserver : s'.session.phase.unwritten ≠ .empty := by rw [← hs']; exact hserver
  have hdownstream : s'.downstream = s.downstream := by rw [← hs']; exact hsum
  have hconnection : s'.connection = s.connection := by rw [← hs']; rfl
  have hupstream : s'.upstream = s.upstream := by
    rw [upstream, hup, hconnection]
    rfl
  refine ⟨⟨?_, ((writable_eq_false_iff _).1 hfull).1, ?_, ?_⟩, hupstream, hdownstream, hup, hfull,
    hserver⟩
  · rw [hup]
    exact h.upOpen
  · rw [hupstream]
    exact h.up
  · rw [hdownstream]
    exact h.down

/-- **A pair with more on the way than the pipes hold gets blocked** as soon as both sides went on
with their frames. -/
theorem Overfull.blocked {s : Pair} (h : s.Overfull) (hs : s.Bounded) (branch : Keeper.Branch)
    (stores : Stores) (now : Nat) (branch' : Session.Branch) (now' wallClock : Nat) :
    ((s.make (.keeper branch stores now)).make (.session branch' now' wallClock)).Blocked := by
  obtain ⟨hover, -, -, -, hupFull, hclient⟩ := h.keeper hs branch stores now
  obtain ⟨-, -, -, hup, hdownFull, hserver⟩ := hover.session (hs.make _) branch' now' wallClock
  exact ⟨hclient, hserver, by rw [hup]; exact hupFull, hdownFull⟩

/-- Neither side of an overfull pair reads again or gets to the end of its frame. -/
theorem Run.overfull {s s' : Pair} (h : Run s s') (hs : s.Overfull) (hbounded : s.Bounded) :
    s'.Overfull ∧ s'.upstream = s.upstream ∧ s'.downstream = s.downstream := by
  induction h with
  | refl => exact ⟨hs, rfl, rfl⟩
  | @step s' before move ih =>
    obtain ⟨hover, hup, hdown⟩ := ih
    have hbounded' := before.bounded hbounded
    cases move with
    | keeper branch stores now =>
      obtain ⟨hover', hup', hdown', -⟩ := hover.keeper hbounded' branch stores now
      exact ⟨hover', hup'.trans hup, hdown'.trans hdown⟩
    | session branch now wallClock =>
      obtain ⟨hover', hup', hdown', -⟩ := hover.session hbounded' branch now wallClock
      exact ⟨hover', hup'.trans hup, hdown'.trans hdown⟩
    | application op =>
      have hphase := (s'.connection.perform_spec op).1
      have hup' : (s'.make (.application op)).upstream = s'.upstream := by
        unfold upstream make
        dsimp only
        rw [hphase]
      exact ⟨⟨hover.upOpen, hover.downOpen, by rw [hup']; exact hover.up, hover.down⟩,
        hup'.trans hup, hdown⟩
    | server mailroom =>
      exact ⟨⟨hover.upOpen, hover.downOpen, hover.up, hover.down⟩, hup, hdown⟩

/-! ## A pair that gets blocked -/

/-- A client that has a message to send and a session that has a request to pass on block each other
if there is no room for either. -/
theorem blocked_of_long {s : Pair} (hs : s.Bounded) {live : Keeper.Live} {window : Option Nat}
    {m : Wire.Message} {rest : List Wire.Message} {i : SignIn} {r : Wire.Request}
    {mailroom : Mailroom} (hconnection : s.connection.phase = .serving live window)
    (houtbox : s.connection.outbox = some (m :: rest))
    (hsession : s.session.phase = .serving (some i))
    (hline : s.mailroom.receive? i.line = some (r, mailroom))
    (hup : s.link.up.closed = false) (hdown : s.link.down.closed = false)
    (hm : m.length ≤ Wire.Frame.maxLength)
    (hr : (Wire.Message.ofRequest r).length ≤ Wire.Frame.maxLength)
    (hupLong : Pipe.capacity < s.link.up.held.size + (4 + m.length))
    (hdownLong : Pipe.capacity < s.link.down.held.size + (4 + (Wire.Message.ofRequest r).length))
    (stores : Stores) (now wallClock : Nat) :
    ((s.make (.session .push now wallClock)).make (.keeper .send stores now)).Blocked := by
  rw [← Wire.Frame.size_ofBody_encode] at hupLong hdownLong
  have hpush :=
    Session.step_push (t := ⟨s.session, s.mailroom, s.link⟩) hsession hline now wallClock
  rw [Session.Turn.writeMessage, Wire.Frame.encode_of_le hr] at hpush
  obtain ⟨hupSame, hdownFull, hserver, -⟩ := session_write_of_overfull
    (t := ⟨s.session, mailroom, s.link⟩) hdown hs.down hdownLong (some i)
  generalize hs' : s.make (.session .push now wallClock) = s'
  have hlink : s'.link = (Session.Turn.write ⟨s.session, mailroom, s.link⟩ (some i)
      (Wire.Frame.ofBody (Wire.Message.ofRequest r).encode)).link := by
    rw [← hs']
    exact congrArg Session.Turn.link hpush
  have hsession' : s'.session = (Session.Turn.write ⟨s.session, mailroom, s.link⟩ (some i)
      (Wire.Frame.ofBody (Wire.Message.ofRequest r).encode)).session := by
    rw [← hs']
    exact congrArg Session.Turn.session hpush
  have hconnection' : s'.connection = s.connection := by rw [← hs']; rfl
  have hup' : s'.link.up = s.link.up := by rw [hlink]; exact hupSame
  rw [← hconnection'] at hconnection houtbox
  have hsend := Keeper.step_send s'.link hconnection houtbox hm stores now
  obtain ⟨hdownSame, hupFull, hclient, -⟩ := keeper_write_of_overfull
    (t := ⟨{ s'.connection with outbox := some rest }, s'.link, none⟩)
    (by rw [hup']; exact hup) (by rw [hup']; exact hs.up) (by rw [hup']; exact hupLong) stores now
    live .request
  rw [← hsend] at hdownSame hupFull hclient
  refine ⟨hclient, ?_, hupFull, ?_⟩
  · show s'.session.phase.unwritten ≠ .empty
    rw [hsession']
    exact hserver
  · have : (s'.make (.keeper .send stores now)).link.down = s'.link.down := hdownSame
    rw [this, hlink]
    exact hdownFull

/-- A keeper that opened its socket and finds it wanted serves it after two steps. -/
theorem keeper_serves {s : Pair} {live : Keeper.Live} (hphase : s.connection.phase =
      .looking live (.whetherWanted s.connection.pending.size)) {stores : Stores} {now : Nat}
    (hwanted : s.connection.wanted stores now = true) :
    (s.make (.keeper .woken stores now)).make (.keeper .woken stores now) =
      { s with connection := { s.connection with
          phase := .serving live (s.connection.policy.pushDeadline? now) } } := by
  have hlooks := Keeper.step_whetherWanted s.link hphase hwanted .woken
  have hserves := Keeper.step_untilWhen
    (c := { s.connection with phase := .looking live .untilWhen }) s.link rfl stores now .woken
  have hmake : s.make (.keeper .woken stores now) =
      { s with connection := { s.connection with phase := .looking live .untilWhen } } := by
    rw [make, hlooks]
  rw [hmake, make]
  dsimp only
  rw [hserves]

/-- A client whose handshake is accepted gets to serve, and so does its session, with nothing left
on the link between them. -/
theorem signs_in (c : Connection) (hello : Wire.Handshake) (stores : Stores) (now : Nat)
    {login : String} {mailroom : Mailroom} (id : UInt64)
    (hshort : 4 + (Wire.Message.ofHandshake hello).length ≤ Pipe.readSize)
    (hrepeat : Keeper.Turn.canRepeat now c.config.keepalive = true) (hcycling : c.cycling = false)
    (hwanted : c.wanted stores now = true)
    (haccepted : Session.authenticate mailroom hello = .ok (some login)) :
    ∃ s, Run (opened c hello stores now id mailroom) s ∧
      (∃ live window, s.connection.phase = .serving live window) ∧ s.connection.outbox = some [] ∧
      s.session.phase = .serving (some ⟨login, mailroom.nextLine⟩) ∧
      s.mailroom = (mailroom.openLine.2.register login ⟨id, mailroom.nextLine⟩).2 ∧
      s.link = {} := by
  have hfit : (Wire.Message.ofHandshake hello).length ≤ Wire.Frame.maxLength :=
    Nat.le_trans (Nat.le_add_left _ _) (Nat.le_trans hshort (by decide))
  have hopened := Keeper.connected_of_fits c hello stores now hfit
    (Nat.le_trans hshort (by decide)) hrepeat hcycling 0
  generalize hframe :
    Wire.Frame.ofBody (Wire.Message.ofHandshake hello).encode = frame at hopened
  have hsize : frame.size = 4 + (Wire.Message.ofHandshake hello).length := by
    rw [← hframe, Wire.Frame.size_ofBody_encode]
  -- the session takes the handshake from the pipe
  have htakes := Session.step_takes (t := ⟨.start id now, mailroom, { up := { held := frame } }⟩)
    (show _ = Session.Phase.greeting (now + Delay.connect) from rfl) rfl
    (Pipe.read_of_le (p := { held := frame }) (by rw [hsize]; omega) (by rw [hsize]; exact hshort))
    now now
  -- then it finds it in its decoder
  have hbuffer : (Wire.Decoder.new.extend frame).buffer =
      Wire.Frame.ofBody (Wire.Message.ofHandshake hello).encode ++ .empty := by
    rw [Wire.Decoder.buffer_extend, ByteArray.append_empty, hframe]
    exact ByteArray.empty_append
  obtain ⟨d, hnext, -, -⟩ :=
    Wire.Decoder.next_of_ofBody (Wire.Decoder.limit_extend .new _) hfit hbuffer
  have hgreets := Session.step_greets
    (t := ⟨{ Session.start id now with decoder := Wire.Decoder.new.extend frame }, mailroom, {}⟩)
    (show _ = Session.Phase.greeting (now + Delay.connect) from rfl) hnext now now
  have hhandshake : Session.handshakeOf (.ofHandshake hello) = .ok hello := rfl
  have hgreet : Session.greet
      ⟨{ Session.start id now with decoder := d }, mailroom, {}⟩ (.ofHandshake hello) =
        ⟨{ id, decoder := d, phase := .serving (some ⟨login, mailroom.nextLine⟩) },
          (mailroom.openLine.2.register login ⟨id, mailroom.nextLine⟩).2, {}⟩ := by
    unfold Session.greet
    dsimp only
    rw [hhandshake]
    simp only [bind, Except.bind, haccepted]
    rfl
  have htakes' : (opened c hello stores now id mailroom).make (.session .frame now now) =
      ⟨(opened c hello stores now id mailroom).connection,
        { Session.start id now with decoder := Wire.Decoder.new.extend frame }, mailroom, {}⟩ := by
    unfold opened
    rw [hopened]
    simp only [make]
    rw [htakes]
    rfl
  have hgreets' : ((opened c hello stores now id mailroom).make (.session .frame now now)).make
      (.session .frame now now) =
        ⟨(opened c hello stores now id mailroom).connection,
          { id, decoder := d, phase := .serving (some ⟨login, mailroom.nextLine⟩) },
          (mailroom.openLine.2.register login ⟨id, mailroom.nextLine⟩).2, {}⟩ := by
    rw [htakes']
    simp only [make]
    rw [hgreets]
    exact congrArg (fun t : Session.Turn => (⟨_, t.session, t.mailroom, t.link⟩ : Pair)) hgreet
  -- meanwhile the keeper saw that its socket is wanted
  refine ⟨_, (((Run.refl.step (.session .frame now now)).step (.session .frame now now)).step
    (.keeper .woken stores now)).step (.keeper .woken stores now), ?_⟩
  have hconnection : (opened c hello stores now id mailroom).connection =
      { { c with outbox := some [] }.transition .opened with
        phase := .looking { link := 0, probeAt := now + c.config.keepalive }
          (.whetherWanted c.pending.size) } := by
    unfold opened
    rw [hopened]
  rw [hgreets', hconnection, keeper_serves rfl hwanted]
  exact ⟨⟨_, _, rfl⟩, rfl, rfl, rfl, rfl⟩

/-- **When a pair gets blocked.** Whatever happened to it before, a pair is blocked exactly if in
both directions more of frames that were begun is on the way than a pipe holds, and both pipes are
full. It can get blocked exactly if it can get overfull. From an overfull state on nothing is read
and no frame is finished, and from a blocked state on nothing changes at all. -/
theorem blocked_iff {c : Connection} {hello : Wire.Handshake} {stores : Stores} {now : Nat}
    {id : UInt64} {mailroom : Mailroom} {s : Pair}
    (h : Run (opened c hello stores now id mailroom) s) :
    (s.Blocked ↔ s.Overfull ∧ s.link.up.writable = false ∧ s.link.down.writable = false) ∧
      ((∃ s', Run s s' ∧ s'.Blocked) ↔ ∃ s', Run s s' ∧ s'.Overfull) ∧
      (s.Overfull → ∀ s', Run s s' →
        s'.Overfull ∧ s'.upstream = s.upstream ∧ s'.downstream = s.downstream) ∧
      (s.Blocked → ∀ s', Run s s' → s'.Blocked ∧ s'.link = s.link ∧
        s'.connection.phase = s.connection.phase ∧ s'.session = s.session) := by
  have hbounded : s.Bounded := h.bounded (bounded_opened c hello stores now id mailroom)
  refine ⟨⟨fun hs => ⟨hs.overfull, hs.up, hs.down⟩, ?_⟩, ⟨?_, ?_⟩, ?_, ?_⟩
  · rintro ⟨hover, hup, hdown⟩
    refine ⟨?_, ?_, hup, hdown⟩
    · intro he
      have := hover.up
      rw [upstream, he, ByteArray.size_empty] at this
      exact absurd hbounded.up (by omega)
    · intro he
      have := hover.down
      rw [downstream, he, ByteArray.size_empty] at this
      exact absurd hbounded.down (by omega)
  · rintro ⟨s', hrun, hblocked⟩
    exact ⟨s', hrun, hblocked.overfull⟩
  · rintro ⟨s', hrun, hover⟩
    exact ⟨_, (hrun.step (.keeper .woken stores now)).step (.session .push now now),
      hover.blocked (hrun.bounded hbounded) .woken stores now .push now now⟩
  · exact fun hover s' hrun => hrun.overfull hover hbounded
  · exact fun hs s' hrun => hrun.blocked hs

/-- The stores of a client with an account. -/
def stores : Stores := { credentials := some ⟨"alice", "secret"⟩ }

/-- The handshake of this client. -/
def hello : Wire.Handshake := .identified "alice" "secret" "chat-client/0.1.0"

/-- The connection of this client, just as it has begun to dial. -/
def dialing : Connection :=
  ((Connection.new .identified {}).setActive true).atHead stores 0 .connected

/-- A body of 900000 bytes. -/
def longBody : ByteArray := ⟨Array.replicate 900000 0⟩

/-- The request that brings a long body to another account. -/
def longRequest : Request := .put "/v1/messages/bob" longBody

theorem length_longRequest : (Wire.Message.ofRequest (longRequest.toWire 1)).length = 900035 := by
  have hverb : (longRequest.toWire 1).verb.toUTF8.size = 3 := by decide
  have hpath : (longRequest.toWire 1).path.toUTF8.size = 16 := by decide
  have hbody : (longRequest.toWire 1).body.size = 900000 := Array.size_replicate
  rw [Wire.Message.length_ofRequest, Wire.Request.length, hverb, hpath, hbody]
  decide

theorem length_longPush :
    (Wire.Message.ofRequest (Queued.request ⟨1, longBody, 0⟩)).length = 900056 := by
  rw [Queued.length_request]
  show pushLength longBody.size 1 _ = _
  rw [show longBody.size = 900000 from Array.size_replicate]
  decide

/-- The mailroom with a long message in the mailbox of the account. -/
def longMail : Mailroom :=
  ((Mailroom.new (.ofList [("alice", "secret")])).deliver 0 "alice" longBody).2

/-- The client, just as its link was opened, while the long message waits for it. -/
def crossing : Pair := opened dialing hello stores 0 1 longMail

/-- The client signs in and sends its long request while the session passes the long message on. -/
theorem exists_blocked : ∃ s, Run crossing s ∧ s.Blocked := by
  have hmailbox : longMail.mailbox "alice" = [⟨1, longBody, 0⟩] := by
    rw [longMail, Mailroom.mailbox_deliver, if_pos ⟨rfl, by decide⟩]
    rfl
  have haccepted : Session.authenticate longMail hello = .ok (some "alice") := by
    have hpassword : longMail.authenticate "alice" "secret" = true := by
      rw [Mailroom.authenticate, show longMail.accounts = .ofList [("alice", "secret")] from rfl]
      decide
    simp only [Session.authenticate, hello, Wire.Handshake.identified, hpassword, if_true]
  obtain ⟨s, hrun, ⟨live, window, hconnection⟩, houtbox, hsession, hmailroom, hlink⟩ :=
    signs_in dialing hello stores 0 1 (by decide) (by decide) rfl (by decide) haccepted
  have hline := longMail.onLine_openLine_register "alice" 1
  rw [hmailbox, ← hmailroom] at hline
  obtain ⟨m', hreceive⟩ := Mailroom.receive?_of_onLine hline
  have hrun' := hrun.step (.application (.send longRequest 1))
  have houtbox' : (s.make (.application (.send longRequest 1))).connection.outbox =
      some [.ofRequest (longRequest.toWire 1)] := by
    simp only [make, Connection.perform, Connection.send?, houtbox]
    rfl
  have hphase' : (s.make (.application (.send longRequest 1))).connection.phase =
      .serving live window := (s.connection.perform_spec _).1.trans hconnection
  have hlink' : (s.make (.application (.send longRequest 1))).link = {} := hlink
  have hblocked := blocked_of_long (hrun'.bounded (bounded_opened _ _ _ _ _ _)) hphase' houtbox'
    hsession hreceive (by rw [hlink']) (by rw [hlink']) (by rw [length_longRequest]; decide)
    (by rw [length_longPush]; decide) (by rw [hlink', length_longRequest]; decide)
    (by rw [hlink', length_longPush]; decide) stores 0 0
  exact ⟨_, (hrun'.step _).step _, hblocked⟩

/-- While both sides write their long messages, more is on the way in both directions than a pipe
holds, and that does not change any more. -/
theorem crossing_overfull : ∃ s, Run crossing s ∧ s.Blocked ∧ s.Overfull ∧
    ∀ s', Run s s' → s'.Overfull ∧ s'.upstream = s.upstream ∧ s'.downstream = s.downstream := by
  obtain ⟨s, hrun, hblocked⟩ := exists_blocked
  obtain ⟨hiff, -, hstays, -⟩ := blocked_iff (c := dialing) (h := hrun)
  have hover : s.Overfull := (hiff.1 hblocked).1
  exact ⟨s, hrun, hblocked, hover, hstays hover⟩

/-- **Two long messages that cross block a pair.** One waits in the client's mailbox as it signs in,
the other is sent by the client at the same time. Both have a frame, and after both were begun
nothing is written or read any more. -/
theorem crossing_blocks :
    (Wire.Message.ofRequest (longRequest.toWire 1)).length ≤ Wire.Frame.maxLength ∧
      (Wire.Message.ofRequest (Queued.request ⟨1, longBody, 0⟩)).length ≤ Wire.Frame.maxLength ∧
      ∃ s, Run crossing s ∧ s.Blocked ∧ ∀ s', Run s s' → s'.Blocked ∧ s'.link = s.link := by
  refine ⟨by rw [length_longRequest]; decide, by rw [length_longPush]; decide, ?_⟩
  obtain ⟨s, hrun, hblocked⟩ := exists_blocked
  refine ⟨s, hrun, hblocked, fun s' hs' => ?_⟩
  obtain ⟨hstill, hsame, -⟩ := hs'.blocked hblocked
  exact ⟨hstill, hsame⟩

end Pair

end ChatSockets
