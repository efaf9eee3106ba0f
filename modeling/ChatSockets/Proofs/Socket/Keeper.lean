import ChatSockets.Proofs.Link
import ChatSockets.Proofs.Wire.Stream
import ChatSockets.Socket.Keeper

/-!
# What a keeper does to its link

A keeper offers bytes to its link, and goes on with it or lets go of it. `Turn.Leaves` says what is
left then: what the pipe had no room for is still to be written, unless the link is closed and the
keeper has let go of it. Each way in which a keeper goes on has its lemma here.
-/

namespace ChatSockets

/-- The messages that wait in the outbox. -/
def Connection.queued (c : Connection) : List Wire.Message := c.outbox.getD []

namespace Keeper

open Wire

/-- What a keeper knows of its open socket. -/
def Phase.live? : Phase → Option Live
  | .looking live _ => some live
  | .serving live _ => some live
  | .draining live => some live
  | .writing live _ _ => some live
  | _ => none

/-- The decoder of what comes from the server; a new one while the socket is not open. -/
def Phase.decoder (p : Phase) : Decoder :=
  match p.live? with
  | some live => live.decoder
  | none => .new

/-- The bytes of a frame that are still to be written. -/
def Phase.unwritten : Phase → ByteArray
  | .greeting _ rest => rest
  | .writing _ rest _ => rest
  | _ => .empty

/-! ## What is left after bytes were offered -/

/-- A keeper offered bytes to its link and goes on with the link and the decoder, or has let go of
the link. -/
structure Turn.Leaves (t : Turn) (link : Nat) (decoder : Decoder) (b : ByteArray) (t' : Turn) :
    Prop where
  /-- the first of the bytes are in the pipe; the others are still to be written, while the link is
  kept -/
  puts : ∃ put more, put ++ more = b ∧ t'.link.up.held = t.link.up.held ++ put ∧
    (linkOf? t'.connection ≠ none → more = t'.connection.phase.unwritten)
  room : t.link.up.held.size ≤ Pipe.capacity → t'.link.up.held.size ≤ Pipe.capacity
  down : t'.link.down.held = t.link.down.held
  stays : linkOf? t'.connection = none ∧ t'.link.up.closed = true ∨
    linkOf? t'.connection = some link ∧ t'.connection.phase.decoder = decoder
  queued : ∀ m ∈ t'.connection.queued, m ∈ t.connection.queued
  socket : t'.connection.socket = t.connection.socket
  incoming : t'.incoming = t.incoming

/-- A wait after a failure keeps nothing of a socket. -/
theorem backOff_spec (c : Connection) (stores : Stores) (now : Nat) :
    linkOf? (c.backOff stores now) = none ∧ (c.backOff stores now).outbox = c.outbox ∧
      (c.backOff stores now).socket = c.socket := by
  unfold Connection.backOff
  split <;> exact ⟨rfl, rfl, rfl⟩

/-- An attempt to connect that failed leaves no socket. -/
theorem connectFailed_spec (c : Connection) (stores : Stores) (now : Nat) (e : ChatError) :
    linkOf? (c.connectFailed stores now e) = none ∧
      (c.connectFailed stores now e).queued = c.queued ∧
      (c.connectFailed stores now e).socket = c.socket := by
  obtain ⟨hphase, houtbox, hsocket⟩ :=
    backOff_spec ((c.transition .connectFailed).recordFailure e.message) stores now
  exact ⟨hphase, congrArg (·.getD []) houtbox, hsocket⟩

/-- A socket that is closed leaves nothing behind. -/
theorem Turn.close_spec (t : Turn) (stores : Stores) (now : Nat) (heard : Bool) (why : Close) :
    (t.close stores now heard why).link = t.link.close ∧
      (t.close stores now heard why).incoming = t.incoming ∧
      linkOf? (t.close stores now heard why).connection = none ∧
      (t.close stores now heard why).connection.outbox = none ∧
      (t.close stores now heard why).connection.socket = t.connection.socket := by
  refine ⟨rfl, rfl, ?_⟩
  cases why with
  | unwanted => exact ⟨rfl, rfl, rfl⟩
  | cycled => exact ⟨rfl, rfl, rfl⟩
  | failed reason =>
    unfold Turn.close
    dsimp only
    split
    · exact backOff_spec _ stores now
    · exact backOff_spec _ stores now

/-- Whatever bytes were to be written on a socket, it may be closed instead. -/
theorem Turn.close_leaves (t : Turn) (stores : Stores) (now : Nat) (heard : Bool) (why : Close)
    (link : Nat) (decoder : Decoder) (b : ByteArray) :
    t.Leaves link decoder b (t.close stores now heard why) := by
  obtain ⟨hlink, hincoming, hphase, houtbox, hsocket⟩ := t.close_spec stores now heard why
  constructor
  · exact ⟨.empty, b, ByteArray.empty_append, by rw [hlink, ByteArray.append_empty]; rfl,
      fun h => absurd hphase h⟩
  · rw [hlink]
    exact id
  · rw [hlink]
    rfl
  · exact .inl ⟨hphase, by rw [hlink]; rfl⟩
  · rw [Connection.queued, houtbox]
    intro m hm
    cases hm
  · exact hsocket
  · exact hincoming

/-- Bytes that were all written do not count any more. -/
theorem Turn.Leaves.of_written {t t' : Turn} {up : Pipe} {link : Nat} {decoder : Decoder}
    {b : ByteArray} (hwrite : t.link.up.write? b = some (.empty, up))
    (h : { t with link := { t.link with up } }.Leaves link decoder .empty t') :
    t.Leaves link decoder b t' := by
  obtain ⟨first, hfirst, hup⟩ := Pipe.write?_puts hwrite
  rw [ByteArray.append_empty] at hfirst
  obtain ⟨put, more, hrest, hheld, hunwritten⟩ := h.puts
  refine ⟨⟨first ++ put, more, ?_, ?_, hunwritten⟩,
    fun hroom => h.room (Pipe.room_write? hroom hwrite), h.down, h.stays, h.queued, h.socket,
    h.incoming⟩
  · rw [ByteArray.append_assoc, hrest, ByteArray.append_empty]
    exact hfirst
  · rw [hheld, ← ByteArray.append_assoc]
    exact congrArg (· ++ put) hup

/-- What is left does not depend on the parts of the connection that no link shows. -/
theorem Turn.Leaves.of_connection {t t' : Turn} {c : Connection} {link : Nat} {decoder : Decoder}
    {b : ByteArray} (hqueued : ∀ m ∈ c.queued, m ∈ t.connection.queued)
    (hsocket : c.socket = t.connection.socket)
    (h : { t with connection := c }.Leaves link decoder b t') : t.Leaves link decoder b t' :=
  ⟨h.puts, h.room, h.down, h.stays, fun m hm => hqueued m (h.queued m hm), h.socket.trans hsocket,
    h.incoming⟩

/-- A turn that only changes the phase, to one with nothing to write. -/
theorem Turn.leaves_phase (t : Turn) (phase : Phase) {link : Nat}
    (hlink : linkOf? { t.connection with phase } = some link)
    (hunwritten : phase.unwritten = .empty) :
    t.Leaves link phase.decoder .empty { t with connection := { t.connection with phase } } :=
  ⟨⟨.empty, .empty, rfl, ByteArray.append_empty.symm, fun _ => hunwritten.symm⟩, id, rfl,
    .inr ⟨hlink, rfl⟩, fun _ => id, rfl, rfl⟩

/-- A loop that begins anew offers nothing. -/
theorem Turn.resume_leaves (t : Turn) (stores : Stores) (now : Nat) (live : Live) :
    t.Leaves live.link live.decoder .empty (t.resume stores now live) := by
  unfold Turn.resume
  dsimp only
  split
  · exact .of_connection (c := { t.connection with cycling := false }) (fun _ => id) rfl
      (Turn.close_leaves _ stores now _ _ _ _ _)
  · exact t.leaves_phase (.looking live _) rfl rfl

/-- A keeper that looks offers nothing. -/
theorem Turn.look_leaves (t : Turn) (stores : Stores) (now : Nat) (live : Live) (look : Look) :
    t.Leaves live.link live.decoder .empty (t.look stores now live look) := by
  cases look with
  | whetherWanted counted =>
    unfold Turn.look
    dsimp only
    split
    · exact t.leaves_phase (.looking live .untilWhen) rfl rfl
    · exact t.close_leaves stores now _ _ _ _ _
  | untilWhen => exact t.leaves_phase (.serving live _) rfl rfl

/-- Nor does one that opens its socket. -/
theorem Turn.opened_leaves (t : Turn) (stores : Stores) (now link : Nat) :
    t.Leaves link .new .empty (t.opened stores now link) := by
  unfold Turn.opened
  dsimp only
  split
  · refine .of_connection (c := { t.connection with outbox := some [] }.transition .opened)
      (fun m hm => absurd hm List.not_mem_nil) rfl ?_
    exact Turn.resume_leaves _ stores now { link, probeAt := now + t.connection.config.keepalive }
  · exact ⟨⟨.empty, .empty, rfl, ByteArray.append_empty.symm, fun h => absurd rfl h⟩, id, rfl,
      .inl ⟨rfl, rfl⟩, fun m hm => absurd hm List.not_mem_nil, rfl, rfl⟩

/-- Nothing more is offered after a frame is written. -/
theorem Turn.written_leaves (t : Turn) (stores : Stores) (now : Nat) (live : Live)
    (purpose : Purpose) :
    t.Leaves live.link live.decoder .empty (t.written stores now live purpose) := by
  cases purpose with
  | probe id => exact t.resume_leaves stores now { live with awaiting := some id }
  | request => exact t.resume_leaves stores now live
  | reply => exact t.leaves_phase (.draining live) rfl rfl

/-- Bytes that come back from a write are empty or to be written later. -/
theorem isEmpty_iff (b : ByteArray) : b.isEmpty = true ↔ b = .empty := by
  rw [ByteArray.isEmpty, ← ByteArray.size_eq_zero_iff]
  simp

/-- A keeper writes what there is room for. -/
theorem Turn.write_leaves (t : Turn) (stores : Stores) (now : Nat) (live : Live)
    (purpose : Purpose) (b : ByteArray) :
    t.Leaves live.link live.decoder b (t.write stores now live purpose b) := by
  unfold Turn.write
  split
  · exact t.close_leaves stores now _ _ _ _ _
  · next rest up hwrite =>
    obtain ⟨put, hput, hheld⟩ := Pipe.write?_puts hwrite
    dsimp only
    split
    · next hrest =>
      rw [(isEmpty_iff rest).1 hrest] at hwrite
      exact .of_written hwrite (Turn.written_leaves _ stores now live purpose)
    · exact ⟨⟨put, rest, hput, hheld, fun _ => rfl⟩,
        fun hroom => Pipe.room_write? hroom hwrite, rfl,
        .inr ⟨rfl, rfl⟩, fun _ => id, rfl, rfl⟩

/-- A keeper writes what there is room for of its handshake, and then the socket is open. -/
theorem Turn.greet_leaves (t : Turn) (stores : Stores) (now link : Nat) (b : ByteArray) :
    t.Leaves link .new b (t.greet stores now link b) := by
  unfold Turn.greet
  split
  · obtain ⟨hphase, hqueued, hsocket⟩ := connectFailed_spec t.connection stores now .brokenPipe
    exact ⟨⟨.empty, b, ByteArray.empty_append, ByteArray.append_empty.symm,
      fun h => absurd hphase h⟩, id, rfl, .inl ⟨hphase, rfl⟩, fun m hm => hqueued ▸ hm, hsocket,
      rfl⟩
  · next rest up hwrite =>
    obtain ⟨put, hput, hheld⟩ := Pipe.write?_puts hwrite
    dsimp only
    split
    · next hrest =>
      rw [(isEmpty_iff rest).1 hrest] at hwrite
      exact .of_written hwrite (Turn.opened_leaves _ stores now link)
    · exact ⟨⟨put, rest, hput, hheld, fun _ => rfl⟩,
        fun hroom => Pipe.room_write? hroom hwrite, rfl,
        .inr ⟨rfl, rfl⟩, fun _ => id, rfl, rfl⟩

/-- What is left of a new link: the handshake was offered. -/
theorem connected_leaves (stores : Stores) (now link : Nat) (hello : Handshake) (t : Turn) :
    t.Leaves link .new (offer (.ofHandshake hello)) (connected stores now link hello t) := by
  unfold connected
  by_cases hfit : (Message.ofHandshake hello).length ≤ Frame.maxLength
  · rw [Frame.encode_of_le hfit, offer_of_le hfit]
    exact t.greet_leaves stores now link _
  · rw [Frame.encode_of_lt (by omega), offer_of_lt (by omega)]
    obtain ⟨hphase, hqueued, hsocket⟩ := connectFailed_spec t.connection stores now
      (.codec (.tooLarge (Message.ofHandshake hello).length Frame.maxLength))
    exact ⟨⟨.empty, .empty, rfl, ByteArray.append_empty.symm, fun h => absurd hphase h⟩, id, rfl,
      .inl ⟨hphase, rfl⟩, fun m hm => hqueued ▸ hm, hsocket, rfl⟩

/-- A handshake for which a new link has room opens the socket at once. -/
theorem connected_of_fits (c : Connection) (hello : Handshake) (stores : Stores) (now : Nat)
    (hfit : (Message.ofHandshake hello).length ≤ Frame.maxLength)
    (hroom : 4 + (Message.ofHandshake hello).length ≤ Pipe.capacity)
    (hrepeat : Turn.canRepeat now c.config.keepalive = true) (hcycling : c.cycling = false)
    (link : Nat) :
    connected stores now link hello ⟨c, {}, none⟩ =
      ⟨{ { c with outbox := some [] }.transition .opened with
          phase := .looking { link, probeAt := now + c.config.keepalive }
            (.whetherWanted c.pending.size) },
        { up := { held := Frame.ofBody (Message.ofHandshake hello).encode } }, none⟩ := by
  have hwrite := Pipe.write?_of_fits (p := {})
    (b := Frame.ofBody (Message.ofHandshake hello).encode) rfl (by
      rw [Frame.size_ofBody_encode]
      exact Nat.le_trans (Nat.le_of_eq (Nat.zero_add _)) hroom)
  have hempty : ({} : Pipe).held ++ Frame.ofBody (Message.ofHandshake hello).encode =
      Frame.ofBody (Message.ofHandshake hello).encode := ByteArray.empty_append
  rw [hempty] at hwrite
  unfold connected
  rw [Frame.encode_of_le hfit]
  simp only [Turn.greet, hwrite]
  rw [if_pos ((isEmpty_iff _).2 rfl)]
  unfold Turn.opened Turn.resume
  dsimp only
  rw [if_pos (by exact hrepeat), if_neg (by rw [Connection.transition, hcycling]; decide)]
  rfl

/-- A keeper that finds its socket wanted looks next until when a push counts. -/
theorem step_whetherWanted {c : Connection} (link : Link) {live : Live} {counted : Nat}
    (hphase : c.phase = .looking live (.whetherWanted counted)) {stores : Stores} {now : Nat}
    (hwanted : c.wantedBy counted stores now = true) (branch : Branch) :
    step branch stores now ⟨c, link, none⟩ =
      ⟨{ c with phase := .looking live .untilWhen }, link, none⟩ := by
  simp only [step, hphase, Turn.look, hwanted, if_true]

/-- Then it serves the socket. -/
theorem step_untilWhen {c : Connection} (link : Link) {live : Live}
    (hphase : c.phase = .looking live .untilWhen) (stores : Stores) (now : Nat) (branch : Branch) :
    step branch stores now ⟨c, link, none⟩ =
      ⟨{ c with phase := .serving live (c.policy.pushDeadline? now) }, link, none⟩ := by
  simp only [step, hphase, Turn.look]

/-- A request of the server is answered under its id. It is granted exactly if it brings a message,
which is then passed on to the application, or says that the mailbox was sent. -/
theorem Turn.answer_spec (t : Turn) (r : Wire.Request) :
    (t.answer r).1.id = r.id ∧ (t.answer r).2.link = t.link ∧
      (t.answer r).2.connection.phase = t.connection.phase ∧
      (t.answer r).2.connection.queued = t.connection.queued ∧
      (t.answer r).2.connection.socket = t.connection.socket ∧
      ((r.verb = "PUT" ∧ r.path = Path.message ∧
          (t.answer r).2.incoming = some (incomingOf t.connection.socket r)) ∨
        (t.answer r).2.incoming = t.incoming ∧
          ((t.answer r).1.isSuccess = true → r.path = Path.queueEmpty)) := by
  unfold Turn.answer
  split
  · next hmessage => exact ⟨rfl, rfl, rfl, rfl, rfl, .inl ⟨hmessage.1, hmessage.2, rfl⟩⟩
  · split
    · next hempty => exact ⟨rfl, rfl, rfl, rfl, rfl, .inr ⟨rfl, fun _ => hempty.2⟩⟩
    · exact ⟨rfl, rfl, rfl, rfl, rfl, .inr ⟨rfl, fun h => by cases h⟩⟩

/-- A keeper that serves takes the first message of its outbox and offers its frame. -/
theorem step_send {c : Connection} (link : Link) {live : Live} {window : Option Nat}
    {m : Message} {rest : List Message} (hphase : c.phase = .serving live window)
    (houtbox : c.outbox = some (m :: rest)) (hfit : m.length ≤ Frame.maxLength) (stores : Stores)
    (now : Nat) :
    step .send stores now ⟨c, link, none⟩ =
      Turn.write ⟨{ c with outbox := some rest }, link, none⟩ stores now live .request
        (Frame.ofBody m.encode) := by
  simp only [step, hphase, canTake, houtbox, if_pos, Turn.serve, Turn.sendNext, Turn.writeMessage,
    Frame.encode_of_le hfit]

/-- A response that is heard is for the probe or for a request that waits for it. -/
theorem Turn.accept_leaves (t : Turn) (live : Live) (r : Wire.Response) :
    t.Leaves live.link live.decoder .empty (t.accept live r) := by
  have hwaiting : ∀ (pending : Pending UInt64) (replies : Table UInt64 Outcome),
      t.Leaves live.link live.decoder .empty { t with
        connection := { t.connection with pending, replies, phase := .draining live } } :=
    fun pending replies => .of_connection (c := { t.connection with pending, replies })
      (fun _ => id) rfl (Turn.leaves_phase _ (.draining live) rfl rfl)
  unfold Turn.accept
  split
  · exact t.leaves_phase (.draining { live with awaiting := none }) rfl rfl
  · exact hwaiting _ _

end Keeper

/-! ## What the application does -/

/-- What an application and its calls do to a connection. -/
inductive Operation
  | setActive (active : Bool)
  | push (now : Nat)
  | cycle
  | acquire
  | release
  | shutDown
  | register
  | withdraw (id : UInt64)
  /-- a request is submitted under an id; without an open socket nothing happens -/
  | send (r : Request) (id : UInt64)

namespace Connection

/-- The connection after an operation. -/
def perform (c : Connection) : Operation → Connection
  | .setActive active => c.setActive active
  | .push now => c.push now
  | .cycle => c.cycle
  | .acquire => c.acquire
  | .release => c.release
  | .shutDown => c.shutDown
  | .register => c.register.2
  | .withdraw id => c.withdraw id
  | .send r id => (c.send? (.ofRequest (r.toWire id))).getD c

/-- An operation leaves the keeper where it is, and puts nothing but requests into the outbox. -/
theorem perform_spec (c : Connection) (op : Operation) :
    (c.perform op).phase = c.phase ∧ (c.perform op).socket = c.socket ∧
      ∀ m ∈ (c.perform op).queued, m ∈ c.queued ∨ ∃ r, m = .ofRequest r := by
  cases op with
  | withdraw id =>
    unfold perform withdraw
    dsimp only
    split <;> exact ⟨rfl, rfl, fun m hm => .inl hm⟩
  | send r id =>
    unfold perform send? queued
    dsimp only
    cases houtbox : c.outbox with
    | none => exact ⟨rfl, rfl, fun m hm => .inl (by rw [← houtbox]; exact hm)⟩
    | some queue =>
      refine ⟨rfl, rfl, fun m hm => ?_⟩
      rcases List.mem_append.1 hm with hm | hm
      · exact .inl hm
      · exact .inr ⟨_, List.mem_singleton.1 hm⟩
  | _ => exact ⟨rfl, rfl, fun m hm => .inl hm⟩

/-- A keeper that begins its loop anew has no link. -/
theorem atHead_spec (c : Connection) (stores : Stores) (now : Nat) (attempt : Attempt) :
    Keeper.linkOf? (c.atHead stores now attempt) = none ∧
      (∀ m ∈ (c.atHead stores now attempt).queued, m ∈ c.queued) ∧
      (c.atHead stores now attempt).socket = c.socket := by
  unfold atHead
  split
  · exact ⟨rfl, fun m hm => absurd hm List.not_mem_nil, rfl⟩
  · split
    · dsimp only
      split
      · obtain ⟨hlink, hqueued, hsocket⟩ := Keeper.connectFailed_spec
          ({ c with cycling := false }.transition .connectStarted) stores now
          (.transport "no credentials for the identified socket")
        exact ⟨hlink, fun m hm => hqueued ▸ hm, hsocket⟩
      · exact ⟨rfl, fun _ => id, rfl⟩
    · exact ⟨rfl, fun _ => id, rfl⟩

end Connection

end ChatSockets
