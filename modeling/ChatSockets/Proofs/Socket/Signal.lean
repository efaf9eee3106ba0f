import ChatSockets.Proofs.Socket.Record

/-!
# What a client is told about its mailbox

The server says with a signal that it has sent all stored messages (`IsSignal`). A connection holds
this for true from the step in which its keeper takes the signal (`Acts.queueEmptied`) until the
socket is torn down, and at no other time (`Ledger.Honest`, `Shift.honest`). The messages that the
keeper takes meanwhile are put on the channel of incoming messages, each in the step in which it is
taken (`Acts.incoming`).
-/

namespace ChatSockets

open Wire

/-- A request of the server says that it has sent all stored messages. -/
def IsSignal (r : Wire.Request) : Prop := r.verb = "PUT" ∧ r.path = Path.queueEmpty

/-! ## The word about the mailbox and the state -/

/-- The state is what the keeper has to show, and without an open socket nothing is known of the
mailbox. -/
structure Ledger.Honest (l : Ledger) : Prop where
  state : l.state = l.shown
  link : l.link?.isSome = true → l.shown = .open
  quiet : l.link? = none → l.queueEmptied = false

/-- A socket that is not shown as open has no link. -/
theorem Ledger.link?_of_shown {l : Ledger} (hlink : l.link?.isSome = true → l.shown = .open)
    (h : l.shown ≠ .open) : l.link? = none :=
  Option.not_isSome_iff_eq_none.1 fun hsome => h (hlink hsome)

variable {l l' : Ledger} {r r' : Record}

theorem Ledger.Honest.tornDown (l : Ledger) : l.tornDown.Honest where
  state := rfl
  link := nofun
  quiet := fun _ => rfl

/-- An event that can happen keeps the state right, if the keeper shows where it leads. -/
theorem Ledger.Honest.event (h : l.Honest) {e : SocketEvent} {shown : SocketState}
    (hbefore : l.shown ≠ .open) (he : l.shown.next? e = some shown) :
    (l.event e shown).Honest where
  state := by
    show l.state.after e = shown
    rw [SocketState.after, h.state, he]
    rfl
  link := fun hsome => absurd (h.link hsome) hbefore
  quiet := h.quiet

/-- **The state stays right** whatever a keeper does. -/
theorem Keeper.Shift.honest (h : Shift l r l' r') (hl : l.Honest) : l'.Honest := by
  have hopened : l.shown = .connecting → l.state.after .opened = .open := by
    intro hconnecting
    rw [hl.state, hconnecting]
    rfl
  cases h with
  | settles n _ hlink h =>
    cases h with
    | stays rest hprobes heq =>
      rw [heq]
      exact ⟨hl.state.trans (hl.link (by rw [hlink]; rfl)), fun _ => rfl, nofun⟩
    | falls heq => rw [heq]; exact .tornDown l
  | dials hclosed => exact hl.event (by simp [hclosed]) (by rw [hclosed]; rfl)
  | parks hclosed => exact hl.event (by simp [hclosed]) (by rw [hclosed]; rfl)
  | finishes hclosed => exact .tornDown l
  | fails hconnecting => exact hl.event (by simp [hconnecting]) (by rw [hconnecting]; rfl)
  | opens n hconnecting => exact ⟨hopened hconnecting, fun _ => rfl, nofun⟩
  | crashes hconnecting =>
    exact ⟨hopened hconnecting, nofun,
      fun _ => hl.quiet (Ledger.link?_of_shown hl.link (by simp [hconnecting]))⟩
  | hears n m queueEmptied hlink =>
    exact ⟨hl.state, hl.link, fun hnone => by cases hlink.symm.trans hnone⟩
  | sends | tells | puts | probes | hearsProbe | accepts => exact ⟨hl.state, hl.link, hl.quiet⟩

theorem Keeper.Shift.socket (h : Shift l r l' r') : l'.socket = l.socket := by
  cases h with
  | settles n _ hlink h => cases h with
    | stays rest hprobes heq => rw [heq]
    | falls heq => rw [heq]; rfl
  | _ => rfl

namespace Keeper

/-- What some steps of a keeper leave as it is. -/
theorem Shifts.honest (h : Shifts l r l' r') (hl : l.Honest) :
    l'.Honest ∧ l'.socket = l.socket :=
  h.induct (P := fun l' _ => l'.Honest ∧ l'.socket = l.socket) ⟨hl, rfl⟩
    fun h ⟨hl, hsocket⟩ => ⟨h.honest hl, h.socket.trans hsocket⟩

/-! ## What a request of the server leads to -/

/-- What is put on the channel of incoming messages for a request of the server, if it brings a
message. -/
def delivered? (socket : SocketKind) (r : Wire.Request) : Option Incoming :=
  if r.verb = "PUT" ∧ r.path = Path.message then some (Turn.incomingOf socket r) else none

theorem Turn.incoming_answer (t : Turn) (r : Wire.Request) :
    (t.answer r).2.incoming = (delivered? t.connection.socket r).or t.incoming := by
  unfold Turn.answer delivered?
  split
  · rfl
  · split <;> rfl

/-- An answer to the server is the only word about the mailbox. -/
theorem Turn.queueEmptied_answer (t : Turn) (r : Wire.Request) :
    (t.answer r).2.connection.queueEmptied = true ↔
      t.connection.queueEmptied = true ∨ IsSignal r := by
  have hne : Path.message ≠ Path.queueEmpty := by decide
  unfold Turn.answer IsSignal
  split
  · next hmessage => simp [hmessage, hne]
  · split
    · next hsignal => simp [hsignal]
    · next hno => simp [hno]

section

variable {t t' : Turn} {link : Nat} {decoder : Decoder} {probes : List UInt64} {b : ByteArray}
  {uttered : Option (Purpose × Message)} {heard : Option Message}

/-- A socket that is not torn down keeps the word about the mailbox. -/
theorem Settles.queueEmptied {c : Connection} (h : Settles l link probes c.ledger)
    (hlink : linkOf? c ≠ none) : c.queueEmptied = l.queueEmptied := by
  cases h with
  | stays rest hprobes heq => exact congrArg Ledger.queueEmptied heq
  | falls heq => exact absurd (Phase.link?_of_closed (congrArg Ledger.shown heq)) hlink

/-- A handshake that is written tells nothing about the mailbox. -/
theorem Greets.queueEmptied {c : Connection} (h : Greets l link c.ledger)
    (hlink : linkOf? c ≠ none) : c.queueEmptied = l.queueEmptied := by
  cases h with
  | fails heq => exact absurd (Phase.link?_of_closed (congrArg Ledger.shown heq)) hlink
  | waits heq => exact congrArg Ledger.queueEmptied heq
  | opens h => exact h.queueEmptied hlink
  | crashes heq => exact congrArg Ledger.queueEmptied heq

/-- **The word about the mailbox after a step**, while the link is kept: it is given as the signal
is taken. -/
theorem Acts.queueEmptied (h : Acts t uttered heard t') (hlink : linkOf? t'.connection ≠ none) :
    t'.connection.queueEmptied = true ↔
      t.connection.queueEmptied = true ∨ ∃ r ∈ heard.bind Message.asked?, IsSignal r := by
  have hsame : ∀ {heard : Option Message}, heard.bind Message.asked? = none →
      t'.connection.queueEmptied = t.connection.queueEmptied →
      (t'.connection.queueEmptied = true ↔
        t.connection.queueEmptied = true ∨ ∃ r ∈ heard.bind Message.asked?, IsSignal r) := by
    intro heard hnone hsame
    simp [hnone, hsame]
  cases h with
  | nothing => exact hsame rfl rfl
  | apart _ hbefore hledger =>
    exact absurd (Phase.link?_of_closed ((congrArg Ledger.shown hledger).trans hbefore)) hlink
  | greets link rest _ hphase hleaves h => exact hsame rfl (h.queueEmptied hlink)
  | goes live _ hlive h => exact hsame rfl (h.settles.queueEmptied hlink)
  | receives => exact hsame rfl rfl
  | sends live window m rest _ hphase houtbox h => exact hsame rfl (h.settles.queueEmptied hlink)
  | probes live window _ hphase h => exact hsame rfl (h.settles.queueEmptied hlink)
  | accepts live decoder m w hphase hnext hkind hw =>
    refine hsame (Message.asked?_of_ne fun hrequest => by cases hkind.symm.trans hrequest) ?_
    rcases t.ledger_accept { live with decoder, heard := true } w with ⟨-, heq⟩ | ⟨-, heq⟩
    · exact congrArg Ledger.queueEmptied heq
    · exact congrArg Ledger.queueEmptied heq
  | answers live decoder m r _ hphase hnext hkind hr h =>
    have hasked : m.asked? = some r := (Message.asked?_of_request hkind).trans hr
    rw [h.settles.queueEmptied hlink, Option.bind_some, hasked]
    exact (t.queueEmptied_answer r).trans (by simp)
  | ignores live decoder m hphase hnext hno hrequest =>
    exact hsame (Message.asked?_of_ne hrequest) rfl

/-- **What a step puts on the channel of incoming messages** is the message that is taken in it. -/
theorem Acts.incoming (h : Acts t uttered heard t') :
    t'.incoming =
      ((heard.bind Message.asked?).bind (delivered? t.connection.socket)).or t.incoming := by
  cases h with
  | nothing => rfl
  | apart _ hclosed hledger hlink hincoming => exact hincoming
  | greets link rest _ hphase hleaves => exact hleaves.incoming
  | goes live _ hlive h => exact h.leaves.incoming
  | receives => rfl
  | sends live window m rest _ hphase houtbox h => exact h.leaves.incoming
  | probes live window _ hphase h => exact h.leaves.incoming
  | accepts live decoder m w hphase hnext hkind hw =>
    rw [Option.bind_some,
      Message.asked?_of_ne fun hrequest => by cases hkind.symm.trans hrequest]
    exact (t.accept_leaves { live with decoder, heard := true } w).incoming
  | answers live decoder m r _ hphase hnext hkind hr h =>
    rw [Option.bind_some, Message.asked?_of_request hkind, hr]
    exact h.leaves.incoming.trans (t.incoming_answer r)
  | ignores live decoder m hphase hnext hno hrequest =>
    rw [Option.bind_some, Message.asked?_of_ne hrequest]
    rfl

end

end Keeper

/-- A connection that nothing has happened to is closed. -/
theorem Connection.honest_new (socket : SocketKind) (config : ClientConfig) :
    (Connection.new socket config).ledger.Honest :=
  ⟨rfl, nofun, fun _ => rfl⟩

/-- What an application does tells nothing about the mailbox. -/
theorem Connection.perform_honest (c : Connection) (op : Operation) (h : c.ledger.Honest) :
    (c.perform op).ledger.Honest ∧ (c.perform op).queueEmptied = c.queueEmptied := by
  have hledger : ∀ {d : Connection}, d.state = c.state → d.phase = c.phase →
      d.queueEmptied = c.queueEmptied →
      d.ledger.Honest ∧ d.queueEmptied = c.queueEmptied := by
    intro d hstate hphase hqueue
    refine ⟨⟨?_, ?_, ?_⟩, hqueue⟩
    · show d.state = d.phase.shown
      rw [hstate, hphase]
      exact h.state
    · exact Keeper.Phase.shown_of_openLink?
    · show d.phase.openLink? = none → d.queueEmptied = false
      rw [hphase, hqueue]
      exact h.quiet
  cases op with
  | withdraw id =>
    unfold perform withdraw
    dsimp only
    split <;> exact hledger rfl rfl rfl
  | send r id =>
    unfold perform send?
    cases c.outbox <;> exact hledger rfl rfl rfl
  | _ => exact hledger rfl rfl rfl

end ChatSockets
