import ChatSockets.Proofs.Network.Invariant
import ChatSockets.Proofs.Server.Push

/-!
# At-least-once delivery

A message that was accepted for a login is in its mailbox until a client that opened a session of
the login has put it on its channel of incoming messages (`accepted_held_or_received`). This takes
that every session of the login was opened by one of the clients, and holds for the first `2 ^ 64`
ids: after that an acknowledgement may be for another message of the same id.

A message leaves its mailbox only as a session of the login handles a response with its id, and this
response is on its way only after the client has received the message (`Inv.answered`); so no move
loses a message (`Inv.kept`).
-/

namespace ChatSockets.Network

open Wire Keeper

variable {w w' : Network} {login : String} {past : Queued → Prop}

/-! ## Moves -/

/-- **No move takes a message from its mailbox that was not received.** -/
theorem Inv.kept (h : Inv login past w) (hserved : w.Served login) (move : Move) {q : Queued}
    (hq : q ∈ w.mailroom.mailbox login) :
    q ∈ (w.make move).mailroom.mailbox login ∨ (w.make move).Received login q := by
  have hsame : (w.make move).mailroom = w.mailroom →
      q ∈ (w.make move).mailroom.mailbox login ∨ (w.make move).Received login q := by
    intro heq
    rw [heq]
    exact .inl hq
  cases move with
  | accept recipient body now =>
    left
    simp only [Network.make]
    split <;> exact hq
  | post n =>
    left
    simp only [Network.make]
    split
    · exact hq
    · rw [Mailroom.mailbox_post]
      split
      · next hlogin =>
        rw [hlogin] at hq
        exact List.mem_append_left _ hq
      · exact hq
  | session n branch now wallClock =>
    cases hv : w.visits[n]? with
    | none =>
      left
      change q ∈ (w.stepSession n branch now wallClock).mailroom.mailbox login
      rw [stepSession_of_none hv]
      exact hq
    | some v =>
      have hgrown := Grown.make w (.session n branch now wallClock)
      have hdoes := Session.step_does branch now wallClock ⟨v.session, w.mailroom, v.far⟩
      obtain ⟨m, hchanges, hleaves⟩ := hdoes.changes
      have hmailbox : (w.make (.session n branch now wallClock)).mailroom.mailbox login =
          m.mailbox login := by
        change (w.stepSession n branch now wallClock).mailroom.mailbox login = _
        rw [stepSession_of_some hv]
        rcases hleaves with hsame | ⟨i, hleft⟩
        · exact congrArg (·.mailbox login) hsame
        · exact (congrArg (·.mailbox login) hleft).trans
            ((m.leave_spec i.line i.login v.session.id).2.2.2.2 login)
      rw [hmailbox]
      rcases hchanges.lost hq with hstill | ⟨i, message, d, r, hi, rfl, hnext, hr, hsuccess, hid⟩
      · exact .inl hstill
      · -- the session is signed in as the login, so the response came from a client
        right
        change v.session.phase.signIn? = some i at hi
        have hlogin := h.remembered n v i hv hi
        cases howner : v.owner with
        | none => exact absurd howner (hserved v (List.mem_of_getElem? hv) hlogin)
        | some k =>
          obtain ⟨c, hc, hvisit⟩ := h.owned n v k hv howner
          obtain ⟨-, hup, -⟩ := hvisit.serving i.line hi
          obtain ⟨ms, hrises, hms⟩ := hup
          obtain ⟨rest, rfl⟩ := hrises.next hnext
          have hsettles := hms message (List.mem_cons_self ..) r hr hsuccess
          have hreceived := hsettles.2 q (.inl hq) hid
          exact Received.grown
            ⟨v, List.mem_of_getElem? hv, hlogin, k, c, howner, hc, hreceived⟩ hgrown
  | keeper k branch stores now => exact hsame (by simp [Network.make])
  | connected k stores now id => exact hsame (by simp [Network.make])
  | atHead k stores now attempt => exact hsame (by simp [Network.make])
  | connectFailed k stores now e => exact hsame (by simp [Network.make])
  | application k op => exact hsame (by simp [Network.make])
  | stranger id now => exact hsame rfl
  | speaks n b => exact hsame (by simp [Network.make])
  | carry n up down => exact hsame (by simp [Network.make])
  | closeNear n => exact hsame (by simp [Network.make])
  | closeFar n => exact hsame (by simp [Network.make])

/-! ## Runs -/

/-- The invariant holds before anything happened. -/
theorem inv_start (login : String) (accounts : Accounts)
    (clients : List (SocketKind × ClientConfig)) :
    Inv login (fun _ => False) (start accounts clients) := by
  have hclient : ∀ {k : Nat} {c : Client}, (start accounts clients).clients[k]? = some c →
      ∃ socket config, c = { connection := .new socket config } := by
    intro k c hc
    obtain ⟨entry, -, rfl⟩ := List.mem_map.1 (List.mem_of_getElem? hc)
    exact ⟨entry.1, entry.2, rfl⟩
  have hvisit : ∀ {n : Nat} {v : Visit}, (start accounts clients).visits[n]? ≠ some v := by
    intro n v hv
    cases hv
  have hunknown : ∀ q, ¬ ((start accounts clients).book login fun _ => False).known q := by
    rintro q (hq | hq | hq)
    · cases hq
    · cases hq
    · exact hq
  constructor
  · rfl
  · exact ⟨fun q hq => absurd hq (hunknown q), fun q _ hq => absurd hq (hunknown q)⟩
  · intro other h hlive
    cases hlive
  · intro k c hc m hm
    obtain ⟨socket, config, rfl⟩ := hclient hc
    cases hm
  · intro k c n hc hlinked
    obtain ⟨socket, config, rfl⟩ := hclient hc
    cases hlinked
  · exact fun n v deadline hv => absurd hv hvisit
  · exact fun n v i hv => absurd hv hvisit
  · exact fun n v k hv => absurd hv hvisit

theorem Run.grown (h : Run login w w') : w.Grown w' := by
  induction h with
  | refl => exact .refl w
  | step _ move _ ih => exact ih.trans (.make _ move)

theorem Run.served (h : Run login w w') (hserved : w.Served login) : w'.Served login := by
  cases h with
  | refl => exact hserved
  | step _ _ hafter => exact hafter

/-- The invariant holds after whatever happened. -/
theorem Run.inv (h : Run login w w') (hinv : Inv login past w)
    (hmax : w'.drawn ≤ UInt64.size) : Inv login past w' := by
  induction h with
  | refl => exact hinv
  | @step w' _ move _ ih =>
    exact (ih (Nat.le_trans (Grown.make w' move).drawn hmax)).make move hmax

/-- A message stays in its mailbox until it was received, whatever happens. -/
theorem Run.kept (h : Run login w w') (hinv : Inv login past w) (hserved : w.Served login)
    (hmax : w'.drawn ≤ UInt64.size) {q : Queued} (hq : q ∈ w.mailroom.mailbox login) :
    q ∈ w'.mailroom.mailbox login ∨ w'.Received login q := by
  induction h with
  | refl => exact .inl hq
  | @step w' before move _ ih =>
    have hgrown := Grown.make w' move
    have hmax' := Nat.le_trans hgrown.drawn hmax
    rcases ih hmax' with hstill | hreceived
    · exact (before.inv hinv hmax').kept (before.served hserved) move hstill
    · exact .inr (hreceived.grown hgrown)

/-- A response that says that a request succeeded is on its way up only after the client has
received the message with its id. -/
theorem Inv.answered (h : Inv login past w) (hserved : w.Served login) {q : Queued} (hq : past q)
    {n : Nat} {v : Visit} {i : SignIn} {r : Wire.Response} (hv : w.visits[n]? = some v)
    (hi : v.session.phase.signIn? = some i) (hlogin : i.login = login)
    (hr : .ok (.ofResponse r) ∈ (v.session.decoder.feed (w.underWay n v)).1)
    (hsuccess : r.isSuccess = true) (hid : r.id = q.id) :
    ∃ k c, v.owner = some k ∧ w.clients[k]? = some c ∧ c.HasReceived q := by
  subst hlogin
  have hremembered := h.remembered n v i hv hi
  cases howner : v.owner with
  | none => exact absurd howner (hserved v (List.mem_of_getElem? hv) hremembered)
  | some k =>
    obtain ⟨c, hc, hvisit⟩ := h.owned n v k hv howner
    obtain ⟨-, hup, -⟩ := hvisit.serving i.line hi
    refine ⟨k, c, rfl, hc, ?_⟩
    obtain ⟨ms, ⟨more, hexpects, hmore⟩, hms⟩ := hup
    have hunwritten : w.unwritten n v =
        if linkOf? c.connection = some n then c.connection.phase.unwritten else .empty := by
      rw [unwritten, howner, Option.bind_some, hc]
    have htail : ∃ tail, v.session.decoder.buffer ++ w.underWay n v ++ tail = stream ms := by
      rw [underWay, hunwritten, ← hexpects.stream]
      split
      · next hlinked =>
        exact ⟨.empty, by rw [ByteArray.append_empty, hmore hlinked]⟩
      · exact ⟨more, by simp only [ByteArray.append_assoc, ByteArray.append_empty]⟩
    obtain ⟨tail, htail⟩ := htail
    obtain ⟨seen, rest, rfl, hitems, -⟩ :=
      Decoder.feed_of_stream hexpects.limit hexpects.framed htail
    rw [hitems] at hr
    obtain ⟨m, hm, hmr⟩ := List.mem_map.1 hr
    obtain rfl : m = .ofResponse r := Except.ok.inj hmr
    have hsettles := hms _ (List.mem_append_left _ hm) r rfl hsuccess
    exact hsettles.2 q (.inr (.inr hq)) hid.symm

/-- A message that is accepted is in its mailbox. -/
theorem Accepts.mailbox {move : Move} {q : Queued} (h : Accepts login w move q) :
    q ∈ (w.make move).mailroom.mailbox login := by
  cases h with
  | outside n _ hn =>
    simp only [Network.make, hn]
    rw [Mailroom.mailbox_post, if_pos rfl]
    exact List.mem_append_right _ (List.mem_singleton.2 rfl)
  | request n v now wallClock signIn m decoder r hv hphase hnext hkind hr hverb hpath haccount =>
    have hstep : (w.make (.session n .frame now wallClock)).mailroom =
        (Session.handle (Session.Turn.withDecoder ⟨v.session, w.mailroom, v.far⟩ decoder) wallClock
          signIn m).mailroom := by
      change (w.stepSession n .frame now wallClock).mailroom = _
      rw [stepSession_of_some hv, Session.step_handles hphase hnext]
    have hdelivered : ⟨w.mailroom.nextId, r.body, wallClock⟩ ∈
        (w.mailroom.deliver wallClock login r.body).2.mailbox login := by
      rw [Mailroom.mailbox_deliver, if_pos ⟨rfl, haccount⟩]
      exact List.mem_append_right _ (List.mem_singleton.2 rfl)
    have hanswer : ∀ signedIn, (Session.answer w.mailroom wallClock signedIn r).2 =
        (w.mailroom.deliver wallClock login r.body).2 := by
      intro signedIn
      rw [Session.answer_of_message hverb hpath, if_pos haccount]
    rw [hstep]
    unfold Session.handle
    rw [hkind, hr]
    dsimp only
    rw [Session.Turn.mailbox_writeMessage]
    show _ ∈ Mailroom.mailbox (Session.answer w.mailroom wallClock _ r).2 login
    rw [hanswer]
    exact hdelivered

/-- A server with one account and a client of it. -/
def alone : Network := start (.ofList [("alice", "secret")]) [(.identified, {})]

/-- The client connects, sees in two steps that its socket is wanted, signs in, takes a message and
acknowledges it. -/
def fetching (stores : Stores) : List Move :=
  [.application 0 (.setActive true), .atHead 0 stores 0 .connected, .connected 0 stores 0 1,
    .keeper 0 .woken stores 0, .keeper 0 .woken stores 0, .carry 0 1000 0, .session 0 .frame 0 0,
    .session 0 .frame 0 0, .session 0 .push 0 0, .carry 0 0 1000, .keeper 0 .receive stores 0,
    .keeper 0 .woken stores 0, .carry 0 1000 0, .session 0 .frame 0 0, .session 0 .frame 0 0]

end ChatSockets.Network
