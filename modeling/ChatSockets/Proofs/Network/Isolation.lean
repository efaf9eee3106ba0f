import ChatSockets.Proofs.Network.Story

/-!
# Accounts are isolated

Any number of clients write what they like on their sockets. Still, what a session passes on to its
client was accepted for a login that the client presented with its password (`Story.pushed`), what
it answers tells of no other login (`Story.replies`), and a message leaves a mailbox only because
such a client said in a response that its request succeeded (`Story.mailbox`). All this follows from
the story of the network; `accounts_isolated` puts it together.
-/

namespace ChatSockets.Network

open Wire

variable {accounts : Accounts} {w : Network} {moves : List Move} {σ : List Office.Entry} {n : Nat}
  {v : Visit}

/-- Who presents a login has said it in the first message. -/
theorem Presents.login {m : Message} {rest : List Message} {hello : Handshake} {login : String}
    (h : Presents accounts (m :: rest) login) (hhello : Session.handshakeOf m = .ok hello) :
    hello.login = some login := by
  obtain ⟨m', rest', hello', password, heq, hhello', hlogin, -⟩ := h
  obtain ⟨rfl, -⟩ := List.cons_eq_cons.1 heq
  obtain rfl := Except.ok.inj (hhello.symm.trans hhello')
  exact hlogin

theorem mem_pushesOn {r : Wire.Request} {steps : List Step} :
    r ∈ pushesOn n steps ↔ .push r ∈ saidOn n steps := by
  rw [pushesOn, List.mem_filterMap]
  constructor
  · rintro ⟨x, hx, hr⟩
    cases x with
    | push r' =>
      obtain rfl := Option.some.inj hr
      exact hx
    | reply => cases hr
  · exact fun h => ⟨_, h, rfl⟩

/-- A session that passes something on was registered, and it passes on the signal or a message that
was posted to its login. -/
theorem Story.pushed (h : Story accounts w moves σ)
    (hv : (w.makeAll moves).visits[n]? = some v) {r : Wire.Request}
    (hr : .push r ∈ saidOn n (w.steps moves)) :
    ∃ i backlog, registeredOn n (w.steps moves) = some (i, backlog) ∧
      Presents accounts (heardOn n (w.steps moves)) i.login ∧
      ((∃ id, r = queueEmptyRequest id) ∨
        ∃ q, r = q.request ∧ (i.login, q) ∈ Office.posts σ) := by
  have htold := h.told n v hv
  cases hregistered : registeredOn n (w.steps moves) with
  | none =>
    have hnone := mem_pushesOn.2 hr
    rw [htold.nobody hregistered] at hnone
    cases hnone
  | some p =>
    obtain ⟨i, backlog⟩ := p
    obtain ⟨hpresented, ⟨signal, howned⟩, hpushed⟩ := htold.enrolled i backlog hregistered
    obtain ⟨rest, hsent, hposted⟩ := howned.sent
    refine ⟨i, backlog, rfl, hpresented, ?_⟩
    have hmem := (h.reached.received_prefix i.line).subset (hpushed ▸ mem_pushesOn.2 hr)
    rw [hsent] at hmem
    rcases List.mem_append.1 hmem with hmem | hmem
    · obtain ⟨q, hq, rfl⟩ := List.mem_map.1 hmem
      exact .inr ⟨q, rfl, hposted q (List.mem_append_left _ hq)⟩
    · rcases List.mem_cons.1 hmem with rfl | hmem
      · exact .inl ⟨signal, rfl⟩
      · obtain ⟨q, hq, rfl⟩ := List.mem_map.1 hmem
        exact .inr ⟨q, rfl, hposted q (List.mem_append_right _ hq)⟩

/-- **Only who presented a login is sent its messages.** As long as the ids have not begun anew, the
request that carries a message is passed on only to clients that presented the login for which the
message was accepted. -/
theorem Story.presents_of_pushed (h : Story accounts w moves σ)
    (hv : (w.makeAll moves).visits[n]? = some v) (hdrawn : (w.makeAll moves).drawn ≤ UInt64.size)
    {login : String} {q : Queued} (hq : AcceptedIn w moves login q)
    (hr : .push q.request ∈ saidOn n (w.steps moves)) :
    Presents accounts (heardOn n (w.steps moves)) login := by
  obtain ⟨i, backlog, -, hpresented, ⟨id, hid⟩ | ⟨q', hq', hposted⟩⟩ := h.pushed hv hr
  · have hne : Path.message ≠ Path.queueEmpty := by decide
    exact absurd (congrArg Wire.Request.path hid) hne
  · have hids := h.reached.sound.nodup_posts (h.drawn ▸ hdrawn)
    have hsame := List.inj_on_of_nodup_map hids ((h.posted login q).2 hq) hposted
      (congrArg Wire.Request.id hq')
    have hlogin : login = i.login := congrArg Prod.fst hsame
    rw [hlogin]
    exact hpresented

/-- What a session answers has no body, and grants no question for the login, unless it is the login
that the client presented. -/
theorem Story.replies (h : Story accounts w moves σ)
    (hv : (w.makeAll moves).visits[n]? = some v) {r : Wire.Request} {a : Wire.Response}
    (ha : .reply r a ∈ saidOn n (w.steps moves)) :
    a.body = .empty ∧ ¬ (r.verb = "GET" ∧ r.path = Path.whoami ∧ a.status = 200) ∨
      ∃ login, Presents accounts (heardOn n (w.steps moves)) login ∧ a.body = login.toUTF8 := by
  refine ((h.told n v hv).replies r a ha).imp_right ?_
  rintro ⟨i, backlog, hi, hbody⟩
  exact ⟨i.login, ((h.told n v hv).enrolled i backlog hi).presented, hbody⟩

/-- A step of a session on a mailbox. -/
theorem Story.mailbox_session (h : Story accounts w moves σ)
    (hv : (w.makeAll moves).visits[n]? = some v) (branch : Session.Branch) (now wallClock : Nat)
    (login : String) :
    (w.makeAll moves).mailroom.mailbox login <+:
        ((w.makeAll moves).make (.session n branch now wallClock)).mailroom.mailbox login ∨
      ∃ m r, Session.hears branch ⟨v.session, (w.makeAll moves).mailroom, v.far⟩ = some m ∧
        m.kindOf = .response ∧ m.response = some r ∧ r.isSuccess = true ∧
        Presents accounts (heardOn n (w.steps moves)) login ∧
        ((w.makeAll moves).make (.session n branch now wallClock)).mailroom.mailbox login =
          ((w.makeAll moves).mailroom.mailbox login).eraseP (·.id = r.id) := by
  have hmake : (w.makeAll moves).make (.session n branch now wallClock) = _ :=
    stepSession_of_some hv branch now wallClock
  obtain ⟨officeMoves, -, signIn, hmade, hadds, -⟩ :=
    Session.step_adds branch now wallClock ⟨v.session, (w.makeAll moves).mailroom, v.far⟩
      (o := (w.makeAll moves).office) rfl
  have hafter : ((w.makeAll moves).make (.session n branch now wallClock)).mailroom.mailbox login =
      ((w.makeAll moves).office.story officeMoves).foldl (Office.boxAfter login)
        ((w.makeAll moves).mailroom.mailbox login) := by
    have hbox := (h.reached.makeAll officeMoves).mailbox login
    rw [hmade, List.foldl_append, ← h.reached.mailbox login] at hbox
    rw [hmake]
    exact hbox
  rw [hafter]
  refine (hadds.boxes login _).imp_right ?_
  rintro ⟨i, m, r, hphase, rfl, hheard, hkind, hr, hsuccess, hbox⟩
  obtain ⟨backlog, hi⟩ := (h.told n v hv).serving i (congrArg Session.Phase.signIn? hphase)
  exact ⟨m, r, hheard, hkind, hr, hsuccess, ((h.told n v hv).enrolled i backlog hi).presented, hbox⟩

/-- **What leaves a mailbox was acknowledged by its owner**: a move leaves all messages in it, or a
client that presented the login said in a response that a request succeeded, and the message with
the id of the response is gone. -/
theorem Story.mailbox (h : Story accounts w moves σ) (move : Move) (login : String) :
    (w.makeAll moves).mailroom.mailbox login <+:
        ((w.makeAll moves).make move).mailroom.mailbox login ∨
      ∃ n branch now wallClock v m r, move = .session n branch now wallClock ∧
        (w.makeAll moves).visits[n]? = some v ∧
        Session.hears branch ⟨v.session, (w.makeAll moves).mailroom, v.far⟩ = some m ∧
        m.kindOf = .response ∧ m.response = some r ∧ r.isSuccess = true ∧
        Presents accounts (heardOn n (w.steps moves)) login ∧
        ((w.makeAll moves).make move).mailroom.mailbox login =
          ((w.makeAll moves).mailroom.mailbox login).eraseP (·.id = r.id) := by
  rcases make_cases (w.makeAll moves) move with ⟨hapart, -⟩ | ⟨recipient, body, now, rfl⟩ |
    ⟨n, rfl⟩ | ⟨n, branch, now, wallClock, v, rfl, hv⟩
  · have hroom : ((w.makeAll moves).make move).mailroom = (w.makeAll moves).mailroom :=
      congrArg Office.room hapart.office
    rw [hroom]
    exact .inl List.prefix_rfl
  · refine .inl ?_
    unfold Network.make
    dsimp only
    split <;> exact List.prefix_rfl
  · refine .inl ?_
    unfold Network.make
    dsimp only
    split
    · exact List.prefix_rfl
    · rw [Mailroom.mailbox_post]
      split
      · next heq => exact heq ▸ List.prefix_append _ _
      · exact List.prefix_rfl
  · refine (h.mailbox_session hv branch now wallClock login).imp_right ?_
    rintro ⟨m, r, hrest⟩
    exact ⟨n, branch, now, wallClock, v, m, r, rfl, hv, hrest⟩

/-- **Accounts are isolated.** Any clients and any strangers write what they like. What a session
has written is a beginning of the frames of what it set out to write. It sets out to pass on only
requests that signal an empty queue or carry a message, and these only to a client that has
presented a login with its password, for which the message was accepted; its answers have no body
and grant no question for the login, unless they tell the login that the client presented. Whatever
happens next, a message leaves a mailbox only because a client that presented the login is heard to
say that a request with the id of the message succeeded. In particular, a client whose handshake has
no login is passed on nothing, and takes nothing out of any mailbox. As long as the ids have not
begun anew, the request that carries a message is passed on only to clients that presented the login
for which it was accepted. -/
theorem accounts_isolated (accounts : Accounts) (clients : List (SocketKind × ClientConfig))
    (moves : List Move) :
    let w := (start accounts clients).makeAll moves
    let past := (start accounts clients).steps moves
    let accepted := AcceptedIn (start accounts clients) moves
    (∀ n v, w.visits[n]? = some v →
      (∃ more, writtenOn n past ++ more =
        stream (fitting ((saidOn n past).map Session.Remark.message))) ∧
      (∀ r, .push r ∈ saidOn n past → ∃ login, Presents accounts (heardOn n past) login ∧
        ((∃ id, r = queueEmptyRequest id) ∨ ∃ q, r = q.request ∧ accepted login q)) ∧
      (∀ r a, .reply r a ∈ saidOn n past →
        a.body = .empty ∧ ¬ (r.verb = "GET" ∧ r.path = Path.whoami ∧ a.status = 200) ∨
          ∃ login, Presents accounts (heardOn n past) login ∧ a.body = login.toUTF8)) ∧
    (∀ move login, w.mailroom.mailbox login <+: (w.make move).mailroom.mailbox login ∨
      ∃ n branch now wallClock v m r, move = .session n branch now wallClock ∧
        w.visits[n]? = some v ∧
        Session.hears branch ⟨v.session, w.mailroom, v.far⟩ = some m ∧
        m.kindOf = .response ∧ m.response = some r ∧ r.isSuccess = true ∧
        Presents accounts (heardOn n past) login ∧
        (w.make move).mailroom.mailbox login =
          (w.mailroom.mailbox login).eraseP (·.id = r.id)) ∧
    (∀ n v m rest hello, w.visits[n]? = some v → heardOn n past = m :: rest →
      Session.handshakeOf m = .ok hello → hello.login = none →
      (∀ r, .push r ∉ saidOn n past) ∧
      ∀ branch now wallClock login, w.mailroom.mailbox login <+:
        (w.make (.session n branch now wallClock)).mailroom.mailbox login) ∧
    (w.drawn ≤ UInt64.size → ∀ n v login q, w.visits[n]? = some v → accepted login q →
      .push q.request ∈ saidOn n past → Presents accounts (heardOn n past) login) := by
  intro w past accepted
  obtain ⟨σ, h⟩ := story accounts clients moves
  refine ⟨fun n v hv => ⟨?_, fun r hr => ?_, fun r a ha => h.replies hv ha⟩,
    fun move login => h.mailbox move login, fun n v m rest hello hv hheard hhello hnone => ?_,
    fun hdrawn n v login q hv hq hr => h.presents_of_pushed hv hdrawn hq hr⟩
  · obtain ⟨more, hwritten, -⟩ := (h.told n v hv).written
    exact ⟨more, hwritten⟩
  · obtain ⟨i, backlog, -, hpresented, hcase⟩ := h.pushed hv hr
    refine ⟨i.login, hpresented, hcase.imp_right ?_⟩
    rintro ⟨q, hq, hposted⟩
    exact ⟨q, hq, (h.posted i.login q).1 hposted⟩
  · have hno : ∀ login, ¬ Presents accounts (heardOn n past) login := fun login hpresents => by
      rw [hheard] at hpresents
      cases hnone.symm.trans (hpresents.login hhello)
    refine ⟨fun r hr => ?_, fun branch now wallClock login => ?_⟩
    · obtain ⟨i, backlog, -, hpresented, -⟩ := h.pushed hv hr
      exact hno i.login hpresented
    · refine (h.mailbox_session hv branch now wallClock login).resolve_right ?_
      rintro ⟨m', r, -, -, -, -, hpresented, -⟩
      exact hno login hpresented

/-- The client of `alice` connects and is passed on something, since it has presented her login. -/
theorem presented_of_fetching :
    let past := alone.steps (.accept "alice" ⟨#[1]⟩ 0 :: .post 0 ::
      fetching { credentials := some ⟨"alice", "secret"⟩ })
    ∃ r login, .push r ∈ saidOn 0 past ∧
      Presents (.ofList [("alice", "secret")]) (heardOn 0 past) login := by
  intro past
  let w := alone.makeAll (.accept "alice" ⟨#[1]⟩ 0 :: .post 0 ::
    fetching { credentials := some ⟨"alice", "secret"⟩ })
  have hrun : w.visits[0]?.isSome = true ∧ (pushesOn 0 past).isEmpty = false := by
    decide +kernel
  obtain ⟨v, hv⟩ := Option.isSome_iff_exists.1 hrun.1
  obtain ⟨r, hr⟩ := List.exists_mem_of_ne_nil (pushesOn 0 past) fun hnil => by
    rw [hnil] at hrun
    cases hrun.2
  obtain ⟨hvisits, -⟩ := accounts_isolated (.ofList [("alice", "secret")]) [(.identified, {})]
    (.accept "alice" ⟨#[1]⟩ 0 :: .post 0 ::
      fetching { credentials := some ⟨"alice", "secret"⟩ })
  obtain ⟨login, hpresents, -⟩ := (hvisits 0 v hv).2.1 r (mem_pushesOn.1 hr)
  exact ⟨r, login, mem_pushesOn.1 hr, hpresents⟩

end ChatSockets.Network
