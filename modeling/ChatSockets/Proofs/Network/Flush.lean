import ChatSockets.Proofs.Network.Taken

/-!
# The flush of a mailbox

A session that is registered for a login first passes on what is in the mailbox, and then the signal
that this was all. A client takes what its session passes on in this order (`Feeds.asked_prefix`),
so it has taken the whole mailbox by the time it takes the signal (`Feeds.flushed`). From then on,
until the socket is torn down, and at no other time it holds the mailbox for emptied
(`queueEmptied_tells`).
-/

namespace ChatSockets.Network

open Wire Keeper

variable {accounts : Accounts} {σ : List Office.Entry} {o : Office} {ss : List Step} {k n : Nat}
  {c : Client} {v : Visit}


/-- The requests among what a session says are those that it passes on. -/
theorem asked?_message (x : Session.Remark) : x.message.asked? = x.push? := by
  cases x <;> rfl

/-- **A client takes what its session passes on**, in this order. -/
theorem Feeds.asked_prefix (h : Feeds ss k n c v) (htold : Told accounts σ ss n v.session) :
    askedOn k n ss <+: pushesOn n ss := by
  obtain ⟨rest, -, hrest⟩ := h.stream
  obtain ⟨left, hleft, -⟩ := htold.fits
  have hsaid : tookOn k n ss <+: (saidOn n ss).map Session.Remark.message := by
    rw [hleft, ← hrest, List.append_assoc]
    exact List.prefix_append _ _
  have hpushes : pushesOn n ss =
      ((saidOn n ss).map Session.Remark.message).filterMap Message.asked? := by
    rw [List.filterMap_map]
    exact List.filterMap_congr fun x _ => (asked?_message x).symm
  rw [hpushes]
  exact hsaid.filterMap _

/-- **Who has taken the signal has taken the mailbox before**: the messages that it held as the
session was registered. -/
theorem Feeds.flushed (h : Feeds ss k n c v) (htold : Told accounts σ ss n v.session)
    (hreached : Office.Reached accounts o σ) (hsignal : ∃ r ∈ askedOn k n ss, IsSignal r) :
    ∃ i backlog, registeredOn n ss = some (i, backlog) ∧
      Presents accounts (heardOn n ss) i.login ∧
      backlog.map Queued.request <+: askedOn k n ss := by
  obtain ⟨r, hr, hsignal⟩ := hsignal
  have hasked := h.asked_prefix htold
  cases hregistered : registeredOn n ss with
  | none =>
    have hnone := hasked.subset hr
    rw [htold.nobody hregistered] at hnone
    cases hnone
  | some p =>
    obtain ⟨i, backlog⟩ := p
    obtain ⟨hpresented, ⟨signal, howned⟩, hpushed⟩ := htold.enrolled i backlog hregistered
    obtain ⟨rest, hsent, -⟩ := howned.sent
    have hline := hasked.trans (hpushed ▸ hreached.received_prefix i.line)
    rw [hsent] at hline
    refine ⟨i, backlog, rfl, hpresented,
      (List.prefix_or_prefix_of_prefix (List.prefix_append _ _) hline).resolve_right fun hle => ?_⟩
    -- a message is no signal
    obtain ⟨q, -, rfl⟩ := List.mem_map.1 (hle.subset hr)
    have hne : Path.message ≠ Path.queueEmpty := by decide
    exact hne hsignal.2

/-- What is put on the channel for a message. -/
theorem putFor?_request (socket : SocketKind) (q : Queued) :
    putFor? socket q.request = some (q.id, Turn.incomingOf socket q.request) := rfl

/-- **The word about the mailbox is true.** Whatever happens in a network, a client holds its
mailbox for emptied exactly if it has an open socket and has taken the signal from this socket. Then
its state is open, the session of the socket was registered for a login that the client presented,
and all messages that were in the mailbox of this login at that time were put on the channel of
incoming messages while the client worked on this socket, in the order of the mailbox and before all
else that was put there meanwhile. -/
theorem queueEmptied_tells (accounts : Accounts) (clients : List (SocketKind × ClientConfig))
    (moves : List Move) :
    let w := (start accounts clients).makeAll moves
    let past := (start accounts clients).steps moves
    ∀ (k : Nat) (c : Client), w.clients[k]? = some c →
      (c.connection.queueEmptied = true ↔ ∃ n r, c.connection.phase.openLink? = some n ∧
        r ∈ askedOn k n past ∧ IsSignal r) ∧
      (c.connection.queueEmptied = true → c.connection.state = .open ∧
        ∃ n i backlog earlier, c.connection.phase.openLink? = some n ∧
          registeredOn n past = some (i, backlog) ∧ Presents accounts (heardOn n past) i.login ∧
          backlog.map (fun q => (q.id, Turn.incomingOf c.connection.socket q.request)) <+:
            putOn k n past ∧
          c.incoming = earlier ++ putOn k n past) := by
  intro w past k c hc
  obtain ⟨hhonest, hlinked⟩ := attended accounts clients moves k c hc
  have hlink : c.connection.queueEmptied = true →
      ∃ n, c.connection.phase.openLink? = some n := by
    intro hqueue
    by_contra hno
    have hnone : c.connection.phase.openLink? = none :=
      Option.eq_none_iff_forall_ne_some.2 fun n hn => hno ⟨n, hn⟩
    cases hqueue.symm.trans (hhonest.quiet hnone)
  have hopen : c.connection.queueEmptied = true → c.connection.phase.shown = .open := fun hqueue =>
    Phase.shown_of_openLink? (Option.isSome_iff_exists.2 (hlink hqueue))
  refine ⟨⟨fun hqueue => ?_, ?_⟩, fun hqueue => ⟨hhonest.state.trans (hopen hqueue), ?_⟩⟩
  · obtain ⟨n, hn⟩ := hlink hqueue
    obtain ⟨v, -, -, hfeeds⟩ := hlinked n (Phase.link?_of_openLink? hn)
    obtain ⟨r, hr, hsignal⟩ := hfeeds.word.1 hqueue
    exact ⟨n, r, hn, hr, hsignal⟩
  · rintro ⟨n, r, hn, hr, hsignal⟩
    obtain ⟨v, -, -, hfeeds⟩ := hlinked n (Phase.link?_of_openLink? hn)
    exact hfeeds.word.2 ⟨r, hr, hsignal⟩
  · obtain ⟨n, hn⟩ := hlink hqueue
    obtain ⟨v, hv, -, hfeeds⟩ := hlinked n (Phase.link?_of_openLink? hn)
    obtain ⟨σ, hstory⟩ := story accounts clients moves
    obtain ⟨i, backlog, hregistered, hpresented, hflushed⟩ :=
      hfeeds.flushed (hstory.told n v hv) hstory.reached (hfeeds.word.1 hqueue)
    obtain ⟨earlier, hearlier⟩ := hfeeds.channel
    refine ⟨n, i, backlog, earlier, hn, hregistered, hpresented, ?_, hearlier⟩
    have hbacklog : backlog.map (fun q =>
        (q.id, Turn.incomingOf c.connection.socket q.request)) =
        (backlog.map Queued.request).filterMap (putFor? c.connection.socket) := by
      rw [List.filterMap_map, ← List.filterMap_eq_map]
      exact List.filterMap_congr fun q _ => (putFor?_request _ q).symm
    rw [hbacklog, hfeeds.put]
    exact hflushed.filterMap _

/-- The client of `alice` fetches a message, and then takes the signal. It has put the message on
its channel before. -/
theorem put_of_flushing :
    let stores : Stores := { credentials := some ⟨"alice", "secret"⟩ }
    let moves := .accept "alice" ⟨#[1]⟩ 0 :: .post 0 :: fetching stores ++
      [.session 0 .push 0 0, .carry 0 0 1000, .keeper 0 .woken stores 0, .keeper 0 .woken stores 0,
        .keeper 0 .woken stores 0, .keeper 0 .receive stores 0, .keeper 0 .woken stores 0]
    ∃ c i q, (alone.makeAll moves).clients[0]? = some c ∧ c.connection.queueEmptied = true ∧
      c.connection.state = .open ∧ registeredOn 0 (alone.steps moves) = some (i, [q]) ∧
      (q.id, Turn.incomingOf .identified q.request) ∈ putOn 0 0 (alone.steps moves) := by
  intro stores moves
  have hrun : (alone.makeAll moves).clients[0]?.map (fun c =>
        (c.connection.queueEmptied, c.connection.phase.openLink?, c.connection.socket)) =
        some (true, some 0, .identified) ∧
      (registeredOn 0 (alone.steps moves)).map (fun p => p.2.length) = some 1 := by
    decide +kernel
  obtain ⟨c, hc, hclient⟩ := Option.map_eq_some_iff.1 hrun.1
  obtain ⟨hqueue, hopen, hsocket⟩ : c.connection.queueEmptied = true ∧
      c.connection.phase.openLink? = some 0 ∧ c.connection.socket = .identified := by
    simpa using hclient
  obtain ⟨hstate, n, i, backlog, earlier, hn, hregistered, -, hput, -⟩ :=
    (queueEmptied_tells (.ofList [("alice", "secret")]) [(.identified, {})] moves 0 c hc).2 hqueue
  obtain rfl := Option.some.inj (hn.symm.trans hopen)
  obtain ⟨q, rfl⟩ : ∃ q, backlog = [q] := by
    obtain ⟨p, hp, hlength⟩ := Option.map_eq_some_iff.1 hrun.2
    obtain rfl := Option.some.inj (hp.symm.trans hregistered)
    exact List.length_eq_one_iff.1 hlength
  refine ⟨c, i, q, hc, hqueue, hstate, hregistered, ?_⟩
  rw [← hsocket]
  exact hput.subset List.mem_cons_self

end ChatSockets.Network
