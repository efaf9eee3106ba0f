import ChatSockets.Proofs.Network.Story
import ChatSockets.Proofs.Socket.Signal

/-!
# What clients take from their sockets

`tookOn` and `putOn` read off the steps what a client took from a socket, and what it put on its
channel of incoming messages meanwhile. A client that works on a socket stands in a firm relation to
it (`Feeds`): what it took, with what is still on its way down, is what the session said; it holds
the mailbox for emptied exactly if it has taken the signal; and what it took is the last that it has
put on its channel. A step of the session keeps this (`Feeds.session`), and so does a step of the
keeper (`Feeds.keeper`); a new socket begins with nothing (`feeds_connected`). So it holds of all
clients at any time (`attended`).
-/

namespace ChatSockets

open Wire Keeper

/-- The request in a message that a keeper takes is the one that it takes next. -/
theorem Keeper.request?_of_hears {t : Turn} {r : Wire.Request}
    (h : (hears t).bind Message.asked? = some r) : t.connection.phase.request? = some r := by
  obtain ⟨m, hm, hr⟩ := Option.bind_eq_some_iff.1 h
  have hrequest : m.request = some r := by
    unfold Message.asked? at hr
    split at hr
    · exact hr
    · cases hr
  unfold hears at hm
  split at hm
  · next live hphase =>
    split at hm
    · next next decoder hnext =>
      subst hm
      rw [hphase, Phase.request?, hnext]
      exact hrequest
    · cases hm
  · cases hm

namespace Visit

variable {n : Nat} {c : Connection} {v : Visit} {ms : List Message} {m : Mailroom}
  {t' : Session.Turn} {heard : Option Message} {remark : Option Session.Remark}
  {moves : List Office.Move} {signIn : Option SignIn}

/-- What a session says is on its way down behind the rest, if it has a frame. -/
theorem Falls.leads (h : Falls c v ms) (hgoing : ∀ result, v.session.phase ≠ .ended result)
    (hleads : Session.Leads ⟨v.session, m, v.far⟩ heard remark moves signIn t') :
    Falls c (v.after t') (ms ++ fitting (remark.toList.map Session.Remark.message)) := by
  obtain ⟨more, hexpects, hmore⟩ := h
  obtain ⟨put, more', hputs, hheld, hmore'⟩ := hleads.down
  refine ⟨more', ?_, hmore'⟩
  have hall : v.near.down.held ++ t'.link.down.held ++ more' =
      v.near.down.held ++ v.far.down.held ++ more ++
        stream (fitting (remark.toList.map Session.Remark.message)) := by
    calc v.near.down.held ++ t'.link.down.held ++ more'
        = v.near.down.held ++ v.far.down.held ++ (put ++ more') := by
          rw [hheld]
          simp only [ByteArray.append_assoc]
      _ = _ := by rw [hputs, hmore hgoing, ← ByteArray.append_assoc]
  exact hall ▸ hexpects.append (framed_fitting _)

end Visit

namespace Network

/-! ## What clients take and put -/

namespace Step

/-- The message that a client takes from a socket in a step. -/
def took? (k n : Nat) : Step → Option Message
  | session .. => none
  | keeper j m _ _ _ t => if j = k ∧ m = n then hears t else none

/-- What a client puts on its channel in a step on a socket, with the id of the request that brought
it. -/
def put? (k n : Nat) : Step → Option (UInt64 × Incoming)
  | session .. => none
  | keeper j m branch stores now t =>
    if j = k ∧ m = n then
      match t.connection.phase.request?, (Keeper.step branch stores now t).incoming with
      | some r, some i => some (r.id, i)
      | _, _ => none
    else none

/-- A step on a socket is made by its session or by a client. -/
def Concerns (k n : Nat) : Step → Prop
  | session m .. => m = n
  | keeper j m .. => j = k ∧ m = n

end Step

theorem Step.Concerns.socket {s : Step} {k n : Nat} (h : s.Concerns k n) : s.socket = n := by
  cases s with
  | session => exact h
  | keeper => exact h.2

/-- The messages that a client took from a socket. -/
def tookOn (k n : Nat) (steps : List Step) : List Message := steps.filterMap (Step.took? k n)

/-- The requests that a client took from a socket. -/
def askedOn (k n : Nat) (steps : List Step) : List Wire.Request :=
  (tookOn k n steps).filterMap Message.asked?

/-- What a client put on its channel of incoming messages while it worked on a socket. -/
def putOn (k n : Nat) (steps : List Step) : List (UInt64 × Incoming) :=
  steps.filterMap (Step.put? k n)

/-- What is put on the channel for a request, with its id. -/
def putFor? (socket : SocketKind) (r : Wire.Request) : Option (UInt64 × Incoming) :=
  (delivered? socket r).map fun i => (r.id, i)

variable {w w' : Network} {ss more : List Step} {k n : Nat} {c c' : Client} {v v' : Visit}

theorem tookOn_append (k n : Nat) (ss more : List Step) :
    tookOn k n (ss ++ more) = tookOn k n ss ++ tookOn k n more := List.filterMap_append

theorem askedOn_append (k n : Nat) (ss more : List Step) :
    askedOn k n (ss ++ more) = askedOn k n ss ++ askedOn k n more := by
  rw [askedOn, tookOn_append, List.filterMap_append]
  rfl

theorem putOn_append (k n : Nat) (ss more : List Step) :
    putOn k n (ss ++ more) = putOn k n ss ++ putOn k n more := List.filterMap_append

/-- Steps of others tell nothing. -/
theorem nothing_of_others (h : ∀ s ∈ more, ¬ s.Concerns k n) :
    tookOn k n more = [] ∧ putOn k n more = [] ∧ saidOn n more = [] := by
  simp only [tookOn, putOn, saidOn, List.filterMap_eq_nil_iff]
  refine ⟨fun s hs => ?_, fun s hs => ?_, fun s hs => ?_⟩
  all_goals
    have hs := h s hs
    cases s with
    | session m => first | rfl | exact if_neg hs
    | keeper j m => first | rfl | exact if_neg hs

/-- The step of a client's keeper on its socket. -/
def keeperStep (k n : Nat) (branch : Keeper.Branch) (stores : Stores) (now : Nat) (c : Client)
    (v : Visit) : Step :=
  .keeper k n branch stores now ⟨c.connection, v.near, none⟩

section

variable {branch : Keeper.Branch} {stores : Stores} {now : Nat}

theorem tookOn_keeper :
    tookOn k n [keeperStep k n branch stores now c v] =
      (hears ⟨c.connection, v.near, none⟩).toList := by
  have h : Step.took? k n (keeperStep k n branch stores now c v) =
      hears ⟨c.connection, v.near, none⟩ := if_pos ⟨rfl, rfl⟩
  rw [tookOn, List.filterMap_cons, h]
  cases hears ⟨c.connection, v.near, none⟩ <;> rfl

theorem askedOn_keeper :
    askedOn k n [keeperStep k n branch stores now c v] =
      ((hears ⟨c.connection, v.near, none⟩).bind Message.asked?).toList := by
  rw [askedOn, tookOn_keeper]
  cases hears ⟨c.connection, v.near, none⟩ with
  | none => rfl
  | some m =>
    rw [Option.toList_some, List.filterMap_cons, Option.bind_some]
    cases m.asked? <;> rfl

/-- A keeper puts on the channel what the request brings that it takes. -/
theorem putOn_keeper :
    putOn k n [keeperStep k n branch stores now c v] =
      (askedOn k n [keeperStep k n branch stores now c v]).filterMap
        (putFor? c.connection.socket) := by
  have hput : Step.put? k n (keeperStep k n branch stores now c v) = _ := if_pos ⟨rfl, rfl⟩
  have hincoming := (step_acts branch stores now ⟨c.connection, v.near, none⟩).incoming
  rw [Option.or_none] at hincoming
  rw [putOn, List.filterMap_cons, hput, hincoming, askedOn_keeper]
  cases hasked : (hears ⟨c.connection, v.near, none⟩).bind Message.asked? with
  | none =>
    simp
  | some r =>
    rw [request?_of_hears hasked, Option.toList_some, List.filterMap_cons, putFor?,
      Option.bind_some]
    cases delivered? c.connection.socket r <;> rfl

/-- What a client puts on its channel stays there. -/
theorem incoming_after :
    (c.after (Keeper.step branch stores now ⟨c.connection, v.near, none⟩)).incoming =
      c.incoming ++ putOn k n [keeperStep k n branch stores now c v] := by
  have hput : Step.put? k n (keeperStep k n branch stores now c v) = _ := if_pos ⟨rfl, rfl⟩
  rw [putOn, List.filterMap_cons, hput, Client.after]
  dsimp only
  cases c.connection.phase.request? with
  | none => exact (List.append_nil _).symm
  | some r =>
    cases (Keeper.step branch stores now ⟨c.connection, v.near, none⟩).incoming with
    | none => exact (List.append_nil _).symm
    | some i => rfl

end

/-! ## A client and its socket -/

/-- A client works on a socket: what it takes is what the session has said, it holds the mailbox for
emptied exactly if it has taken the signal, and what the requests brought that it took is the last
that it has put on its channel. -/
structure Feeds (ss : List Step) (k n : Nat) (c : Client) (v : Visit) : Prop where
  stream : ∃ rest, Visit.Falls c.connection v rest ∧
    tookOn k n ss ++ rest = fitting ((saidOn n ss).map Session.Remark.message)
  word : c.connection.queueEmptied = true ↔ ∃ r ∈ askedOn k n ss, IsSignal r
  put : putOn k n ss = (askedOn k n ss).filterMap (putFor? c.connection.socket)
  channel : ∃ earlier, c.incoming = earlier ++ putOn k n ss

/-- A client is the same to its socket. -/
structure SameClient (c c' : Client) : Prop where
  phase : c'.connection.phase = c.connection.phase
  queueEmptied : c'.connection.queueEmptied = c.connection.queueEmptied
  socket : c'.connection.socket = c.connection.socket
  incoming : c'.incoming = c.incoming

/-- A socket is the same to the client that works on it. -/
structure SameVisit (v v' : Visit) : Prop where
  owner : v'.owner = v.owner
  phase : v'.session.phase = v.session.phase
  down : v'.near.down.held ++ v'.far.down.held = v.near.down.held ++ v.far.down.held

theorem SameClient.refl (c : Client) : SameClient c c := ⟨rfl, rfl, rfl, rfl⟩

theorem SameVisit.refl (v : Visit) : SameVisit v v := ⟨rfl, rfl, rfl⟩

/-- A client on its socket is not touched by what others do. -/
theorem Feeds.elsewhere (h : Feeds ss k n c v) (hclient : SameClient c c') (hvisit : SameVisit v v')
    (hmore : ∀ s ∈ more, ¬ s.Concerns k n) : Feeds (ss ++ more) k n c' v' := by
  obtain ⟨htook, hput, hsaid⟩ := nothing_of_others hmore
  have hasked : askedOn k n (ss ++ more) = askedOn k n ss := by
    rw [askedOn_append, askedOn, askedOn, htook, List.filterMap_nil, List.append_nil]
  obtain ⟨rest, hfalls, hrest⟩ := h.stream
  refine ⟨⟨rest, (hfalls.of_phase hclient.phase).of_eq hvisit.phase hvisit.down, ?_⟩, ?_, ?_, ?_⟩
  · rw [tookOn_append, htook, List.append_nil, saidOn_append, hsaid, List.append_nil]
    exact hrest
  · rw [hasked, hclient.queueEmptied]
    exact h.word
  · rw [hasked, putOn_append, hput, List.append_nil, hclient.socket]
    exact h.put
  · rw [putOn_append, hput, List.append_nil, hclient.incoming]
    exact h.channel

/-- **A client on its socket after a step of the session.** -/
theorem Feeds.session (h : Feeds ss k n c v) (m : Mailroom) (branch : Session.Branch)
    (now wallClock : Nat) :
    Feeds (ss ++ [.session n branch now wallClock ⟨v.session, m, v.far⟩]) k n c
      (v.after (Session.step branch now wallClock ⟨v.session, m, v.far⟩)) := by
  have hasked : askedOn k n (ss ++ [.session n branch now wallClock ⟨v.session, m, v.far⟩]) =
      askedOn k n ss := (askedOn_append ..).trans (List.append_nil _)
  have hput : putOn k n (ss ++ [.session n branch now wallClock ⟨v.session, m, v.far⟩]) =
      putOn k n ss := (putOn_append ..).trans (List.append_nil _)
  have htook : tookOn k n (ss ++ [.session n branch now wallClock ⟨v.session, m, v.far⟩]) =
      tookOn k n ss := (tookOn_append ..).trans (List.append_nil _)
  obtain ⟨rest, hfalls, hrest⟩ := h.stream
  refine ⟨?_, by rw [hasked]; exact h.word, by rw [hasked, hput]; exact h.put,
    by rw [hput]; exact h.channel⟩
  rw [htook, saidOn_append, saidOn_session, List.map_append, fitting_append, ← hrest]
  by_cases hgoing : ∀ result, v.session.phase ≠ .ended result
  · obtain ⟨moves, signIn, -, hleads⟩ :=
      Session.step_deed branch now wallClock ⟨v.session, m, v.far⟩
    exact ⟨_, hfalls.leads hgoing hleads, (List.append_assoc ..).symm⟩
  · -- a session that has ended does nothing
    simp only [not_forall, not_not] at hgoing
    obtain ⟨result, hended⟩ := hgoing
    rw [Session.remark?_of_ended hended, Session.step_of_ended hended]
    exact ⟨rest, hfalls.of_eq rfl rfl, (List.append_nil _).symm⟩

/-- **A client on its socket after a step of its keeper**, while it keeps the link. -/
theorem Feeds.keeper (h : Feeds ss k n c v) (branch : Keeper.Branch) (stores : Stores) (now : Nat)
    {t' : Keeper.Turn} (ht : Keeper.step branch stores now ⟨c.connection, v.near, none⟩ = t')
    (hsocket : t'.connection.socket = c.connection.socket)
    (hstill : linkOf? t'.connection = some n) :
    Feeds (ss ++ [keeperStep k n branch stores now c v]) k n (c.after t')
      { v with near := t'.link } := by
  have hacts := step_acts branch stores now ⟨c.connection, v.near, none⟩
  rw [ht] at hacts
  have hlink : linkOf? t'.connection ≠ none := by simp [hstill]
  obtain ⟨ms, hfalls, hms⟩ := h.stream
  obtain ⟨rest, rfl, hrest⟩ := hfalls.keeper hacts
  refine ⟨⟨rest, hrest hlink, ?_⟩, ?_, ?_, ?_⟩
  · rw [tookOn_append, tookOn_keeper, saidOn_append, List.append_assoc, hms]
    exact congrArg (fun said => fitting (List.map _ said)) (List.append_nil _).symm
  · rw [askedOn_append, askedOn_keeper]
    refine (hacts.queueEmptied hlink).trans ?_
    rw [show Connection.queueEmptied _ = true ↔ _ from h.word]
    simp [or_and_right, exists_or]
  · rw [putOn_append, askedOn_append, List.filterMap_append, h.put, putOn_keeper,
      show (c.after t').connection.socket = c.connection.socket from hsocket]
  · obtain ⟨earlier, hearlier⟩ := h.channel
    refine ⟨earlier, ?_⟩
    rw [← ht, incoming_after (n := n), hearlier, putOn_append, List.append_assoc]

/-! ## All clients -/

/-- What holds of a client at any time: it works on a socket that it has opened. -/
structure Attends (w : Network) (ss : List Step) (k : Nat) (c : Client) : Prop where
  honest : c.connection.ledger.Honest
  linked : ∀ n, linkOf? c.connection = some n →
    ∃ v, w.visits[n]? = some v ∧ v.owner = some k ∧ Feeds ss k n c v

/-- What holds of all clients. -/
def Attended (w : Network) (ss : List Step) : Prop :=
  ∀ k c, w.clients[k]? = some c → Attends w ss k c

/-- A client without a socket. -/
theorem attends_of_unlinked (hhonest : c.connection.ledger.Honest)
    (hlink : linkOf? c.connection = none) : Attends w ss k c :=
  ⟨hhonest, fun n hn => by cases hlink.symm.trans hn⟩

/-- A client is not touched by what happens away from its socket. -/
theorem Attends.elsewhere (h : Attends w ss k c) (hhonest : c'.connection.ledger.Honest)
    (hclient : SameClient c c')
    (hvisit : ∀ n v, linkOf? c.connection = some n → w.visits[n]? = some v → v.owner = some k →
      ∃ v', w'.visits[n]? = some v' ∧ SameVisit v v')
    (hmore : ∀ n, linkOf? c.connection = some n → ∀ s ∈ more, ¬ s.Concerns k n) :
    Attends w' (ss ++ more) k c' := by
  refine ⟨hhonest, fun n hn => ?_⟩
  rw [linkOf?_eq, hclient.phase] at hn
  obtain ⟨v, hv, howner, hfeeds⟩ := h.linked n hn
  obtain ⟨v', hv', hsame⟩ := hvisit n v hn hv howner
  exact ⟨v', hv', hsame.owner.trans howner, hfeeds.elsewhere hclient hsame (hmore n hn)⟩

/-- All sockets are the same to the clients that work on them. -/
def Stays (w w' : Network) : Prop :=
  ∀ (n : Nat) (v : Visit), w.visits[n]? = some v →
    ∃ v', w'.visits[n]? = some v' ∧ SameVisit v v'

theorem Stays.of_visits (h : w'.visits = w.visits) : w.Stays w' :=
  fun _ v hv => ⟨v, h ▸ hv, .refl v⟩

theorem Stays.append (h : w'.visits = w.visits ++ [v]) : w.Stays w' := by
  intro n u hu
  have hlt := (List.getElem?_eq_some_iff.1 hu).1
  exact ⟨u, by rw [h, List.getElem?_append_left hlt]; exact hu, .refl u⟩

theorem stays_atVisit (w : Network) (n : Nat) {f : Visit → Visit} (hf : ∀ v, SameVisit v (f v)) :
    w.Stays (w.atVisit n f) := by
  unfold atVisit
  split
  · exact .of_visits rfl
  · next v hv =>
    intro m u hu
    by_cases hm : n = m
    · subst hm
      obtain rfl := Option.some.inj (hv.symm.trans hu)
      exact ⟨f v, getElem?_set_of_some hv, hf v⟩
    · exact ⟨u, by rw [List.getElem?_set, if_neg hm]; exact hu, .refl u⟩

@[simp] theorem clients_atVisit (w : Network) (n : Nat) (f : Visit → Visit) :
    (w.atVisit n f).clients = w.clients := by
  unfold atVisit
  split <;> rfl

/-- A client is not touched by what leaves the sockets the same. -/
theorem Attends.stays (h : Attends w ss k c) (hstays : w.Stays w') : Attends w' (ss ++ []) k c :=
  h.elsewhere h.honest (.refl c) (fun n v _ hv _ => hstays n v hv) fun _ _ s hs => by cases hs

/-- What happens to the mailroom and to the links, no client sees. -/
theorem Attended.of_clients (h : w.Attended ss) (hclients : w'.clients = w.clients)
    (hstays : w.Stays w') : w'.Attended (ss ++ []) := by
  intro k c hc
  rw [hclients] at hc
  exact (h k c hc).stays hstays

/-- A connection changes between its sockets, or its keeper stays where it is. -/
theorem Attended.atClient (h : w.Attended ss) (k : Nat) {f : Connection → Connection}
    (hf : ∀ c, c.ledger.Honest → (f c).ledger.Honest ∧ (linkOf? (f c) = none ∨
      (f c).phase = c.phase ∧ (f c).queueEmptied = c.queueEmptied ∧ (f c).socket = c.socket)) :
    (w.atClient k f).Attended (ss ++ []) := by
  unfold Network.atClient
  split
  · exact h.of_clients rfl (.of_visits rfl)
  · next c hc =>
    intro j u hu
    rcases getElem?_set_cases hu with ⟨rfl, rfl⟩ | ⟨-, hold⟩
    · obtain ⟨hhonest, hlink | ⟨hphase, hqueue, hsocket⟩⟩ := hf c.connection (h j c hc).honest
      · exact attends_of_unlinked hhonest hlink
      · exact (h j c hc).elsewhere hhonest ⟨hphase, hqueue, hsocket, rfl⟩
          (fun n v _ hv _ => ⟨v, hv, .refl v⟩) fun _ _ s hs => by cases hs
    · exact (h j u hold).stays (.of_visits rfl)

/-- **A session makes a step.** -/
theorem Attended.session (h : w.Attended ss) (hv : w.visits[n]? = some v) (branch : Session.Branch)
    (now wallClock : Nat) :
    (w.stepSession n branch now wallClock).Attended
      (ss ++ [.session n branch now wallClock ⟨v.session, w.mailroom, v.far⟩]) := by
  rw [stepSession_of_some hv]
  intro k c hc
  have hattends := h k c hc
  by_cases hn : linkOf? c.connection = some n
  · obtain ⟨u, hu, howner, hfeeds⟩ := hattends.linked n hn
    obtain rfl := Option.some.inj (hv.symm.trans hu)
    refine ⟨hattends.honest, fun m hm => ?_⟩
    obtain rfl := Option.some.inj (hn.symm.trans hm)
    exact ⟨_, getElem?_set_of_some hv, howner, hfeeds.session w.mailroom branch now wallClock⟩
  · have hne : ∀ m, linkOf? c.connection = some m → n ≠ m := fun m hm heq => hn (heq ▸ hm)
    refine hattends.elsewhere hattends.honest (.refl c) (fun m u hm hu _ => ⟨u, ?_, .refl u⟩)
      fun m hm s hs => ?_
    · rw [List.getElem?_set, if_neg (hne m hm)]
      exact hu
    · rw [List.mem_singleton.1 hs]
      exact hne m hm

/-- **A keeper makes a step on its socket.** -/
theorem Attended.keeper (h : w.Attended ss) (hc : w.clients[k]? = some c)
    (hlink : linkOf? c.connection = some n) (hv : w.visits[n]? = some v) (branch : Keeper.Branch)
    (stores : Stores) (now : Nat) {t' : Keeper.Turn}
    (ht : Keeper.step branch stores now ⟨c.connection, v.near, none⟩ = t')
    (hclients : w'.clients = w.clients.set k (c.after t'))
    (hvisits : w'.visits = w.visits.set n { v with near := t'.link }) :
    w'.Attended (ss ++ [keeperStep k n branch stores now c v]) := by
  obtain ⟨u, hu, howner, hfeeds⟩ := (h k c hc).linked n hlink
  obtain rfl := Option.some.inj (hv.symm.trans hu)
  have hacts := step_acts branch stores now ⟨c.connection, v.near, none⟩
  rw [ht] at hacts
  obtain ⟨hhonest, hsocket⟩ := (hacts.shifts hlink {}).honest (h k c hc).honest
  intro j d hd
  rw [hclients] at hd
  rcases getElem?_set_cases hd with ⟨rfl, rfl⟩ | ⟨hj, hold⟩
  · refine ⟨hhonest, fun m hm => ?_⟩
    change linkOf? t'.connection = some m at hm
    obtain rfl : m = n := by
      rcases (hacts.keeps hlink).link with hnone | hsame
      · cases hnone.symm.trans hm
      · exact Option.some.inj (hm.symm.trans hsame)
    refine ⟨{ v with near := t'.link }, ?_, howner,
      hfeeds.keeper branch stores now ht hsocket hm⟩
    rw [hvisits]
    exact getElem?_set_of_some hv
  · -- no other client works on this socket
    refine (h j d hold).elsewhere (h j d hold).honest (.refl d) (fun m u hm hu hk => ?_)
      fun m hm s hs => ?_
    · have hne : n ≠ m := by
        rintro rfl
        obtain rfl := Option.some.inj (hv.symm.trans hu)
        exact hj (Option.some.inj (hk.symm.trans howner))
      refine ⟨u, ?_, .refl u⟩
      rw [hvisits, List.getElem?_set, if_neg hne]
      exact hu
    · rw [List.mem_singleton.1 hs]
      exact fun hconcerns => hj hconcerns.1.symm

/-- A keeper makes a step without a socket. -/
theorem Attended.keeper_unlinked (h : w.Attended ss) (hc : w.clients[k]? = some c)
    (hlink : linkOf? c.connection = none) (branch : Keeper.Branch) (stores : Stores) (now : Nat)
    (hclients : w'.clients =
      w.clients.set k (c.after (Keeper.step branch stores now ⟨c.connection, {}, none⟩)))
    (hvisits : w'.visits = w.visits) : w'.Attended (ss ++ []) := by
  obtain ⟨hafter, hledger, -⟩ :=
    (Keeper.step_acts branch stores now ⟨c.connection, {}, none⟩).of_unlinked hlink
  intro j d hd
  rw [hclients] at hd
  rcases getElem?_set_cases hd with ⟨rfl, rfl⟩ | ⟨-, hold⟩
  · refine attends_of_unlinked ?_ hafter
    rw [show (c.after _).connection.ledger = _ from hledger]
    exact (h j c hc).honest
  · exact (h j d hold).stays (.of_visits hvisits)

/-- On a new link nothing was taken or said yet, and nothing is known of the mailbox. -/
theorem feeds_connected {u t' : Keeper.Turn} {b : ByteArray} (id : UInt64) (now : Nat)
    (hss : ∀ s ∈ ss, s.socket < n) (hlink : u.link = {}) (hleaves : u.Leaves n .new b t')
    (hstill : linkOf? t'.connection ≠ none) (hqueue : t'.connection.queueEmptied = false) :
    Feeds (ss ++ []) k n (c.after t')
      { session := .start id now, near := t'.link, owner := some k } := by
  obtain ⟨htook, hput, hsaid⟩ := nothing_of_others
    (k := k) fun s hs hconcerns => Nat.ne_of_lt (hss s hs) hconcerns.socket
  have hasked : askedOn k n ss = [] := by
    rw [askedOn, htook]
    rfl
  rw [List.append_nil]
  refine ⟨⟨[], Visit.falls_connected id now k hlink hleaves hstill, ?_⟩, ?_, ?_, ?_⟩
  · rw [htook, hsaid]
    rfl
  · rw [hasked]
    simp [Client.after, hqueue]
  · rw [hasked, hput]
    rfl
  · rw [hput]
    exact ⟨_, (List.append_nil _).symm⟩

/-- **A keeper gets a new link.** -/
theorem Attended.connect (h : w.Attended ss) (hss : ∀ s ∈ ss, s.socket < w.visits.length) (k : Nat)
    (stores : Stores) (now : Nat) (id : UInt64) :
    (w.connect k stores now id).Attended (ss ++ []) := by
  unfold Network.connect
  split
  · exact h.of_clients rfl (.of_visits rfl)
  · next c hc =>
    split
    · next hello deadline attempt hphase =>
      have hleaves := Keeper.connected_leaves stores now w.visits.length hello
        ⟨c.connection, {}, none⟩
      have hgreets := Keeper.connected_greets stores now w.visits.length hello
        ⟨c.connection, {}, none⟩
      dsimp only
      generalize Keeper.connected stores now w.visits.length hello ⟨c.connection, {}, none⟩ = t'
        at hleaves hgreets ⊢
      intro j d hd
      rcases getElem?_set_cases hd with ⟨rfl, rfl⟩ | ⟨-, hold⟩
      · have hphase' : c.connection.phase.shown = .connecting := congrArg Phase.shown hphase
        have hhonest := (h j c hc).honest
        refine ⟨((hgreets.shifts {} hphase' (congrArg Phase.openLink? hphase)
          (congrArg Phase.probes hphase)).honest hhonest).1, fun m hm => ?_⟩
        obtain rfl : m = w.visits.length := by
          rcases hleaves.stays with ⟨hnone, -⟩ | ⟨hsame, -⟩
          · cases hnone.symm.trans hm
          · exact Option.some.inj (hm.symm.trans hsame)
        have hlink : linkOf? t'.connection ≠ none := by
          rw [show linkOf? t'.connection = some _ from hm]
          simp
        have hqueue : t'.connection.queueEmptied = false :=
          (hgreets.queueEmptied hlink).trans
            (hhonest.quiet (congrArg Phase.openLink? hphase))
        exact ⟨_, List.getElem?_concat_length, rfl,
          feeds_connected id now hss rfl hleaves hlink hqueue⟩
      · exact (h j d hold).stays (.append rfl)
    · exact h.of_clients rfl (.of_visits rfl)

/-- **What holds of the clients is kept by every move.** -/
theorem Attended.make (h : w.Attended ss) (hss : ∀ s ∈ ss, s.socket < w.visits.length)
    (move : Move) : (w.make move).Attended (ss ++ (w.step? move).toList) := by
  cases move with
  | accept recipient body now =>
    unfold Network.make
    dsimp only
    split <;> exact h.of_clients rfl (.of_visits rfl)
  | post n =>
    unfold Network.make
    dsimp only
    split <;> exact h.of_clients rfl (.of_visits rfl)
  | session n branch now wallClock =>
    cases hv : w.visits[n]? with
    | none =>
      have hmake : w.make (.session n branch now wallClock) = w :=
        stepSession_of_none hv branch now wallClock
      rw [hmake, step?, hv]
      exact h.of_clients rfl (.of_visits rfl)
    | some v =>
      rw [step?, hv]
      exact h.session hv branch now wallClock
  | keeper k branch stores now =>
    cases hc : w.clients[k]? with
    | none =>
      have hmake : w.make (.keeper k branch stores now) = w := by
        simp only [Network.make, stepKeeper, hc]
      rw [hmake, step?, hc]
      exact h.of_clients rfl (.of_visits rfl)
    | some c =>
      cases hlink : linkOf? c.connection with
      | none =>
        rw [step?, hc, Option.bind_some, hlink]
        refine h.keeper_unlinked hc hlink branch stores now ?_ ?_
        · simp only [Network.make, stepKeeper, hc, hlink]
        · simp only [Network.make, stepKeeper, hc, hlink]
      | some n =>
        obtain ⟨v, hv, -⟩ := (h k c hc).linked n hlink
        rw [step?, hc, Option.bind_some, hlink, Option.bind_some, hv]
        refine h.keeper hc hlink hv branch stores now rfl ?_ ?_
        · simp only [Network.make, stepKeeper, hc, hlink, hv]
        · simp only [Network.make, stepKeeper, hc, hlink, hv]
  | atHead k stores now attempt =>
    unfold Network.make
    refine h.atClient k fun c hhonest => ?_
    split
    · next hphase =>
      exact ⟨((atHead_shifts c stores now attempt (congrArg Phase.shown hphase) {}).honest
        hhonest).1, .inl (c.atHead_spec stores now attempt).1⟩
    · exact ⟨hhonest, .inr ⟨rfl, rfl, rfl⟩⟩
  | connectFailed k stores now e =>
    unfold Network.make
    refine h.atClient k fun c hhonest => ?_
    split
    · next hphase =>
      exact ⟨((connectFailed_shifts c stores now e (congrArg Phase.shown hphase) {}).honest
        hhonest).1, .inl (connectFailed_spec c stores now e).1⟩
    · exact ⟨hhonest, .inr ⟨rfl, rfl, rfl⟩⟩
  | connected k stores now id => exact h.connect hss k stores now id
  | application k op =>
    unfold Network.make
    refine h.atClient k fun c hhonest => ?_
    obtain ⟨hhonest', hqueue⟩ := c.perform_honest op hhonest
    obtain ⟨hphase, hsocket, -⟩ := c.perform_spec op
    exact ⟨hhonest', .inr ⟨hphase, hqueue, hsocket⟩⟩
  | stranger id now => exact h.of_clients rfl (.append rfl)
  | speaks n b =>
    refine h.of_clients (clients_atVisit w n _) (stays_atVisit w n fun v => ?_)
    unfold Visit.speaks
    split <;> exact ⟨rfl, rfl, rfl⟩
  | carry n up down =>
    exact h.of_clients (clients_atVisit w n _)
      (stays_atVisit w n fun v => ⟨rfl, rfl, (v.carry_held up down).2⟩)
  | closeNear n =>
    exact h.of_clients (clients_atVisit w n _) (stays_atVisit w n fun v => ⟨rfl, rfl, rfl⟩)
  | closeFar n =>
    exact h.of_clients (clients_atVisit w n _) (stays_atVisit w n fun v => ⟨rfl, rfl, rfl⟩)

/-- **What holds of the clients at any time.** -/
theorem attended (accounts : Accounts) (clients : List (SocketKind × ClientConfig))
    (moves : List Move) : ((start accounts clients).makeAll moves).Attended
      ((start accounts clients).steps moves) := by
  induction moves using List.reverseRecOn with
  | nil =>
    intro k c hc
    obtain ⟨entry, -, rfl⟩ := List.mem_map.1 (List.mem_of_getElem? hc)
    exact attends_of_unlinked (Connection.honest_new entry.1 entry.2) rfl
  | append_singleton moves move ih =>
    rw [makeAll_append, steps_snoc]
    exact ih.make (fun s hs => socket_lt hs) move

end Network

end ChatSockets
