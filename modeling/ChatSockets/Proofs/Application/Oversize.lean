import ChatSockets.Proofs.Application.State
import ChatSockets.Proofs.Socket.Closing

/-!
# One request that is too long

A request on an open socket decides nothing but the end of its own call while it is submitted
(`Ledger.Queues`), and while its frame is written all others are spared (`Ledger.Spares`). Whether
it has a frame at all is found out only when the keeper takes it from the outbox. If it has none the
keeper treats that as a failure of the link: everybody who waits on the socket fails, and what else
was to be written is lost (`Ledger.Fails`). So a single caller can close the socket for all others
(`oversized_request_closes_socket`), and nothing else that they do closes it.
-/

namespace ChatSockets

open Keeper Wire

/-! ## What becomes of those who wait -/

namespace Ledger

/-- A request was put into the outbox, and nothing changes for those who wait already. -/
structure Queues (l : Ledger) (m : Message) (l' : Ledger) : Prop where
  state : l'.state = l.state
  enters : l'.pending.receivers.get? l.nextId = some l.nextId
  others : ∀ id, id ≠ l.nextId →
    l'.pending.receivers.get? id = l.pending.receivers.get? id ∧
      l'.replies.get? id = l.replies.get? id
  outbox : l'.outbox = l.outbox.map (· ++ [m])

/-- The socket stays open. Nothing changes for those who wait, but for the one whose response is
heard, and no request leaves the outbox but one that is written. -/
structure Spares (l : Ledger) (uttered : Option (Purpose × Message)) (heard : Option Message)
    (l' : Ledger) : Prop where
  state : l'.state = .open
  others : ∀ id, (∀ m w, heard = some m → m.response = some w → w.id ≠ id) →
    l'.pending.receivers.get? id = l.pending.receivers.get? id ∧
      l'.replies.get? id = l.replies.get? id
  outbox : ∃ queue, l'.outbox = some queue ∧
    l.outbox = some ((uttered.toList.filter (·.1 = .request)).map Prod.snd ++ queue)

/-- The socket is closed. Everybody who waits is told so, and what was to be written is lost. -/
structure Fails (l l' : Ledger) : Prop where
  state : l'.state = .closed
  outbox : l'.outbox = none
  size : l'.pending.size = 0
  replies : ∀ id receiver, l.pending.receivers.get? id = some receiver →
    l'.replies.get? id = some (.error (.connectionClosed l.socket))

variable {l : Ledger} {r : Record}

theorem fails_tornDown (hr : r.Sound l) : l.Fails l.tornDown where
  state := rfl
  outbox := rfl
  size := rfl
  replies := by
    intro id receiver hwaits
    obtain ⟨rfl, -⟩ := hr.receivers id receiver hwaits
    refine (Table.get?_foldl_insert _ _ _ _).trans (if_pos ?_)
    exact (Table.mem_values_iff _ receiver).2 ⟨receiver, hwaits⟩

/-- A request that is registered and put into the outbox leaves the others as they are. -/
theorem queues_enqueue (l : Ledger) (m : Message) : l.Queues m (l.register.enqueue m) where
  state := rfl
  enters := Table.get?_insert_self _ _ _
  others := fun _ hid => ⟨(Table.get?_insert ..).trans (if_neg hid), rfl⟩
  outbox := rfl

end Ledger

namespace Keeper

variable {t t' : Turn} {uttered : Option (Purpose × Message)} {heard : Option Message} {r : Record}

/-- An open socket that settles spares all, or fails for all. What its outbox held before a request
was taken from it makes no difference. -/
theorem Settles.spares_or_fails {l l₁ l' : Ledger} {n : Nat} {probes : List UInt64}
    (h : Settles l₁ n probes l') (hr : r.Sound l) (hstate : l₁.state = .open)
    (hsocket : l₁.socket = l.socket)
    (hreceivers : l₁.pending.receivers = l.pending.receivers) (hreplies : l₁.replies = l.replies)
    (houtbox : ∃ queue, l₁.outbox = some queue ∧
      l.outbox = some ((uttered.toList.filter (·.1 = .request)).map Prod.snd ++ queue)) :
    l.Spares uttered heard l' ∨ l.Fails l' := by
  cases h with
  | stays rest hprobes h =>
    subst h
    exact .inl ⟨hstate, fun id _ => ⟨by rw [← hreceivers], by rw [← hreplies]⟩, houtbox⟩
  | falls h =>
    subst h
    refine .inr ⟨rfl, rfl, rfl, fun id receiver hwaits => ?_⟩
    have htold := (Ledger.fails_tornDown hr).replies id receiver hwaits
    rw [Ledger.tornDown, Pending.failAll] at htold ⊢
    rw [hreceivers, hreplies, hsocket]
    exact htold

/-- **A step of a keeper with an open socket** spares all who wait, or fails for all. -/
theorem Acts.spares_or_fails (h : Acts t uttered heard t')
    (hl : t.connection.ledger.Published) (hr : r.Sound t.connection.ledger)
    (hlink : t.connection.ledger.link?.isSome = true) :
    t.connection.ledger.Spares uttered heard t'.connection.ledger ∨
      t.connection.ledger.Fails t'.connection.ledger := by
  have hopen : t.connection.phase.shown = .open := hl.link hlink
  have hstate : t.connection.ledger.state = .open := hl.state.trans hopen
  obtain ⟨queue, hqueue⟩ := Option.isSome_iff_exists.1 (hl.outbox.2 hlink)
  have hsame : ∀ (heard : Option Message) (c : Connection), c.ledger.state = .open →
      c.pending = t.connection.pending → c.replies = t.connection.replies →
      c.outbox = some queue → t.connection.ledger.Spares none heard c.ledger := by
    intro heard c hc hpending hreplies houtbox
    refine ⟨hc, fun id _ => ⟨?_, ?_⟩, queue, houtbox, hqueue⟩
    · exact congrArg (·.receivers.get? id) hpending
    · exact congrArg (·.get? id) hreplies
  cases h with
  | nothing => exact .inl (hsame none t.connection hstate rfl rfl hqueue)
  | apart _ hclosed =>
    rw [hopen] at hclosed
    cases hclosed
  | greets link rest _ hphase =>
    rw [hphase] at hopen
    cases hopen
  | goes live _ hlive h =>
    exact h.settles.spares_or_fails hr hstate rfl rfl rfl ⟨queue, hqueue, hqueue⟩
  | receives live window b down hphase hread => exact .inl (hsame none _ hstate rfl rfl hqueue)
  | sends live window m rest _ hphase houtbox h =>
    exact h.settles.spares_or_fails hr hstate rfl rfl rfl ⟨rest, rfl, houtbox⟩
  | probes live window _ hphase h =>
    exact h.settles.spares_or_fails hr hstate rfl rfl rfl ⟨queue, hqueue, hqueue⟩
  | accepts live decoder m w hphase hnext hkind hw =>
    refine .inl ?_
    rcases t.ledger_accept { live with decoder, heard := true } w with ⟨-, heq⟩ | ⟨-, heq⟩
    · rw [heq]
      exact ⟨hstate, fun id _ => ⟨rfl, rfl⟩, queue, hqueue, hqueue⟩
    · rw [heq]
      refine ⟨hstate, fun id hid => ?_, queue, hqueue, hqueue⟩
      have hne : id ≠ w.id := fun heq => hid m w rfl hw heq.symm
      refine ⟨(Ledger.receivers_accept _ w id).trans (if_neg hne), ?_⟩
      exact (Ledger.replies_accept hr w id).trans (if_neg fun hboth => hne hboth.1)
  | answers live decoder m q _ hphase hnext hkind hq h =>
    obtain ⟨queueEmptied, hledger⟩ := t.ledger_answer q
    have hsettles := h.settles
    rw [hledger] at hsettles
    exact hsettles.spares_or_fails hr hstate rfl rfl rfl ⟨queue, hqueue, hqueue⟩
  | ignores live decoder m hphase => exact .inl (hsame _ _ hstate rfl rfl hqueue)

/-- A keeper that sets out to write a request that is too long has taken it from its outbox. -/
theorem oversized_of_utters {branch : Branch} {now : Nat} {m : Message}
    (h : utters branch now t = some (.request, m)) (hlong : Frame.maxLength < m.length) :
    t.Oversized branch := by
  unfold utters at h
  split at h
  · next live window hphase =>
    split at h
    · cases branch with
      | send =>
        obtain ⟨m', hhead, heq⟩ := Option.map_eq_some_iff.1 h
        obtain rfl : m' = m := congrArg Prod.snd heq
        obtain ⟨rest, hqueued⟩ := List.head?_eq_some_iff.1 hhead
        refine ⟨rfl, live, window, m', rest, hphase, ?_, hlong⟩
        unfold Connection.queued at hqueued
        cases houtbox : t.connection.outbox with
        | none => rw [houtbox] at hqueued; cases hqueued
        | some queue => rw [houtbox] at hqueued; exact congrArg some hqueued
      | probe =>
        dsimp only at h
        split at h <;> cases h
      | _ => cases h
    · cases h
  · split at h
    · split at h <;> cases h
    · cases h
  · cases h

/-- A request that is taken from the outbox and has a frame is written, if the socket stays open.
What there is no room for is still to be written. -/
theorem Acts.writes {m : Message} (h : Acts t (some (.request, m)) heard t')
    (hfit : m.length ≤ Frame.maxLength) (hlink : linkOf? t'.connection ≠ none) :
    ∃ put, t'.link.up.held = t.link.up.held ++ put ∧
      put ++ t'.connection.phase.unwritten = Frame.ofBody m.encode := by
  cases h with
  | sends live window _ rest _ hphase houtbox h =>
    obtain ⟨put, more, hput, hheld, hmore⟩ := h.leaves.puts
    rw [offer_of_le hfit] at hput
    exact ⟨put, hheld, hmore hlink ▸ hput⟩

end Keeper

namespace Application

variable {a : Application} {k : SocketKind}

/-- **A request that is submitted to an open socket** is put into its outbox, and all others are
left as they are. -/
theorem queues_of_submits {j : Nat} {goal : Goal} {p : Call.Phase} {r : Request} {stores : Stores}
    {now : Nat} (hopen : (a.connection k).outbox.isSome = true)
    (hj : a.callers[j]? = some ⟨goal, p⟩)
    (hsubmits : Call.submits? a.sockets stores now p = some (k, r)) :
    (a.ledger k).Queues (.ofRequest (r.toWire (a.ledger k).nextId))
      ((a.make (.step j stores now)).ledger k) := by
  have hdoes := Call.step_does a.sockets stores now p
  rw [hsubmits] at hdoes
  have hmake : (a.make (.step j stores now)).ledger k =
      ((Call.step a.sockets stores now p).2.get k).ledger := by
    simp only [make, hj]
    rfl
  rw [hmake]
  cases hdoes with
  | submits _ _ _ _ hasks h =>
    generalize (Call.step a.sockets stores now p).1 = p' at h
    generalize (Call.step a.sockets stores now p).2 = s' at h
    cases h with
    | queued timeout deadline _ _ h =>
      rw [h.ledger]
      exact Ledger.queues_enqueue _ _
    | refused _ hclosed =>
      rw [show (a.connection k).outbox = none from hclosed] at hopen
      cases hopen

/-- What waits in the outbox of an open socket was submitted by some call. -/
theorem Sound.issued_of_mem (ha : a.Sound) {queue : List Message} {m : Message}
    (hqueue : (a.connection k).outbox = some queue) (hm : m ∈ queue) :
    ∃ i ∈ (a.records k).issued, .ofRequest i.request = m := by
  obtain ⟨n, hn⟩ := ha.link?_of_outbox (by rw [hqueue]; rfl)
  have hwaits : (n, m) ∈ (a.ledger k).waiting := by
    rw [Ledger.waiting, hn, show (a.ledger k).outbox = some queue from hqueue]
    exact List.mem_map_of_mem hm
  have hsubmitted := (ha.record k).order.subset (List.mem_append_right _ hwaits)
  obtain ⟨i, hi, hsome⟩ := List.mem_filterMap.1 hsubmitted
  refine ⟨i, hi, ?_⟩
  split at hsome
  · cases hsome
    rfl
  · cases hsome

/-- What is shown is right after a step of a keeper. -/
theorem Sound.published_step (ha : a.Sound) (branch : Branch) (stores : Stores) (now : Nat)
    (link : Link) :
    (step branch stores now ⟨a.connection k, link, none⟩).connection.ledger.Published := by
  have hpublished := ((make_does a (.keeper k branch stores now link)).sound ha).published k
  rw [ledger, connection_keeper] at hpublished
  exact hpublished

/-- When a keeper takes a request that is too long from its outbox, everybody fails. -/
theorem Sound.fails_of_oversized (ha : a.Sound) {branch : Branch} {link : Link}
    (hlong : (⟨a.connection k, link, none⟩ : Turn).Oversized branch) (stores : Stores) (now : Nat) :
    (a.ledger k).Fails (step branch stores now ⟨a.connection k, link, none⟩).connection.ledger := by
  obtain ⟨-, live, window, m, rest, hphase, -⟩ := id hlong
  have hacts := step_acts branch stores now ⟨a.connection k, link, none⟩
  have hlink : (a.ledger k).link?.isSome = true := by
    rw [show (a.ledger k).link? = (a.connection k).phase.openLink? from rfl, hphase]
    rfl
  refine (hacts.spares_or_fails (ha.published k) (ha.record k) hlink).resolve_left
    fun hspares => ?_
  have hclosed := (ha.published_step branch stores now link).state.trans (hlong.closes stores now)
  cases hspares.state.symm.trans hclosed

theorem Sound.closes_make (ha : a.Sound) {branch : Branch} {link : Link}
    (hlong : (⟨a.connection k, link, none⟩ : Turn).Oversized branch) (stores : Stores) (now : Nat) :
    ((a.make (.keeper k branch stores now link)).connection k).state = .closed ∧
      ∀ id receiver, (a.connection k).pending.receivers.get? id = some receiver →
        ((a.make (.keeper k branch stores now link)).connection k).replies.get? id =
          some (.error (.connectionClosed (a.connection k).socket)) := by
  have hfails := ha.fails_of_oversized hlong stores now
  rw [connection_keeper]
  exact ⟨hfails.state, hfails.replies⟩

/-- **A request that is too long for a frame closes the socket for all others**, and so does nothing
else that callers do. In any run, for an open socket whose keeper has not crashed: a request that is
submitted is put into the outbox under a new id, as long as the ids last, and those who wait already
are left as they are, whatever its length. A step of the keeper spares all who wait, and then the
request that it takes from the outbox is written; or it closes the socket and everybody fails. It
does the latter only for a reason that is not a caller's, or because the request that it takes is
too long, and then always. If all requests that were submitted have a frame, none is too long. -/
theorem oversized_request_closes_socket (config : ClientConfig) (moves : List Move)
    (k : SocketKind) :
    let a := (start config).makeAll moves
    let c := a.connection k
    c.state = .open → c.phase ≠ .crashed →
      ((a.records k).issued.length < UInt64.size →
        c.pending.receivers.get? c.ledger.nextId = none) ∧
      (∀ j stores now goal p r, a.callers[j]? = some ⟨goal, p⟩ →
        Call.submits? a.sockets stores now p = some (k, r) →
        c.ledger.Queues (.ofRequest (r.toWire c.ledger.nextId))
          ((a.make (.step j stores now)).ledger k)) ∧
      ∀ branch stores now link,
        let t : Turn := ⟨c, link, none⟩
        let t' := step branch stores now t
        (c.ledger.Spares (utters branch now t) (hears t) t'.connection.ledger ∧
            (∀ m, utters branch now t = some (.request, m) →
              ∃ put, t'.link.up.held = link.up.held ++ put ∧
                put ++ t'.connection.phase.unwritten = Frame.ofBody m.encode) ∨
          c.ledger.Fails t'.connection.ledger ∧
            ((∃ why, t.Cause stores now why) ∨ t.Oversized branch)) ∧
        (t.Oversized branch → c.ledger.Fails t'.connection.ledger) ∧
        ((∀ i ∈ (a.records k).issued, (Message.ofRequest i.request).length ≤ Frame.maxLength) →
          ¬ t.Oversized branch) := by
  intro a c hstate hrunning
  have hsound : a.Sound := sound_makeAll (sound_start config) moves
  have hpublished : c.ledger.Published := hsound.published k
  have hopen : c.phase.shown = .open := hpublished.state.symm.trans hstate
  have hlink : c.ledger.link?.isSome = true := c.phase.isSome_openLink?_iff.2 ⟨hopen, hrunning⟩
  refine ⟨fun hlast => ?_, fun j stores now goal p r hj hsubmits => ?_,
    fun branch stores now link => ?_⟩
  · refine Option.eq_none_iff_forall_ne_some.2 fun receiver hwaits => ?_
    obtain ⟨-, i, hi, hid⟩ := (hsound.record k).receivers _ receiver hwaits
    exact (hsound.record k).ne_nextId hlast hi hid
  · exact queues_of_submits (hpublished.outbox.2 hlink) hj hsubmits
  intro t t'
  have hacts := step_acts branch stores now t
  have hfate := hacts.spares_or_fails hpublished (hsound.record k) hlink
  have hpublished' : t'.connection.ledger.Published :=
    hsound.published_step branch stores now link
  refine ⟨?_, fun hlong => hsound.fails_of_oversized hlong stores now, fun hfit hlong => ?_⟩
  · rcases hfate with hspares | hfails
    · refine .inl ⟨hspares, fun m hm => ?_⟩
      have hfit : m.length ≤ Frame.maxLength := by
        refine Nat.not_lt.1 fun hlong => ?_
        have hfails := hsound.fails_of_oversized (oversized_of_utters hm hlong) stores now
        cases hspares.state.symm.trans hfails.state
      obtain ⟨queue, hqueue, -⟩ := hspares.outbox
      rw [hm] at hacts
      refine hacts.writes hfit fun hnone => ?_
      obtain ⟨n, hn⟩ := Option.isSome_iff_exists.1
        (hpublished'.outbox.1 (Option.isSome_iff_exists.2 ⟨queue, hqueue⟩))
      cases (Phase.link?_of_openLink? hn).symm.trans hnone
    · refine .inr ⟨hfails, ?_⟩
      cases step_ends branch stores now t hopen with
      | keeps hstill => cases (hpublished'.state.trans hstill).symm.trans hfails.state
      | closes u heard why hwhy => exact hwhy.imp_left fun hcause => ⟨why, hcause⟩
  · obtain ⟨-, live, window, m, rest, -, houtbox, hlong⟩ := hlong
    obtain ⟨i, hi, rfl⟩ := hsound.issued_of_mem houtbox List.mem_cons_self
    exact Nat.not_le_of_lt hlong (hfit i hi)

/-- A socket is open for the application, and two requests are submitted on it. The first one is
written. -/
def contending (r : Request) : List Move :=
  [.operate .unidentified (.setActive true), .atHead .unidentified {} 0 .connected,
    .connected .unidentified {} 0 0 {}] ++ looks .unidentified {} 0 ++
  [.call (.request (Request.get "/v1/time").withoutAuthorization), .step 0 {} 0,
    .call (.request r.withoutAuthorization), .step 1 {} 0,
    .keeper .unidentified .send {} 0 {}] ++ looks .unidentified {} 0

/-- While a short request is written, another one that waits for its response is spared. -/
theorem spared_by_short :
    let c := ((start {}).makeAll (contending (.get "/v1/time"))).connection .unidentified
    c.ledger.Spares (utters .send 0 ⟨c, {}, none⟩) none
      (step .send {} 0 ⟨c, {}, none⟩).connection.ledger := by
  intro c
  have hstate : c.state = .open := by decide +kernel
  have hrunning : c.phase ≠ .crashed := by
    intro hcrashed
    have haway : c.phase.away = false := by decide +kernel
    rw [hcrashed] at haway
    cases haway
  have hstill : (step .send {} 0 ⟨c, {}, none⟩).connection.ledger.state = .open := by
    decide +kernel
  obtain ⟨hspares, -⟩ | ⟨hfails, -⟩ := ((oversized_request_closes_socket {}
    (contending (.get "/v1/time")) .unidentified hstate hrunning).2.2 .send {} 0 {}).1
  · exact hspares
  · cases hstill.symm.trans hfails.state

/-- A request with a body that fills a frame by itself. -/
def oversizedRequest : Request := .put "/v1/messages/bob" ⟨Array.replicate 1048576 0⟩

/-- **A request that is too long fails another one.** The other one was written before and waits for
its response. Nothing is wrong with the link, and both sides want the socket. -/
theorem bystander_fails :
    let a := (start {}).makeAll (contending oversizedRequest)
    let c := a.connection .unidentified
    let c' := (a.make (.keeper .unidentified .send {} 0 {})).connection .unidentified
    a.callers[0]?.map Caller.phase =
        some (.submitted .unidentified 1 "/v1/time" 10000 10000) ∧
      c.state = .open ∧ c.replies.get? 1 = none ∧ c.cycling = false ∧ c.wanted {} 0 = true ∧
      c'.state = .closed ∧
      c'.replies.get? 1 = some (.error (.connectionClosed .unidentified)) := by
  intro a
  have hlong : Frame.maxLength <
      (Message.ofRequest (oversizedRequest.withoutAuthorization.toWire 2)).length := by
    have hverb : (oversizedRequest.withoutAuthorization.toWire 2).verb.toUTF8.size = 3 := by decide
    have hpath : (oversizedRequest.withoutAuthorization.toWire 2).path.toUTF8.size = 16 := by
      decide
    have hbody : (oversizedRequest.withoutAuthorization.toWire 2).body.size = 1048576 :=
      Array.size_replicate
    rw [Message.length_ofRequest, Wire.Request.length, hverb, hpath, hbody]
    decide
  have houtbox : (a.connection .unidentified).outbox =
      some [.ofRequest (oversizedRequest.withoutAuthorization.toWire 2)] :=
    rfl
  obtain ⟨live, window, hphase⟩ : ∃ live window,
      (a.connection .unidentified).phase = .serving live window := ⟨_, _, rfl⟩
  have hoversized : (⟨a.connection .unidentified, {}, none⟩ : Turn).Oversized .send :=
    ⟨rfl, live, window, _, [], hphase, houtbox, hlong⟩
  have hsound : a.Sound := sound_makeAll (sound_start {}) _
  obtain ⟨hclosed, htold⟩ := hsound.closes_make hoversized {} 0
  have hwaits : (a.connection .unidentified).pending.receivers.get? 1 = some 1 := rfl
  refine ⟨rfl, rfl, rfl, rfl, rfl, ?_⟩
  exact ⟨hclosed, htold 1 1 hwaits⟩

end Application

end ChatSockets
