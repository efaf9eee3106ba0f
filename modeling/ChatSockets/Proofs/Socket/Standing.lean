import ChatSockets.Proofs.Socket.Calls
import ChatSockets.Proofs.Socket.Signal

/-!
# What holds of a ledger and its record

Three things hold of every connection, whatever its keeper and its calls do. What it shows is what
its keeper is doing (`Ledger.Published`). Its record tells what its ledger is made of: the ids in
their order, what of the submitted requests was written and what still waits (`Record.Sound`). And
every request that somebody waits for stands in one of three ways (`Issue.Stands`): it waits for the
socket that it was submitted on, that socket was closed, or the first response to it was heard.
-/

namespace ChatSockets

open Wire Keeper

variable {l l' : Ledger} {r r' : Record}

/-! ## What is shown -/

/-- What is shown is what the keeper is doing, and no event came that could not happen. -/
structure Ledger.Published (l : Ledger) : Prop where
  state : l.state = l.shown
  ignored : l.ignored = []
  outbox : l.outbox.isSome = true ↔ l.link?.isSome = true
  link : l.link?.isSome = true → l.shown = .open
  /-- without an open socket nobody waits for anything -/
  quiet : l.link? = none → l.pending.size = 0 ∧ l.queueEmptied = false ∧ l.probes = []

theorem Ledger.Published.honest (h : l.Published) : l.Honest :=
  ⟨h.state, h.link, fun hshown => (h.quiet hshown).2.1⟩

theorem Ledger.Published.tornDown (h : l.Published) : l.tornDown.Published where
  state := rfl
  ignored := h.ignored
  outbox := by simp [Ledger.tornDown]
  link := nofun
  quiet := fun _ => ⟨rfl, rfl, rfl⟩

/-- An event that can happen keeps what is shown right, if the keeper shows where it leads. -/
theorem Ledger.Published.event (h : l.Published) {e : SocketEvent} {shown : SocketState}
    (hbefore : l.shown ≠ .open) (he : l.shown.next? e = some shown) :
    (l.event e shown).Published where
  state := (h.honest.event hbefore he).state
  ignored := by
    show (if (l.state.next? e).isSome then l.ignored else l.ignored ++ [e]) = []
    rw [h.state, he]
    exact h.ignored
  outbox := h.outbox
  link := (h.honest.event hbefore he).link
  quiet := h.quiet

/-- **What is shown stays right** whatever a keeper does. -/
theorem Keeper.Shift.published (h : Shift l r l' r') (hl : l.Published) : l'.Published := by
  have hnone : ∀ {n : Nat} {P : Prop}, l.link? = some n → l.link? = none → P :=
    fun hlink hnone => by cases hlink.symm.trans hnone
  have hignored : l.shown = .connecting →
      (if (l.state.next? .opened).isSome then l.ignored else l.ignored ++ [.opened]) = [] := by
    intro hconnecting
    rw [hl.state, hconnecting]
    exact hl.ignored
  have hhonest := h.honest hl.honest
  cases h with
  | settles n _ hlink h =>
    cases h with
    | stays rest hprobes heq =>
      refine ⟨hhonest.state, ?_, ?_, hhonest.link, ?_⟩
      · rw [heq]
        exact hl.ignored
      · rw [heq, hl.outbox, hlink]
      · rw [heq]
        nofun
    | falls heq => rw [heq]; exact hl.tornDown
  | dials hclosed => exact hl.event (by rw [hclosed]; nofun) (by rw [hclosed]; rfl)
  | parks hclosed => exact hl.event (by rw [hclosed]; nofun) (by rw [hclosed]; rfl)
  | finishes hclosed => exact hl.tornDown
  | fails hconnecting => exact hl.event (by rw [hconnecting]; nofun) (by rw [hconnecting]; rfl)
  | opens n hconnecting =>
    exact ⟨hhonest.state, hignored hconnecting, ⟨fun _ => rfl, fun _ => rfl⟩, hhonest.link, nofun⟩
  | crashes hconnecting =>
    obtain ⟨hsize, hqueue, -⟩ :=
      hl.quiet (Ledger.link?_of_shown hl.link (by rw [hconnecting]; nofun))
    exact ⟨hhonest.state, hignored hconnecting, ⟨nofun, nofun⟩, hhonest.link,
      fun _ => ⟨hsize, hqueue, rfl⟩⟩
  | sends n m rest hlink houtbox =>
    exact ⟨hl.state, hl.ignored, by simp [hlink], hl.link, hnone hlink⟩
  | tells n purpose? m hpurpose hm => exact hl
  | puts n b => exact hl
  | probes n hlink => exact ⟨hl.state, hl.ignored, hl.outbox, hl.link, hnone hlink⟩
  | hears n m queueEmptied hlink hm =>
    exact ⟨hl.state, hl.ignored, hl.outbox, hl.link, hnone hlink⟩
  | hearsProbe n m w hlink hkind hw hprobe =>
    exact ⟨hl.state, hl.ignored, hl.outbox, hl.link, hnone hlink⟩
  | accepts n m w hlink hkind hw hprobe =>
    exact ⟨hl.state, hl.ignored, hl.outbox, hl.link, hnone hlink⟩

/-- A request that is withdrawn was there only with a socket. -/
theorem Ledger.Published.withdraw (h : l.Published) (id : UInt64) : (l.withdraw id).Published := by
  refine ⟨h.state, h.ignored, h.outbox, h.link, fun hshown => ?_⟩
  obtain ⟨hsize, hrest⟩ := h.quiet hshown
  refine ⟨?_, hrest⟩
  have hentries : l.pending.receivers.entries = [] := List.length_eq_zero_iff.1 hsize
  show (l.pending.receivers.entries.filter _).length = 0
  rw [hentries]
  rfl

/-- A request that is submitted to an open socket waits. -/
theorem Ledger.Published.enqueue (h : l.Published) (hopen : l.outbox.isSome = true) (m : Message) :
    (l.register.enqueue m).Published := by
  refine ⟨h.state, h.ignored, ?_, h.link, fun hnone => ?_⟩
  swap
  · have hlink : l.link?.isSome = true := h.outbox.1 hopen
    rw [show l.link? = none from hnone] at hlink
    cases hlink
  show (l.outbox.map (· ++ [m])).isSome = true ↔ _
  rw [Option.isSome_map]
  exact h.outbox

/-- A request that is submitted without an open socket leaves nothing. -/
theorem Ledger.Published.refuse (h : l.Published) :
    (l.register.withdraw l.nextId).Published := by
  refine ⟨h.state, h.ignored, h.outbox, h.link, fun hshown => ?_⟩
  obtain ⟨hsize, hrest⟩ := h.quiet hshown
  refine ⟨?_, hrest⟩
  have hentries : l.pending.receivers.entries = [] := List.length_eq_zero_iff.1 hsize
  show ((l.pending.receivers.insert l.nextId l.nextId).erase l.nextId).entries.length = 0
  rw [Table.entries_erase_insert]
  show (l.pending.receivers.entries.filter _).length = 0
  rw [hentries]
  rfl

/-! ## What the record tells -/

/-- The record tells what the ledger is made of. -/
structure Record.Sound (r : Record) (l : Ledger) : Prop where
  drawn : l.pending.drawn = UInt64.ofNat r.issued.length
  /-- the ids are the numbers from one on -/
  ids : ∀ (p : Nat) (i : Issue), r.issued[p]? = some i → i.id = UInt64.ofNat (p + 1)
  /-- what was written and what waits was submitted, in this order and on this link -/
  order : (r.spoken ++ l.waiting).Sublist r.submitted
  probes : ∀ id ∈ l.probes, ∃ i ∈ r.issued, i.caller? = none ∧ i.id = id
  /-- a request that was written is a call's, or a probe -/
  said : ∀ s ∈ r.said, ∀ q, s.message.request = some q →
    s.purpose? = some .request ∨ ∃ i ∈ r.issued, i.caller? = none ∧ i.request = q
  replies : ∀ id outcome, l.replies.get? id = some outcome → ∃ i ∈ r.issued, i.id = id
  receivers : ∀ id receiver, l.pending.receivers.get? id = some receiver →
    receiver = id ∧ ∃ i ∈ r.issued, i.id = id

namespace Record

theorem spoken_say_request (r : Record) (n : Nat) (m : Message) :
    (r.say ⟨n, some .request, m⟩).spoken =
      r.spoken ++ [m].filterMap fun m =>
        if m.length ≤ Frame.maxLength then some (n, m) else none := by
  by_cases hfit : m.length ≤ Frame.maxLength
  · simp [spoken, say, hfit]
  · simp [spoken, say, hfit]

theorem spoken_say_of_ne (r : Record) (s : Said) (h : s.purpose? ≠ some .request) :
    (r.say s).spoken = r.spoken := by
  by_cases hfit : s.message.length ≤ Frame.maxLength
  · simp [spoken, say, hfit, h]
  · simp [spoken, say, hfit]

theorem mem_say {r : Record} {s s' : Said} (h : s' ∈ (r.say s).said) : s' ∈ r.said ∨ s' = s := by
  rcases List.mem_append.1 h with h | h
  · exact .inl h
  · exact .inr (List.mem_singleton.1 (List.mem_filter.1 h).1)

/-- The next id is the number of the next issue. -/
theorem Sound.nextId (h : r.Sound l) : l.nextId = UInt64.ofNat (r.issued.length + 1) := by
  show l.pending.drawn + 1 = _
  rw [h.drawn]
  exact (UInt64.ofNat_add _ _).symm

/-- One more id is drawn. -/
theorem Sound.ids_issue (h : r.Sound l) {i : Issue} (hid : i.id = l.nextId) (p : Nat) (i' : Issue)
    (hp : (r.issue i).issued[p]? = some i') : i'.id = UInt64.ofNat (p + 1) := by
  rcases getElem?_append_cases hp with ⟨rfl, rfl⟩ | hp
  · rw [hid, h.nextId]
  · exact h.ids p i' hp

/-- **No id was drawn twice**, as long as the ids last. -/
theorem Sound.place_unique (h : r.Sound l) (hfits : r.issued.length ≤ UInt64.size) {p p' : Nat}
    {i i' : Issue} (hp : r.issued[p]? = some i) (hp' : r.issued[p']? = some i')
    (hid : i.id = i'.id) : p = p' := by
  have hlt : p < r.issued.length := (List.getElem?_eq_some_iff.1 hp).1
  have hlt' : p' < r.issued.length := (List.getElem?_eq_some_iff.1 hp').1
  rw [h.ids p i hp, h.ids p' i' hp'] at hid
  have hnat := congrArg UInt64.toNat hid
  have hsize : UInt64.size = 2 ^ 64 := rfl
  simp only [UInt64.toNat_ofNat'] at hnat
  omega

theorem Sound.unique (h : r.Sound l) (hfits : r.issued.length ≤ UInt64.size) {i i' : Issue}
    (hi : i ∈ r.issued) (hi' : i' ∈ r.issued) (hid : i.id = i'.id) : i = i' := by
  obtain ⟨p, hp⟩ := List.mem_iff_getElem?.1 hi
  obtain ⟨p', hp'⟩ := List.mem_iff_getElem?.1 hi'
  obtain rfl := h.place_unique hfits hp hp' hid
  exact Option.some.inj (hp.symm.trans hp')

/-- The next id was not drawn before. -/
theorem Sound.ne_nextId (h : r.Sound l) (hfits : r.issued.length < UInt64.size) {i : Issue}
    (hi : i ∈ r.issued) : i.id ≠ l.nextId := by
  obtain ⟨p, hp⟩ := List.mem_iff_getElem?.1 hi
  have hlt : p < r.issued.length := (List.getElem?_eq_some_iff.1 hp).1
  rw [h.ids p i hp, h.nextId]
  intro hid
  have hnat := congrArg UInt64.toNat hid
  have hsize : UInt64.size = 2 ^ 64 := rfl
  simp only [UInt64.toNat_ofNat'] at hnat
  omega

theorem submitted_issue (r : Record) (i : Issue) :
    r.submitted.Sublist (r.issue i).submitted := by
  rw [submitted, submitted, issue, List.filterMap_append]
  exact List.sublist_append_left _ _

/-- An id is drawn for whatever request. -/
theorem Sound.draw (h : r.Sound l) {i : Issue} (hid : i.id = l.nextId) :
    (r.issue i).Sound { l with pending := l.pending.draw.2 } := by
  have hmem : ∀ {P : Issue → Prop}, (∃ i' ∈ r.issued, P i') → ∃ i' ∈ (r.issue i).issued, P i' :=
    fun ⟨i', hi', h'⟩ => ⟨i', List.mem_append_left _ hi', h'⟩
  refine ⟨?_, h.ids_issue hid, h.order.trans (r.submitted_issue i),
    fun id hprobe => hmem (h.probes id hprobe), fun s hs q hq => (h.said s hs q hq).imp_right hmem,
    fun id outcome hget => hmem (h.replies id outcome hget), fun id receiver hget => ?_⟩
  · show l.nextId = UInt64.ofNat (r.issued ++ [i]).length
    rw [h.nextId, List.length_append]
    rfl
  · exact (h.receivers id receiver hget).imp_right hmem

theorem issue_mem (r : Record) (i : Issue) : i ∈ (r.issue i).issued :=
  List.mem_append_right _ (List.mem_singleton.2 rfl)

/-- **The record of a torn down socket** still tells what the ledger is made of. -/
theorem Sound.tornDown (h : r.Sound l) : r.Sound l.tornDown where
  drawn := h.drawn
  ids := h.ids
  order := by
    have hspoken := (List.sublist_append_left r.spoken l.waiting).trans h.order
    show (r.spoken ++ []).Sublist _
    rwa [List.append_nil]
  probes := nofun
  said := h.said
  replies := by
    intro id outcome hget
    have hget : (l.pending.receivers.values.foldl
        (fun t id => t.insert id (Except.error (ChatError.connectionClosed l.socket)))
        l.replies).get? id = some outcome := hget
    rw [Table.get?_foldl_insert] at hget
    split at hget
    · next hmem =>
      obtain ⟨key, hkey⟩ := (Table.mem_values_iff _ id).1 hmem
      obtain ⟨rfl, hi⟩ := h.receivers key id hkey
      exact hi
    · exact h.replies id outcome hget
  receivers := by
    intro id receiver hget
    cases hget

end Record

namespace Ledger

/-- Nobody but the one who waits under its id gets a response. -/
theorem replies_accept (hr : r.Sound l) (w : Wire.Response) (id : UInt64) :
    (l.accept w).replies.get? id =
      if id = w.id ∧ (l.pending.receivers.get? id).isSome = true then some (.ofWire w)
      else l.replies.get? id := by
  have hreplies : (l.accept w).replies = (l.pending.receivers.get? w.id).elim l.replies
      fun id => l.replies.insert id (.ofWire w) := by
    rw [accept, Pending.complete]
    cases l.pending.receivers.get? w.id <;> rfl
  rw [hreplies]
  cases hwaits : l.pending.receivers.get? w.id with
  | none =>
    rw [Option.elim_none]
    by_cases heq : id = w.id
    · simp [heq, hwaits]
    · simp [heq]
  | some receiver =>
    obtain ⟨rfl, -⟩ := hr.receivers w.id receiver hwaits
    rw [Option.elim_some, Table.get?_insert]
    by_cases heq : id = w.id
    · simp [heq, hwaits]
    · simp [heq]

theorem receivers_accept (l : Ledger) (w : Wire.Response) (id : UInt64) :
    (l.accept w).pending.receivers.get? id =
      if id = w.id then none else l.pending.receivers.get? id :=
  Table.get?_erase _ _ _

end Ledger

/-- **The record goes on telling** what the ledger is made of, whatever a keeper does. -/
theorem Keeper.Shift.sound (h : Shift l r l' r') (hr : r.Sound l) : r'.Sound l' := by
  cases h with
  | settles n _ hlink h =>
    cases h with
    | stays rest hprobes heq =>
      rw [heq]
      refine ⟨hr.drawn, hr.ids, ?_, fun id hid => hr.probes id (hprobes id hid), hr.said,
        hr.replies, hr.receivers⟩
      have horder := hr.order
      rw [Ledger.waiting, hlink] at horder
      exact horder
    | falls heq => rw [heq]; exact hr.tornDown
  | dials hclosed =>
    exact ⟨hr.drawn, hr.ids, hr.order, hr.probes, hr.said, hr.replies, hr.receivers⟩
  | parks hclosed =>
    exact ⟨hr.drawn, hr.ids, hr.order, hr.probes, hr.said, hr.replies, hr.receivers⟩
  | finishes hclosed => exact hr.tornDown
  | fails hconnecting =>
    exact ⟨hr.drawn, hr.ids, hr.order, hr.probes, hr.said, hr.replies, hr.receivers⟩
  | opens | crashes =>
    refine ⟨hr.drawn, hr.ids, ?_, nofun, hr.said, hr.replies, hr.receivers⟩
    exact ((List.Sublist.refl r.spoken).append (List.nil_sublist l.waiting)).trans hr.order
  | sends n m rest hlink houtbox =>
    refine ⟨hr.drawn, hr.ids, ?_, hr.probes, ?_, hr.replies, hr.receivers⟩
    · have horder := hr.order
      simp only [Ledger.waiting, hlink, houtbox, Option.getD_some, List.map_cons] at horder
      simp only [Ledger.waiting, hlink, Option.getD_some, Record.spoken_say_request]
      refine List.Sublist.trans ?_ horder
      rw [List.append_assoc]
      refine (List.Sublist.refl r.spoken).append ?_
      by_cases hfit : m.length ≤ Frame.maxLength
      · simp [hfit]
      · simp [hfit]
    · intro s hs q hq
      rcases Record.mem_say hs with hs | rfl
      · exact hr.said s hs q hq
      · exact .inl rfl
  | tells n purpose? m hpurpose hm =>
    refine ⟨hr.drawn, hr.ids, ?_, hr.probes, ?_, hr.replies, hr.receivers⟩
    · rw [Record.spoken_say_of_ne _ _ hpurpose]
      exact hr.order
    · intro s hs q hq
      rcases Record.mem_say hs with hs | rfl
      · exact hr.said s hs q hq
      · rw [hm] at hq
        cases hq
  | puts n b => exact ⟨hr.drawn, hr.ids, hr.order, hr.probes, hr.said, hr.replies, hr.receivers⟩
  | probes n hlink =>
    have hdrawn := hr.draw (i := .probe l.pending.draw.1 n r.heard.length) rfl
    refine ⟨hdrawn.drawn, hdrawn.ids, ?_, ?_, ?_, hdrawn.replies, hdrawn.receivers⟩
    · rw [Record.spoken_say_of_ne _ _ (by simp)]
      exact hdrawn.order
    · intro id hid
      rw [List.mem_singleton.1 hid]
      exact ⟨_, r.issue_mem _, rfl, rfl⟩
    · intro s hs q hq
      rcases Record.mem_say hs with hs | rfl
      · exact hdrawn.said s hs q hq
      · cases hq
        exact .inr ⟨_, r.issue_mem _, rfl, rfl⟩
  | hears n m queueEmptied hlink hm =>
    exact ⟨hr.drawn, hr.ids, hr.order, hr.probes, hr.said, hr.replies, hr.receivers⟩
  | hearsProbe n m w hlink hkind hw hprobe =>
    exact ⟨hr.drawn, hr.ids, hr.order, nofun, hr.said, hr.replies, hr.receivers⟩
  | accepts n m w hlink hkind hw hprobe =>
    refine ⟨hr.drawn, hr.ids, hr.order, hr.probes, hr.said, ?_, ?_⟩
    · intro id outcome hget
      rw [Ledger.replies_accept hr] at hget
      split at hget
      · next hwaits =>
        obtain ⟨receiver, hreceiver⟩ := Option.isSome_iff_exists.1 hwaits.2
        exact (hr.receivers id receiver hreceiver).2
      · exact hr.replies id outcome hget
    · intro id receiver hget
      rw [Ledger.receivers_accept] at hget
      split at hget
      · cases hget
      · exact hr.receivers id receiver hget

/-! ## Who waits -/

/-- A message that was heard is a response to an issue, on the socket that it was submitted on. -/
def Heard.Answers (h : Heard) (i : Issue) : Prop :=
  i.link? = some h.link ∧ h.message.kindOf = .response ∧
    ∃ w, h.message.response = some w ∧ w.id = i.id

/-- The first response to an issue is the one heard at a place. -/
structure Record.Decides (r : Record) (i : Issue) (p : Nat) (w : Wire.Response) : Prop where
  since : i.since ≤ p
  answers : ∃ h, r.heard[p]? = some h ∧ h.Answers i ∧ h.message.response = some w
  first : ∀ q h, i.since ≤ q → q < p → r.heard[q]? = some h → ¬ h.Answers i

/-- How it stands with a request that somebody waits for. -/
inductive Issue.Stands (i : Issue) (l : Ledger) (r : Record) : Prop
  /-- its socket is open, and no response to it was heard -/
  | waits (hwaits : l.pending.receivers.get? i.id = some i.id)
    (hreply : l.replies.get? i.id = none) (hlink : i.link? = l.link?)
    (hopen : i.link?.isSome = true) (hsince : i.since ≤ r.heard.length)
    (hheard : ∀ q h, i.since ≤ q → r.heard[q]? = some h → ¬ h.Answers i)
  /-- its socket was closed before a response to it was heard -/
  | closed (hwaits : l.pending.receivers.get? i.id = none)
    (hreply : l.replies.get? i.id = some (.error (.connectionClosed l.socket)))
  /-- the first response to it was heard -/
  | answered (p : Nat) (w : Wire.Response) (hwaits : l.pending.receivers.get? i.id = none)
    (hreply : l.replies.get? i.id = some (.ofWire w)) (hdecides : r.Decides i p w)

/-- What was heard first stays the first. -/
theorem Record.Decides.mono {i : Issue} {p : Nat} {w : Wire.Response} (h : r.Decides i p w)
    (hheard : r.heard <+: r'.heard) : r'.Decides i p w := by
  obtain ⟨more, hmore⟩ := hheard
  obtain ⟨h', hp, hanswers, hw⟩ := h.answers
  have hlt : p < r.heard.length := (List.getElem?_eq_some_iff.1 hp).1
  refine ⟨h.since, ⟨h', ?_, hanswers, hw⟩, fun q h'' hq hqp hh => h.first q h'' hq hqp ?_⟩
  · rw [← hmore, List.getElem?_append_left hlt]
    exact hp
  · rwa [← hmore, List.getElem?_append_left (Nat.lt_trans hqp hlt)] at hh

/-- How it stands with a request depends only on what is known under its id. -/
theorem Issue.Stands.of_eq {i : Issue} (h : i.Stands l r)
    (hwaits : l'.pending.receivers.get? i.id = l.pending.receivers.get? i.id)
    (hreply : l'.replies.get? i.id = l.replies.get? i.id) (hsocket : l'.socket = l.socket)
    (hlink : i.link?.isSome = true → i.link? = l.link? → l'.link? = l.link?)
    (hheard : r'.heard = r.heard ∨
      ∃ h, r'.heard = r.heard ++ [h] ∧ (i.link? = l.link? → ¬ h.Answers i)) :
    i.Stands l' r' := by
  have hsub : r.heard <+: r'.heard := by
    rcases hheard with heq | ⟨h', heq, -⟩
    · exact heq ▸ List.prefix_rfl
    · exact heq ▸ List.prefix_append _ _
  cases h with
  | waits hwaits₀ hreply₀ hlink₀ hopen hsince hunheard =>
    refine .waits (hwaits.trans hwaits₀) (hreply.trans hreply₀)
      (hlink₀.trans (hlink hopen hlink₀).symm) hopen (Nat.le_trans hsince hsub.length_le) ?_
    intro q h' hq hh
    rcases hheard with heq | ⟨h'', heq, hno⟩
    · exact hunheard q h' hq (heq ▸ hh)
    · rw [heq] at hh
      rcases getElem?_append_cases hh with ⟨-, rfl⟩ | hh
      · exact hno hlink₀
      · exact hunheard q h' hq hh
  | closed hwaits₀ hreply₀ =>
    refine .closed (hwaits.trans hwaits₀) (hreply.trans ?_)
    rw [hsocket]
    exact hreply₀
  | answered p w hwaits₀ hreply₀ hdecides =>
    exact .answered p w (hwaits.trans hwaits₀) (hreply.trans hreply₀) (hdecides.mono hsub)

/-- Whoever waited for a socket that is torn down is told so. -/
theorem Issue.Stands.tornDown {i : Issue} (h : i.Stands l r) (hr : r.Sound l) :
    i.Stands l.tornDown r := by
  have hreplies : l.tornDown.replies.get? i.id =
      if i.id ∈ l.pending.receivers.values then some (.error (.connectionClosed l.socket))
      else l.replies.get? i.id := Table.get?_foldl_insert _ _ _ _
  have hmem : i.id ∈ l.pending.receivers.values ↔
      l.pending.receivers.get? i.id = some i.id := by
    rw [Table.mem_values_iff]
    constructor
    · rintro ⟨key, hkey⟩
      obtain ⟨rfl, -⟩ := hr.receivers key i.id hkey
      exact hkey
    · exact fun h => ⟨_, h⟩
  cases h with
  | waits hwaits hreply hlink hopen hsince hheard =>
    exact .closed rfl (by rw [hreplies, if_pos (hmem.2 hwaits)]; rfl)
  | closed hwaits hreply =>
    have hno : i.id ∉ l.pending.receivers.values := by rw [hmem, hwaits]; nofun
    exact .closed rfl (by rw [hreplies, if_neg hno]; exact hreply)
  | answered p w hwaits hreply hdecides =>
    have hno : i.id ∉ l.pending.receivers.values := by rw [hmem, hwaits]; nofun
    exact .answered p w rfl (by rw [hreplies, if_neg hno]; exact hreply) hdecides

/-- A response is taken by whoever waits for it on its socket, and by nobody else. -/
theorem Issue.Stands.accept {i : Issue} (h : i.Stands l r) (hr : r.Sound l) {n : Nat} {m : Message}
    {w : Wire.Response} (hlink : l.link? = some n) (hkind : m.kindOf = .response)
    (hw : m.response = some w) : i.Stands (l.accept w) (r.hear ⟨n, m⟩) := by
  by_cases heq : i.id = w.id
  · have hwaits' : (l.accept w).pending.receivers.get? i.id = none := by
      rw [Ledger.receivers_accept, if_pos heq]
    have hkept : l.pending.receivers.get? i.id = none →
        (l.accept w).replies.get? i.id = l.replies.get? i.id := by
      intro hnone
      rw [Ledger.replies_accept hr, hnone, if_neg (by simp)]
    cases h with
    | waits hwaits hreply hissue hopen hsince hheard =>
      refine .answered r.heard.length w hwaits' ?_ ⟨hsince, ⟨⟨n, m⟩, ?_, ?_, hw⟩, ?_⟩
      · rw [Ledger.replies_accept hr, hwaits, if_pos ⟨heq, rfl⟩]
      · exact List.getElem?_concat_length
      · exact ⟨hissue.trans hlink, hkind, w, hw, heq.symm⟩
      · intro q h' hq hlt hh
        rw [Record.hear, List.getElem?_append_left hlt] at hh
        exact hheard q h' hq hh
    | closed hwaits hreply => exact .closed hwaits' ((hkept hwaits).trans hreply)
    | answered p w' hwaits hreply hdecides =>
      exact .answered p w' hwaits' ((hkept hwaits).trans hreply)
        (hdecides.mono (List.prefix_append _ _))
  · refine h.of_eq ?_ ?_ rfl (fun _ _ => rfl) (.inr ⟨⟨n, m⟩, rfl, fun _ hanswers => ?_⟩)
    · rw [Ledger.receivers_accept, if_neg heq]
    · rw [Ledger.replies_accept hr, if_neg fun h => heq h.1]
    · obtain ⟨-, -, w', hw', hid⟩ := hanswers
      rw [hw] at hw'
      cases hw'
      exact heq hid.symm

/-- **It stands with a request in one of the three ways** whatever a keeper does, as long as the ids
last. -/
theorem Issue.Stands.shift {i : Issue} (h : i.Stands l r) (hl : l.Published) (hr : r.Sound l)
    (hi : i ∈ r.issued) (hcaller : i.caller?.isSome = true) (hfits : r.issued.length ≤ UInt64.size)
    (hshift : Keeper.Shift l r l' r') : i.Stands l' r' := by
  have hclosed : l.shown = .connecting → l.link? = none := fun hconnecting =>
    Ledger.link?_of_shown hl.link (by rw [hconnecting]; nofun)
  cases hshift with
  | settles n _ hlink hsettles =>
    cases hsettles with
    | stays rest hprobes heq =>
      rw [heq]
      exact h.of_eq rfl rfl rfl (fun _ _ => hlink.symm) (.inl rfl)
    | falls heq => rw [heq]; exact h.tornDown hr
  | dials hclosed => exact h.of_eq rfl rfl rfl (fun _ _ => rfl) (.inl rfl)
  | parks hclosed => exact h.of_eq rfl rfl rfl (fun _ _ => rfl) (.inl rfl)
  | finishes hclosed => exact h.tornDown hr
  | fails hconnecting => exact h.of_eq rfl rfl rfl (fun _ _ => rfl) (.inl rfl)
  | opens n hconnecting =>
    refine h.of_eq rfl rfl rfl (fun hopen hlink => ?_) (.inl rfl)
    rw [hlink, hclosed hconnecting] at hopen
    cases hopen
  | crashes hconnecting =>
    exact h.of_eq rfl rfl rfl (fun _ _ => (hclosed hconnecting).symm) (.inl rfl)
  | sends n m rest hlink houtbox => exact h.of_eq rfl rfl rfl (fun _ _ => rfl) (.inl rfl)
  | probes n hlink => exact h.of_eq rfl rfl rfl (fun _ _ => rfl) (.inl rfl)
  | tells n purpose? m hpurpose hm => exact h.of_eq rfl rfl rfl (fun _ _ => rfl) (.inl rfl)
  | puts n b => exact h.of_eq rfl rfl rfl (fun _ _ => rfl) (.inl rfl)
  | hears n m queueEmptied hlink hm =>
    refine h.of_eq rfl rfl rfl (fun _ _ => rfl) (.inr ⟨⟨n, m⟩, rfl, fun _ hanswers => ?_⟩)
    obtain ⟨-, hkind, w, hw, -⟩ := hanswers
    rw [hm hkind] at hw
    cases hw
  | hearsProbe n m w hlink hkind hw hprobe =>
    refine h.of_eq rfl rfl rfl (fun _ _ => rfl) (.inr ⟨⟨n, m⟩, rfl, fun _ hanswers => ?_⟩)
    obtain ⟨-, -, w', hw', hid⟩ := hanswers
    rw [hw] at hw'
    cases hw'
    obtain ⟨i', hi', hnone, hid'⟩ := hr.probes w.id (by rw [hprobe]; exact List.mem_singleton.2 rfl)
    rw [hr.unique hfits hi hi' (hid.symm.trans hid'.symm), hnone] at hcaller
    cases hcaller
  | accepts n m w hlink hkind hw hprobe => exact h.accept hr hlink hkind hw

/-- What a keeper does not undo: ids that were drawn, messages that were heard, and that somebody no
longer waits. All ids that it draws are for probes. -/
structure Keeper.Grows (l : Ledger) (r : Record) (l' : Ledger) (r' : Record) : Prop where
  issued : ∃ more, r'.issued = r.issued ++ more ∧ ∀ i ∈ more, i.caller? = none
  heard : r.heard <+: r'.heard
  receivers : ∀ id receiver, l'.pending.receivers.get? id = some receiver →
    l.pending.receivers.get? id = some receiver

theorem Keeper.Grows.refl (l : Ledger) (r : Record) : Grows l r l r :=
  ⟨⟨[], (List.append_nil _).symm, nofun⟩, List.prefix_rfl, fun _ _ h => h⟩

theorem Keeper.Grows.trans {l'' : Ledger} {r'' : Record} (h : Grows l r l' r')
    (h' : Grows l' r' l'' r'') : Grows l r l'' r'' := by
  obtain ⟨more, hmore, hnone⟩ := h.issued
  obtain ⟨more', hmore', hnone'⟩ := h'.issued
  refine ⟨⟨more ++ more', by rw [hmore', hmore, List.append_assoc], fun i hi => ?_⟩,
    h.heard.trans h'.heard, fun id receiver hget => h.receivers id receiver
      (h'.receivers id receiver hget)⟩
  rcases List.mem_append.1 hi with hi | hi
  · exact hnone i hi
  · exact hnone' i hi

theorem Keeper.Shift.grows (h : Shift l r l' r') : Grows l r l' r' := by
  have hsame : ∃ more, r.issued = r.issued ++ more ∧ ∀ i ∈ more, i.caller? = none :=
    (Grows.refl l r).issued
  have hgone : ∀ id receiver, l.tornDown.pending.receivers.get? id = some receiver →
      l.pending.receivers.get? id = some receiver := nofun
  cases h with
  | settles n _ hlink h =>
    cases h with
    | stays rest hprobes heq => rw [heq]; exact ⟨hsame, List.prefix_rfl, fun _ _ h => h⟩
    | falls heq => rw [heq]; exact ⟨hsame, List.prefix_rfl, hgone⟩
  | finishes hclosed => exact ⟨hsame, List.prefix_rfl, hgone⟩
  | probes n hlink =>
    exact ⟨⟨[_], rfl, fun i hi => by rw [List.mem_singleton.1 hi]; rfl⟩, List.prefix_rfl,
      fun _ _ h => h⟩
  | hears n m queueEmptied hlink hm =>
    exact ⟨hsame, List.prefix_append _ _, fun _ _ h => h⟩
  | hearsProbe n m w hlink hkind hw hprobe =>
    exact ⟨hsame, List.prefix_append _ _, fun _ _ h => h⟩
  | accepts n m w hlink hkind hw hprobe =>
    refine ⟨hsame, List.prefix_append _ _, fun id receiver hget => ?_⟩
    rw [Ledger.receivers_accept] at hget
    split at hget
    · cases hget
    · exact hget
  | dials | parks | fails | opens | crashes | sends | tells | puts =>
    exact ⟨hsame, List.prefix_rfl, fun _ _ h => h⟩

/-- **Requests that somebody waits for**, after all that a keeper does in a step. -/
theorem Keeper.Shifts.keeps (h : Shifts l r l' r') (hl : l.Published) (hr : r.Sound l) :
    Grows l r l' r' ∧ (r'.issued.length ≤ UInt64.size →
      ∀ i ∈ r.issued, i.caller?.isSome = true → i.Stands l r → i.Stands l' r') := by
  refine (h.induct (P := fun l' r' => l'.Published ∧ r'.Sound l' ∧ Grows l r l' r' ∧
    (r'.issued.length ≤ UInt64.size →
      ∀ i ∈ r.issued, i.caller?.isSome = true → i.Stands l r → i.Stands l' r'))
    ⟨hl, hr, .refl l r, fun _ i _ _ h => h⟩ ?_).2.2
  intro l₁ l₂ r₁ r₂ hshift ⟨hl₁, hr₁, hgrows, hstands⟩
  refine ⟨hshift.published hl₁, hshift.sound hr₁, hgrows.trans hshift.grows, ?_⟩
  intro hfits i hi hcaller h
  obtain ⟨more, hmore, -⟩ := hgrows.issued
  obtain ⟨more', hmore', -⟩ := hshift.grows.issued
  have hfits₁ : r₁.issued.length ≤ UInt64.size := by
    refine Nat.le_trans ?_ hfits
    rw [hmore', List.length_append]
    exact Nat.le_add_right _ _
  exact (hstands hfits₁ i hi hcaller h).shift hl₁ hr₁
    (by rw [hmore]; exact List.mem_append_left _ hi) hcaller hfits₁ hshift

/-! ## What calls do -/

theorem Ledger.receivers_register (l : Ledger) (id : UInt64) :
    l.register.pending.receivers.get? id =
      if id = l.nextId then some l.nextId else l.pending.receivers.get? id :=
  Table.get?_insert _ _ _ _

theorem Ledger.receivers_withdraw (l : Ledger) (id id' : UInt64) :
    (l.withdraw id).pending.receivers.get? id' =
      if id' = id then none else l.pending.receivers.get? id' :=
  Table.get?_erase _ _ _

theorem Ledger.replies_withdraw (l : Ledger) (id id' : UInt64) :
    (l.withdraw id).replies.get? id' = if id' = id then none else l.replies.get? id' :=
  Table.get?_erase _ _ _

/-- Somebody waits under a new id. -/
theorem Record.Sound.register (h : r.Sound l) {i : Issue} (hid : i.id = l.nextId) :
    (r.issue i).Sound l.register := by
  have hdrawn := h.draw hid
  refine ⟨hdrawn.drawn, hdrawn.ids, hdrawn.order, hdrawn.probes, hdrawn.said, hdrawn.replies, ?_⟩
  intro id receiver hget
  rw [Ledger.receivers_register] at hget
  split at hget
  · next heq =>
    exact ⟨(Option.some.inj hget).symm.trans heq.symm, i, r.issue_mem i, hid.trans heq.symm⟩
  · exact hdrawn.receivers id receiver hget

/-- A request that is submitted to an open socket is to be written after those that wait. -/
theorem Record.Sound.enqueue (h : r.Sound l) {i : Issue} {n j : Nat} (hid : i.id = l.nextId)
    (hlink : l.link? = some n) (hissue : i.link? = l.link?) (hcaller : i.caller? = some j)
    (hopen : l.outbox.isSome = true) :
    (r.issue i).Sound (l.register.enqueue (.ofRequest i.request)) := by
  have hregistered := h.register hid
  refine ⟨hregistered.drawn, hregistered.ids, ?_, hregistered.probes, hregistered.said,
    hregistered.replies, hregistered.receivers⟩
  obtain ⟨queue, hqueue⟩ := Option.isSome_iff_exists.1 hopen
  have hwaiting : (l.register.enqueue (.ofRequest i.request)).waiting =
      l.waiting ++ [(n, .ofRequest i.request)] := by
    simp [Ledger.waiting, Ledger.enqueue, Ledger.register, hlink, hqueue]
  have hsubmitted : (r.issue i).submitted = r.submitted ++ [(n, .ofRequest i.request)] := by
    simp [submitted, issue, hcaller, hissue.trans hlink]
  show (r.spoken ++ _).Sublist _
  rw [hwaiting, hsubmitted, ← List.append_assoc]
  exact h.order.append (List.Sublist.refl _)

/-- What is withdrawn was there. -/
theorem Record.Sound.withdraw (h : r.Sound l) (id : UInt64) : r.Sound (l.withdraw id) := by
  refine ⟨h.drawn, h.ids, h.order, h.probes, h.said, ?_, ?_⟩
  · intro id' outcome hget
    rw [Ledger.replies_withdraw] at hget
    split at hget
    · cases hget
    · exact h.replies id' outcome hget
  · intro id' receiver hget
    rw [Ledger.receivers_withdraw] at hget
    split at hget
    · cases hget
    · exact h.receivers id' receiver hget

end ChatSockets
