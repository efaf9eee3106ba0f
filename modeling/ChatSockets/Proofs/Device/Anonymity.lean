import ChatSockets.Proofs.Device.Mirror

/-!
# Anonymity

What is written for a request that is not to be linked to the account is written by the unidentified
socket alone, on links that begin with a handshake without a login (`Application.Wrote`,
`Device.Unsigned`). And the unidentified socket itself knows nothing of the account: of all that
happens to a device only some moves concern it (`Device.outward?`), these say nothing of what the
stores hold but whether the build has expired, and what the socket does is decided by them alone
(`Mirrors.trace_eq`). So it is the same in any two runs that agree on them, whatever the stores hold
and whatever the identified socket does; `unidentified_is_anonymous` says both.
-/

namespace ChatSockets

open Keeper Wire

namespace Application

variable {a b : Application} {j : Nat}

/-- The frame of a request that a call submitted was written on a link of a socket, at least its
first byte. -/
def Wrote (a : Application) (k : SocketKind) (n j : Nat) : Prop :=
  ∃ i ∈ (a.records k).issued, i.caller? = some j ∧ i.link? = some n ∧
    ⟨n, some .request, .ofRequest i.request⟩ ∈ (a.records k).said

/-- **Every frame of a request** is one that a call asked for, on this socket. -/
theorem wrote_of_said (ha : a.Sound) (hfaithful : a.Faithful) {k : SocketKind} {s : Said}
    (hs : s ∈ (a.records k).said) (hpurpose : s.purpose? = some .request) :
    ∃ j c r id, a.Wrote k s.link j ∧ a.callers[j]? = some c ∧ c.goal.asks? = some (k, r) ∧
      s.message = .ofRequest (r.toWire id) := by
  obtain ⟨i, hi, hcaller, hlink, hmessage⟩ := (ha.record k).submitted_of_said hs hpurpose
  obtain ⟨j, hj⟩ := Option.isSome_iff_exists.1 hcaller
  obtain ⟨c, r, hc, hasks, hrequest⟩ := hfaithful.issued k i j hi hj
  refine ⟨j, c, r, i.id, ⟨i, hi, hj, hlink, ?_⟩, hc, hasks, hrequest ▸ hmessage⟩
  obtain ⟨link, purpose?, message⟩ := s
  cases hpurpose
  cases hmessage
  exact hs

/-- What was written for a call was written on the socket that it asks for. -/
theorem Wrote.asks {k : SocketKind} {n : Nat} (h : a.Wrote k n j) (hfaithful : a.Faithful)
    {c : Caller} (hc : a.callers[j]? = some c) : ∃ r, c.goal.asks? = some (k, r) := by
  obtain ⟨i, hi, hj, -⟩ := h
  obtain ⟨c', r, hc', hasks, -⟩ := hfaithful.issued k i j hi hj
  rw [hc] at hc'
  cases hc'
  exact ⟨r, hasks⟩

/-- Whether a move can do anything to the unidentified socket, or makes a call. -/
def faces (a : Application) : Move → Bool
  | .call _ => true
  | .step j _ _ | .cancel j => (a.callers[j]?).any fun c => c.phase.concerns
  | move => move.socket? = some .unidentified

/-- A move without what it finds, and without the links of others. -/
def Move.plain : Move → Move
  | .connected k _ _ _ link => .connected k {} 0 0 link
  | move => move.finding {} 0

theorem Mirrors.refl (a : Application) : a.Mirrors a := ⟨Sockets.Mirrors.refl _, rfl, rfl⟩

theorem Mirrors.call (h : a.Mirrors b) (goal : Goal) :
    (a.make (.call goal)).Mirrors (b.make (.call goal)) := by
  refine ⟨h.sockets, ?_, h.streams⟩
  show (b.callers ++ _).map _ = (a.callers ++ _).map _
  rw [List.map_append, List.map_append, h.callers]

/-- The same moves face the unidentified socket of a mirror. -/
theorem Mirrors.faces_eq (h : a.Mirrors b) (move : Move) : a.faces move = b.faces move := by
  have hcall : ∀ (a : Application) (j : Nat), ((a.callers[j]?).any fun c => c.phase.concerns) =
      ((a.callers.map Caller.concern?)[j]?).any Option.isSome := by
    intro a j
    rw [List.getElem?_map, Option.any_map]
    refine congrArg ((a.callers[j]?).any ·) (funext fun c => ?_)
    show _ = c.phase.concern?.isSome
    unfold Call.Phase.concern?
    split <;> simp [*]
  cases move with
  | step j | cancel j =>
    rw [faces, faces, hcall, hcall, h.callers]
  | _ => rfl

/-- **A move that does not face the unidentified socket** leaves a mirror as it is. -/
theorem Mirrors.of_not_faces (h : a.Mirrors b) {move : Move} (hmove : a.faces move = false) :
    (a.make move).Mirrors b := by
  cases move with
  | call goal => cases hmove
  | step j stores now =>
    cases hj : a.callers[j]? with
    | none => simpa only [make, hj] using h
    | some c =>
      obtain ⟨goal, p⟩ := c
      have hp : p.concerns = false := by simpa [faces, hj] using hmove
      obtain ⟨hsockets, hp'⟩ := Call.step_apart hp a.sockets stores now
      simp only [make, hj]
      exact h.goOn_apart hj hp hsockets hp'
  | cancel j =>
    cases hj : a.callers[j]? with
    | none => simpa only [make, hj] using h
    | some c =>
      obtain ⟨goal, p⟩ := c
      have hp : p.concerns = false := by simpa [faces, hj] using hmove
      obtain ⟨hsockets, hp'⟩ := Call.cancel_apart hp a.sockets
      simp only [make, hj]
      exact h.goOn_apart hj hp hsockets hp'
  | operate k | atHead k | connectFailed k | connected k | keeper k =>
    cases k with
    | identified => exact h.elsewhere rfl
    | unidentified => cases hmove

end Application

namespace Device

variable {d e : Device} {move : Move}

/-- What a move has to do with the unidentified socket, without what it finds: a call is made, or
makes a step that can do something to the socket; the application or the keeper does something with
the socket; the build expires, or no longer; or time goes by. -/
def outward? (d : Device) : Move → Option Move
  | .act move => if d.app.faces move then some (.act move.plain) else none
  | .store stores =>
    if stores.expired = d.stores.expired then none else some (.store { expired := stores.expired })
  | .reregister _ => none
  | .wait ms => some (.wait ms)

/-- What some moves have to do with the unidentified socket. -/
def outwards (d : Device) : List Move → List Move
  | [] => []
  | move :: rest => (d.outward? move).toList ++ (d.make move).outwards rest

/-- What there is to know of the unidentified socket: all of its connection but the number of its
link, and the bytes that were put on each link that it has had. -/
structure View where
  connection : Connection
  streams : List ByteArray

/-- What there is to know of the unidentified socket now. -/
def view (d : Device) : View where
  connection := (d.connection .unidentified).relabel 0 (d.connection .unidentified).claimed
  streams := d.app.streams .unidentified

/-- What there was to know of the unidentified socket after each of some moves that has to do with
it. -/
def trace (d : Device) : List Move → List View
  | [] => []
  | move :: rest =>
    ((d.outward? move).map fun _ => (d.make move).view).toList ++ (d.make move).trace rest

/-! ## Two devices with the same unidentified socket -/

/-- The time is the same, the builds have expired or not, and the applications mirror each other. -/
structure Mirrors (d e : Device) : Prop where
  now : e.now = d.now
  expired : e.stores.expired = d.stores.expired
  app : d.app.Mirrors e.app

/-- What holds of a device at any time. -/
structure Lasting (d : Device) : Prop where
  watched : d.Watched
  wired : d.app.Wired
  linked : d.app.Linked
  faithful : d.app.Faithful

theorem Lasting.make (h : d.Lasting) (move : Move) : (d.make move).Lasting := by
  refine ⟨h.watched.make move, wired_make h.wired move, ?_, ?_⟩
  · rcases d.app_make move .unidentified with happ | ⟨move', happ, -⟩
    · exact happ ▸ h.linked
    · exact happ ▸ h.linked.make move'
  · rcases d.app_make move .unidentified with happ | ⟨move', happ, -⟩
    · exact happ ▸ h.faithful
    · exact happ ▸ h.faithful.make move'

theorem lasting_start (config : ClientConfig) (stores : Stores) : (start config stores).Lasting :=
  ⟨watched_start config stores, Application.wired_start config, Application.linked_start config,
    Application.faithful_start config⟩

theorem lasting_makeAll (h : d.Lasting) (moves : List Move) : (d.makeAll moves).Lasting := by
  induction moves generalizing d with
  | nil => exact h
  | cons move rest ih => exact ih (h.make move)

theorem mirrors_start (config : ClientConfig) (stores : Stores) :
    (start config stores).Mirrors (start config { expired := stores.expired }) :=
  ⟨rfl, rfl, .refl _⟩

/-- There is the same to know. -/
theorem Mirrors.view (h : d.Mirrors e) : e.view = d.view := by
  obtain ⟨n, hn⟩ := h.app.sockets
  have hconnection : e.connection .unidentified = (d.connection .unidentified).relabel n
      (d.connection .unidentified).claimed := hn
  rw [Device.view, Device.view, hconnection, Connection.relabel_relabel, h.app.streams]
  rfl

/-- The stores agree on the unidentified socket. -/
theorem Mirrors.forbids (h : d.Mirrors e) (hd : d.Watched) :
    e.stores.forbids (d.connection .unidentified).policy.socket =
      d.stores.forbids (d.connection .unidentified).policy.socket := by
  rw [(hd.socket .unidentified).2, Stores.forbids, Stores.forbids, h.expired]
  rfl

/-- **A move that has nothing to do with the unidentified socket** leaves a mirror as it is. -/
theorem Mirrors.of_outward?_eq_none (h : d.Mirrors e) (hmove : d.outward? move = none) :
    (d.make move).Mirrors e := by
  cases move with
  | act move =>
    have hfaces : d.app.faces (move.finding d.stores d.now) = false := by
      have hnot : d.app.faces move = false := by simpa [outward?] using hmove
      cases move with
      | operate k op => cases op <;> exact hnot
      | _ => exact hnot
    exact ⟨h.now, h.expired, h.app.of_not_faces hfaces⟩
  | store stores =>
    have hexpired : stores.expired = d.stores.expired := by simpa [outward?] using hmove
    exact ⟨h.now, h.expired.trans hexpired.symm, h.app⟩
  | reregister credentials =>
    have hcycle : Application.Move.socket? (.operate .identified .cycle) = some .identified := rfl
    exact ⟨h.now, h.expired, h.app.elsewhere hcycle⟩
  | wait ms => cases hmove

/-- A move of the application that faces the unidentified socket. -/
theorem Mirrors.act (h : d.Mirrors e) (hd : d.Lasting) (he : e.Lasting) {move : Application.Move}
    (hfaces : d.app.faces move = true) :
    (d.make (.act move)).Mirrors (e.make (.act move.plain)) := by
  have hforbids := h.forbids hd.watched
  refine ⟨h.now, h.expired, ?_⟩
  show (d.app.make (move.finding d.stores d.now)).Mirrors
    (e.app.make (move.plain.finding e.stores e.now))
  rw [h.now]
  cases move with
  | call goal => exact h.app.call goal
  | step j stores now =>
    cases hj : d.app.callers[j]? with
    | none => simp [Application.faces, hj] at hfaces
    | some c => exact h.app.step d.now hj (by simpa [Application.faces, hj] using hfaces) hforbids
  | cancel j =>
    cases hj : d.app.callers[j]? with
    | none => simp [Application.faces, hj] at hfaces
    | some c => exact h.app.cancel hj (by simpa [Application.faces, hj] using hfaces)
  | operate k op =>
    obtain rfl : k = .unidentified := Option.some.inj (of_decide_eq_true hfaces)
    cases op <;> exact h.app.operate _
  | atHead k stores now attempt =>
    obtain rfl : k = .unidentified := Option.some.inj (of_decide_eq_true hfaces)
    exact h.app.atHead attempt (hd.watched.socket .unidentified).1 hforbids
  | connectFailed k stores now error =>
    obtain rfl : k = .unidentified := Option.some.inj (of_decide_eq_true hfaces)
    exact h.app.connectFailed error hforbids
  | connected k stores now others link =>
    obtain rfl : k = .unidentified := Option.some.inj (of_decide_eq_true hfaces)
    exact h.app.connected ⟨hd.linked.each _, hd.wired⟩ ⟨he.linked.each _, he.wired⟩ others 0 link
      hforbids
  | keeper k branch stores now link =>
    obtain rfl : k = .unidentified := Option.some.inj (of_decide_eq_true hfaces)
    exact h.app.keeper (hd.linked.each _) (he.linked.each _) branch link hforbids

/-- **A move that has to do with the unidentified socket** does the same on both sides. -/
theorem Mirrors.of_outward?_eq_some (h : d.Mirrors e) (hd : d.Lasting) (he : e.Lasting)
    {move' : Move} (hmove : d.outward? move = some move') :
    (d.make move).Mirrors (e.make move') := by
  cases move with
  | act move =>
    by_cases hfaces : d.app.faces move = true
    · cases (if_pos hfaces).symm.trans hmove
      exact h.act hd he hfaces
    · cases (if_neg hfaces).symm.trans hmove
  | store stores =>
    by_cases hexpired : stores.expired = d.stores.expired
    · cases (if_pos hexpired).symm.trans hmove
    · cases (if_neg hexpired).symm.trans hmove
      exact ⟨h.now, rfl, h.app⟩
  | reregister credentials => cases hmove
  | wait ms =>
    cases hmove
    exact ⟨congrArg (· + ms) h.now, h.expired, h.app⟩

/-- What there is to know of the unidentified socket after each of some moves. -/
def views (e : Device) : List Move → List View
  | [] => []
  | move :: rest => (e.make move).view :: (e.make move).views rest

/-- **What there is to know of the unidentified socket** is decided by the moves that have to do
with it. -/
theorem Mirrors.trace_eq (h : d.Mirrors e) (hd : d.Lasting) (he : e.Lasting) (moves : List Move) :
    d.trace moves = e.views (d.outwards moves) := by
  induction moves generalizing d e with
  | nil => rfl
  | cons move rest ih =>
    cases hmove : d.outward? move with
    | none =>
      have hrest := ih (h.of_outward?_eq_none hmove) (hd.make move) he
      simpa [trace, outwards, hmove] using hrest
    | some move' =>
      have hmirrors := h.of_outward?_eq_some hd he hmove
      have hrest := ih hmirrors (hd.make move) (he.make move')
      simpa [trace, outwards, views, hmove, hmirrors.view] using hrest

/-- A move without the credentials that it brings. -/
def Move.blind : Move → Move
  | .store stores => .store { stores with credentials := none }
  | .reregister _ => .reregister none
  | move => move

/-- A move that differs only in the credentials has the same to do with the unidentified socket. -/
theorem Mirrors.outward?_eq {d' : Device} (h : d.Mirrors e) (h' : d'.Mirrors e) {move' : Move}
    (hmove : move'.blind = move.blind) : d'.outward? move' = d.outward? move := by
  cases move with
  | act move =>
    obtain rfl : move' = .act move := by cases move' <;> cases hmove; rfl
    rw [outward?, outward?, h'.app.faces_eq, h.app.faces_eq]
  | store stores =>
    obtain ⟨stores', rfl, hexpired⟩ : ∃ stores', move' = .store stores' ∧
        stores'.expired = stores.expired := by
      cases move' with
      | store stores' =>
        injection hmove with hstores
        injection hstores with _ hexpired
        exact ⟨stores', rfl, hexpired⟩
      | _ => cases hmove
    rw [outward?, outward?, hexpired, ← h.expired, ← h'.expired]
  | reregister credentials =>
    obtain ⟨credentials', rfl⟩ : ∃ credentials', move' = .reregister credentials' := by
      cases move' with
      | reregister credentials' => exact ⟨credentials', rfl⟩
      | _ => cases hmove
    rfl
  | wait ms =>
    obtain rfl : move' = .wait ms := by cases move' <;> cases hmove; rfl
    rfl

/-- **So do all moves of a run** in which nothing but the credentials differs. -/
theorem Mirrors.outwards_eq {d' : Device} (h : d.Mirrors e) (h' : d'.Mirrors e) (hd : d.Lasting)
    (hd' : d'.Lasting) (he : e.Lasting) {moves moves' : List Move}
    (hmoves : moves'.map Move.blind = moves.map Move.blind) :
    d'.outwards moves' = d.outwards moves := by
  induction moves generalizing d d' e moves' with
  | nil =>
    rw [List.map_eq_nil_iff.1 hmoves]
    rfl
  | cons move rest ih =>
    obtain ⟨move', rest', rfl, hmove, hrest⟩ := List.map_eq_cons_iff.1 hmoves
    have hsame := h.outward?_eq h' hmove
    rw [outwards, outwards, hsame]
    refine congrArg ((d.outward? move).toList ++ ·) ?_
    cases hout : d.outward? move with
    | none =>
      exact ih (h.of_outward?_eq_none hout) (h'.of_outward?_eq_none (hsame.trans hout))
        (hd.make move) (hd'.make move') he hrest
    | some outward =>
      exact ih (h.of_outward?_eq_some hd he hout)
        (h'.of_outward?_eq_some hd' he (hsame.trans hout)) (hd.make move) (hd'.make move')
        (he.make outward) hrest

/-- Other moves change nothing of it. -/
theorem view_make_of_outward?_eq_none (d : Device) (hmove : d.outward? move = none) :
    (d.make move).view = d.view := by
  have hself : d.Mirrors d := ⟨rfl, rfl, .refl _⟩
  exact (hself.of_outward?_eq_none hmove).view.symm

/-! ## Links that say nothing of the account -/

/-- A link of the unidentified socket says nothing of the account: it began with a handshake without
a login and a password, the bytes on it are the front of this handshake and of the messages after
it, and the identified socket put nothing on it. -/
structure Unsigned (d : Device) (n : Nat) : Prop where
  hello : ∃ hello rest more,
    (d.app.records .unidentified).saidOn n = .ofHandshake hello :: rest ∧ hello.Carries none ∧
      (d.app.records .unidentified).wire n ++ more = stream (.ofHandshake hello :: rest)
  apart : (d.app.records .identified).saidOn n = [] ∧ (d.app.records .identified).wire n = .empty

/-- **Every link of the unidentified socket is like that.** -/
theorem unsigned (config : ClientConfig) (stores : Stores) (moves : List Move) {n : Nat}
    (hn : n ∈ (((start config stores).makeAll moves).app.records .unidentified).links) :
    ((start config stores).makeAll moves).Unsigned n := by
  have hlasting := lasting_makeAll (lasting_start config stores) moves
  have hopened := (begun config stores moves .unidentified).opened n
  generalize (start config stores).makeAll moves = d at hn hlasting hopened
  refine ⟨?_, ?_⟩
  · obtain ⟨more, hmore, -⟩ := (hlasting.wired .unidentified).bytes n
    rcases hopened with hnil | ⟨hello, rest, hsaid, before, stores', now, others, link, after, -,
      ⟨before', _, _, _, _, _, -, hmay, -⟩, -⟩
    · obtain ⟨s, hs, rfl⟩ := List.mem_map.1 hn
      have hmem : s.message ∈ (d.app.records .unidentified).saidOn s.link :=
        List.mem_map_of_mem (List.mem_filter.2 ⟨List.mem_of_mem_filter hs, decide_eq_true rfl⟩)
      rw [hnil] at hmem
      cases hmem
    · exact ⟨hello, rest, more, hsaid, hmay.unidentified rfl, hsaid ▸ hmore⟩
  · have hnil : (d.app.records .identified).saidOn n = [] := by
      refine List.map_eq_nil_iff.2 (List.filter_eq_nil_iff.2 fun s hs hlink => ?_)
      obtain rfl := of_decide_eq_true hlink
      cases hlasting.linked.apart ((hlasting.linked.each .identified).said s hs) hn
    obtain ⟨more, hmore, -⟩ := (hlasting.wired .identified).bytes n
    rw [hnil] at hmore
    exact ⟨hnil, (ByteArray.append_eq_empty_iff.1 hmore).1⟩

/-- **The unidentified socket is anonymous**, in any run. Every frame of a request was written for a
call that asked for it on this socket. A frame of a call whose request is anonymous or needs no
authorization was written by the unidentified socket, on a link that says nothing of the account.
And two runs in which the build expires at the same times write the same bytes on the unidentified
socket and take it through the same states, if their moves are the same but for the credentials that
the stores hold, or if at least the same moves have to do with this socket; no other move changes
anything of it. -/
theorem unidentified_is_anonymous (config : ClientConfig) (stores : Stores) (moves : List Move) :
    let d := (start config stores).makeAll moves
    (∀ k s, s ∈ (d.app.records k).said → s.purpose? = some .request →
      ∃ j c r id, d.app.Wrote k s.link j ∧ d.app.callers[j]? = some c ∧
        c.goal.asks? = some (k, r) ∧ s.message = .ofRequest (r.toWire id)) ∧
    (∀ k n (j : Nat) r p, d.app.callers[j]? = some ⟨.request r, p⟩ →
      r.isAnonymous = true ∨ r.requiresAuthorization = false → d.app.Wrote k n j →
        k = .unidentified ∧ d.Unsigned n) ∧
    (∀ stores' moves', stores'.expired = stores.expired →
      moves'.map Move.blind = moves.map Move.blind ∨
        (start config stores').outwards moves' = (start config stores).outwards moves →
      (start config stores').trace moves' = (start config stores).trace moves) ∧
    ∀ move, d.outward? move = none → (d.make move).view = d.view := by
  intro d
  have hlasting : d.Lasting := lasting_makeAll (lasting_start config stores) moves
  refine ⟨fun k s hs hpurpose => ?_, fun k n j r p hj hr hwrote => ?_,
    fun stores' moves' hexpired hmoves => ?_, fun move hmove => ?_⟩
  · exact Application.wrote_of_said hlasting.watched.sound hlasting.faithful hs hpurpose
  · obtain ⟨r', hasks⟩ := hwrote.asks hlasting.faithful hj
    cases hasks
    have hroute : r.route = .unidentified := by
      unfold Request.route
      rcases hr with hr | hr <;> simp [hr]
    obtain ⟨i, -, -, -, hsaid⟩ := hwrote
    rw [hroute] at hsaid
    exact ⟨hroute, unsigned config stores moves ((hlasting.linked.each .unidentified).said _ hsaid)⟩
  · let e := start config { expired := stores.expired }
    have he : e.Lasting := lasting_start config _
    have hmirrors : (start config stores).Mirrors e := mirrors_start config stores
    have hmirrors' : (start config stores').Mirrors e :=
      ⟨rfl, hexpired.symm, .refl _⟩
    have houtwards :
        (start config stores').outwards moves' = (start config stores).outwards moves :=
      hmoves.elim (hmirrors.outwards_eq hmirrors' (lasting_start ..) (lasting_start ..) he) id
    rw [hmirrors'.trace_eq (lasting_start ..) he, hmirrors.trace_eq (lasting_start ..) he,
      houtwards]
  · exact d.view_make_of_outward?_eq_none hmove

/-- The unidentified socket is opened, and an anonymous request is made and written on it. -/
def whispering : List Move :=
  attending .unidentified ++ [.act (.call (.request (Request.get "/v1/key").anonymous)),
    .act (.step 0 {} 0), .act (.step 0 {} 0), .act (.keeper .unidentified .send {} 0 {})]

theorem anonymous_of_whispering :
    let moves := attending .identified ++ whispering
    let d := (start {} { credentials := some ⟨"alice", "secret"⟩ }).makeAll moves
    (∃ (n j : Nat) (r : Request) (p : Call.Phase), d.app.callers[j]? = some ⟨.request r, p⟩ ∧
      r.isAnonymous = true ∧ d.app.Wrote .unidentified n j ∧ d.Unsigned n) ∧
      (start {} {}).trace moves =
        (start {} { credentials := some ⟨"alice", "secret"⟩ }).trace moves := by
  intro moves d
  obtain ⟨hsaid, hwrote, htrace, -⟩ :=
    unidentified_is_anonymous {} { credentials := some ⟨"alice", "secret"⟩ } moves
  refine ⟨?_, htrace {} moves rfl (.inl rfl)⟩
  have hrequest : (d.app.records .unidentified).said.any
      (fun s => decide (s.purpose? = some .request)) = true := by decide +kernel
  have hanonymous : d.app.callers.all (fun c => match c.goal with
      | .request r => r.isAnonymous
      | _ => false) = true := by decide +kernel
  obtain ⟨s, hs, hpurpose⟩ := List.any_eq_true.1 hrequest
  obtain ⟨j, ⟨goal, p⟩, -, -, hwritten, hc, -⟩ :=
    hsaid .unidentified s hs (of_decide_eq_true hpurpose)
  have hgoal := List.all_eq_true.1 hanonymous _ (List.mem_of_getElem? hc)
  cases goal with
  | request r =>
    exact ⟨s.link, j, r, p, hc, hgoal, hwritten,
      (hwrote .unidentified s.link j r p hc (.inl hgoal) hwritten).2⟩
  | _ => cases hgoal

end Device

end ChatSockets
