import ChatSockets.Proofs.Exchange.Sockets

/-!
# What holds of an application and the server at any time

The sockets that an application has at the server are its own: it works on no others, and nobody
else writes on them. Each is tied to the record of the application (`Visit.Tied`), and every
response that the application ever heard was given by an execution. `Exchange.Inv` says so, and
every move keeps it: those of the server and of the links (`Inv.server`), those that touch no link
(`Inv.quiet`), and the steps of the keepers (`Inv.keeper`, `Inv.connect`).
-/

namespace ChatSockets

open Wire Keeper

/-! ## What a move does to the sockets at the server -/

namespace Network

variable {w w' : Network}

/-- What a move does to the sockets of a network without clients, with the execution that it is. -/
inductive Does (w : Network) : Option Execution → Network → Prop
  | stays (w' : Network) (hvisits : w'.visits = w.visits) : Does w none w'
  | stranger (v : Visit) (w' : Network) (howner : v.owner = none)
    (hvisits : w'.visits = w.visits ++ [v]) : Does w none w'
  /-- something happens on the link of a socket, and nothing to the bytes if it is a client's -/
  | link (n : Nat) (v v' : Visit) (w' : Network) (hv : w.visits[n]? = some v)
    (hvisits : w'.visits = w.visits.set n v') (howner : v'.owner = v.owner)
    (hsession : v'.session = v.session)
    (hheld : v.owner ≠ none →
      v'.far.up.held ++ v'.near.up.held = v.far.up.held ++ v.near.up.held ∧
        v'.near.down.held ++ v'.far.down.held = v.near.down.held ++ v.far.down.held) :
    Does w none w'
  | session (n : Nat) (v : Visit) (branch : Session.Branch) (now wallClock : Nat) (w' : Network)
    (hv : w.visits[n]? = some v)
    (hvisits : w'.visits = w.visits.set n
      (v.after (Session.step branch now wallClock ⟨v.session, w.mailroom, v.far⟩))) :
    Does w (v.execution? w.mailroom n branch now wallClock) w'

/-- What happens on a link is done at one of the sockets. -/
theorem does_atVisit (w : Network) (n : Nat) {f : Visit → Visit}
    (h : ∀ v, (f v).owner = v.owner ∧ (f v).session = v.session ∧ (v.owner ≠ none →
      (f v).far.up.held ++ (f v).near.up.held = v.far.up.held ++ v.near.up.held ∧
        (f v).near.down.held ++ (f v).far.down.held = v.near.down.held ++ v.far.down.held)) :
    w.Does none (w.atVisit n f) := by
  unfold atVisit
  split
  · exact .stays w rfl
  · next v hv => exact .link n v (f v) _ hv rfl (h v).1 (h v).2.1 (h v).2.2

/-- **A move of a network without clients does one of these things.** -/
theorem make_does (hclients : w.clients = []) (move : Move) :
    w.Does (w.execution? move) (w.make move) ∧ (w.make move).clients = [] := by
  have hnone : ∀ k : Nat, w.clients[k]? = none := fun k => by rw [hclients, List.getElem?_nil]
  have hclient : ∀ (k : Nat) (f : Connection → Connection), w.atClient k f = w := by
    intro k f
    rw [atClient, hnone]
  have hvisit : ∀ (n : Nat) (f : Visit → Visit), (w.atVisit n f).clients = [] := by
    intro n f
    unfold atVisit
    split <;> exact hclients
  cases move with
  | accept login body now =>
    unfold Network.make
    dsimp only
    split <;> exact ⟨.stays _ rfl, hclients⟩
  | post n =>
    unfold Network.make
    dsimp only
    split <;> exact ⟨.stays _ rfl, hclients⟩
  | session n branch now wallClock =>
    change w.Does _ (w.stepSession n branch now wallClock) ∧
      (w.stepSession n branch now wallClock).clients = []
    cases hv : w.visits[n]? with
    | none =>
      rw [execution?, hv, stepSession_of_none hv]
      exact ⟨.stays w rfl, hclients⟩
    | some v =>
      rw [execution?, hv, stepSession_of_some hv]
      exact ⟨.session n v branch now wallClock _ hv rfl, hclients⟩
  | keeper k branch stores now =>
    rw [Network.make, stepKeeper, hnone]
    exact ⟨.stays w rfl, hclients⟩
  | atHead k stores now attempt =>
    rw [Network.make, hclient]
    exact ⟨.stays w rfl, hclients⟩
  | connectFailed k stores now e =>
    rw [Network.make, hclient]
    exact ⟨.stays w rfl, hclients⟩
  | connected k stores now id =>
    rw [Network.make, connect, hnone]
    exact ⟨.stays w rfl, hclients⟩
  | application k op =>
    rw [Network.make, hclient]
    exact ⟨.stays w rfl, hclients⟩
  | stranger id now => exact ⟨.stranger _ _ rfl rfl, hclients⟩
  | speaks n b =>
    refine ⟨w.does_atVisit n fun v => ?_, hvisit n _⟩
    unfold Visit.speaks
    split
    · exact ⟨rfl, rfl, fun _ => ⟨rfl, rfl⟩⟩
    · next hnone =>
      refine ⟨rfl, rfl, fun howned => absurd ?_ howned⟩
      simpa using hnone
  | carry n up down =>
    exact ⟨w.does_atVisit n fun v => ⟨rfl, rfl, fun _ => v.carry_held up down⟩, hvisit n _⟩
  | closeNear n => exact ⟨w.does_atVisit n fun v => ⟨rfl, rfl, fun _ => ⟨rfl, rfl⟩⟩, hvisit n _⟩
  | closeFar n => exact ⟨w.does_atVisit n fun v => ⟨rfl, rfl, fun _ => ⟨rfl, rfl⟩⟩, hvisit n _⟩

end Network

namespace Exchange

variable {x : Exchange} {k : SocketKind}

/-- What holds of an application and the server at any time. -/
structure Inv (x : Exchange) : Prop where
  clients : x.network.clients = []
  wired : x.app.Wired
  opened : x.app.opened ≤ x.network.visits.length
  linked : ∀ k n, linkOf? (x.app.connection k) = some n → x.Owns k n
  issued : ∀ k, ∀ i ∈ (x.app.records k).issued, ∀ n, i.link? = some n → x.Owns k n
  executed : ∀ e ∈ x.executed, e.visit < x.network.visits.length ∧ e.Right
  heard : ∀ k, ∀ h ∈ (x.app.records k).heard, ∀ w, h.message.response = some w →
    Given x.executed h.link w
  tied : ∀ (k : SocketKind) (n : Nat) (v : Visit), x.network.visits[n]? = some v →
    v.owner = some k.number → v.Tied n (x.app.connection k) (x.app.records k) x.executed

/-! ## The server -/

/-- **A move of the server, of a link or of a stranger.** -/
theorem Inv.server (h : x.Inv) {w : Network} {e? : Option Execution}
    (hdoes : x.network.Does e? w) (hclients : w.clients = []) (hgrown : x.network.Grown w) :
    Inv { x with network := w, executed := x.executed ++ e?.toList } := by
  have howns : ∀ {k n}, x.Owns k n →
      Owns { x with network := w, executed := x.executed ++ e?.toList } k n := hgrown.owned
  refine ⟨hclients, h.wired, Nat.le_trans h.opened hgrown.length_visits,
    fun k n hlinked => howns (h.linked k n hlinked),
    fun k i hi n hn => howns (h.issued k i hi n hn), fun e he => ?_,
    fun k heard hheard w hw => (h.heard k heard hheard w hw).append _, ?_⟩
  · rcases List.mem_append.1 he with he | he
    · exact ⟨Nat.lt_of_lt_of_le (h.executed e he).1 hgrown.length_visits, (h.executed e he).2⟩
    · cases hdoes with
      | stays => cases he
      | stranger => cases he
      | link => cases he
      | session n v branch now wallClock _ hv =>
        obtain ⟨rfl, -, -, hright⟩ := Visit.execution?_eq_some (Option.mem_toList.1 he)
        exact ⟨Nat.lt_of_lt_of_le (List.getElem?_eq_some_iff.1 hv).1 hgrown.length_visits, hright⟩
  · intro k n u hu howner
    cases hdoes with
    | stays _ hvisits =>
      rw [show w.visits = _ from hvisits] at hu
      exact (h.tied k n u hu howner).elsewhere nofun
    | stranger v _ hnone hvisits =>
      rw [show w.visits = _ from hvisits] at hu
      rcases getElem?_append_cases hu with ⟨-, rfl⟩ | hu
      · rw [hnone] at howner
        cases howner
      · exact (h.tied k n u hu howner).elsewhere nofun
    | link j v v' _ hv hvisits howner' hsession hheld =>
      rw [show w.visits = _ from hvisits] at hu
      rcases getElem?_set_cases hu with ⟨rfl, rfl⟩ | ⟨-, hu⟩
      · rw [howner'] at howner
        obtain ⟨hup, hdown⟩ := hheld (by rw [howner]; nofun)
        exact ((h.tied k n v hv howner).of_link hsession hup hdown).elsewhere nofun
      · exact (h.tied k n u hu howner).elsewhere nofun
    | session j v branch now wallClock _ hv hvisits =>
      rw [show w.visits = _ from hvisits] at hu
      rcases getElem?_set_cases hu with ⟨rfl, rfl⟩ | ⟨hne, hu⟩
      · exact (h.tied k n v hv howner).session x.network.mailroom branch now wallClock
      · refine (h.tied k n u hu howner).elsewhere fun e he => ?_
        rw [(Visit.execution?_eq_some (Option.mem_toList.1 he)).1]
        exact Ne.symm hne

/-! ## The application -/

/-- The application makes a move that touches no link. -/
theorem Inv.quiet (h : x.Inv) {a : Application} (hquiet : x.app.Quiet a) :
    Inv { x with app := a } := by
  have hlinked : ∀ k n, linkOf? (a.connection k) = some n →
      linkOf? (x.app.connection k) = some n := by
    intro k n hn
    rcases hquiet.phase k with hphase | hnone
    · rwa [linkOf?_eq, hphase] at hn
    · rw [hnone] at hn
      cases hn
  refine ⟨h.clients, h.wired.quiet hquiet, hquiet.opened ▸ h.opened,
    fun k n hn => h.linked k n (hlinked k n hn), fun k i hi n hn => ?_, h.executed,
    fun k => (hquiet.heard k).symm ▸ h.heard k, fun k n v hv howner => ?_⟩
  · rcases hquiet.issued k i hi with hold | hlink
    · exact h.issued k i hold n hn
    · exact h.linked k n (Phase.link?_of_openLink? (hlink.symm.trans hn))
  · refine (h.tied k n v hv howner).of_phase ?_ ?_
    · rw [Record.saidOn, hquiet.said]
      rfl
    · exact (hquiet.phase k).imp_right fun hnone => by simp [hnone]

/-- A socket of the application went on with a link of its own; nothing else has changed. -/
structure GoesOn (x : Exchange) (k : SocketKind) (n : Nat) (x' : Exchange) : Prop where
  grown : x.network.Grown x'.network
  clients : x'.network.clients = x.network.clients
  executed : x'.executed = x.executed
  visits : ∀ m, m ≠ n → x'.network.visits[m]? = x.network.visits[m]?
  owns : x'.Owns k n
  connection : ∀ j, j ≠ k → x'.app.connection j = x.app.connection j
  records : ∀ j, j ≠ k → x'.app.records j = x.app.records j
  link : ∀ m, linkOf? (x'.app.connection k) = some m → m = n
  issued : ∀ i ∈ (x'.app.records k).issued, i ∈ (x.app.records k).issued ∨ i.link? = some n
  said : ∀ m, m ≠ n → (x'.app.records k).saidOn m = (x.app.records k).saidOn m
  heard : ∀ h ∈ (x'.app.records k).heard, h ∈ (x.app.records k).heard ∨
    ∀ w, h.message.response = some w → Given x.executed h.link w
  tied : ∀ v, x'.network.visits[n]? = some v →
    v.Tied n (x'.app.connection k) (x'.app.records k) x.executed

/-- What holds is kept by a socket that goes on. -/
theorem Inv.goesOn (h : x.Inv) {x' : Exchange} {n : Nat} (hgoes : x.GoesOn k n x')
    (hwired : x'.app.Wired) (hopened : x'.app.opened ≤ x'.network.visits.length) : x'.Inv := by
  have howns : ∀ {j m}, x.Owns j m → x'.Owns j m := hgoes.grown.owned
  refine ⟨hgoes.clients.trans h.clients, hwired, hopened, fun j m hm => ?_, fun j i hi m hm => ?_,
    fun e he => ?_, fun j heard hheard w hw => ?_, fun j m v hv howner => ?_⟩
  · by_cases heq : j = k
    · subst heq
      rw [hgoes.link m hm]
      exact hgoes.owns
    · rw [hgoes.connection j heq] at hm
      exact howns (h.linked j m hm)
  · by_cases heq : j = k
    · subst heq
      rcases hgoes.issued i hi with hold | hlink
      · exact howns (h.issued j i hold m hm)
      · obtain rfl := Option.some.inj (hlink.symm.trans hm)
        exact hgoes.owns
    · rw [hgoes.records j heq] at hi
      exact howns (h.issued j i hi m hm)
  · rw [hgoes.executed] at he
    exact ⟨Nat.lt_of_lt_of_le (h.executed e he).1 hgoes.grown.length_visits, (h.executed e he).2⟩
  · rw [hgoes.executed]
    by_cases heq : j = k
    · subst heq
      rcases hgoes.heard heard hheard with hold | hgiven
      · exact h.heard j heard hold w hw
      · exact hgiven w hw
    · rw [hgoes.records j heq] at hheard
      exact h.heard j heard hheard w hw
  · rw [hgoes.executed]
    by_cases hlink : m = n
    · subst hlink
      -- the link belongs to no other socket
      obtain ⟨u, hu, howner'⟩ := hgoes.owns
      rw [hv] at hu
      cases hu
      obtain rfl := SocketKind.number_inj (Option.some.inj (howner.symm.trans howner'))
      exact hgoes.tied v hv
    · rw [hgoes.visits m hlink] at hv
      have htied := h.tied j m v hv howner
      by_cases heq : j = k
      · subst heq
        exact htied.of_phase (hgoes.said m hlink) (.inr fun hm => hlink (hgoes.link m hm))
      · rw [hgoes.connection j heq, hgoes.records j heq]
        exact htied

/-- **A step of a keeper.** -/
theorem Inv.keeper (h : x.Inv) (k : SocketKind) (branch : Branch) (stores : Stores) (now : Nat) :
    (x.stepKeeper k branch stores now).Inv := by
  unfold stepKeeper
  cases hlink : linkOf? (x.app.connection k) with
  | none => exact h.quiet (x.app.quiet_keeper hlink branch stores now {})
  | some n =>
    obtain ⟨v, hv, howner⟩ := h.linked k n hlink
    dsimp only
    rw [hv]
    dsimp only
    have hacts := step_acts branch stores now ⟨x.app.connection k, v.near, none⟩
    have hwired := h.wired.make (.keeper k branch stores now v.near)
    have happ : x.app.make (.keeper k branch stores now v.near) =
        x.app.turn k (some n) (utters branch now ⟨x.app.connection k, v.near, none⟩)
          (hears ⟨x.app.connection k, v.near, none⟩) ⟨x.app.connection k, v.near, none⟩
          (step branch stores now ⟨x.app.connection k, v.near, none⟩) := by
      rw [← hlink]
      rfl
    rw [happ] at hwired ⊢
    generalize utters branch now ⟨x.app.connection k, v.near, none⟩ = uttered at *
    generalize hears ⟨x.app.connection k, v.near, none⟩ = heard at *
    generalize step branch stores now ⟨x.app.connection k, v.near, none⟩ = t' at *
    have hgrown := Network.Grown.set_visit { v with near := t'.link } hv rfl fun _ hl => hl
    have hsaid := (x.app.records k).saidOn_after n uttered heard
    have hself : (x.app.turn k (some n) uttered heard ⟨x.app.connection k, v.near, none⟩
        t').records k = ((x.app.records k).after n uttered heard).put n
          (Application.gained v.near.up t'.link.up) := Function.update_self ..
    have hconnection : (x.app.turn k (some n) uttered heard ⟨x.app.connection k, v.near, none⟩
        t').connection k = t'.connection := (Sockets.get_set ..).trans (if_pos rfl)
    obtain ⟨htied, hgiven⟩ := (h.tied k n v hv howner).keeper hlink
      ((hsaid n).trans (by rw [if_pos rfl])) hacts
    refine h.goesOn (n := n) ⟨hgrown, rfl, rfl, fun m hm => List.getElem?_set_ne (Ne.symm hm),
      hgrown.owned ⟨v, hv, howner⟩, fun j hj => (Sockets.get_set ..).trans (if_neg hj),
      fun j hj => Function.update_of_ne hj _ _, fun m hm => ?_, fun i hi => ?_, fun m hm => ?_,
      fun h' hh' => ?_, fun u hu => ?_⟩ hwired (by rw [List.length_set]; exact h.opened)
    · rw [hconnection] at hm
      rcases (hacts.keeps hlink).link with hnone | hsame
      · rw [hnone] at hm
        cases hm
      · exact Option.some.inj (hm.symm.trans hsame)
    · rw [hself] at hi
      exact Record.mem_issued_after hi
    · rw [hself]
      exact (hsaid m).trans (by rw [if_neg hm, List.append_nil])
    · rw [hself] at hh'
      have hmem : h' ∈ (x.app.records k).heard ++ heard.toList.map (Heard.mk n) :=
        (x.app.records k).heard_after n uttered heard ▸ hh'
      refine (List.mem_append.1 hmem).imp_right fun hnew => ?_
      obtain ⟨m, hm, rfl⟩ := List.mem_map.1 hnew
      exact hgiven m (Option.mem_toList.1 hm)
    · rw [getElem?_set_of_some hv] at hu
      cases hu
      rw [hconnection, hself]
      exact htied.of_phase rfl (.inl rfl)

/-- **A keeper gets a new link.** -/
theorem Inv.connect (h : x.Inv) (k : SocketKind) (stores : Stores) (now : Nat) (id : UInt64) :
    (x.connect k stores now id).Inv := by
  unfold Exchange.connect
  split
  · next hello deadline attempt hphase =>
    have hwired := h.wired.make (.connected k stores now
      (x.network.visits.length - x.app.opened) {})
    have happ : x.app.make (.connected k stores now (x.network.visits.length - x.app.opened) {}) =
        x.app.connect k x.network.visits.length hello ⟨x.app.connection k, {}, none⟩
          (connected stores now x.network.visits.length hello ⟨x.app.connection k, {}, none⟩) := by
      unfold Application.make
      dsimp only
      rw [hphase, Nat.add_sub_cancel' h.opened]
    dsimp only
    rw [happ] at hwired ⊢
    have hleaves := connected_leaves stores now x.network.visits.length hello
      ⟨x.app.connection k, {}, none⟩
    generalize connected stores now x.network.visits.length hello
      ⟨x.app.connection k, {}, none⟩ = t' at *
    let v : Visit := { session := .start id now, near := t'.link, owner := some k.number }
    let n := x.network.visits.length
    have hgrown := Network.Grown.append_visit x.network v
    have hv : (x.network.visits ++ [v])[n]? = some v := List.getElem?_concat_length
    have hsaid := (x.app.records k).saidOn_say ⟨n, none, .ofHandshake hello⟩
    have hself : (x.app.connect k n hello ⟨x.app.connection k, {}, none⟩ t').records k =
        ((x.app.records k).say ⟨n, none, .ofHandshake hello⟩).put n
          (Application.gained ({} : Link).up t'.link.up) := Function.update_self ..
    have hconnection : (x.app.connect k n hello ⟨x.app.connection k, {}, none⟩ t').connection k =
        t'.connection := (Sockets.get_set ..).trans (if_pos rfl)
    refine h.goesOn (n := n) ⟨hgrown, rfl, rfl, fun m hm => ?_, ⟨v, hv, rfl⟩,
      fun j hj => (Sockets.get_set ..).trans (if_neg hj), fun j hj => Function.update_of_ne hj _ _,
      fun m hm => ?_, fun i hi => ?_, fun m hm => ?_, fun h' hh' => ?_, fun u hu => ?_⟩ hwired
      (by rw [List.length_append]; exact Nat.le_refl _)
    · show (x.network.visits ++ [v])[m]? = x.network.visits[m]?
      rcases Nat.lt_or_gt_of_ne hm with hlt | hlt
      · exact List.getElem?_append_left hlt
      · rw [List.getElem?_eq_none (Nat.le_of_lt hlt), List.getElem?_eq_none]
        rw [List.length_append]
        exact hlt
    · rw [hconnection] at hm
      rcases hleaves.stays with ⟨hnone, -⟩ | ⟨hsame, -⟩
      · rw [hnone] at hm
        cases hm
      · exact Option.some.inj (hm.symm.trans hsame)
    · rw [hself] at hi
      exact .inl hi
    · rw [hself]
      exact (hsaid m).trans (by rw [if_neg hm, List.append_nil])
    · rw [hself] at hh'
      exact .inl hh'
    · obtain rfl := Option.some.inj (hv.symm.trans hu)
      rw [hconnection, hself]
      refine Visit.tied_connected id now k.number rfl hleaves ?_ fun e he =>
        Nat.ne_of_lt (h.executed e he).1
      -- nothing was said on a link with a new number
      exact (hsaid n).trans (by rw [if_pos rfl, ((h.wired k).fresh n h.opened).2]; rfl)
  · exact h

/-- **What holds of an application and the server** is kept by every move. -/
theorem Inv.make (h : x.Inv) (move : Move) : (x.make move).Inv := by
  cases move with
  | application m =>
    unfold Exchange.make
    dsimp only
    split
    · next hquiet => exact h.quiet (x.app.make_quiet hquiet)
    · exact h
  | keeper k branch stores now => exact h.keeper k branch stores now
  | connected k stores now id => exact h.connect k stores now id
  | server m =>
    obtain ⟨hdoes, hclients⟩ := Network.make_does h.clients m
    exact h.server hdoes hclients (.make x.network m)

theorem inv_start (config : ClientConfig) (accounts : Accounts) : (start config accounts).Inv := by
  have hlink : ∀ k n, linkOf? ((start config accounts).app.connection k) ≠ some n := by
    intro k n
    cases k <;> nofun
  exact ⟨rfl, Application.wired_start config, Nat.le_refl _, fun k n hn => absurd hn (hlink k n),
    fun _ _ => nofun, nofun, fun _ _ => nofun, fun _ _ _ => nofun⟩

/-- **It holds after any moves.** -/
theorem inv_makeAll (h : x.Inv) (moves : List Move) : (x.makeAll moves).Inv := by
  induction moves generalizing x with
  | nil => exact h
  | cons move rest ih => exact ih (h.make move)

end Exchange

end ChatSockets
