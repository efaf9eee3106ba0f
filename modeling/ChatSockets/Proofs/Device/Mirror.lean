import ChatSockets.Proofs.Application.Callers
import ChatSockets.Proofs.Device.Links
import ChatSockets.Proofs.Socket.Mirror

/-!
# The unidentified socket beside any identified one

Two applications mirror each other (`Application.Mirrors`) if their unidentified sockets differ at
most by the numbers of their links, the same bytes were put on these links, and the calls that can
do something to the socket are at the same places. A move that is about the identified socket alone
changes one of the two applications and leaves them mirrors (`Mirrors.elsewhere`,
`Mirrors.goOn_apart`). Any other move, made by both, keeps them mirrors as long as their stores
agree on whether the unidentified socket is forbidden: there is a lemma for each kind of move.
-/

namespace ChatSockets

open Keeper Wire

/-- Where a call is, if its next step can do anything to the unidentified socket. -/
def Caller.concern? (c : Caller) : Option Call.Phase := c.phase.concern?

namespace Application

/-- What is outside of the unidentified socket makes no difference: the connections are the same but
for the numbers of their links, the calls that can do something to them are at the same places, and
the same bytes were put on the links. -/
structure Mirrors (a b : Application) : Prop where
  sockets : ∃ n, a.sockets.Mirrors n b.sockets
  callers : b.callers.map Caller.concern? = a.callers.map Caller.concern?
  streams : b.streams .unidentified = a.streams .unidentified

variable {a b : Application} {j : Nat}

theorem streams_goOn (a : Application) (j : Nat) (goal : Goal)
    (submitted : Option (SocketKind × Request)) (after : Call.Phase × Sockets) (k : SocketKind) :
    (a.goOn j goal submitted after).streams k = a.streams k := by
  cases submitted with
  | none => rfl
  | some x =>
    obtain ⟨k', r⟩ := x
    by_cases hk : k = k'
    · subst hk
      have hrecord := a.records_goOn_self (k := k) j goal r after
      exact streams_of_eq (by rw [hrecord]; rfl) (by rw [hrecord]; rfl)
    · have hrecord := a.records_goOn_of_ne j goal r after hk
      exact streams_of_eq (congrArg Record.said hrecord) (congrArg Record.wire hrecord)

/-- A call that can do something to the unidentified socket is at the same place on the other side.
-/
theorem Mirrors.caller (h : a.Mirrors b) {goal : Goal} {p : Call.Phase}
    (hj : a.callers[j]? = some ⟨goal, p⟩) (hp : p.concerns = true) :
    ∃ goal', b.callers[j]? = some ⟨goal', p⟩ := by
  have hmap : (b.callers.map Caller.concern?)[j]? = some (some p) := by
    rw [h.callers, List.getElem?_map, hj]
    exact congrArg some (Call.Phase.concern?_eq_some_iff.2 ⟨hp, rfl⟩)
  rw [List.getElem?_map] at hmap
  obtain ⟨⟨goal', q⟩, hc, hq⟩ := Option.map_eq_some_iff.1 hmap
  obtain ⟨-, rfl⟩ := Call.Phase.concern?_eq_some_iff.1 hq
  exact ⟨goal', hc⟩

/-- A call goes on, on both sides. -/
theorem Mirrors.goOn (h : a.Mirrors b) {goal goal' : Goal} {p q : Call.Phase} {s t : Sockets}
    {submitted submitted' : Option (SocketKind × Request)} {n : Nat} (hsockets : s.Mirrors n t)
    (hphase : p.concern? = q.concern?) :
    (a.goOn j goal submitted (p, s)).Mirrors (b.goOn j goal' submitted' (q, t)) := by
  refine ⟨⟨n, hsockets⟩, ?_, ?_⟩
  · show (b.callers.set j _).map _ = (a.callers.set j _).map _
    rw [List.map_set, List.map_set, h.callers]
    exact congrArg _ hphase.symm
  · rw [streams_goOn, streams_goOn]
    exact h.streams

/-- A call goes on that can do nothing to the unidentified socket. -/
theorem Mirrors.goOn_apart (h : a.Mirrors b) {goal : Goal} {p p' : Call.Phase} {s : Sockets}
    {submitted : Option (SocketKind × Request)} (hj : a.callers[j]? = some ⟨goal, p⟩)
    (hp : p.concerns = false) (hsockets : s.unidentified = a.sockets.unidentified)
    (hp' : p'.concerns = false) : (a.goOn j goal submitted (p', s)).Mirrors b := by
  obtain ⟨n, hn⟩ := h.sockets
  refine ⟨⟨n, ?_⟩, ?_, ?_⟩
  · show b.sockets.unidentified = s.unidentified.relabel n s.unidentified.claimed
    rw [hsockets]
    exact hn
  · have hnone : (a.callers.map Caller.concern?)[j]? = some none := by
      rw [List.getElem?_map, hj]
      exact congrArg some (Call.Phase.concern?_of_apart hp)
    obtain ⟨hlt, hget⟩ := List.getElem?_eq_some_iff.1 hnone
    show b.callers.map _ = (a.callers.set j _).map _
    rw [List.map_set, show Caller.concern? ⟨goal, p'⟩ = none from Call.Phase.concern?_of_apart hp',
      ← hget, List.set_getElem_self]
    exact h.callers
  · rw [streams_goOn]
    exact h.streams

/-- **A call makes a step**, on both sides if it can do something to the unidentified socket. -/
theorem Mirrors.step (h : a.Mirrors b) {goal : Goal} {p : Call.Phase} {stores stores' : Stores}
    (now : Nat) (hj : a.callers[j]? = some ⟨goal, p⟩) (hp : p.concerns = true)
    (hforbids : stores'.forbids (a.connection .unidentified).policy.socket =
      stores.forbids (a.connection .unidentified).policy.socket) :
    (a.make (.step j stores now)).Mirrors (b.make (.step j stores' now)) := by
  obtain ⟨n, hn⟩ := h.sockets
  obtain ⟨goal', hj'⟩ := h.caller hj hp
  obtain ⟨hsockets, hphase⟩ := Call.step_mirrors now hn hp hforbids
  simp only [make, hj, hj']
  exact h.goOn hsockets hphase

theorem Mirrors.cancel (h : a.Mirrors b) {goal : Goal} {p : Call.Phase}
    (hj : a.callers[j]? = some ⟨goal, p⟩) (hp : p.concerns = true) :
    (a.make (.cancel j)).Mirrors (b.make (.cancel j)) := by
  obtain ⟨n, hn⟩ := h.sockets
  obtain ⟨goal', hj'⟩ := h.caller hj hp
  obtain ⟨hsockets, hphase⟩ := Call.cancel_mirrors hn p
  simp only [make, hj, hj']
  exact h.goOn hsockets hphase

/-! ## What the keepers do -/

/-- The socket that a move is about, if it is about none of the calls. -/
def Move.socket? : Move → Option SocketKind
  | .operate k _ | .atHead k _ _ _ | .connectFailed k _ _ _ | .connected k _ _ _ _
  | .keeper k _ _ _ _ => some k
  | .call _ | .step .. | .cancel _ => none

/-- A move that is about one socket leaves the other one, and its record, as they are. -/
theorem make_elsewhere {move : Move} {k i : SocketKind} (h : move.socket? = some i) (hk : k ≠ i) :
    (a.make move).connection k = a.connection k ∧ (a.make move).records k = a.records k := by
  have hmodify : ∀ f, (a.modify i f).connection k = a.connection k := fun f =>
    (Sockets.get_modify ..).trans (if_neg hk)
  cases move with
  | call | step | cancel => cases h
  | operate | atHead | connectFailed =>
    cases h
    unfold make
    dsimp only
    split
    · first | exact ⟨rfl, rfl⟩ | exact ⟨hmodify _, rfl⟩
    · first | exact ⟨rfl, rfl⟩ | exact ⟨hmodify _, rfl⟩
  | connected =>
    cases h
    unfold make
    dsimp only
    split
    · exact ⟨(Sockets.get_set ..).trans (if_neg hk), Function.update_of_ne hk _ _⟩
    · exact ⟨rfl, rfl⟩
  | keeper =>
    cases h
    exact ⟨(Sockets.get_set ..).trans (if_neg hk), a.records_turn_of_ne _ _ _ _ _ hk⟩

/-- A move that is about the identified socket alone. -/
theorem Mirrors.elsewhere (h : a.Mirrors b) {move : Move}
    (hmove : move.socket? = some .identified) : (a.make move).Mirrors b := by
  obtain ⟨n, hn⟩ := h.sockets
  obtain ⟨hconnection, hrecord⟩ := make_elsewhere (a := a) (k := .unidentified) hmove nofun
  have hcall : move.ofCall = false := by cases move <;> first | rfl | cases hmove
  refine ⟨⟨n, ?_⟩, ?_, ?_⟩
  · show b.connection .unidentified =
      ((a.make move).connection .unidentified).relabel n
        ((a.make move).connection .unidentified).claimed
    rw [hconnection]
    exact hn
  · rw [callers_make a hcall]
    exact h.callers
  · have hstreams : (a.make move).streams .unidentified = a.streams .unidentified :=
      streams_of_eq (congrArg Record.said hrecord) (congrArg Record.wire hrecord)
    exact h.streams.trans hstreams.symm

/-- A change of the unidentified socket, on both sides. -/
theorem Mirrors.modify (h : a.Mirrors b) {f g : Connection → Connection} {n : Nat}
    (hfg : g (b.connection .unidentified) =
      (f (a.connection .unidentified)).relabel n (f (a.connection .unidentified)).claimed) :
    (a.modify .unidentified f).Mirrors (b.modify .unidentified g) :=
  ⟨⟨n, hfg⟩, h.callers, h.streams⟩

/-- What an application does outside of its calls has nothing to do with the link. -/
theorem perform_relabel (c : Connection) {op : Operation} (hop : op.ofCall = false) (n : Nat) :
    (c.relabel n c.claimed).perform op = (c.perform op).relabel n (c.perform op).claimed := by
  cases op <;> first | rfl | cases hop

section

variable {stores stores' : Stores} {now : Nat}

theorem Mirrors.operate (h : a.Mirrors b) (op : Operation) :
    (a.make (.operate .unidentified op)).Mirrors (b.make (.operate .unidentified op)) := by
  obtain ⟨n, hn⟩ := h.sockets
  unfold make
  dsimp only
  by_cases hop : op.ofCall = true
  · rw [if_pos hop, if_pos hop]
    exact h
  · rw [if_neg hop, if_neg hop]
    refine h.modify (n := n) ?_
    rw [show b.connection .unidentified = _ from hn]
    exact perform_relabel _ (by simpa using hop) n

/-- A keeper begins its loop anew. -/
theorem Mirrors.atHead (h : a.Mirrors b) (attempt : Attempt)
    (hsocket : (a.connection .unidentified).socket = .unidentified)
    (hforbids : stores'.forbids (a.connection .unidentified).policy.socket =
      stores.forbids (a.connection .unidentified).policy.socket) :
    (a.make (.atHead .unidentified stores now attempt)).Mirrors
      (b.make (.atHead .unidentified stores' now attempt)) := by
  obtain ⟨n, hn⟩ := h.sockets
  have hb : b.connection .unidentified =
    (a.connection .unidentified).relabel n (a.connection .unidentified).claimed := hn
  have hphase : (b.connection .unidentified).phase = (a.connection .unidentified).phase.relabel n :=
    congrArg Connection.phase hb
  have hhello : (a.connection .unidentified).hello? stores' =
      (a.connection .unidentified).hello? stores := by
    rw [Connection.hello?, Connection.hello?, hsocket]
  cases hhead : (a.connection .unidentified).phase with
  | atHead =>
    rw [hhead] at hphase
    simp only [make, hhead, hphase, Phase.relabel]
    refine h.modify (n := n) ?_
    rw [hb, Connection.atHead_claimed]
    exact (a.connection .unidentified).atHead_relabel now n _ attempt hforbids hhello
  | _ =>
    rw [hhead] at hphase
    simp only [make, hhead, hphase, Phase.relabel]
    exact h

/-- An attempt to connect fails. -/
theorem Mirrors.connectFailed (h : a.Mirrors b) (e : ChatError)
    (hforbids : stores'.forbids (a.connection .unidentified).policy.socket =
      stores.forbids (a.connection .unidentified).policy.socket) :
    (a.make (.connectFailed .unidentified stores now e)).Mirrors
      (b.make (.connectFailed .unidentified stores' now e)) := by
  obtain ⟨n, hn⟩ := h.sockets
  have hb : b.connection .unidentified =
    (a.connection .unidentified).relabel n (a.connection .unidentified).claimed := hn
  have hphase : (b.connection .unidentified).phase = (a.connection .unidentified).phase.relabel n :=
    congrArg Connection.phase hb
  cases hdials : (a.connection .unidentified).phase with
  | dialing hello deadline attempt =>
    rw [hdials] at hphase
    simp only [make, hdials, hphase, Phase.relabel]
    refine h.modify (n := n) ?_
    rw [hb, Connection.connectFailed_claimed]
    exact (a.connection .unidentified).connectFailed_relabel now n _ e hforbids
  | _ =>
    rw [hdials] at hphase
    simp only [make, hdials, hphase, Phase.relabel]
    exact h

/-- The connection is there: the links have other numbers, but the same bytes are put on them. -/
theorem Mirrors.connected (h : a.Mirrors b) (ha : a.LinkedAt .unidentified ∧ a.Wired)
    (hb : b.LinkedAt .unidentified ∧ b.Wired) (others others' : Nat) (link : Link)
    (hforbids : stores'.forbids (a.connection .unidentified).policy.socket =
      stores.forbids (a.connection .unidentified).policy.socket) :
    (a.make (.connected .unidentified stores now others link)).Mirrors
      (b.make (.connected .unidentified stores' now others' link)) := by
  obtain ⟨n, hn⟩ := h.sockets
  have hconnection : b.connection .unidentified =
    (a.connection .unidentified).relabel n (a.connection .unidentified).claimed := hn
  have hphase : (b.connection .unidentified).phase = (a.connection .unidentified).phase.relabel n :=
    congrArg Connection.phase hconnection
  cases hdials : (a.connection .unidentified).phase with
  | dialing hello deadline attempt =>
    rw [hdials] at hphase
    have hstep : Keeper.connected stores' now (b.opened + others') hello
        ⟨b.connection .unidentified, link, none⟩ =
          (Keeper.connected stores now (a.opened + others) hello
            ⟨a.connection .unidentified, link, none⟩).relabel (b.opened + others')
              (a.connection .unidentified).claimed := by
      have hsame : b.connection .unidentified = (a.connection .unidentified).relabel
          (b.opened + others') (a.connection .unidentified).claimed := by
        rw [hconnection, Connection.relabel, Connection.relabel, hdials]
        rfl
      rw [hsame]
      exact connected_relabel now (b.opened + others') _ (a.opened + others) hello
        ⟨a.connection .unidentified, link, none⟩ hforbids
    refine ⟨⟨b.opened + others', ?_⟩, ?_, ?_⟩
    · show (b.make _).connection .unidentified =
        ((a.make _).connection .unidentified).relabel (b.opened + others')
          ((a.make _).connection .unidentified).claimed
      rw [connection_connected stores' now others' link hphase,
        connection_connected stores now others link hdials, hstep, Turn.connection_relabel,
        connected_claimed stores now _ hello _ (by rw [hdials]; rfl)]
    · rw [callers_make a rfl, callers_make b rfl]
      exact h.callers
    · rw [ha.1.streams_connected ha.2 hdials, hb.1.streams_connected hb.2 hphase, h.streams, hstep,
        Turn.link_relabel]
  | _ =>
    rw [hdials] at hphase
    simp only [make, hdials, hphase, Phase.relabel]
    exact h

/-- **A keeper makes a step**: it goes the same way on both sides. -/
theorem Mirrors.keeper (h : a.Mirrors b) (ha : a.LinkedAt .unidentified)
    (hb : b.LinkedAt .unidentified) (branch : Branch) (link : Link)
    (hforbids : stores'.forbids (a.connection .unidentified).policy.socket =
      stores.forbids (a.connection .unidentified).policy.socket) :
    (a.make (.keeper .unidentified branch stores now link)).Mirrors
      (b.make (.keeper .unidentified branch stores' now link)) := by
  obtain ⟨n, hn⟩ := h.sockets
  have hconnection : b.connection .unidentified =
    (a.connection .unidentified).relabel n (a.connection .unidentified).claimed := hn
  have hstep : Keeper.step branch stores' now ⟨b.connection .unidentified, link, none⟩ =
      (Keeper.step branch stores now ⟨a.connection .unidentified, link, none⟩).relabel n
        (a.connection .unidentified).claimed := by
    rw [hconnection]
    exact step_relabel now n _ branch ⟨a.connection .unidentified, link, none⟩ hforbids
  refine ⟨⟨n, ?_⟩, h.callers, ?_⟩
  · show (b.make _).connection .unidentified = ((a.make _).connection .unidentified).relabel n
      ((a.make _).connection .unidentified).claimed
    rw [connection_keeper, connection_keeper, hstep, step_claimed]
    rfl
  · have hlink : linkOf? (b.connection .unidentified) =
        (linkOf? (a.connection .unidentified)).map fun _ => n := by
      rw [hconnection, linkOf?_eq, linkOf?_eq]
      show ((a.connection .unidentified).phase.relabel n).link? = _
      cases (a.connection .unidentified).phase <;> rfl
    cases hlinka : linkOf? (a.connection .unidentified) with
    | none =>
      rw [hlinka] at hlink
      have hqa := a.quiet_keeper hlinka branch stores now link
      have hqb := b.quiet_keeper hlink branch stores' now link
      rw [streams_of_eq (hqa.said _) (hqa.wire _), streams_of_eq (hqb.said _) (hqb.wire _)]
      exact h.streams
    | some m =>
      rw [hlinka] at hlink
      obtain ⟨before, last, hbefore, hafter⟩ := ha.streams_keeper hlinka branch stores now link
      obtain ⟨before', last', hbefore', hafter'⟩ := hb.streams_keeper hlink branch stores' now link
      have hsame : before' ++ [last'] = before ++ [last] :=
        hbefore'.symm.trans (h.streams.trans hbefore)
      obtain ⟨rfl, hlast⟩ := List.append_inj' hsame rfl
      obtain rfl := List.singleton_inj.1 hlast
      rw [hafter, hafter', hstep, Turn.link_relabel]

end

end Application

end ChatSockets
