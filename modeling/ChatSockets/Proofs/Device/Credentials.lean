import ChatSockets.Proofs.Application.Written
import ChatSockets.Proofs.Device
import Mathlib.Data.List.Induction

/-!
# The credentials of an open socket

A keeper reads the credentials once for each socket, at the head of its loop, and forgets at the
same moment that the socket was to be cycled. From then on it has a handshake with these
credentials: it dials with it, and it is the first that it writes on the link
(`Application.Greets`). It keeps this handshake until it lets go of the link, or until the socket is
to be cycled again (`Application.make_handles`). So a socket that is served and not to be cycled was
opened with credentials that were read after it was cycled for the last time
(`serves_with_fresh_credentials`).
-/

namespace ChatSockets

open Keeper Wire

namespace Application

variable {a a' : Application} {k : SocketKind} {hello : Handshake}

/-! ## The handshake of a keeper -/

/-- The handshake that a keeper dials with, or has written on its link before all else. -/
inductive Greets (a : Application) (k : SocketKind) (hello : Handshake) : Prop
  | dials (deadline : Nat) (attempt : Attempt)
    (hphase : (a.connection k).phase = .dialing hello deadline attempt)
  | wrote (n : Nat) (hlink : linkOf? (a.connection k) = some n)
    (hsaid : ((a.records k).saidOn n).head? = some (.ofHandshake hello))

/-- What was said on a link is only added to. -/
theorem saidOn_make (a : Application) (move : Move) (k : SocketKind) (n : Nat) :
    (a.records k).saidOn n <+: ((a.make move).records k).saidOn n := by
  cases hquiet : move.isQuiet with
  | true =>
    have hsame : ((a.make move).records k).saidOn n = (a.records k).saidOn n := by
      rw [Record.saidOn, Record.saidOn, (a.make_quiet hquiet).said k]
    exact hsame ▸ List.prefix_rfl
  | false =>
    cases move with
    | connected j stores now others link =>
      unfold make
      dsimp only
      split
      · next hello _ _ hphase =>
        unfold connect
        dsimp only
        rw [Function.update_apply]
        split
        · next heq =>
          subst heq
          show _ <+: ((a.records k).say _).saidOn n
          rw [Record.saidOn_say]
          exact List.prefix_append _ _
        · exact List.prefix_rfl
      · exact List.prefix_rfl
    | keeper j branch stores now link =>
      unfold make turn
      dsimp only
      cases linkOf? (a.connection j) with
      | none => exact List.prefix_rfl
      | some m =>
        dsimp only
        rw [Function.update_apply]
        split
        · next heq =>
          subst heq
          show _ <+: ((a.records k).after m _ _).saidOn n
          rw [Record.saidOn_after]
          exact List.prefix_append _ _
        · exact List.prefix_rfl
    | _ => cases hquiet

/-- A keeper that keeps its link keeps the handshake on it. -/
theorem Greets.of_link (h : a.Greets k hello) {n : Nat} (hlink : linkOf? (a.connection k) = some n)
    (hlink' : linkOf? (a'.connection k) = some n)
    (hsaid : (a.records k).saidOn n <+: (a'.records k).saidOn n) : a'.Greets k hello := by
  cases h with
  | dials deadline attempt hphase =>
    rw [linkOf?, hphase] at hlink
    cases hlink
  | wrote m hm hhead =>
    obtain rfl := Option.some.inj (hm.symm.trans hlink)
    refine .wrote m hlink' ?_
    obtain ⟨more, hmore⟩ := hsaid
    rw [← hmore, List.head?_append, hhead]
    rfl

/-- How a keeper that dials or has a link came by its handshake: it reads it at the head of its
loop, from the stores, or it has had it before. -/
inductive Handles (a : Application) (move : Move) (stores : Stores) (k : SocketKind)
    (a' : Application) : Prop
  | reads (now : Nat) (attempt : Attempt) (hello : Handshake) (deadline : Nat)
    (hmove : move = .atHead k stores now attempt) (hphase : (a.connection k).phase = .atHead)
    (hhello : (a.connection k).hello? stores = some hello)
    (hdials : (a'.connection k).phase = .dialing hello deadline attempt)
  | keeps (haway : (a.connection k).phase.away = false)
    (hcycling : (a.connection k).cycling = false)
    (hgreets : ∀ hello, a.Greets k hello → a'.Greets k hello)

/-- A keeper at the head of its loop that goes on to dial has read its handshake. -/
theorem dials_of_atHead (c : Connection) (stores : Stores) (now : Nat) (attempt : Attempt)
    (haway : (c.atHead stores now attempt).phase.away = false) :
    ∃ hello deadline, c.hello? stores = some hello ∧
      (c.atHead stores now attempt).phase = .dialing hello deadline attempt := by
  unfold Connection.atHead at haway ⊢
  split
  · next hshut =>
    rw [if_pos hshut] at haway
    cases haway
  · next hshut =>
    rw [if_neg hshut] at haway
    split
    · next hwanted =>
      rw [if_pos hwanted] at haway
      dsimp only at haway ⊢
      split
      · next hnone =>
        rw [hnone] at haway
        cases (Phase.away_of_closed (connectFailed_away _ stores now _).2.1).symm.trans haway
      · next hello hhello => exact ⟨hello, _, hhello, rfl⟩
    · next hwanted =>
      rw [if_neg hwanted] at haway
      cases haway

theorem connection_connected (stores : Stores) (now others : Nat) (link : Link)
    {deadline : Nat} {attempt : Attempt}
    (hphase : (a.connection k).phase = .dialing hello deadline attempt) :
    (a.make (.connected k stores now others link)).connection k =
      (connected stores now (a.opened + others) hello ⟨a.connection k, link, none⟩).connection := by
  simp only [make, hphase]
  exact (Sockets.get_set _ k k _).trans (if_pos rfl)

/-- A keeper whose connection is there has written its handshake, unless it let go of the link. -/
theorem greets_connected (ha : a.Wired) (stores : Stores) (now others : Nat) (link : Link)
    {deadline : Nat} {attempt : Attempt}
    (hphase : (a.connection k).phase = .dialing hello deadline attempt)
    (hlink : linkOf? ((a.make (.connected k stores now others link)).connection k) ≠ none) :
    (a.make (.connected k stores now others link)).Greets k hello := by
  have hmake : a.make (.connected k stores now others link) =
      a.connect k (a.opened + others) hello ⟨a.connection k, link, none⟩
        (connected stores now (a.opened + others) hello ⟨a.connection k, link, none⟩) := by
    simp only [make, hphase]
  have hconnection := connection_connected stores now others link hphase
  rw [hconnection] at hlink
  have hfit : (Message.ofHandshake hello).length ≤ Frame.maxLength := by
    refine Nat.le_of_not_lt fun hlt => hlink ?_
    rw [connected, Frame.encode_of_lt hlt]
    exact (connectFailed_spec _ stores now _).1
  refine .wrote (a.opened + others) ?_ ?_
  · rw [hconnection]
    exact ((connected_leaves stores now (a.opened + others) hello
      ⟨a.connection k, link, none⟩).stays.resolve_left fun hnone => hlink hnone.1).1
  · have hrecord : ((a.make (.connected k stores now others link)).records k).saidOn
        (a.opened + others) = (((a.records k).say ⟨a.opened + others, none,
          .ofHandshake hello⟩).saidOn (a.opened + others)) := by
      rw [hmake]
      show (Function.update a.records k _ k).saidOn _ = _
      rw [Function.update_self]
      rfl
    have hfitting : fitting [.ofHandshake hello] = [.ofHandshake hello] := by simp [fitting, hfit]
    rw [hrecord, Record.saidOn_say, if_pos rfl, hfitting,
      ((ha k).fresh (a.opened + others) (Nat.le_add_right _ _)).2]
    rfl

/-- The move in which a keeper goes on. -/
inductive Stirs (a : Application) (k : SocketKind) : Move → Prop
  | atHead (stores : Stores) (now : Nat) (attempt : Attempt)
    (hphase : (a.connection k).phase = .atHead) : Stirs a k (.atHead k stores now attempt)
  | connectFailed (stores : Stores) (now : Nat) (e : ChatError) (hello : Handshake) (deadline : Nat)
    (attempt : Attempt) (hphase : (a.connection k).phase = .dialing hello deadline attempt) :
    Stirs a k (.connectFailed k stores now e)
  | connected (stores : Stores) (now others : Nat) (link : Link) (hello : Handshake)
    (deadline : Nat) (attempt : Attempt)
    (hphase : (a.connection k).phase = .dialing hello deadline attempt) :
    Stirs a k (.connected k stores now others link)
  | keeper (branch : Branch) (stores : Stores) (now : Nat) (link : Link)
    (hgoes : goesOn branch now ⟨a.connection k, link, none⟩ = true) :
    Stirs a k (.keeper k branch stores now link)

theorem stirs_of_stirs? {move : Move} (h : a.stirs? move = some k) : a.Stirs k move := by
  unfold stirs? at h
  split at h
  · split at h
    · next hphase =>
      cases h
      exact .atHead _ _ _ hphase
    · cases h
  · split at h
    · next hphase =>
      cases h
      exact .connectFailed _ _ _ _ _ _ hphase
    · cases h
  · split at h
    · next hphase =>
      cases h
      exact .connected _ _ _ _ _ _ _ hphase
    · cases h
  · split at h
    · next hgoes =>
      cases h
      exact .keeper _ _ _ _ hgoes
    · cases h
  · cases h

/-- A keeper that goes on with its link keeps it, unless it does without. -/
theorem keeper_handles (branch : Branch) (stores : Stores) (now : Nat) (link : Link)
    (hgoes : goesOn branch now ⟨a.connection k, link, none⟩ = true)
    (haway : ((a.make (.keeper k branch stores now link)).connection k).phase.away = false)
    (hcycling : ((a.make (.keeper k branch stores now link)).connection k).cycling = false) :
    a.Handles (.keeper k branch stores now link) stores k
      (a.make (.keeper k branch stores now link)) := by
  have hsaid := a.saidOn_make (.keeper k branch stores now link) k
  have hconnection : (a.make (.keeper k branch stores now link)).connection k =
      (step branch stores now ⟨a.connection k, link, none⟩).connection :=
    (Sockets.get_set _ k k _).trans (if_pos rfl)
  rw [hconnection] at haway hcycling
  obtain ⟨-, hkept, hleft⟩ := step_heeds branch stores now _ hgoes
  have hacts := step_acts branch stores now ⟨a.connection k, link, none⟩
  have hlink' : linkOf? (step branch stores now ⟨a.connection k, link, none⟩).connection ≠ none :=
    fun hnone => by cases haway.symm.trans (hleft hnone)
  cases hlink : linkOf? (a.connection k) with
  | none => exact absurd (hacts.of_unlinked hlink).1 hlink'
  | some n =>
    have hstill := (hacts.keeps hlink).link.resolve_left hlink'
    refine .keeps (Bool.eq_false_iff.2 fun hbefore => ?_) ((hkept hlink').symm.trans hcycling)
      fun hello hgreets => hgreets.of_link hlink (hconnection ▸ hstill) (hsaid n)
    rw [linkOf?_eq, Phase.link?_of_away hbefore] at hlink
    cases hlink

/-- **How a keeper comes by its handshake.** -/
theorem make_handles (ha : a.Wired) (move : Move) (stores : Stores) (now : Nat)
    (haway : ((a.make (move.finding stores now)).connection k).phase.away = false)
    (hcycling : ((a.make (move.finding stores now)).connection k).cycling = false) :
    a.Handles (move.finding stores now) stores k (a.make (move.finding stores now)) := by
  have hsaid := a.saidOn_make (move.finding stores now) k
  cases a.make_treats move stores now k with
  | touches hk htouched =>
    refine .keeps (htouched.phase ▸ haway) (htouched.cycling hcycling) fun hello hgreets => ?_
    cases hgreets with
    | dials deadline attempt hphase => exact .dials deadline attempt (htouched.phase.trans hphase)
    | wrote n hlink hhead =>
      refine Greets.of_link (.wrote n hlink hhead) hlink ?_ (hsaid n)
      rw [linkOf?_eq, htouched.phase]
      exact hlink
  | stirs hk =>
    have hstirs := stirs_of_stirs? hk
    cases move with
    | atHead j _ _ attempt =>
      obtain ⟨rfl, hphase⟩ : j = k ∧ (a.connection j).phase = .atHead := by
        cases hstirs with | atHead _ _ _ hphase => exact ⟨rfl, hphase⟩
      have hconnection : (a.make (.atHead j stores now attempt)).connection j =
          (a.connection j).atHead stores now attempt := by
        simp only [make, hphase, connection_modify, if_true]
      obtain ⟨hello, deadline, hhello, hdials⟩ :=
        dials_of_atHead (a.connection j) stores now attempt (hconnection ▸ haway)
      exact .reads now attempt hello deadline rfl hphase hhello (hconnection.symm ▸ hdials)
    | connectFailed j _ _ e =>
      cases hstirs with
      | connectFailed _ _ _ hello deadline attempt hphase =>
        have hconnection : (a.make (.connectFailed k stores now e)).connection k =
            (a.connection k).connectFailed stores now e := by
          simp only [make, hphase, connection_modify, if_true]
        rw [Move.finding, hconnection] at haway
        cases (Phase.away_of_closed (connectFailed_away _ stores now e).2.1).symm.trans haway
    | connected j _ _ others link =>
      cases hstirs with
      | connected _ _ _ _ hello deadline attempt hphase =>
        obtain ⟨⟨-, hkept, hleft⟩, -⟩ := connected_looks stores now (a.opened + others) hello
          ⟨a.connection k, link, none⟩
        have hconnection := connection_connected stores now others link hphase
        rw [Move.finding, hconnection] at haway hcycling
        have hlink : linkOf? _ ≠ none := fun hnone => by cases haway.symm.trans (hleft hnone)
        have hbefore : (a.connection k).phase.away = false := by rw [hphase]; rfl
        refine .keeps hbefore ((hkept hlink).symm.trans hcycling) fun hello' hgreets => ?_
        cases hgreets with
        | dials _ _ hphase' =>
          cases hphase.symm.trans hphase'
          exact greets_connected ha stores now others link hphase (hconnection.symm ▸ hlink)
        | wrote n hn =>
          rw [linkOf?, hphase] at hn
          cases hn
    | keeper j branch _ _ link =>
      cases hstirs with
      | keeper _ _ _ _ hgoes => exact keeper_handles branch stores now link hgoes haway hcycling
    | operate j op => cases op <;> cases hk
    | call | step | cancel => cases hk

end Application

namespace Device

variable {d : Device} {moves : List Move}

/-! ## Since the last cycle -/

/-- Whether a move asks for the identified socket to be dropped and opened again. -/
def Move.cycles : Move → Bool
  | .act (.operate .identified .cycle) | .reregister _ => true
  | _ => false

/-- In a run the identified socket got a handshake from the stores after it was cycled for the last
time: its keeper went from the head of its loop to dialing with the credentials that it found. -/
def ReadSince (d : Device) (moves : List Move) (hello : Handshake) : Prop :=
  ∃ before stores now attempt after credentials deadline,
    moves = before ++ .act (.atHead .identified stores now attempt) :: after ∧
    (∀ move ∈ after, move.cycles = false) ∧
    (d.makeAll before).stores.credentials = some credentials ∧
    hello = .identified credentials.login credentials.password
      ((d.makeAll before).connection .identified).config.userAgent ∧
    ((d.makeAll before).connection .identified).phase = .atHead ∧
    ((d.makeAll (before ++ [.act (.atHead .identified stores now attempt)])).connection
      .identified).phase = .dialing hello deadline attempt

theorem ReadSince.snoc {hello : Handshake} (h : d.ReadSince moves hello) {move : Move}
    (hmove : move.cycles = false) : d.ReadSince (moves ++ [move]) hello := by
  obtain ⟨before, stores, now, attempt, after, credentials, deadline, rfl, hafter, hread⟩ := h
  refine ⟨before, stores, now, attempt, after ++ [move], credentials, deadline, by simp, ?_, hread⟩
  intro move' hmem
  rcases List.mem_append.1 hmem with hmem | hmem
  · exact hafter move' hmem
  · rw [List.mem_singleton.1 hmem]
    exact hmove

/-- The identified socket, while it is not to be cycled, has a handshake that was read since it was.
-/
def Fresh (d : Device) (moves : List Move) : Prop :=
  ((d.makeAll moves).connection .identified).phase.away = false →
    ((d.makeAll moves).connection .identified).cycling = false →
    ∃ hello, (d.makeAll moves).app.Greets .identified hello ∧ d.ReadSince moves hello

/-- A cycle leaves the flag. -/
theorem cycling_of_cycles (d : Device) {move : Move} (h : move.cycles = true) :
    ((d.make move).connection .identified).cycling = true := by
  unfold Move.cycles at h
  split at h
  · rfl
  · rfl
  · cases h

theorem makeAll_snoc (d : Device) (moves : List Move) (move : Move) :
    d.makeAll (moves ++ [move]) = (d.makeAll moves).make move :=
  d.makeAll_append moves [move]

/-- A move of a device keeps the bytes on its links right. -/
theorem wired_make (h : d.app.Wired) (move : Move) : (d.make move).app.Wired := by
  cases move with
  | act move => exact h.make _
  | reregister credentials => exact h.make (.operate .identified .cycle)
  | store | wait => exact h

theorem wired_makeAll (h : d.app.Wired) (moves : List Move) : (d.makeAll moves).app.Wired := by
  induction moves generalizing d with
  | nil => exact h
  | cons move rest ih => exact ih (wired_make h move)

/-- **The handshake stays fresh** with every move. -/
theorem Fresh.snoc (h : d.Fresh moves) (hwatched : (d.makeAll moves).Watched)
    (hwired : (d.makeAll moves).app.Wired) (move : Move) : d.Fresh (moves ++ [move]) := by
  intro haway hcycling
  rw [makeAll_snoc] at haway hcycling ⊢
  have hmove : move.cycles = false := by
    refine Bool.eq_false_iff.2 fun hcycles => ?_
    rw [cycling_of_cycles _ hcycles] at hcycling
    cases hcycling
  cases move with
  | act move =>
    have hhandles := Application.make_handles hwired move _ _ haway hcycling
    cases hhandles with
    | reads now attempt hello deadline hread hphase hhello hdials =>
      refine ⟨hello, .dials deadline attempt hdials, ?_⟩
      obtain ⟨stores, now', rfl⟩ :
          ∃ stores now', move = .atHead .identified stores now' attempt := by
        cases move with
        | atHead j stores now' attempt' =>
          cases hread
          exact ⟨stores, now', rfl⟩
        | operate j op => cases op <;> cases hread
        | _ => cases hread
      have hsocket : ((d.makeAll moves).connection .identified).socket = .identified :=
        (hwatched.socket .identified).1
      rw [Connection.hello?, show ((d.makeAll moves).app.connection .identified).socket = _
        from hsocket] at hhello
      obtain ⟨credentials, hcredentials, rfl⟩ := Option.map_eq_some_iff.1 hhello
      refine ⟨moves, stores, now', attempt, [], credentials, deadline, rfl, nofun, hcredentials,
        rfl, hphase, ?_⟩
      rw [makeAll_snoc]
      exact hdials
    | keeps hbefore hcycles hgreets =>
      obtain ⟨hello, hhas, hread⟩ := h hbefore hcycles
      exact ⟨hello, hgreets hello hhas, hread.snoc hmove⟩
  | store stores =>
    obtain ⟨hello, hhas, hread⟩ := h haway hcycling
    exact ⟨hello, hhas, hread.snoc hmove⟩
  | reregister credentials => cases hmove
  | wait ms =>
    obtain ⟨hello, hhas, hread⟩ := h haway hcycling
    exact ⟨hello, hhas, hread.snoc hmove⟩

/-- **It is fresh after any moves.** -/
theorem fresh (config : ClientConfig) (stores : Stores) (moves : List Move) :
    (start config stores).Fresh moves := by
  induction moves using List.reverseRecOn with
  | nil => exact fun haway => by cases haway
  | append_singleton moves move ih =>
    exact ih.snoc (watched_makeAll (watched_start config stores) moves)
      (wired_makeAll (Application.wired_start config) moves) move

/-- **A cycle leaves no socket with old credentials.** Whatever happens to a device, with the
credentials changing and the socket being cycled at any moments: if the keeper of the identified
socket serves it and it is not to be cycled, then the keeper has read credentials from the stores
after the last cycle, and with these it dialed; the handshake with them is the first thing that was
written on the link of the socket, and the bytes that were put on the link are this handshake and
the messages after it. -/
theorem serves_with_fresh_credentials (config : ClientConfig) (stores : Stores)
    (moves : List Move) (live : Live) (window : Option Nat) :
    let d := (start config stores).makeAll moves
    (d.connection .identified).phase = .serving live window →
      (d.connection .identified).cycling = false →
      ∃ hello said, (start config stores).ReadSince moves hello ∧
        (d.app.records .identified).saidOn live.link = .ofHandshake hello :: said ∧
        (d.app.records .identified).wire live.link = stream (.ofHandshake hello :: said) := by
  intro d hphase hcycling
  have hlink : linkOf? (d.connection .identified) = some live.link := by rw [linkOf?, hphase]
  have haway : (d.connection .identified).phase.away = false := by rw [hphase]; rfl
  obtain ⟨hello, hgreets, hread⟩ := fresh config stores moves haway hcycling
  cases hgreets with
  | dials deadline attempt hdials => cases hphase.symm.trans hdials
  | wrote n hn hhead =>
    obtain rfl := Option.some.inj (hn.symm.trans hlink)
    obtain ⟨said, hsaid⟩ := List.head?_eq_some_iff.1 hhead
    have hwired : d.app.Wired := wired_makeAll (Application.wired_start config) moves
    obtain ⟨more, hmore, hunwritten⟩ := (hwired .identified).bytes live.link
    refine ⟨hello, said, hread, hsaid, ?_⟩
    have hnone : more = .empty := by
      rw [hunwritten hlink, show (d.app.connection .identified).phase = _ from hphase]
      rfl
    rw [← hsaid, ← hmore, hnone, ByteArray.append_empty]

/-- The credentials change and the socket is cycled while it is open with the old ones. Its keeper
closes it and opens it anew. -/
def renewing : List Move :=
  attending .identified ++ [.reregister (some ⟨"alice", "fresh"⟩),
    .act (.keeper .identified .woken {} 0 {}), .act (.atHead .identified {} 0 .connected),
    .act (.connected .identified {} 0 0 {})] ++ looks .identified

/-- The new socket has the new credentials. -/
theorem fresh_of_renewing :
    let d := (start {} { credentials := some ⟨"alice", "stale"⟩ }).makeAll renewing
    ∃ live window hello, (d.connection .identified).phase = .serving live window ∧
      (start {} { credentials := some ⟨"alice", "stale"⟩ }).ReadSince renewing hello ∧
      hello.password = some "fresh" := by
  intro d
  obtain ⟨hwatches, hopen, hlink, hcycling, hpassword⟩ :
      (d.connection .identified).phase.watches = true ∧
      (d.connection .identified).phase.shown = .open ∧
      (d.connection .identified).phase.link? = some 1 ∧
      (d.connection .identified).cycling = false ∧
      ((d.app.records .identified).saidOn 1).head?.bind (·.handshake.bind Handshake.password) =
        some "fresh" := by decide +kernel
  obtain ⟨live, window, hphase⟩ := Phase.serving_of_watches hwatches hopen
  obtain ⟨hello, said, hread, hsaid, -⟩ :=
    serves_with_fresh_credentials {} { credentials := some ⟨"alice", "stale"⟩ } renewing live window
      hphase hcycling
  rw [hphase] at hlink
  rw [Option.some.inj hlink] at hsaid
  refine ⟨live, window, hello, hphase, hread, ?_⟩
  rw [hsaid] at hpassword
  exact hpassword

end Device

end ChatSockets
