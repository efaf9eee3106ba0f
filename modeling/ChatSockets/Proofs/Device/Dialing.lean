import ChatSockets.Proofs.Device.Credentials

/-!
# When a keeper dials, and what it says first

A keeper begins to dial at the head of its loop and nowhere else (`dials_make`). It has no link
then, and it has just seen that the socket is wanted; what it saw, and the handshake that it read
from the stores at this moment, is `Device.MayDial`. It dials with this handshake until the attempt
ends, and if there is a link then, the handshake is the first that is written on it: everything that
was ever said on a link goes back to an attempt that was begun like this (`Device.Begun`, kept by
every move, and `dials_when_it_may`).
-/

namespace ChatSockets

open Keeper Wire

namespace Application

variable {a : Application} {k : SocketKind} {move : Move}

/-- Every move is one that finds some stores and some time. -/
theorem Move.exists_finding (move : Move) : ∃ stores now, move.finding stores now = move := by
  cases move with
  | call | cancel => exact ⟨{}, 0, rfl⟩
  | step j stores now => exact ⟨stores, now, rfl⟩
  | operate k op =>
    cases op with
    | push now => exact ⟨{}, now, rfl⟩
    | _ => exact ⟨{}, 0, rfl⟩
  | atHead k stores now | connectFailed k stores now | connected k stores now
  | keeper k branch stores now => exact ⟨stores, now, rfl⟩

/-- A move lets the keeper of a socket go on, or touches its connection. -/
theorem stirs_or_touches (a : Application) (move : Move) (k : SocketKind) :
    a.Stirs k move ∨ (a.connection k).Touched ((a.make move).connection k) := by
  obtain ⟨stores, now, hmove⟩ := move.exists_finding
  have htreats := a.make_treats move stores now k
  rw [hmove] at htreats
  cases htreats with
  | stirs hk => exact .inl (stirs_of_stirs? hk)
  | touches _ htouched => exact .inr htouched

/-- A move lets the keeper of a socket go on, which has just counted the requests that wait if it
begins to look; or it touches its connection. -/
theorem counted_or_touched (a : Application) (move : Move) (k : SocketKind) :
    ((a.make move).connection k).Counted ∨
      (a.connection k).Touched ((a.make move).connection k) := by
  obtain ⟨stores, now, hmove⟩ := move.exists_finding
  have htreats := a.make_treats move stores now k
  rw [hmove] at htreats
  cases htreats with
  | stirs _ _ _ _ hcounted => exact .inl hcounted
  | touches _ htouched => exact .inr htouched

theorem connection_atHead (hphase : (a.connection k).phase = .atHead) (stores : Stores)
    (now : Nat) (attempt : Attempt) : (a.make (.atHead k stores now attempt)).connection k =
      (a.connection k).atHead stores now attempt := by
  simp only [make, hphase, connection_modify, if_true]

theorem connection_connectFailed {hello : Handshake} {deadline : Nat} {attempt : Attempt}
    (hphase : (a.connection k).phase = .dialing hello deadline attempt) (stores : Stores)
    (now : Nat) (e : ChatError) : (a.make (.connectFailed k stores now e)).connection k =
      (a.connection k).connectFailed stores now e := by
  simp only [make, hphase, connection_modify, if_true]

/-- **A keeper that dials** did so before the move, or was at the head of its loop, saw that the
socket is wanted, and read its handshake. -/
theorem dials_make {hello : Handshake} {deadline : Nat} {attempt : Attempt}
    (h : ((a.make move).connection k).phase = .dialing hello deadline attempt) :
    (a.connection k).phase = .dialing hello deadline attempt ∨
      ∃ stores now, move = .atHead k stores now attempt ∧ (a.connection k).phase = .atHead ∧
        (a.connection k).wanted stores now = true ∧
        (a.connection k).hello? stores = some hello := by
  have haway : ∀ {t t' : Turn}, t.Heeds t' → t'.connection = (a.make move).connection k →
      False := by
    intro t t' hheeds hsame
    have haway := hheeds.away (by rw [hsame, linkOf?, h])
    rw [hsame, h] at haway
    cases haway
  rcases a.stirs_or_touches move k with hstirs | htouched
  · cases hstirs with
    | atHead stores now attempt' hphase =>
      rw [connection_atHead hphase] at h
      have hbusy : ((a.connection k).atHead stores now attempt').phase.away = false := by
        rw [h]
        rfl
      obtain ⟨hello', deadline', hhello, hdials⟩ :=
        dials_of_atHead (a.connection k) stores now attempt' hbusy
      have hwanted : (a.connection k).wanted stores now = true := by
        unfold Connection.atHead at hbusy
        split at hbusy
        · cases hbusy
        · split at hbusy
          · assumption
          · cases hbusy
      cases hdials.symm.trans h
      exact .inr ⟨stores, now, rfl, hphase, hwanted, hhello⟩
    | connectFailed stores now e _ _ _ hphase =>
      have hclosed := (connectFailed_away (a.connection k) stores now e).2.1
      rw [← connection_connectFailed hphase, h] at hclosed
      cases hclosed
    | connected stores now others link hello' _ _ hphase =>
      exact (haway (connected_looks stores now (a.opened + others) hello' _).toHeeds
        (connection_connected stores now others link hphase).symm).elim
    | keeper branch stores now link hgoes =>
      exact (haway (step_heeds branch stores now _ hgoes)
        (a.connection_keeper k branch stores now link).symm).elim
  · exact .inl (htouched.phase.symm.trans h)

/-- The connection of a socket that dials is there, with a handshake on a new link. -/
structure Connects (a : Application) (k : SocketKind) (move : Move) (hello : Handshake) (n : Nat) :
    Prop where
  dials : ∃ deadline attempt, (a.connection k).phase = .dialing hello deadline attempt
  connects : ∃ stores now others link, move = .connected k stores now others link ∧
    n = a.opened + others

/-- **A keeper with a link** had it before the move, or has just connected. -/
theorem linkOf?_make {n : Nat} (h : linkOf? ((a.make move).connection k) = some n) :
    linkOf? (a.connection k) = some n ∨ ∃ hello, a.Connects k move hello n := by
  rcases a.stirs_or_touches move k with hstirs | htouched
  · cases hstirs with
    | atHead stores now attempt hphase =>
      rw [connection_atHead hphase, (Connection.atHead_spec _ stores now attempt).1] at h
      cases h
    | connectFailed stores now e _ _ _ hphase =>
      rw [connection_connectFailed hphase, (connectFailed_spec _ stores now e).1] at h
      cases h
    | connected stores now others link hello deadline attempt hphase =>
      rw [connection_connected stores now others link hphase] at h
      have hstays := (connected_leaves stores now (a.opened + others) hello
        ⟨a.connection k, link, none⟩).stays.resolve_left fun hnone => by simp [h] at hnone
      exact .inr ⟨hello, ⟨deadline, attempt, hphase⟩, stores, now, others, link, rfl,
        Option.some.inj (h.symm.trans hstays.1)⟩
    | keeper branch stores now link hgoes =>
      rw [connection_keeper] at h
      have hacts := step_acts branch stores now ⟨a.connection k, link, none⟩
      cases hlink : linkOf? (a.connection k) with
      | none =>
        rw [(hacts.of_unlinked hlink).1] at h
        cases h
      | some m =>
        rcases (hacts.keeps hlink).link with hnone | hsame
        · rw [hnone] at h
          cases h
        · exact .inl (hsame.symm.trans h)
  · refine .inl ?_
    rw [linkOf?_eq, ← htouched.phase]
    exact h

/-- The record of a socket whose connection is there. -/
theorem records_connected {hello : Handshake} {deadline : Nat} {attempt : Attempt}
    (hphase : (a.connection k).phase = .dialing hello deadline attempt) (stores : Stores)
    (now others : Nat) (link : Link) :
    (a.make (.connected k stores now others link)).records k =
      ((a.records k).say ⟨a.opened + others, none, .ofHandshake hello⟩).put (a.opened + others)
        (gained link.up (connected stores now (a.opened + others) hello
          ⟨a.connection k, link, none⟩).link.up) := by
  simp only [make, hphase]
  exact Function.update_self ..

/-- The record of a socket whose keeper makes a step on its link. -/
theorem records_keeper {n : Nat} (hlink : linkOf? (a.connection k) = some n) (branch : Branch)
    (stores : Stores) (now : Nat) (link : Link) :
    (a.make (.keeper k branch stores now link)).records k =
      ((a.records k).after n (utters branch now ⟨a.connection k, link, none⟩)
        (hears ⟨a.connection k, link, none⟩)).put n
          (gained link.up (step branch stores now ⟨a.connection k, link, none⟩).link.up) := by
  unfold make turn
  dsimp only
  rw [hlink]
  exact Function.update_self ..

/-- When the connection is there, the handshake is said on the new link. -/
theorem saidOn_connected {hello : Handshake} {deadline : Nat} {attempt : Attempt}
    (hphase : (a.connection k).phase = .dialing hello deadline attempt) (stores : Stores)
    (now others : Nat) (link : Link) (n : Nat) :
    ((a.make (.connected k stores now others link)).records k).saidOn n =
      (a.records k).saidOn n ++
        if n = a.opened + others then fitting [.ofHandshake hello] else [] := by
  rw [records_connected hphase]
  exact (a.records k).saidOn_say ⟨a.opened + others, none, .ofHandshake hello⟩ n

/-- A keeper says nothing on a link that is not its own. -/
theorem saidOn_keeper {n : Nat} (hn : linkOf? (a.connection k) ≠ some n) (branch : Branch)
    (stores : Stores) (now : Nat) (link : Link) :
    ((a.make (.keeper k branch stores now link)).records k).saidOn n = (a.records k).saidOn n := by
  cases hlink : linkOf? (a.connection k) with
  | none => rw [Record.saidOn, Record.saidOn, (a.quiet_keeper hlink branch stores now link).said k]
  | some m =>
    have hne : n ≠ m := fun heq => hn (heq ▸ hlink)
    rw [records_keeper hlink]
    show ((a.records k).after m _ _).saidOn n = _
    rw [Record.saidOn_after, if_neg hne, List.append_nil]

/-- **What is said on a link** is said by the keeper that has it, or it is the handshake of one that
has just connected. -/
theorem saidOn_make_cases (a : Application) (move : Move) (k : SocketKind) (n : Nat) :
    ((a.make move).records k).saidOn n = (a.records k).saidOn n ∨
      linkOf? (a.connection k) = some n ∨
      ∃ hello, a.Connects k move hello n ∧ ((a.make move).records k).saidOn n =
        (a.records k).saidOn n ++ fitting [.ofHandshake hello] := by
  cases hquiet : move.isQuiet with
  | true => exact .inl (by rw [Record.saidOn, Record.saidOn, (a.make_quiet hquiet).said k])
  | false =>
    cases move with
    | connected j stores now others link =>
      by_cases hj : k = j
      · subst hj
        cases hphase : (a.connection k).phase with
        | dialing hello deadline attempt =>
          have hsaid := saidOn_connected hphase stores now others link n
          by_cases hn : n = a.opened + others
          · rw [if_pos hn] at hsaid
            exact .inr (.inr ⟨hello, ⟨⟨deadline, attempt, hphase⟩, stores, now, others, link, rfl,
              hn⟩, hsaid⟩)
          · rw [if_neg hn, List.append_nil] at hsaid
            exact .inl hsaid
        | _ => exact .inl (by simp only [make, hphase])
      · refine .inl (congrArg (fun r : Record => r.saidOn n) ?_)
        unfold make
        dsimp only
        split
        · exact Function.update_of_ne hj _ _
        · rfl
    | keeper j branch stores now link =>
      by_cases hj : k = j
      · subst hj
        by_cases hn : linkOf? (a.connection k) = some n
        · exact .inr (.inl hn)
        · exact .inl (saidOn_keeper hn branch stores now link)
      · exact .inl (congrArg (fun r : Record => r.saidOn n) (a.records_turn_of_ne _ _ _ _ _ hj))
    | _ => cases hquiet

end Application

/-- The login and the password of a handshake are those of some credentials, if there are any. -/
def Wire.Handshake.Carries (hello : Handshake) (credentials : Option Credentials) : Prop :=
  hello.login = credentials.map Credentials.login ∧
    hello.password = credentials.map Credentials.password

namespace Device

variable {d : Device} {moves : List Move} {k : SocketKind} {hello : Handshake}

/-- The keeper of a socket may dial with a handshake: it has no link and nothing of a socket is
left, the socket is not shut down and the build has not expired, there is a reason for the socket to
be open, and the handshake carries what the stores hold for it. -/
structure MayDial (d : Device) (k : SocketKind) (hello : Handshake) : Prop where
  head : (d.connection k).phase = .atHead
  unlinked : linkOf? (d.connection k) = none
  closed : (d.connection k).state = .closed ∧ (d.connection k).outbox = none
  kept : (d.connection k).policy.shutDown = false
  valid : d.stores.expired = false
  needed : (d.connection k).policy.appActive = true ∨ 0 < (d.connection k).policy.tokens ∨
    0 < (d.connection k).pending.size ∨
    ∃ t, (d.connection k).policy.pushUntil = some t ∧ d.now < t
  identified : k = .identified → d.stores.credentials.isSome = true ∧
    hello.Carries d.stores.credentials
  unidentified : k = .unidentified → hello.Carries none

/-- A keeper at the head of its loop that sees that its socket is wanted may dial with what it
reads. -/
theorem Watched.mayDial (h : d.Watched) (hphase : (d.connection k).phase = .atHead)
    (hwanted : (d.connection k).wanted d.stores d.now = true)
    (hhello : (d.connection k).hello? d.stores = some hello) : d.MayDial k hello := by
  obtain ⟨hsocket, hpolicy⟩ := h.socket k
  have hpublished := h.sound.published k
  have hshown : (d.app.ledger k).shown = .closed := congrArg Phase.shown hphase
  obtain ⟨hkept, hforbids, hneeded⟩ := ((d.connection k).policy.wants_iff _ _ _).1 hwanted
  rw [hpolicy, Stores.forbids, Bool.or_eq_false_iff] at hforbids
  rw [Connection.hello?, hsocket] at hhello
  refine ⟨hphase, by rw [linkOf?, hphase], ⟨hpublished.state.trans hshown, ?_⟩, hkept, hforbids.1,
    hneeded.imp_right (Or.imp_right (Or.imp_right ?_)), ?_, ?_⟩
  · refine Option.not_isSome_iff_eq_none.1 fun hopen => ?_
    cases hshown.symm.trans (hpublished.link (hpublished.outbox.1 hopen))
  · rintro ⟨t, ht⟩
    exact ⟨t, ((d.connection k).policy.pushDeadline?_eq_some_iff d.now t).1 ht⟩
  · rintro rfl
    obtain ⟨credentials, hcredentials, rfl⟩ := Option.map_eq_some_iff.1 hhello
    rw [hcredentials]
    exact ⟨rfl, rfl, rfl⟩
  · rintro rfl
    cases hhello
    exact ⟨rfl, rfl⟩

/-- **A keeper that dials after a move** did so before, or may dial now. -/
theorem Watched.dials_make (h : d.Watched) {move : Move} {deadline : Nat} {attempt : Attempt}
    (hphase : ((d.make move).connection k).phase = .dialing hello deadline attempt) :
    (d.connection k).phase = .dialing hello deadline attempt ∨
      d.MayDial k hello ∧ ∃ stores now, move = .act (.atHead k stores now attempt) := by
  cases move with
  | act move =>
    rcases Application.dials_make hphase with hbefore | ⟨stores, now, hmove, hhead, hwanted, hhello⟩
    · exact .inl hbefore
    · cases move with
      | atHead j _ _ _ =>
        cases hmove
        exact .inr ⟨h.mayDial hhead hwanted hhello, _, _, rfl⟩
      | operate j op => cases op <;> cases hmove
      | _ => cases hmove
  | reregister credentials =>
    have hcycle : ((d.app.make (.operate .identified .cycle)).connection k).phase =
        .dialing hello deadline attempt := hphase
    rcases Application.dials_make hcycle with
      hbefore | ⟨_, _, hmove, _⟩
    · exact .inl hbefore
    · cases hmove
  | store | wait => exact .inl hphase

/-! ## Where a link comes from -/

/-- In a run the keeper of a socket began to dial as it may, and dials since then. -/
def Dials (d : Device) (moves : List Move) (k : SocketKind) (hello : Handshake) : Prop :=
  ∃ before stores now deadline attempt since,
    moves = before ++ .act (.atHead k stores now attempt) :: since ∧
    (d.makeAll before).MayDial k hello ∧
    ∀ mid, mid <+: since →
      ((d.makeAll (before ++ .act (.atHead k stores now attempt) :: mid)).connection k).phase =
        .dialing hello deadline attempt

/-- In a run a link was opened for the keeper of a socket that dialed with a handshake. -/
def OpenedBy (d : Device) (moves : List Move) (k : SocketKind) (n : Nat) (hello : Handshake) :
    Prop :=
  ∃ before stores now others link after,
    moves = before ++ .act (.connected k stores now others link) :: after ∧
    d.Dials before k hello ∧ n = (d.makeAll before).app.opened + others

theorem OpenedBy.snoc {n : Nat} (h : d.OpenedBy moves k n hello) (move : Move) :
    d.OpenedBy (moves ++ [move]) k n hello := by
  obtain ⟨before, stores, now, others, link, after, rfl, h⟩ := h
  exact ⟨before, stores, now, others, link, after ++ [move], List.append_assoc .., h⟩

/-- A keeper that dials goes on to, while its phase stays what it is. -/
theorem Dials.snoc {deadline : Nat} {attempt : Attempt} (h : d.Dials moves k hello)
    (hbefore : ((d.makeAll moves).connection k).phase = .dialing hello deadline attempt)
    {move : Move} (hafter : ((d.makeAll (moves ++ [move])).connection k).phase =
      .dialing hello deadline attempt) : d.Dials (moves ++ [move]) k hello := by
  obtain ⟨before, stores, now, deadline', attempt', since, rfl, hmay, hsince⟩ := h
  cases hbefore.symm.trans (hsince since List.prefix_rfl)
  refine ⟨before, stores, now, deadline, attempt, since ++ [move], List.append_assoc .., hmay,
    fun mid hmid => ?_⟩
  rcases List.prefix_concat_iff.1 hmid with rfl | hmid
  · rw [← List.cons_append, ← List.append_assoc]
    exact hafter
  · exact hsince mid hmid

/-- What holds of a socket at any time in a run: if its keeper dials, it began to as it may; on the
link that it has something was said; and what was said on any link began with the handshake with
which the keeper dialed for the link. -/
structure Begun (d : Device) (moves : List Move) (k : SocketKind) : Prop where
  dials : ∀ hello deadline attempt,
    ((d.makeAll moves).connection k).phase = .dialing hello deadline attempt → d.Dials moves k hello
  linked : ∀ n, linkOf? ((d.makeAll moves).connection k) = some n →
    ((d.makeAll moves).app.records k).saidOn n ≠ []
  opened : ∀ n, ((d.makeAll moves).app.records k).saidOn n = [] ∨
    ∃ hello rest, ((d.makeAll moves).app.records k).saidOn n = .ofHandshake hello :: rest ∧
      d.OpenedBy moves k n hello

/-- What a move does to the application: nothing, or one of the moves of the application. -/
theorem app_make (d : Device) (move : Move) (k : SocketKind) :
    (d.make move).app = d.app ∨ ∃ move', (d.make move).app = d.app.make move' ∧
      ∀ stores now others link, move' = .connected k stores now others link →
        ∃ stores now, move = .act (.connected k stores now others link) := by
  cases move with
  | act move =>
    refine .inr ⟨_, rfl, fun stores now others link hmove => ?_⟩
    cases move with
    | connected =>
      cases hmove
      exact ⟨_, _, rfl⟩
    | operate j op => cases op <;> cases hmove
    | _ => cases hmove
  | reregister credentials => exact .inr ⟨.operate .identified .cycle, rfl, nofun⟩
  | store | wait => exact .inl rfl

/-- On the link that a keeper has something was said. -/
theorem Begun.linked_make (h : d.Begun moves k) (hwired : (d.makeAll moves).app.Wired)
    {move : Application.Move} {n : Nat}
    (hlink : linkOf? (((d.makeAll moves).app.make move).connection k) = some n) :
    (((d.makeAll moves).app.make move).records k).saidOn n ≠ [] := by
  obtain ⟨more, hmore⟩ := (d.makeAll moves).app.saidOn_make move k n
  rcases Application.linkOf?_make hlink with hbefore | ⟨hello, hconnects⟩
  · rw [← hmore]
    exact List.append_ne_nil_of_left_ne_nil (h.linked n hbefore) more
  · obtain ⟨⟨deadline, attempt, hphase⟩, stores, now, others, link, rfl, rfl⟩ := hconnects
    cases Application.greets_connected hwired stores now others link hphase
        (by rw [hlink]; nofun) with
    | dials _ _ hphase' =>
      rw [linkOf?, hphase'] at hlink
      cases hlink
    | wrote m hm hhead =>
      obtain rfl := Option.some.inj (hm.symm.trans hlink)
      intro hnil
      rw [hnil] at hhead
      cases hhead

/-- What is said on a link for the first time is the handshake of the keeper that dialed for it. -/
theorem Begun.opened_make (h : d.Begun moves k) {move : Move} {move' : Application.Move}
    (hconnected : ∀ stores now others link, move' = .connected k stores now others link →
      ∃ stores now, move = .act (.connected k stores now others link)) (n : Nat) :
    (((d.makeAll moves).app.make move').records k).saidOn n = [] ∨
      ∃ hello rest, (((d.makeAll moves).app.make move').records k).saidOn n =
        .ofHandshake hello :: rest ∧ d.OpenedBy (moves ++ [move]) k n hello := by
  rcases h.opened n with hnil | ⟨hello, rest, hsaid, hopened⟩
  · rcases (d.makeAll moves).app.saidOn_make_cases move' k n with hsame | hlink |
      ⟨hello, ⟨⟨deadline, attempt, hphase⟩, stores, now, others, link, hmove, hn⟩, hgreets⟩
    · exact .inl (hsame.trans hnil)
    · exact absurd hnil (h.linked n hlink)
    · obtain ⟨stores', now', rfl⟩ := hconnected stores now others link hmove
      rw [hgreets, hnil]
      by_cases hfit : (Message.ofHandshake hello).length ≤ Frame.maxLength
      · exact .inr ⟨hello, [], by simp [fitting, hfit], moves, stores', now', others, link, [], rfl,
          h.dials hello deadline attempt hphase, hn⟩
      · exact .inl (by simp [fitting, hfit])
  · obtain ⟨more, hmore⟩ := (d.makeAll moves).app.saidOn_make move' k n
    exact .inr ⟨hello, rest ++ more, by rw [← hmore, hsaid]; rfl, hopened.snoc move⟩

/-- **It is kept by every move.** -/
theorem Begun.snoc (h : d.Begun moves k) (hwatched : (d.makeAll moves).Watched)
    (hwired : (d.makeAll moves).app.Wired) (move : Move) : d.Begun (moves ++ [move]) k := by
  have hmake := d.makeAll_snoc moves move
  have hdials : ∀ hello deadline attempt,
      ((d.makeAll (moves ++ [move])).connection k).phase = .dialing hello deadline attempt →
        d.Dials (moves ++ [move]) k hello := by
    intro hello deadline attempt hphase
    rcases hwatched.dials_make (hmake ▸ hphase) with hbefore | ⟨hmay, stores, now, rfl⟩
    · exact (h.dials hello deadline attempt hbefore).snoc hbefore hphase
    · refine ⟨moves, stores, now, deadline, attempt, [], rfl, hmay, fun mid hmid => ?_⟩
      rw [List.prefix_nil.1 hmid]
      exact hphase
  rcases (d.makeAll moves).app_make move k with happ | ⟨move', happ, hconnected⟩
  · refine ⟨hdials, fun n hlink => ?_, fun n => ?_⟩
    · rw [connection, hmake, happ] at hlink
      rw [hmake, happ]
      exact h.linked n hlink
    · rw [hmake, happ]
      exact (h.opened n).imp_right fun ⟨hello, rest, hsaid, hopened⟩ =>
        ⟨hello, rest, hsaid, hopened.snoc move⟩
  · refine ⟨hdials, fun n hlink => ?_, fun n => ?_⟩
    · rw [connection, hmake, happ] at hlink
      rw [hmake, happ]
      exact h.linked_make hwired hlink
    · rw [hmake, happ]
      exact h.opened_make hconnected n

theorem begun (config : ClientConfig) (stores : Stores) (moves : List Move) (k : SocketKind) :
    (start config stores).Begun moves k := by
  induction moves using List.reverseRecOn with
  | nil =>
    refine ⟨fun hello deadline attempt hphase => ?_, fun n hlink => ?_, fun n => .inl rfl⟩
    · cases k <;> cases hphase
    · cases k <;> cases hlink
  | append_singleton moves move ih =>
    exact ih.snoc (watched_makeAll (watched_start config stores) moves)
      (wired_makeAll (Application.wired_start config) moves) move

/-- **A keeper dials only when it may, and says the handshake first.** In any run, with any changes
of the reasons, the stores and the clock at any moments: a keeper that dials after a move did so
before with the same handshake, or the move is the one in which it may dial; and on every link
either nothing was ever said or put, or the first thing said on it is the handshake with which the
keeper dialed until the link was there, and the bytes that were put on the link are the front of
this handshake and of the messages after it. -/
theorem dials_when_it_may (config : ClientConfig) (stores : Stores) (moves : List Move)
    (k : SocketKind) :
    let d := (start config stores).makeAll moves
    (∀ move hello deadline attempt,
      ((d.make move).connection k).phase = .dialing hello deadline attempt →
        (d.connection k).phase = .dialing hello deadline attempt ∨ d.MayDial k hello) ∧
    ∀ n, (d.app.records k).saidOn n = [] ∧ (d.app.records k).wire n = .empty ∨
      ∃ hello rest more, (d.app.records k).saidOn n = .ofHandshake hello :: rest ∧
        (d.app.records k).wire n ++ more = stream (.ofHandshake hello :: rest) ∧
        (start config stores).OpenedBy moves k n hello := by
  intro d
  have hwatched : d.Watched := watched_makeAll (watched_start config stores) moves
  have hwired : d.app.Wired := wired_makeAll (Application.wired_start config) moves
  refine ⟨fun move hello deadline attempt hphase => ?_, fun n => ?_⟩
  · exact (hwatched.dials_make hphase).imp_right And.left
  · obtain ⟨more, hmore, -⟩ := (hwired k).bytes n
    rcases (begun config stores moves k).opened n with hnil | ⟨hello, rest, hsaid, hopened⟩
    · refine .inl ⟨hnil, ?_⟩
      rw [show (d.app.records k).saidOn n = [] from hnil] at hmore
      exact (ByteArray.append_eq_empty_iff.1 hmore).1
    · rw [show (d.app.records k).saidOn n = _ from hsaid] at hmore ⊢
      exact .inr ⟨hello, rest, more, rfl, hmore, hopened⟩

/-- The application wants the identified socket: its keeper may dial with what the stores hold, and
says so on the link that is opened for it. -/
theorem dials_of_attending :
    (∃ hello : Handshake, hello.login = some "alice" ∧ hello.password = some "secret" ∧
      ((start {} { credentials := some ⟨"alice", "secret"⟩ }).makeAll
        [.act (.operate .identified (.setActive true))]).MayDial .identified hello) ∧
    ∃ hello, hello.Carries (some ⟨"alice", "secret"⟩) ∧
      (start {} { credentials := some ⟨"alice", "secret"⟩ }).OpenedBy (attending .identified)
        .identified 0 hello := by
  refine ⟨⟨.identified "alice" "secret" ({} : ClientConfig).userAgent, rfl, rfl, ?_⟩, ?_⟩
  · exact ((dials_when_it_may {} { credentials := some ⟨"alice", "secret"⟩ }
      [.act (.operate .identified (.setActive true))] .identified).1
      (.act (.atHead .identified {} 0 .connected)) _ _ _ rfl).resolve_left fun h => by cases h
  · have hgreets : ((((start {} { credentials := some ⟨"alice", "secret"⟩ }).makeAll
        (attending .identified)).app.records .identified).saidOn 0).map
          (fun m => m.handshake.map fun hello => (hello.login, hello.password)) =
        [some (some "alice", some "secret")] := by decide +kernel
    have hopened := (dials_when_it_may {} { credentials := some ⟨"alice", "secret"⟩ }
      (attending .identified) .identified).2 0
    generalize (((start {} { credentials := some ⟨"alice", "secret"⟩ }).makeAll
      (attending .identified)).app.records .identified).saidOn 0 = said at hgreets hopened
    rcases hopened with ⟨rfl, -⟩ | ⟨hello, rest, -, rfl, -, hopened⟩
    · cases hgreets
    · simp only [List.map_cons, List.cons.injEq, Message.ofHandshake, Option.map_some,
        Option.some.injEq, Prod.mk.injEq] at hgreets
      exact ⟨hello, hgreets.1, hopened⟩

end Device

end ChatSockets
