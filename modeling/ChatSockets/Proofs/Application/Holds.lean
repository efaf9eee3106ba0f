import ChatSockets.Proofs.Device.Dialing
import ChatSockets.Proofs.Application.Callers
import ChatSockets.Proofs.Socket.Tokens

/-!
# Requests hold their sockets

A token of a socket is held by a call, or by the application that took it and has not made a call
with it. `Holder` keeps count of the latter; so it lets the application give back or use up only a
token that it has. Then the number of tokens of a socket is the number of those that are held
(`Balanced`, kept by every move), and the requests that wait on a socket are those of the calls that
wait for an outcome (`Inv.size_eq`). The main statement `requests_hold_their_sockets` says what each
call has in these two numbers, from its token to its outcome.

The keeper of an open socket looks at the two numbers one after the other (`counted_earlier`). A
request that is handed over in between is in neither of them as the keeper sees them, and may lose
its socket (`hand_over_overlooked`).
-/

namespace ChatSockets.Application

open Keeper

variable {a : Application} {k : SocketKind} {move : Move}

/-! ## The tokens of all calls -/

/-- How many tokens of a socket the calls hold, each at most one. -/
def callTokens (a : Application) (k : SocketKind) : Nat :=
  a.callers.countP fun c => c.phase.tokens k = 1

/-- What a call holds is among what all calls hold. -/
theorem tokens_le_callTokens {j : Nat} {c : Caller} (hj : a.callers[j]? = some c) :
    c.phase.tokens k ≤ a.callTokens k := by
  obtain ⟨hlt, rfl⟩ := List.getElem?_eq_some_iff.1 hj
  rw [← Call.Phase.ite_tokens]
  exact List.boole_getElem_le_countP (p := fun c : Caller => c.phase.tokens k = 1) hlt

theorem callTokens_goOn {j : Nat} {goal : Goal} {p : Call.Phase}
    (hj : a.callers[j]? = some ⟨goal, p⟩) (submitted : Option (SocketKind × Request))
    (after : Call.Phase × Sockets) :
    (a.goOn j goal submitted after).callTokens k + p.tokens k =
      a.callTokens k + after.1.tokens k := by
  have hle : p.tokens k ≤ a.callTokens k := tokens_le_callTokens hj
  obtain ⟨hlt, hget⟩ := List.getElem?_eq_some_iff.1 hj
  have hcount : (a.goOn j goal submitted after).callTokens k =
      a.callTokens k - p.tokens k + after.1.tokens k := by
    refine (List.countP_set hlt).trans ?_
    rw [Call.Phase.ite_tokens, Call.Phase.ite_tokens, hget]
    rfl
  rw [hcount]
  omega

theorem callTokens_call (a : Application) (goal : Goal) (k : SocketKind) :
    (a.make (.call goal)).callTokens k = a.callTokens k + (Call.Phase.fresh goal).tokens k := by
  refine List.countP_append.trans ?_
  rw [List.countP_singleton, Call.Phase.ite_tokens]
  rfl

theorem callTokens_make (a : Application) (hcall : move.ofCall = false) (k : SocketKind) :
    (a.make move).callTokens k = a.callTokens k := by
  rw [callTokens, callers_make a hcall, callTokens]

/-- The socket of which the application takes a token in a move. -/
def Move.takes? : Move → Option SocketKind
  | .operate k .acquire => some k
  | _ => none

/-- The socket of which the application gives away a token in a move: it drops it, or makes a call
with it. -/
def Move.gives? : Move → Option SocketKind
  | .operate k .release => some k
  | .call (.submit _ token _) => some token
  | _ => none

/-- The tokens of a keeper's socket are no matter of the keeper. -/
theorem tokens_of_policy {c c' : Connection}
    (h : c'.policy = c.policy ∨ c'.policy = c.policy.takeWake) :
    c'.policy.tokens = c.policy.tokens := by
  rcases h with h | h
  · rw [h]
  · rw [h]
    rfl

/-- What the keepers do, and what the application does with no token, leaves all tokens as they are.
-/
theorem tokens_make (a : Application) (hcall : move.ofCall = false) (htakes : move.takes? = none)
    (hgives : move.gives? = none) (k : SocketKind) :
    ((a.make move).connection k).policy.tokens = (a.connection k).policy.tokens := by
  cases move with
  | call | step | cancel => cases hcall
  | operate j op =>
    unfold make
    dsimp only
    split
    · rfl
    · refine Sockets.tokens_set (Connection.tokens_perform _ ?_ ?_)
      · rintro rfl
        cases htakes
      · rintro rfl
        cases hgives
  | atHead j stores now attempt =>
    unfold make
    dsimp only
    split
    · exact Sockets.tokens_set
        (congrArg Policy.tokens ((a.connection j).atHead_saw stores now attempt).2)
    · rfl
  | connectFailed j stores now e =>
    unfold make
    dsimp only
    split
    · exact Sockets.tokens_set
        (congrArg Policy.tokens (connectFailed_away (a.connection j) stores now e).2.2)
    · rfl
  | connected j stores now others link =>
    unfold make
    dsimp only
    split
    · exact Sockets.tokens_set (tokens_of_policy (connected_looks stores now _ _ _).policy)
    · rfl
  | keeper j branch stores now link =>
    refine Sockets.tokens_set (s := a.sockets) ?_
    cases hgoes : goesOn branch now ⟨a.connection j, link, none⟩ with
    | true => exact tokens_of_policy (step_heeds branch stores now _ hgoes).policy
    | false => rw [step_of_not_goesOn branch stores now _ hgoes]; rfl

/-! ## The tokens of the application -/

/-- An application with the number of tokens of each socket that it holds itself. -/
structure Holder where
  app : Application
  held : SocketKind → Nat := fun _ => 0

namespace Holder

/-- The application after a move. It gives away no token that it does not hold. -/
def make (h : Holder) (move : Move) : Holder :=
  match move.takes?, move.gives? with
  | some k, _ =>
    { app := h.app.make move, held := Function.update h.held k (h.held k + 1) }
  | none, some k =>
    if h.held k = 0 then h
    else { app := h.app.make move, held := Function.update h.held k (h.held k - 1) }
  | none, none => { h with app := h.app.make move }

/-- The application after some moves. -/
def makeAll (h : Holder) (moves : List Move) : Holder := moves.foldl make h

/-- An application of which nothing has happened. -/
def start (config : ClientConfig) : Holder := { app := .start config }

/-- Every token of a socket is held by the application or by a call. -/
def Balanced (h : Holder) : Prop :=
  ∀ k, (h.app.connection k).policy.tokens = h.held k + h.app.callTokens k

variable {h : Holder}

/-- **A call makes a step or is abandoned**: what the tokens of a socket gain, the call gains. -/
theorem Balanced.goOn (hb : h.Balanced) {j : Nat} {goal : Goal} {p : Call.Phase}
    (hj : h.app.callers[j]? = some ⟨goal, p⟩) (submitted : Option (SocketKind × Request))
    {after : Call.Phase × Sockets}
    (hafter : ∀ k, p.tokens k ≤ (h.app.connection k).policy.tokens →
      (after.2.get k).policy.tokens + p.tokens k =
        (h.app.connection k).policy.tokens + after.1.tokens k) :
    Balanced { h with app := h.app.goOn j goal submitted after } := by
  intro k
  have hle : p.tokens k ≤ h.app.callTokens k := tokens_le_callTokens hj
  have hcount := hb k
  have hgained := hafter k (by omega)
  have hcalls := callTokens_goOn hj submitted after (k := k)
  show (after.2.get k).policy.tokens = h.held k + (h.app.goOn j goal submitted after).callTokens k
  omega

/-- The application takes a token. -/
theorem Balanced.take (hb : h.Balanced) (j : SocketKind) :
    (h.make (.operate j .acquire)).Balanced := by
  intro k
  have hcount := hb k
  have htaken := h.app.sockets.tokens_acquire j k
  show ((h.app.sockets.modify j Connection.acquire).get k).policy.tokens =
    Function.update h.held j (h.held j + 1) k + h.app.callTokens k
  by_cases heq : j = k
  · subst heq
    rw [Function.update_self, htaken, if_pos rfl]
    show (h.app.connection j).policy.tokens + 1 = _
    omega
  · rw [Function.update_of_ne (Ne.symm heq), htaken, if_neg heq]
    exact hcount

/-- The application drops a token. -/
theorem Balanced.drop (hb : h.Balanced) (j : SocketKind) :
    (h.make (.operate j .release)).Balanced := by
  show Balanced (if h.held j = 0 then h else _)
  split
  · exact hb
  · next hheld =>
    intro k
    have hcount := hb k
    have hdropped := h.app.sockets.tokens_release j k
    show ((h.app.sockets.modify j Connection.release).get k).policy.tokens =
      Function.update h.held j (h.held j - 1) k + h.app.callTokens k
    by_cases heq : j = k
    · subst heq
      rw [Function.update_self, hdropped, if_pos rfl]
      show (h.app.connection j).policy.tokens - 1 = _
      omega
    · rw [Function.update_of_ne (Ne.symm heq), hdropped, if_neg heq]
      exact hcount

/-- The application makes a call with a token. -/
theorem Balanced.submit (hb : h.Balanced) (socket token : SocketKind) (r : Request) :
    (h.make (.call (.submit socket token r))).Balanced := by
  show Balanced (if h.held token = 0 then h else _)
  split
  · exact hb
  · next hheld =>
    intro k
    have hcount := hb k
    have hcalls := callTokens_call h.app (.submit socket token r) k
    show (h.app.connection k).policy.tokens = Function.update h.held token (h.held token - 1) k +
      (h.app.make (.call (.submit socket token r))).callTokens k
    by_cases heq : token = k
    · subst heq
      rw [Function.update_self, hcalls, Call.Phase.tokens, if_pos rfl]
      omega
    · rw [Function.update_of_ne (Ne.symm heq), hcalls, Call.Phase.tokens, if_neg heq]
      exact hcount

/-- **No token is lost and none is given back twice**, whatever happens. -/
theorem Balanced.make (hb : h.Balanced) (move : Move) : (h.make move).Balanced := by
  cases move with
  | step j stores now =>
    show Balanced { h with app := h.app.make (.step j stores now) }
    unfold Application.make
    dsimp only
    split
    · exact hb
    · exact hb.goOn ‹_› _ fun k hle => Call.step_tokens hle stores now
  | cancel j =>
    show Balanced { h with app := h.app.make (.cancel j) }
    unfold Application.make
    dsimp only
    split
    · exact hb
    · exact hb.goOn ‹_› _ fun k hle => Call.cancel_tokens hle
  | call goal =>
    have hcalls := callTokens_call h.app goal
    cases goal with
    | submit socket token r => exact hb.submit socket token r
    | _ =>
      intro k
      exact (hb k).trans (congrArg (h.held k + ·) (hcalls k).symm)
  | operate j op =>
    cases op with
    | acquire => exact hb.take j
    | release => exact hb.drop j
    | _ =>
      intro k
      exact (tokens_make h.app rfl rfl rfl k).trans
        ((hb k).trans (congrArg (h.held k + ·) (callTokens_make h.app rfl k).symm))
  | atHead | connectFailed | connected | keeper =>
    intro k
    exact (tokens_make h.app rfl rfl rfl k).trans
      ((hb k).trans (congrArg (h.held k + ·) (callTokens_make h.app rfl k).symm))

theorem balanced_start (config : ClientConfig) : (start config).Balanced := by
  intro k
  cases k <;> rfl

theorem balanced_makeAll (hb : h.Balanced) (moves : List Move) : (h.makeAll moves).Balanced := by
  induction moves generalizing h with
  | nil => exact hb
  | cons move rest ih => exact ih (hb.make move)

/-- A move is made, unless a token would be given away that is not there. -/
theorem app_make (h : Holder) (move : Move) :
    (h.make move).app = h.app ∨ (h.make move).app = h.app.make move := by
  unfold make
  split
  · exact .inr rfl
  · split
    · exact .inl rfl
    · exact .inr rfl
  · exact .inr rfl

/-- What an application does that holds tokens, it could do without count. -/
theorem exists_app_makeAll (h : Holder) (moves : List Move) :
    ∃ moves', (h.makeAll moves).app = h.app.makeAll moves' := by
  induction moves generalizing h with
  | nil => exact ⟨[], rfl⟩
  | cons move rest ih =>
    obtain ⟨moves', hmoves'⟩ := ih (h.make move)
    rcases h.app_make move with hmake | hmake
    · exact ⟨moves', hmoves'.trans (by rw [hmake])⟩
    · exact ⟨move :: moves', hmoves'.trans (by rw [hmake]; rfl)⟩

end Holder

/-! ## The requests that wait -/

/-- The id under which a call waits for its outcome on a socket. -/
def awaits? (a : Application) (k : SocketKind) (p : Call.Phase) : Option UInt64 :=
  match p with
  | .submitted socket id _ _ _ =>
    if socket = k ∧ (a.connection k).replies.get? id = none then some id else none
  | _ => none

theorem awaits?_eq_some_iff {p : Call.Phase} {id : UInt64} : a.awaits? k p = some id ↔
    p.waitsFor? = some (k, id) ∧ (a.ledger k).replies.get? id = none := by
  cases p with
  | submitted socket id' path timeout deadline =>
    show (if _ then _ else _) = _ ↔ some (socket, id') = some (k, id) ∧ _
    split
    · next h =>
      obtain ⟨rfl, hnone⟩ := h
      simp only [Option.some.injEq, Prod.mk.injEq, true_and]
      exact ⟨fun heq => ⟨heq, heq ▸ hnone⟩, And.left⟩
    · next h =>
      simp only [Option.some.injEq, Prod.mk.injEq, reduceCtorEq, false_iff]
      rintro ⟨⟨rfl, rfl⟩, hnone⟩
      exact h ⟨rfl, hnone⟩
  | _ => simp [awaits?, Call.Phase.waitsFor?]

/-- **Whoever waits on a socket** is a call without an outcome, and each such call waits. -/
theorem Inv.mem_receivers_iff (ha : a.Inv) (id : UInt64) :
    (∃ receiver, (a.ledger k).pending.receivers.get? id = some receiver) ↔
      ∃ c ∈ a.callers, a.awaits? k c.phase = some id := by
  constructor
  · rintro ⟨receiver, hwaits⟩
    obtain ⟨j, c, hj, hc⟩ := ha.held k id receiver hwaits
    obtain ⟨i, -, -, rfl, hstands⟩ := ha.waits j c k id hj hc
    refine ⟨c, List.mem_of_getElem? hj, awaits?_eq_some_iff.2 ⟨hc, ?_⟩⟩
    cases hstands with
    | waits _ hreply => exact hreply
    | closed hnone => rw [hnone] at hwaits; cases hwaits
    | answered _ _ hnone => rw [hnone] at hwaits; cases hwaits
  · rintro ⟨c, hmem, hawaits⟩
    obtain ⟨hc, hreply⟩ := awaits?_eq_some_iff.1 hawaits
    obtain ⟨j, hj⟩ := List.mem_iff_getElem?.1 hmem
    obtain ⟨i, -, -, rfl, hstands⟩ := ha.waits j c k id hj hc
    cases hstands with
    | waits hwaits => exact ⟨i.id, hwaits⟩
    | closed _ hclosed => rw [hclosed] at hreply; cases hreply
    | answered _ _ _ hanswered => rw [hanswered] at hreply; cases hreply

/-- No two calls wait under one id. -/
theorem Inv.nodup_awaits (ha : a.Inv) (hfits : a.Fits) (k : SocketKind) :
    (a.callers.filterMap fun c => a.awaits? k c.phase).Nodup := by
  refine List.Pairwise.filterMap _ (fun c c' h id hid id' hid' => ?_)
    (List.pairwise_iff_getElem.2 fun i j hi hj hlt => ?_)
    (R := fun c c' => ∀ id, a.awaits? k c.phase = some id → a.awaits? k c'.phase ≠ some id)
  · rintro rfl
    exact h id hid hid'
  · intro id hid hid'
    obtain ⟨issue, hmem, hcaller, rfl, -⟩ := ha.waits i _ k id (List.getElem?_eq_getElem hi)
      (awaits?_eq_some_iff.1 hid).1
    obtain ⟨issue', hmem', hcaller', hsame, -⟩ := ha.waits j _ k _ (List.getElem?_eq_getElem hj)
      (awaits?_eq_some_iff.1 hid').1
    obtain rfl := (ha.sound.record k).unique (hfits k) hmem hmem' hsame.symm
    exact Nat.ne_of_lt hlt (Option.some.inj (hcaller.symm.trans hcaller'))

/-- **The number of requests that wait on a socket** is the number of calls that wait on it for
their outcome. -/
theorem Inv.size_eq (ha : a.Inv) (hfits : a.Fits) (k : SocketKind) :
    (a.connection k).pending.size = a.callers.countP fun c => (a.awaits? k c.phase).isSome := by
  have hperm : (a.ledger k).pending.receivers.keys.Perm
      (a.callers.filterMap fun c => a.awaits? k c.phase) := by
    have hnodup : (a.ledger k).pending.receivers.keys.Nodup := (a.ledger k).pending.receivers.nodup
    refine (List.perm_ext_iff_of_nodup hnodup (ha.nodup_awaits hfits k)).2 fun id => ?_
    rw [List.mem_filterMap, ← ha.mem_receivers_iff, Table.mem_keys_iff]
  rw [← List.length_filterMap_eq_countP, ← hperm.length_eq, Table.keys, List.length_map]
  rfl

/-! ## What a call has in the counts -/

/-- A call was begun, has neither ended nor been abandoned, and no outcome is there for it. -/
def Underway (a : Application) : Call.Phase → Prop
  | .fresh _ | .done _ | .abandoned => False
  | .submitted k id _ _ _ => (a.connection k).replies.get? id = none
  | _ => True

/-- What a call has in the tokens of a socket and in the requests that wait on it. -/
def share (a : Application) (k : SocketKind) (p : Call.Phase) : Nat :=
  p.tokens k + if (a.awaits? k p).isSome then 1 else 0

/-- A call for a request has nothing in the counts of the other socket. -/
theorem share_of_ne {r : Request} {p : Call.Phase} (hserves : p.Serves (.request r))
    (hk : k ≠ r.route) : a.share k p = 0 := by
  cases p with
  | fresh goal =>
    obtain rfl : goal = .request r := hserves
    rfl
  | holding socket r' limit =>
    obtain ⟨hr, rfl⟩ := hserves
    cases hr
    simp [share, awaits?, Call.Phase.tokens, Ne.symm hk]
  | submitted socket id path timeout deadline =>
    obtain ⟨r', hr'⟩ := hserves
    cases hr'
    simp [share, awaits?, Call.Phase.tokens, Ne.symm hk]
  | _ => rfl

/-- While it is under way, it is counted once on its own socket: by its token, or as one that waits.
-/
theorem share_of_underway {r : Request} {p : Call.Phase} (hserves : p.Serves (.request r))
    (h : a.Underway p) : p.tokens r.route = 1 ∧ a.awaits? r.route p = none ∨
      p.tokens r.route = 0 ∧ (a.awaits? r.route p).isSome = true := by
  cases p with
  | fresh | done | abandoned => cases h
  | holding socket r' limit =>
    obtain ⟨hr, rfl⟩ := hserves
    cases hr
    exact .inl ⟨if_pos rfl, rfl⟩
  | submitted socket id path timeout deadline =>
    obtain ⟨r', hr'⟩ := hserves
    cases hr'
    exact .inr ⟨rfl, Option.isSome_iff_exists.2 ⟨id, awaits?_eq_some_iff.2 ⟨rfl, h⟩⟩⟩
  | opening | openWithin | state | shutdown => simp [Call.Phase.Serves] at hserves

theorem share_of_isOver {p : Call.Phase} (h : p.isOver = true) : a.share k p = 0 := by
  cases p <;> first | rfl | cases h

/-- No tokens are held by calls that are all over. -/
theorem callTokens_of_isOver (h : ∀ c ∈ a.callers, c.phase.isOver = true) (k : SocketKind) :
    a.callTokens k = 0 := by
  refine List.countP_eq_zero.2 fun c hc hone => ?_
  obtain ⟨hnone, -⟩ := Nat.add_eq_zero_iff.1 (share_of_isOver (a := a) (k := k) (h c hc))
  rw [of_decide_eq_true hone] at hnone
  cases hnone

/-- None of them waits. -/
theorem countP_awaits_of_isOver (h : ∀ c ∈ a.callers, c.phase.isOver = true) (k : SocketKind) :
    (a.callers.countP fun c => (a.awaits? k c.phase).isSome) = 0 := by
  refine List.countP_eq_zero.2 fun c hc hsome => ?_
  obtain ⟨-, hnone⟩ := Nat.add_eq_zero_iff.1 (share_of_isOver (a := a) (k := k) (h c hc))
  rw [if_pos hsome] at hnone
  cases hnone

/-- **A request under way is reason enough** for its socket to be open. -/
theorem Inv.wanted_of_underway (ha : a.Inv) (hfits : a.Fits) {j : Nat} {r : Request}
    {p : Call.Phase} (hj : a.callers[j]? = some ⟨.request r, p⟩) (hserves : p.Serves (.request r))
    (hle : p.tokens r.route ≤ (a.connection r.route).policy.tokens) (h : a.Underway p)
    (stores : Stores) (now : Nat) :
    (a.connection r.route).wanted stores now = true ↔ (a.connection r.route).Allowed stores := by
  refine (a.connection r.route).wanted_iff_allowed stores now ?_
  rcases share_of_underway hserves h with ⟨hone, -⟩ | ⟨-, hsome⟩
  · exact .inl (Nat.lt_of_lt_of_le Nat.one_pos (hone ▸ hle))
  · rw [ha.size_eq hfits]
    exact .inr (List.countP_pos_iff.2 ⟨_, List.mem_of_getElem? hj, hsome⟩)

/-- A call that passes the moments of a hand-over asks for its own request. -/
theorem asks?_of_moments {r : Request} {p : Call.Phase} (hserves : p.Serves (.request r))
    {s : Sockets} (hs : s ∈ Call.moments a.sockets p) : p.asks? = some (r.route, r) := by
  cases p with
  | fresh goal =>
    obtain rfl : goal = .request r := hserves
    rfl
  | holding socket r' limit =>
    obtain ⟨hr, rfl⟩ := hserves
    cases hr
    rfl
  | _ => cases hs

/-- **The keeper of an open socket counts the requests that wait first**: those that it goes by when
it looks whether the socket is wanted are the ones that waited at an earlier moment. -/
theorem counted_earlier (config : ClientConfig) (moves : List Move) (k : SocketKind) (live : Live)
    (counted : Nat)
    (h : (((Holder.start config).makeAll moves).app.connection k).phase =
      .looking live (.whetherWanted counted)) :
    ∃ before after, moves = before ++ after ∧
      counted = (((Holder.start config).makeAll before).app.connection k).pending.size := by
  induction moves using List.reverseRecOn with
  | nil => cases k <;> cases h
  | append_singleton moves move ih =>
    have hmake : (Holder.start config).makeAll (moves ++ [move]) =
        ((Holder.start config).makeAll moves).make move := List.foldl_append
    have hbefore : (((Holder.start config).makeAll moves).app.connection k).phase =
        .looking live (.whetherWanted counted) → ∃ before after, moves ++ [move] = before ++ after ∧
          counted = (((Holder.start config).makeAll before).app.connection k).pending.size := by
      intro hphase
      obtain ⟨before, after, rfl, hcounted⟩ := ih hphase
      exact ⟨before, after ++ [move], List.append_assoc .., hcounted⟩
    rw [hmake] at h
    rcases Holder.app_make ((Holder.start config).makeAll moves) move with happ | happ
    · exact hbefore (happ ▸ h)
    · rcases counted_or_touched ((Holder.start config).makeAll moves).app move k with
        hcounted | htouched
      · refine ⟨moves ++ [move], [], (List.append_nil _).symm, ?_⟩
        rw [hmake, happ]
        exact hcounted live counted (happ ▸ h)
      · exact hbefore (htouched.phase.symm.trans (happ ▸ h))

/-- **Requests hold their sockets**, in any run. The number of tokens of a socket is the number of
those that the application and its calls hold, and the number of requests that wait is the number of
calls that wait for an outcome. A call for a request is counted nowhere but on the socket of its
request; there it is counted once from its token to its outcome, so that meanwhile only a shutdown
or the stores can keep the socket from being wanted, also at the moments at which the request is
registered and the token given back; and it is not counted any more once it has ended or is
abandoned. So both numbers are zero when no call and no token is left. The requests that wait are
counted as long as the ids last.

But the keeper of an open socket counts the requests that wait at an earlier moment than that at
which it looks at the tokens and the other reasons. It finds that a socket is wanted which is,
unless it overlooks all requests that wait, because they were handed over in between. -/
theorem requests_hold_their_sockets (config : ClientConfig) (moves : List Move) :
    let h := (Holder.start config).makeAll moves
    let a := h.app
    (∀ k, (a.connection k).policy.tokens = h.held k + a.callTokens k) ∧
    (a.Fits → ∀ k, (a.connection k).pending.size =
      a.callers.countP fun c => (a.awaits? k c.phase).isSome) ∧
    (∀ (j : Nat) (r : Request) (p : Call.Phase), a.callers[j]? = some ⟨.request r, p⟩ →
      (∀ k, k ≠ r.route ∨ p.isOver = true → a.share k p = 0) ∧
      (a.Underway p → a.share r.route p = 1 ∧ (a.Fits → ∀ stores now,
        (a.connection r.route).wanted stores now = true ↔
          (a.connection r.route).Allowed stores)) ∧
      ∀ s ∈ Call.moments a.sockets p, ∀ stores now,
        (s.get r.route).wanted stores now = true ↔ (a.connection r.route).Allowed stores) ∧
    ((∀ c ∈ a.callers, c.phase.isOver = true) → ∀ k, h.held k = 0 →
      (a.connection k).policy.tokens = 0 ∧ (a.Fits → (a.connection k).pending.size = 0)) ∧
    ∀ k live counted, (a.connection k).phase = .looking live (.whetherWanted counted) →
      (∃ before after, moves = before ++ after ∧
        counted = (((Holder.start config).makeAll before).app.connection k).pending.size) ∧
      ∀ stores now, (a.connection k).wanted stores now = true →
        ((a.connection k).wantedBy counted stores now = true ↔
          ¬ (a.connection k).Overlooks counted now) := by
  intro h a
  have hbalanced : h.Balanced := Holder.balanced_makeAll (Holder.balanced_start config) moves
  obtain ⟨moves', happ⟩ := Holder.exists_app_makeAll (Holder.start config) moves
  have hinv : a.Fits → a.Inv := by
    intro hfits
    have hstart : a = (Application.start config).makeAll moves' := happ
    rw [hstart] at hfits ⊢
    exact inv_makeAll (inv_start config) moves' hfits
  have hserves : ∀ (j : Nat) (c : Caller), a.callers[j]? = some c → c.phase.Serves c.goal := by
    intro j c hj
    exact serves_makeAll config moves' j c (happ ▸ hj)
  have htokens : ∀ (j : Nat) (c : Caller), a.callers[j]? = some c → ∀ k,
      c.phase.tokens k ≤ (a.connection k).policy.tokens := by
    intro j c hj k
    rw [hbalanced k]
    exact Nat.le_trans (tokens_le_callTokens hj) (Nat.le_add_left _ _)
  refine ⟨hbalanced, fun hfits => (hinv hfits).size_eq hfits, fun j r p hj => ⟨fun k hk => ?_,
    fun hunderway => ⟨?_, fun hfits stores now => ?_⟩, fun s hs stores now => ?_⟩,
    fun hover k hheld => ⟨?_, fun hfits => ?_⟩, fun k live counted hphase =>
      ⟨counted_earlier config moves k live counted hphase,
        fun stores now hwanted => Connection.wantedBy_iff_of_wanted hwanted counted⟩⟩
  · exact hk.elim (share_of_ne (hserves j _ hj)) share_of_isOver
  · rcases share_of_underway (hserves j _ hj) hunderway with ⟨hone, hnone⟩ | ⟨hzero, hsome⟩
    · rw [share, hone, hnone]
      rfl
    · rw [share, hzero, if_pos hsome]
  · exact (hinv hfits).wanted_of_underway hfits hj (hserves j _ hj) (htokens j _ hj r.route)
      hunderway stores now
  · exact Call.wanted_of_moments (asks?_of_moments (hserves j _ hj) hs) (htokens j _ hj r.route) hs
      stores now
  · rw [hbalanced k, hheld, Nat.zero_add]
    exact callTokens_of_isOver hover k
  · rw [(hinv hfits).size_eq hfits]
    exact countP_awaits_of_isOver hover k

/-- A request is made, waits for its socket with a token, and then for its response. -/
def expecting : List Move :=
  [.call (.request (Request.get "/v1/time").withoutAuthorization), .step 0 {} 0,
    .atHead .unidentified {} 0 .connected, .connected .unidentified {} 0 0 {}] ++
  looks .unidentified {} 0 ++ [.step 0 {} 0]

/-- While the response is expected, the call is what keeps its socket wanted. -/
theorem held_while_expecting :
    let a := ((Holder.start {}).makeAll expecting).app
    a.Fits ∧ ∃ r p, a.callers[0]? = some ⟨.request r, p⟩ ∧ a.Underway p ∧
      a.share r.route p = 1 ∧ (a.connection r.route).wanted {} 0 = true := by
  intro a
  have hfits : a.Fits := by
    intro k
    cases k <;> decide +kernel
  have hnone : (a.connection .unidentified).replies.get? 1 = none := rfl
  obtain ⟨p, hp, hunderway⟩ : ∃ p, a.callers[0]? = some
      ⟨.request (Request.get "/v1/time").withoutAuthorization, p⟩ ∧ a.Underway p := by
    refine ⟨_, rfl, ?_⟩
    exact hnone
  have hallowed : (a.connection .unidentified).Allowed {} := ⟨rfl, rfl⟩
  obtain ⟨hshare, hwanted⟩ :=
    ((requests_hold_their_sockets {} expecting).2.2.1 0 _ p hp).2.1 hunderway
  exact ⟨hfits, _, p, hp, hunderway, hshare, (hwanted hfits {} 0).2 hallowed⟩

/-- A request is made and waits for its socket with a token. The keeper of the socket opens it and
counts the requests that wait; then the request is handed over. -/
def handingOver : List Move :=
  [.call (.request (Request.get "/v1/time").withoutAuthorization), .step 0 {} 0,
    .atHead .unidentified {} 0 .connected, .connected .unidentified {} 0 0 {}, .step 0 {} 0]

/-- **A hand-over is overlooked.** The call is under way, and the request waits; so the socket is
wanted. But the keeper goes by what it counted before. It finds that the socket is not wanted and
closes it, and the call fails. -/
theorem hand_over_overlooked :
    let a := ((Holder.start {}).makeAll handingOver).app
    let c := a.connection .unidentified
    let a' := a.make (.keeper .unidentified .woken {} 0 {})
    (∃ p, a.callers[0]? = some ⟨.request (Request.get "/v1/time").withoutAuthorization, p⟩ ∧
        a.Underway p ∧ a.share .unidentified p = 1) ∧
      (∃ live, c.phase = .looking live (.whetherWanted 0)) ∧
      c.wanted {} 0 = true ∧ c.wantedBy 0 {} 0 = false ∧
      (a'.connection .unidentified).state = .closed ∧
      (a'.make (.step 0 {} 0)).callers[0]?.map Caller.phase =
        some (.done (.error (.connectionClosed .unidentified))) := by
  intro a c a'
  have hnone : (a.connection .unidentified).replies.get? 1 = none := rfl
  refine ⟨⟨_, rfl, hnone, ?_⟩, ⟨_, rfl⟩, by decide +kernel, by decide +kernel, by decide +kernel,
    rfl⟩
  rfl

end ChatSockets.Application
