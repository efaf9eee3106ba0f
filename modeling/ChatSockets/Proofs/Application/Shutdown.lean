import ChatSockets.Proofs.Application.Callers
import ChatSockets.Proofs.Socket.Relabel

/-!
# What a shutdown that has returned means

A socket whose keeper has finished is over: it shows a closed socket, nobody waits on it, and
nothing is ever written on a link for it again (`over_iff`). If the keeper has crashed the same
holds, but for the state: the socket is shown to be open (`Sound.ended`). A shutdown is asked for to
be sure that a socket is over. But of all calls that ask for the shutdown of a socket only the first
waits for its keeper: it claims the connection, and those that come after it have nothing to wait
for. So the call that waited for the keeper is right when it returns, and any other one is right
unless it is forestalled by the one that waits still or was abandoned while it did
(`returned_shutdown_iff`).

Only the first step of a shutdown claims anything (`claimed_make`); and whoever claimed a connection
waits until the keeper has finished, if it is not abandoned (`Claims`, kept by every move).
-/

namespace ChatSockets

open Keeper

/-- Whether a keeper has ended, by itself or by a fault. -/
def Keeper.Phase.ended : Phase → Bool
  | .finished | .crashed => true
  | _ => false

theorem Keeper.Phase.ended_iff {p : Phase} : p.ended = true ↔ p = .finished ∨ p = .crashed := by
  cases p <;> simp [ended]

/-- A call that waits for a keeper finds that it is over once it has ended. -/
theorem Call.ended_of_keeperFinished {c : Connection} (h : keeperFinished c = true) :
    c.phase.ended = true := by
  unfold keeperFinished at h
  split at h
  · next hphase => rw [hphase]; rfl
  · next hphase => rw [hphase]; rfl
  · cases h

/-! ## Who claims a connection -/

/-- The sockets after something that claims none of them. -/
def Sockets.SameClaims (s s' : Sockets) : Prop := ∀ k, (s'.get k).claimed = (s.get k).claimed

namespace Sockets

variable {s s' s'' : Sockets}

theorem SameClaims.refl (s : Sockets) : s.SameClaims s := fun _ => rfl

theorem SameClaims.trans (h : s.SameClaims s') (h' : s'.SameClaims s'') : s.SameClaims s'' :=
  fun k => (h' k).trans (h k)

theorem SameClaims.set (h : s.SameClaims s') {k : SocketKind} {c : Connection}
    (hc : c.claimed = (s'.get k).claimed) : s.SameClaims (s'.set k c) := by
  intro j
  rw [get_set]
  split
  · next heq => exact heq ▸ hc.trans (h k)
  · exact h j

theorem modify_sameClaims (s : Sockets) (k : SocketKind) {f : Connection → Connection}
    (h : ∀ c, (f c).claimed = c.claimed) : s.SameClaims (s.modify k f) :=
  (SameClaims.refl s).set (h _)

/-- Some sockets are shut down, and their connections claimed. -/
theorem claimed_foldl (ks : List SocketKind) (s : Sockets) (k : SocketKind) :
    ((ks.foldl (fun s k => s.modify k fun c => { c with claimed := true }.shutDown) s).get
        k).claimed =
      ((s.get k).claimed || decide (k ∈ ks)) := by
  induction ks generalizing s with
  | nil => simp
  | cons j ks ih =>
    rw [List.foldl_cons, ih, get_modify]
    by_cases heq : k = j
    · simp [heq, Connection.shutDown, Connection.withPolicy]
    · simp [heq]

end Sockets

theorem Connection.withdraw_claimed (c : Connection) (id : UInt64) :
    (c.withdraw id).claimed = c.claimed := by
  unfold withdraw
  split <;> rfl

namespace Call

open Sockets

/-- The sockets whose connections a step of a call claims. -/
def Phase.claims : Phase → List SocketKind
  | .fresh (.shutdown ks) => ks
  | _ => []

theorem submit_sameClaims (s : Sockets) (now : Nat) (socket token : SocketKind) (r : Request) :
    s.SameClaims (submit s now socket token r).2 := by
  have hset : s.SameClaims (s.set socket (s.get socket).register.2) := (SameClaims.refl s).set rfl
  have hregistered := hset.trans (modify_sameClaims _ token (f := Connection.release) fun _ => rfl)
  unfold submit
  dsimp only
  split
  · exact hregistered.set (Connection.withdraw_claimed _ _)
  · next c hsend =>
    obtain ⟨queue, -, rfl⟩ := Option.map_eq_some_iff.1 hsend
    exact hregistered.set rfl

theorem begin_claimed (s : Sockets) (stores : Stores) (now : Nat) (goal : Goal) (k : SocketKind) :
    ((begin s stores now goal).2.get k).claimed =
      ((s.get k).claimed || decide (k ∈ (Phase.fresh goal).claims)) := by
  have hsame : ∀ {s'}, s.SameClaims s' → (s'.get k).claimed =
      ((s.get k).claimed || decide (k ∈ ([] : List SocketKind))) := by
    intro s' h
    simp [h k]
  cases goal with
  | request r =>
    have hacquired : s.SameClaims (s.modify r.route Connection.acquire) :=
      s.modify_sameClaims r.route fun _ => rfl
    unfold begin
    dsimp only
    split
    · exact hsame hacquired
    · exact hsame (hacquired.trans (submit_sameClaims _ now r.route r.route r))
  | submit socket token r => exact hsame (submit_sameClaims s now socket token r)
  | opening | openWithin | state =>
    rw [begin_looks s stores now rfl]
    exact hsame (.refl s)
  | shutdown ks =>
    rw [begin_shutdown]
    exact claimed_foldl ks s k

/-- **A step of a call claims** nothing unless it is the first of a shutdown. -/
theorem step_claimed (s : Sockets) (stores : Stores) (now : Nat) (p : Phase) (k : SocketKind) :
    ((step s stores now p).2.get k).claimed =
      ((s.get k).claimed || decide (k ∈ p.claims)) := by
  have hsame : ∀ {s'}, s.SameClaims s' → (s'.get k).claimed =
      ((s.get k).claimed || decide (k ∈ ([] : List SocketKind))) := by
    intro s' h
    simp [h k]
  have hwithdraw : ∀ socket id, s.SameClaims (s.modify socket (·.withdraw id)) :=
    fun socket id => s.modify_sameClaims socket fun c => c.withdraw_claimed id
  cases p with
  | fresh goal => exact begin_claimed s stores now goal k
  | holding socket r limit =>
    unfold step
    dsimp only
    split
    · exact hsame (submit_sameClaims s now socket socket r)
    · exact hsame (.refl s)
  | submitted socket id =>
    unfold step
    dsimp only
    split
    · exact hsame (hwithdraw socket id)
    · split
      · exact hsame (hwithdraw socket id)
      · exact hsame (.refl s)
  | opening | openWithin | state | shutdown =>
    unfold step
    dsimp only
    split <;> exact hsame (.refl s)
  | done | abandoned => exact hsame (.refl s)

theorem cancel_sameClaims (s : Sockets) (p : Phase) : s.SameClaims (cancel s p).2 := by
  have hreleased : ∀ k, s.SameClaims (s.modify k Connection.release) :=
    fun k => s.modify_sameClaims k fun _ => rfl
  cases p with
  | fresh goal =>
    cases goal with
    | submit socket token r => exact hreleased token
    | _ => exact .refl s
  | holding socket r limit => exact hreleased socket
  | submitted socket id =>
    exact s.modify_sameClaims socket fun c => c.withdraw_claimed id
  | _ => exact .refl s

end Call

namespace Application

variable {a : Application} {k : SocketKind}

/-- The sockets whose connections a move claims. -/
def claims (a : Application) : Move → List SocketKind
  | .step j _ _ =>
    match a.callers[j]? with
    | some caller => caller.phase.claims
    | none => []
  | _ => []

/-- **A move claims** nothing unless it is the first step of a shutdown. -/
theorem claimed_make (a : Application) (move : Move) (k : SocketKind) :
    ((a.make move).connection k).claimed =
      ((a.connection k).claimed || decide (k ∈ a.claims move)) := by
  have hnone : ∀ {b : Bool}, b = (b || decide (k ∈ ([] : List SocketKind))) := by simp
  have hset : ∀ {j : SocketKind} {c : Connection}, c.claimed = (a.connection j).claimed →
      ((a.sockets.set j c).get k).claimed =
        ((a.connection k).claimed || decide (k ∈ ([] : List SocketKind))) := by
    intro j c hc
    rw [← hnone]
    exact (Sockets.SameClaims.refl a.sockets).set hc k
  cases move with
  | call goal => exact hnone
  | step j stores now =>
    unfold make
    dsimp only
    split
    · next hj =>
      simp only [claims, hj]
      exact hnone
    · next goal p hj =>
      simp only [claims, hj]
      exact Call.step_claimed a.sockets stores now p k
  | cancel j =>
    unfold make
    dsimp only
    split
    · exact hnone
    · next goal p hj => exact (Call.cancel_sameClaims a.sockets p k).trans hnone
  | operate j op =>
    unfold make
    dsimp only
    split
    · exact hnone
    · next hop =>
      refine hset ?_
      cases op <;> first | rfl | exact absurd rfl hop
  | atHead j stores now attempt =>
    unfold make
    dsimp only
    split
    · exact hset (Connection.atHead_claimed stores now _ attempt)
    · exact hnone
  | connectFailed j stores now e =>
    unfold make
    dsimp only
    split
    · exact hset (Connection.connectFailed_claimed stores now _ e)
    · exact hnone
  | connected j stores now others link =>
    unfold make
    dsimp only
    split
    · next hphase =>
      exact hset (connected_claimed stores now _ _ _ (by rw [hphase]; rfl))
    · exact hnone
  | keeper j branch stores now link => exact hset (step_claimed stores now branch _)

/-! ## A keeper that has ended -/

/-- A keeper that has ended is not the one of which a move finds another phase. -/
theorem ne_of_ended {j : SocketKind} {phase : Phase} (h : (a.connection k).phase.ended = true)
    (hphase : (a.connection j).phase = phase) (hno : phase.ended = false) : k ≠ j := by
  rintro rfl
  rw [hphase, hno] at h
  cases h

/-- What happens on no link does not bring it back. -/
theorem ended_quiet {move : Move} (h : (a.connection k).phase.ended = true)
    (hquiet : move.isQuiet = true) :
    ((a.make move).connection k).phase = (a.connection k).phase := by
  have hmodify : ∀ {j : SocketKind} (f : Connection → Connection), k ≠ j →
      ((a.modify j f).connection k).phase = (a.connection k).phase := by
    intro j f hj
    rw [connection, modify, Sockets.get_modify, if_neg hj]
    rfl
  cases move with
  | call goal => rfl
  | step j stores now =>
    unfold make
    dsimp only
    split
    · rfl
    · exact (Call.step_does a.sockets stores now _).phase k
  | cancel j =>
    unfold make
    dsimp only
    split
    · rfl
    · exact (Call.cancel_does a.sockets _).phase k
  | operate j op =>
    unfold make
    dsimp only
    split
    · rfl
    · next hop =>
      have halike := a.sockets.modify_alike j fun c => c.perform_alike (by simpa using hop)
      exact (halike k).phase
  | atHead j stores now attempt =>
    unfold make
    dsimp only
    split
    · next hphase => exact hmodify _ (ne_of_ended h hphase rfl)
    · rfl
  | connectFailed j stores now e =>
    unfold make
    dsimp only
    split
    · next hphase => exact hmodify _ (ne_of_ended h hphase rfl)
    · rfl
  | connected | keeper => cases hquiet

/-- **A keeper that has ended** stays where it is, and leaves the record as it is. -/
theorem ended_make (h : (a.connection k).phase.ended = true) (move : Move) :
    ((a.make move).connection k).phase = (a.connection k).phase ∧
      ((a.make move).records k).said = (a.records k).said ∧
      ((a.make move).records k).wire = (a.records k).wire := by
  cases hquiet : move.isQuiet with
  | true =>
    exact ⟨ended_quiet h hquiet, (a.make_quiet hquiet).said k, (a.make_quiet hquiet).wire k⟩
  | false =>
    cases move with
    | connected j stores now others link =>
      unfold make
      dsimp only
      split
      · next hphase =>
        have hj : k ≠ j := ne_of_ended h hphase rfl
        have hrecord := fun r => Function.update_of_ne hj r a.records
        refine ⟨?_, congrArg Record.said (hrecord _), congrArg Record.wire (hrecord _)⟩
        rw [connection, connect, Sockets.get_set, if_neg hj]
        rfl
      · exact ⟨rfl, rfl, rfl⟩
    | keeper j branch stores now link =>
      by_cases hj : k = j
      · subst hj
        have hstays : step branch stores now ⟨a.connection k, link, none⟩ =
            ⟨a.connection k, link, none⟩ := by
          rcases Phase.ended_iff.1 h with hphase | hphase <;> simp only [step, hphase]
        have hlink : linkOf? (a.connection k) = none := by
          rcases Phase.ended_iff.1 h with hphase | hphase <;> rw [linkOf?, hphase]
        unfold make turn
        dsimp only
        rw [hlink, connection, Sockets.get_set, if_pos rfl, hstays]
        exact ⟨rfl, rfl, rfl⟩
      · refine ⟨?_, congrArg Record.said (a.records_turn_of_ne _ _ _ _ _ hj),
          congrArg Record.wire (a.records_turn_of_ne _ _ _ _ _ hj)⟩
        unfold make turn
        rw [connection, Sockets.get_set, if_neg hj]
        rfl
    | _ => cases hquiet

/-- The keeper of a socket has ended in a phase, and a state is shown: whatever happens, it stays
so, nothing can be submitted on the socket and nobody waits on it, and nothing is said or put on a
link for it any more. -/
def Ended (a : Application) (k : SocketKind) (p : Phase) (state : SocketState) : Prop :=
  ∀ later : List Move,
    ((a.makeAll later).connection k).phase = p ∧
      ((a.makeAll later).connection k).state = state ∧
      ((a.makeAll later).connection k).outbox = none ∧
      ((a.makeAll later).connection k).pending.size = 0 ∧
      ((a.makeAll later).records k).said = (a.records k).said ∧
      ((a.makeAll later).records k).wire = (a.records k).wire

/-- The socket is over: its keeper has finished for good, and it shows a closed socket. -/
def Over (a : Application) (k : SocketKind) : Prop := a.Ended k .finished .closed

/-- A keeper that has ended has done so after any move. -/
theorem stays_ended (h : (a.connection k).phase.ended = true) (move : Move) :
    ((a.make move).connection k).phase.ended = true := by
  rw [(ended_make h move).1]
  exact h

/-- What holds once a keeper has ended holds ever after. -/
theorem ended_makeAll (h : (a.connection k).phase.ended = true) (later : List Move) :
    ((a.makeAll later).connection k).phase = (a.connection k).phase ∧
      ((a.makeAll later).records k).said = (a.records k).said ∧
      ((a.makeAll later).records k).wire = (a.records k).wire := by
  induction later generalizing a with
  | nil => exact ⟨rfl, rfl, rfl⟩
  | cons move rest ih =>
    obtain ⟨hphase, hsaid, hwire⟩ := ended_make h move
    obtain ⟨hphase', hsaid', hwire'⟩ := ih (hphase ▸ h)
    exact ⟨hphase'.trans hphase, hsaid'.trans hsaid, hwire'.trans hwire⟩

/-- **A keeper that has ended** is at an end for good. -/
theorem Sound.ended (ha : a.Sound) {p : Phase} (hphase : (a.connection k).phase = p)
    (hended : p.ended = true) : a.Ended k p p.shown := by
  intro later
  obtain ⟨hphase', hsaid, hwire⟩ := ended_makeAll (by rw [hphase]; exact hended) later
  have hpublished := (sound_makeAll ha later).published k
  have hlast := hphase'.trans hphase
  have hlink : ((a.makeAll later).ledger k).link? = none := by
    rw [show ((a.makeAll later).ledger k).link? = _ from congrArg Phase.openLink? hlast]
    rcases Phase.ended_iff.1 hended with rfl | rfl <;> rfl
  refine ⟨hlast, hpublished.state.trans (congrArg Phase.shown hlast), ?_,
    (hpublished.quiet hlink).1, hsaid, hwire⟩
  refine Option.not_isSome_iff_eq_none.1 fun hopen => ?_
  have hsome := hpublished.outbox.1 hopen
  rw [hlink] at hsome
  cases hsome

/-- **A socket is over** as soon as its keeper has finished. -/
theorem over_iff (ha : a.Sound) : a.Over k ↔ (a.connection k).phase = .finished :=
  ⟨fun h => (h []).1, fun h => ha.ended h rfl⟩

/-! ## Who waits for a keeper -/

/-- A call waits for the keeper of a socket to finish. -/
def Awaits (c : Caller) (k : SocketKind) : Prop := ∃ mine, c.phase = .shutdown mine ∧ k ∈ mine

/-- Whoever claims a connection that nobody had claimed waits for its keeper, unless it has ended.
-/
theorem awaits_of_claims {move : Move} (h : k ∈ a.claims move)
    (hbefore : (a.connection k).claimed = false) :
    ((a.make move).connection k).phase.ended = true ∨
      ∃ (i : Nat) (c : Caller), (a.make move).callers[i]? = some c ∧ Awaits c k := by
  cases move with
  | step j stores now =>
    cases hj : a.callers[j]? with
    | none => simp [claims, hj] at h
    | some c =>
      obtain ⟨goal, p⟩ := c
      simp only [claims, hj] at h
      unfold Call.Phase.claims at h
      split at h
      · next ks =>
        have hmine : k ∈ ks.filter fun k => !(a.sockets.get k).claimed := by
          refine List.mem_filter.2 ⟨h, ?_⟩
          rw [show (a.sockets.get k).claimed = false from hbefore]
          rfl
        have hcaller := caller_step hj stores now
        have hsockets : (a.make (.step j stores now)).sockets =
            (Call.begin a.sockets stores now (.shutdown ks)).2 := by
          simp only [make, hj]
          rfl
        generalize a.make (.step j stores now) = a' at hcaller hsockets ⊢
        unfold Call.step Call.begin at hcaller
        rw [Call.begin_shutdown] at hsockets
        dsimp only at hcaller
        rw [← hsockets] at hcaller
        split at hcaller
        · next hall => exact .inl (Call.ended_of_keeperFinished (List.all_eq_true.1 hall k hmine))
        · exact .inr ⟨j, _, hcaller, _, rfl, hmine⟩
      · cases h
  | _ => cases h

section

variable {config : ClientConfig} {moves : List Move}

/-- At some time in a run a call waits for the keeper of a socket. -/
def HasAwaited (config : ClientConfig) (moves : List Move) (i : Nat) (k : SocketKind) : Prop :=
  ∃ before after c, moves = before ++ after ∧
    ((start config).makeAll before).callers[i]? = some c ∧ Awaits c k

theorem HasAwaited.snoc {i : Nat} (h : HasAwaited config moves i k) (move : Move) :
    HasAwaited config (moves ++ [move]) i k := by
  obtain ⟨before, after, c, rfl, hc⟩ := h
  exact ⟨before, after ++ [move], c, List.append_assoc .., hc⟩

theorem HasAwaited.of_awaits {i : Nat} {c : Caller}
    (hi : ((start config).makeAll moves).callers[i]? = some c) (h : Awaits c k) :
    HasAwaited config moves i k :=
  ⟨moves, [], c, (List.append_nil _).symm, hi, h⟩

/-- A call that waits for a keeper did so before the last move, or does so after it. -/
theorem HasAwaited.cases_snoc {i : Nat} {move : Move}
    (h : HasAwaited config (moves ++ [move]) i k) :
    HasAwaited config moves i k ∨
      ∃ c, ((start config).makeAll (moves ++ [move])).callers[i]? = some c ∧ Awaits c k := by
  obtain ⟨before, after, c, hmoves, hc⟩ := h
  rcases List.eq_nil_or_concat after with rfl | ⟨after, last, rfl⟩
  · rw [List.append_nil] at hmoves
    exact .inr ⟨c, hmoves ▸ hc⟩
  · rw [List.concat_eq_append, ← List.append_assoc] at hmoves
    exact .inl ⟨before, after, c, (List.append_inj' hmoves rfl).1, hc⟩

/-- What holds of those who claimed a connection at any time in a run. -/
structure Claims (config : ClientConfig) (moves : List Move) : Prop where
  /-- a shutdown that has begun has claimed the connections, if nobody had before -/
  begun : ∀ (i : Nat) (c : Caller) (ks : List SocketKind),
    ((start config).makeAll moves).callers[i]? = some c → c.goal = .shutdown ks →
    (∀ goal, c.phase ≠ .fresh goal) → c.phase ≠ .abandoned →
    ∀ k ∈ ks, (((start config).makeAll moves).connection k).claimed = true
  /-- whoever claims a connection waits for its keeper, unless it has ended -/
  claimed : ∀ k, (((start config).makeAll moves).connection k).claimed = true →
    (((start config).makeAll moves).connection k).phase.ended = true ∨
      ∃ i, HasAwaited config moves i k
  /-- a call that waits for a keeper waits until it has ended, unless it is abandoned -/
  awaited : ∀ i k, HasAwaited config moves i k →
    (((start config).makeAll moves).connection k).phase.ended = true ∨
      ∃ c, ((start config).makeAll moves).callers[i]? = some c ∧
        (Awaits c k ∨ c.phase = .abandoned)

/-- What has been claimed stays claimed. -/
theorem claimed_of_claimed (h : (a.connection k).claimed = true) (move : Move) :
    ((a.make move).connection k).claimed = true := by
  rw [claimed_make, h, Bool.true_or]

/-- A call that waits for a keeper, or was abandoned while it did, is still there, unless the keeper
has ended. -/
theorem Becomes.awaits {c c' : Caller} {i : Nat} {move : Move} (h : a.Becomes move i c')
    (hi : a.callers[i]? = some c) (hc : Awaits c k ∨ c.phase = .abandoned) :
    ((a.make move).connection k).phase.ended = true ∨ Awaits c' k ∨ c'.phase = .abandoned := by
  cases h with
  | made goal hmove hlast =>
    rw [hlast, List.getElem?_eq_none (Nat.le_refl _)] at hi
    cases hi
  | stepped stores now goal p hmove hp =>
    obtain rfl := Option.some.inj (hp.symm.trans hi)
    rcases hc with ⟨mine, rfl, hmem⟩ | rfl
    · unfold Call.step
      dsimp only
      split
      · next hall =>
        have hended := Call.ended_of_keeperFinished (List.all_eq_true.1 hall k hmem)
        exact .inl (stays_ended hended move)
      · exact .inr (.inl ⟨mine, rfl, hmem⟩)
    · exact .inr (.inr rfl)
  | cancelled goal p hmove hp =>
    obtain rfl := Option.some.inj (hp.symm.trans hi)
    rcases hc with ⟨mine, rfl, -⟩ | rfl
    · exact .inr (.inr rfl)
    · exact .inr (.inr rfl)
  | stayed _ hc' =>
    obtain rfl := Option.some.inj (hc'.symm.trans hi)
    exact .inr hc

/-- **Those who claimed a connection** wait until its keeper has ended, whatever happens. -/
theorem Claims.snoc (h : Claims config moves) (move : Move) : Claims config (moves ++ [move]) := by
  have hmake := makeAll_snoc (start config) moves move
  refine ⟨fun i c ks hi hgoal hfresh habandoned k hk => ?_, fun k hclaimed => ?_,
    fun i k hawaited => ?_⟩
  · rw [hmake] at hi ⊢
    cases caller_make hi with
    | made goal => exact absurd rfl (hfresh goal)
    | stepped stores now goal p hmove hp =>
      obtain rfl : goal = .shutdown ks := hgoal
      cases p with
      | fresh goal =>
        obtain rfl : goal = .shutdown ks := serves_makeAll config moves i _ hp
        rw [claimed_make, hmove]
        simp [claims, hp, Call.Phase.claims, hk]
      | abandoned => exact absurd rfl habandoned
      | _ => exact claimed_of_claimed (h.begun i _ ks hp rfl nofun nofun k hk) move
    | cancelled goal p hmove hp =>
      cases p with
      | done result => exact claimed_of_claimed (h.begun i _ ks hp hgoal nofun nofun k hk) move
      | fresh goal' => cases goal' <;> exact absurd rfl habandoned
      | _ => exact absurd rfl habandoned
    | stayed _ hc => exact claimed_of_claimed (h.begun i c ks hc hgoal hfresh habandoned k hk) move
  · by_cases hbefore : (((start config).makeAll moves).connection k).claimed = true
    · rcases h.claimed k hbefore with hended | ⟨i, hi⟩
      · rw [hmake]
        exact .inl (stays_ended hended move)
      · exact .inr ⟨i, hi.snoc move⟩
    rw [hmake, claimed_make, Bool.eq_false_iff.2 hbefore, Bool.false_or,
      decide_eq_true_iff] at hclaimed
    rcases awaits_of_claims hclaimed (Bool.eq_false_iff.2 hbefore) with
        hended | ⟨i, c, hc, hawaits⟩
    · rw [hmake]
      exact .inl hended
    · exact .inr ⟨i, .of_awaits (hmake ▸ hc) hawaits⟩
  · rcases hawaited.cases_snoc with hbefore | ⟨c, hc, hawaits⟩
    · rw [hmake]
      rcases h.awaited i k hbefore with hended | ⟨c, hc, hstill⟩
      · exact .inl (stays_ended hended move)
      · obtain ⟨c', hc', hbecomes⟩ := exists_caller_make hc move
        exact (hbecomes.awaits hc hstill).imp_right fun hstill' => ⟨c', hc', hstill'⟩
    · exact .inr ⟨c, hc, .inl hawaits⟩

theorem claims_makeAll (config : ClientConfig) (moves : List Move) : Claims config moves := by
  induction moves using List.reverseRecOn with
  | nil =>
    refine ⟨fun i c ks hi => ?_, fun k hclaimed => ?_, fun i k hawaited => ?_⟩
    · cases hi
    · cases k <;> cases hclaimed
    · obtain ⟨before, after, c, hmoves, hc, -⟩ := hawaited
      obtain ⟨rfl, -⟩ := List.append_eq_nil_iff.1 hmoves.symm
      cases hc
  | append_singleton moves move ih => exact ih.snoc move

end

/-! ## A shutdown that has returned -/

/-- The sockets whose shutdown a call asked for, if it has returned. -/
def returned? (a : Application) (j : Nat) : Option (List SocketKind) :=
  match a.callers[j]? with
  | some ⟨.shutdown ks, .done _⟩ => some ks
  | _ => none

/-- The keeper of a socket has not finished, and the call that waits for it, and it alone, waits
still or was abandoned. -/
structure Forestalled (config : ClientConfig) (moves : List Move) (k : SocketKind) : Prop where
  unfinished : (((start config).makeAll moves).connection k).phase ≠ .finished
  waits : ∃ i c, HasAwaited config moves i k ∧
    ((start config).makeAll moves).callers[i]? = some c ∧ (Awaits c k ∨ c.phase = .abandoned)

/-- **What a shutdown that has returned means.** In any run, with any calls made, gone on and
abandoned in any order: a call that waited for the keeper of a socket returns once the socket is
over, or its keeper has crashed; and for any call that has returned the socket is over unless
another one forestalls it or its keeper has crashed. -/
theorem returned_shutdown_iff (config : ClientConfig) (moves : List Move) (j : Nat)
    (ks : List SocketKind) :
    let a := (start config).makeAll moves
    a.returned? j = some ks → ∀ k ∈ ks,
      (HasAwaited config moves j k → a.Over k ∨ a.Ended k .crashed .open) ∧
        (a.Over k ↔ ¬ Forestalled config moves k ∧ (a.connection k).phase ≠ .crashed) := by
  intro a hreturned k hk
  obtain ⟨result, hj⟩ : ∃ result, a.callers[j]? = some ⟨.shutdown ks, .done result⟩ := by
    unfold returned? at hreturned
    split at hreturned
    · next result hj =>
      obtain rfl := Option.some.inj hreturned
      exact ⟨result, hj⟩
    · cases hreturned
  have hsound : a.Sound := sound_makeAll (sound_start config) moves
  have hover : a.Over k ↔ _ := over_iff hsound
  have hclaims := claims_makeAll config moves
  refine ⟨fun hawaited => ?_, fun hfinished => ?_, fun ⟨hno, hrunning⟩ => ?_⟩
  · have hended : (a.connection k).phase.ended = true := by
      refine (hclaims.awaited j k hawaited).resolve_right ?_
      rintro ⟨c, hc, hstill⟩
      obtain rfl := Option.some.inj (hj.symm.trans hc)
      rcases hstill with ⟨mine, hphase, -⟩ | hphase <;> cases hphase
    exact (Phase.ended_iff.1 hended).imp hover.2 fun hcrashed => hsound.ended hcrashed rfl
  · have hphase := hover.1 hfinished
    exact ⟨fun hforestalled => hforestalled.unfinished hphase,
      fun hcrashed => by cases hphase.symm.trans hcrashed⟩
  · refine hover.2 ?_
    by_contra hunfinished
    have hrunning' : (a.connection k).phase.ended ≠ true :=
      fun hended => (Phase.ended_iff.1 hended).elim hunfinished hrunning
    obtain ⟨i, hawaited⟩ := (hclaims.claimed k
      (hclaims.begun j _ ks hj rfl nofun nofun k hk)).resolve_left hrunning'
    obtain ⟨c, hc, hstill⟩ := (hclaims.awaited i k hawaited).resolve_left hrunning'
    exact hno ⟨hunfinished, i, c, hawaited, hc, hstill⟩

/-- Two calls ask for the shutdown of a socket while its keeper dials. The second one returns at
once. -/
def hurrying : List Move :=
  [.operate .unidentified (.setActive true), .atHead .unidentified {} 0 (.arriving 50),
    .call (.shutdown [.unidentified]), .step 0 {} 0,
    .call (.shutdown [.unidentified]), .step 1 {} 0]

/-- The connection arrives; the keeper sees that the socket is not wanted, lets go of it and
finishes, and the first call returns. -/
def arriving : List Move :=
  [.connected .unidentified {} 50 0 {}, .keeper .unidentified .woken {} 50 {},
    .atHead .unidentified {} 50 .hanging, .step 0 {} 50]

/-- When the first call returns, the socket is over. -/
theorem over_of_arriving :
    let a := (start {}).makeAll (hurrying ++ arriving)
    a.returned? 0 = some [.unidentified] ∧ HasAwaited {} (hurrying ++ arriving) 0 .unidentified ∧
      a.Over .unidentified := by
  intro a
  have hreturned : a.returned? 0 = some [.unidentified] := by decide +kernel
  have hawaited : HasAwaited {} (hurrying ++ arriving) 0 .unidentified :=
    ⟨hurrying, arriving, _, rfl, rfl, [.unidentified], rfl, by decide⟩
  have hclosed : (a.connection .unidentified).state = .closed := by decide +kernel
  obtain ⟨hends, -⟩ := returned_shutdown_iff {} (hurrying ++ arriving) 0 [.unidentified] hreturned
    .unidentified (by decide)
  refine ⟨hreturned, hawaited, (hends hawaited).resolve_right fun hcrashed => ?_⟩
  cases (hcrashed []).2.1.symm.trans hclosed

/-- **The second call returns too early**: the keeper still dials, and after the shutdown has
returned the link is opened and a handshake is put on it. -/
theorem shutdown_returns_early :
    (let a := (start {}).makeAll hurrying
     a.returned? 1 = some [.unidentified] ∧ (a.connection .unidentified).state = .connecting ∧
       ¬ a.Over .unidentified) ∧
    (let a := (start {}).makeAll (hurrying ++ [.connected .unidentified {} 50 0 {}])
     a.returned? 1 = some [.unidentified] ∧ a.opened = 1 ∧
       ((a.records .unidentified).saidOn 0).length = 1 ∧
       0 < ((a.records .unidentified).wire 0).size) := by
  refine ⟨⟨by decide +kernel, by decide +kernel, fun hover => ?_⟩, by decide +kernel⟩
  have hclosed := (hover []).2.1
  exact absurd hclosed (by decide +kernel)

end Application

end ChatSockets
