import ChatSockets.Proofs.Application.Holds
import ChatSockets.Proofs.Device.Dialing
import ChatSockets.Proofs.Socket.Closing

/-!
# What ends the wait after a failure

A keeper that waits after a failure is woken by every token that is taken or given back, and looks
then how many there are. `Tally` keeps count of both since the keeper last went on. The number of
tokens that the keeper remembers and this count say how many there are now (`Tally.Counted`, kept by
every move), so the wait ends exactly if more were taken than were given back
(`wait_ends_iff_more_taken`). Whether those that were taken are still held does not matter: a token
that is taken while an older one is given back does not end the wait (`waits_after_exchange`).
-/

namespace ChatSockets

open Keeper

namespace Call

/-- How many tokens of a socket a call takes in a step: a request takes one at first. -/
def Phase.takes (k : SocketKind) : Phase → Nat
  | .fresh (.request r) => if r.route = k then 1 else 0
  | _ => 0

variable {s : Sockets} {p : Phase} {k : SocketKind}

/-- **A call holds no token** that it did not hold or take. -/
theorem tokens_step_le (s : Sockets) (stores : Stores) (now : Nat) (p : Phase) (k : SocketKind) :
    (step s stores now p).1.tokens k ≤ p.tokens k + p.takes k := by
  cases p with
  | fresh goal =>
    cases goal with
    | request r =>
      unfold step begin
      dsimp only
      split
      · exact Nat.le_add_left _ _
      · rw [(submit_tokens ..).2]
        exact Nat.zero_le _
    | submit socket token r =>
      show (submit s now socket token r).1.tokens k ≤ _
      rw [(submit_tokens ..).2]
      exact Nat.zero_le _
    | opening | openWithin | state | shutdown =>
      unfold step begin
      dsimp only
      split <;> exact Nat.zero_le _
  | holding socket r limit =>
    unfold step
    dsimp only
    split
    · rw [(submit_tokens ..).2]
      exact Nat.zero_le _
    · exact Nat.le_add_right _ _
  | submitted =>
    unfold step
    dsimp only
    split
    · exact Nat.zero_le _
    · split <;> exact Nat.zero_le _
  | opening | openWithin | state | shutdown =>
    unfold step
    dsimp only
    split <;> exact Nat.zero_le _
  | done | abandoned => exact Nat.zero_le _

theorem tokens_cancel (s : Sockets) (p : Phase) (k : SocketKind) :
    (cancel s p).1.tokens k = 0 := by
  cases p with
  | fresh goal => cases goal <;> rfl
  | _ => rfl

/-- **A call that takes a token** leaves a wake-up. -/
theorem woken_step (s : Sockets) (stores : Stores) (now : Nat) (h : 0 < p.takes k) :
    ((step s stores now p).2.get k).policy.woken = true := by
  cases p with
  | fresh goal =>
    cases goal with
    | request r =>
      have hroute : r.route = k := by
        by_contra hne
        simp [Phase.takes, hne] at h
      have hacquired : ((s.modify r.route Connection.acquire).get k).policy.woken = true := by
        rw [Sockets.get_modify, if_pos hroute.symm]
        rfl
      unfold step begin
      dsimp only
      split
      · exact hacquired
      · rw [← Bool.not_eq_false]
        intro hwoken
        rw [(submit_touched _ now r.route r.route r k).woken hwoken] at hacquired
        cases hacquired
    | _ => cases h
  | _ => cases h

end Call

namespace Application

namespace Holder

variable {h : Holder} {k : SocketKind} {move : Move}

/-- How many tokens of a socket are taken in a move. -/
def takes (h : Holder) (k : SocketKind) : Move → Nat
  | .operate j .acquire => if j = k then 1 else 0
  | .step i _ _ =>
    match h.app.callers[i]? with
    | none => 0
    | some c => c.phase.takes k
  | _ => 0

/-- How many tokens of a socket are given back in a move: by the application, or by a call that held
or took them. -/
def returns (h : Holder) (k : SocketKind) : Move → Nat
  | .operate j .release => if j = k ∧ 0 < h.held k then 1 else 0
  | .step i stores now =>
    match h.app.callers[i]? with
    | none => 0
    | some c => c.phase.tokens k + c.phase.takes k -
        (Call.step h.app.sockets stores now c.phase).1.tokens k
  | .cancel i =>
    match h.app.callers[i]? with
    | none => 0
    | some c => c.phase.tokens k - (Call.cancel h.app.sockets c.phase).1.tokens k
  | _ => 0

/-- The tokens of the calls and of the application are among all. -/
theorem Balanced.tokens_le (hb : h.Balanced) {j : Nat} {c : Caller}
    (hj : h.app.callers[j]? = some c) :
    c.phase.tokens k ≤ (h.app.connection k).policy.tokens := by
  rw [hb k]
  exact Nat.le_trans (tokens_le_callTokens hj) (Nat.le_add_left _ _)

/-- **The number of tokens** changes by what is taken and given back. -/
theorem Balanced.tokens_moved (hb : h.Balanced) (move : Move) (k : SocketKind) :
    ((h.make move).app.connection k).policy.tokens + h.returns k move =
      (h.app.connection k).policy.tokens + h.takes k move := by
  cases move with
  | step i stores now =>
    show ((h.app.make (.step i stores now)).connection k).policy.tokens + _ = _
    unfold Application.make returns takes
    dsimp only
    cases hi : h.app.callers[i]? with
    | none => rfl
    | some c =>
      dsimp only
      have hstep := Call.step_tokens (hb.tokens_le (k := k) hi) stores now
      have hle := Call.tokens_step_le h.app.sockets stores now c.phase k
      show ((Call.step h.app.sockets stores now c.phase).2.get k).policy.tokens + _ =
        (h.app.sockets.get k).policy.tokens + _
      omega
  | cancel i =>
    show ((h.app.make (.cancel i)).connection k).policy.tokens + _ = _
    unfold Application.make returns takes
    dsimp only
    cases hi : h.app.callers[i]? with
    | none => rfl
    | some c =>
      dsimp only
      have hcancel := Call.cancel_tokens (hb.tokens_le (k := k) hi)
      show ((Call.cancel h.app.sockets c.phase).2.get k).policy.tokens + _ =
        (h.app.sockets.get k).policy.tokens + _
      rw [Call.tokens_cancel] at hcancel ⊢
      exact hcancel
  | call goal =>
    have hsame : ((h.make (.call goal)).app.connection k).policy.tokens =
        (h.app.connection k).policy.tokens := by
      rcases h.app_make (.call goal) with happ | happ <;> rw [happ]
      rfl
    exact hsame
  | operate j op =>
    cases op with
    | acquire =>
      show ((h.app.sockets.modify j Connection.acquire).get k).policy.tokens = _
      exact h.app.sockets.tokens_acquire j k
    | release =>
      have hcount := hb j
      show ((if h.held j = 0 then h else _).app.connection k).policy.tokens +
        (if j = k ∧ 0 < h.held k then 1 else 0) = _
      by_cases hnone : h.held j = 0
      · rw [if_pos hnone, if_neg (fun hboth => ?_)]
        · rfl
        · obtain ⟨rfl, hpos⟩ := hboth
          exact absurd hnone (Nat.ne_of_gt hpos)
      · rw [if_neg hnone]
        have hdropped := h.app.sockets.tokens_release j k
        show ((h.app.sockets.modify j Connection.release).get k).policy.tokens + _ =
          (h.app.sockets.get k).policy.tokens + 0
        by_cases heq : j = k
        · subst heq
          have hpos : 0 < (h.app.sockets.get j).policy.tokens := by
            show 0 < (h.app.connection j).policy.tokens
            omega
          rw [hdropped, if_pos rfl, if_pos ⟨rfl, Nat.pos_of_ne_zero hnone⟩]
          omega
        · rw [hdropped, if_neg heq, if_neg fun hboth => heq hboth.1]
          rfl
    | _ => exact tokens_make h.app rfl rfl rfl k
  | atHead | connectFailed | connected | keeper => exact tokens_make h.app rfl rfl rfl k

/-- A token that is taken leaves a wake-up. -/
theorem woken_make (h : Holder) (htakes : 0 < h.takes k move) :
    ((h.make move).app.connection k).policy.woken = true := by
  cases move with
  | step i stores now =>
    show ((h.app.make (.step i stores now)).connection k).policy.woken = true
    unfold takes at htakes
    unfold Application.make
    dsimp only at htakes ⊢
    cases hi : h.app.callers[i]? with
    | none =>
      rw [hi] at htakes
      cases htakes
    | some c =>
      rw [hi] at htakes
      exact Call.woken_step h.app.sockets stores now htakes
  | operate j op =>
    cases op with
    | acquire =>
      have heq : j = k := by
        by_contra hne
        simp [takes, hne] at htakes
      show ((h.app.sockets.modify j Connection.acquire).get k).policy.woken = true
      rw [Sockets.get_modify, if_pos heq.symm]
      rfl
    | _ => cases htakes
  | _ => cases htakes

/-- A keeper that does not go on in a move is only touched. -/
theorem touched_make (h : Holder) (hstirs : h.app.stirs? move ≠ some k) :
    (h.app.connection k).Touched ((h.make move).app.connection k) := by
  rcases h.app_make move with happ | happ
  · rw [happ]
    exact .refl _
  · rw [happ]
    obtain ⟨stores, now, hmove⟩ := move.exists_finding
    have htreats := h.app.make_treats move stores now k
    rw [hmove] at htreats
    cases htreats with
    | stirs hk => exact absurd hk hstirs
    | touches _ htouched => exact htouched

/-- A keeper that goes on in a move and waits then has counted the tokens. -/
theorem weighed_make (h : Holder) (hstirs : h.app.stirs? move = some k) :
    ((h.make move).app.connection k).Weighed := by
  cases stirs_of_stirs? hstirs with
  | atHead stores now attempt hphase =>
    show ((h.app.make (.atHead k stores now attempt)).connection k).Weighed
    rw [connection_atHead hphase]
    exact atHead_weighed _ stores now attempt
  | connectFailed stores now e hello deadline attempt hphase =>
    show ((h.app.make (.connectFailed k stores now e)).connection k).Weighed
    rw [connection_connectFailed hphase]
    exact connectFailed_weighed _ stores now e
  | connected stores now others link hello deadline attempt hphase =>
    show ((h.app.make (.connected k stores now others link)).connection k).Weighed
    rw [connection_connected stores now others link hphase]
    exact connected_weighed stores now _ hello _
  | keeper branch stores now link hgoes =>
    show ((h.app.make (.keeper k branch stores now link)).connection k).Weighed
    rw [connection_keeper]
    exact step_weighed branch stores now _ hgoes

end Holder

/-- An application with how many tokens of each socket were taken and given back since the keeper of
the socket last went on. -/
structure Tally where
  holder : Holder
  taken : SocketKind → Nat := fun _ => 0
  returned : SocketKind → Nat := fun _ => 0

namespace Tally

/-- The application after a move, with new counts where a keeper went on. -/
def make (t : Tally) (move : Move) : Tally where
  holder := t.holder.make move
  taken k := if t.holder.app.stirs? move = some k then 0 else t.taken k + t.holder.takes k move
  returned k :=
    if t.holder.app.stirs? move = some k then 0 else t.returned k + t.holder.returns k move

/-- The application after some moves. -/
def makeAll (t : Tally) (moves : List Move) : Tally := moves.foldl make t

/-- An application of which nothing has happened. -/
def start (config : ClientConfig) : Tally := { holder := .start config }

/-- The connection of a socket. -/
def connection (t : Tally) (k : SocketKind) : Connection := t.holder.app.connection k

/-- All tokens are held by somebody, and a keeper that waits can tell from the counts how many there
are, and is woken if one was taken. -/
structure Counted (t : Tally) : Prop where
  balanced : t.holder.Balanced
  count : ∀ k b, (t.connection k).phase = .waiting b →
    (t.connection k).policy.tokens + t.returned k = b.tokens + t.taken k
  woken : ∀ k, 0 < t.taken k → (t.connection k).policy.woken = true

variable {t : Tally} {k : SocketKind} {move : Move}

/-- **The counts are right** after a move. -/
theorem Counted.make (ht : t.Counted) (move : Move) : (t.make move).Counted := by
  refine ⟨ht.balanced.make move, fun k b hphase => ?_, fun k htaken => ?_⟩
  · show ((t.holder.make move).app.connection k).policy.tokens +
      (if t.holder.app.stirs? move = some k then 0 else _) =
      b.tokens + (if t.holder.app.stirs? move = some k then 0 else _)
    split
    · next hstirs => exact (t.holder.weighed_make hstirs b hphase).symm
    · next hstirs =>
      have hmoved := ht.balanced.tokens_moved move k
      have hcount := ht.count k b ((t.holder.touched_make hstirs).phase.symm.trans hphase)
      rw [connection] at hcount
      omega
  · have htaken' : 0 < (if t.holder.app.stirs? move = some k then 0
        else t.taken k + t.holder.takes k move) := htaken
    split at htaken'
    · cases htaken'
    · next hstirs =>
      rcases Nat.eq_zero_or_pos (t.holder.takes k move) with hzero | hpos
      · rw [hzero] at htaken'
        rw [← Bool.not_eq_false]
        intro hwoken
        cases (ht.woken k htaken').symm.trans ((t.holder.touched_make hstirs).woken hwoken)
      · exact t.holder.woken_make hpos

theorem counted_start (config : ClientConfig) : (start config).Counted := by
  refine ⟨Holder.balanced_start config, fun k b hphase => ?_, fun k htaken => ?_⟩
  · cases k <;> cases hphase
  · cases htaken

/-- **The counts are right**, after any moves. -/
theorem counted_makeAll (ht : t.Counted) (moves : List Move) : (t.makeAll moves).Counted := by
  induction moves generalizing t with
  | nil => exact ht
  | cons move rest ih => exact ih (ht.make move)

/-- **Tokens that were taken end the wait after a failure** if they outnumber those that were given
back. In any run, for a keeper that waits after a failure: if a token was taken since the keeper
last went on, it is woken. Whatever it goes on for next, the wait is over then, exactly if it was
not only woken, or the socket is no longer wanted, or more tokens were taken since the keeper last
went on than were given back; if the wait is not over, it goes on until the same time. -/
theorem wait_ends_iff_more_taken (config : ClientConfig) (moves : List Move) (k : SocketKind)
    (b : Backoff) :
    let t := (start config).makeAll moves
    let c := t.connection k
    c.phase = .waiting b →
      (0 < t.taken k → ∀ now link, canTake now link c .woken = true) ∧
      ∀ branch stores now link, canTake now link c branch = true →
        let c' := (t.holder.app.make (.keeper k branch stores now link)).connection k
        (c'.phase = .atHead ↔
          branch ≠ .woken ∨ c.wanted stores now = false ∨ t.returned k < t.taken k) ∧
        (c'.phase = .atHead ∨ ∃ b', c'.phase = .waiting b' ∧ b'.due = b.due) := by
  intro t c hphase
  have hcounted : t.Counted := counted_makeAll (counted_start config) moves
  have hcount : c.policy.tokens + t.returned k = b.tokens + t.taken k :=
    hcounted.count k b hphase
  refine ⟨fun htaken now link => ?_, fun branch stores now link htake => ?_⟩
  · simp only [canTake, hphase]
    exact hcounted.woken k htaken
  · have hstep : (t.holder.app.make (.keeper k branch stores now link)).connection k =
        c.goOn stores now b branch := by
      rw [connection_keeper]
      show (step branch stores now ⟨c, link, none⟩).connection = _
      simp only [step, hphase, if_pos htake]
    dsimp only
    rw [hstep]
    cases branch with
    | timer | nudge | shutdown => exact ⟨⟨fun _ => .inl (by decide), fun _ => rfl⟩, .inl rfl⟩
    | window | probe | send | receive => simp [canTake, hphase] at htake
    | woken =>
      have hwanted : (c.withPolicy Policy.takeWake).wanted stores now = c.wanted stores now := rfl
      unfold Connection.goOn
      dsimp only
      rw [hwanted]
      split
      · next hboth =>
        obtain ⟨hwant, hle : c.policy.tokens ≤ b.tokens⟩ := hboth
        refine ⟨⟨fun hhead => ?_, fun hends => ?_⟩, .inr ⟨_, rfl, rfl⟩⟩
        · cases hhead
        rcases hends with hbranch | hunwanted | hmore
        · exact absurd rfl hbranch
        · cases hunwanted.symm.trans hwant
        · omega
      · next hnot =>
        refine ⟨⟨fun _ => .inr ?_, fun _ => rfl⟩, .inl rfl⟩
        cases hwant : c.wanted stores now with
        | false => exact .inl rfl
        | true =>
          have hlt : ¬ c.policy.tokens ≤ b.tokens := fun hle => hnot ⟨hwant, hle⟩
          exact .inr (by omega)

/-- A request on the socket that is not signed in. -/
def aRequest : Request := (Request.get "/v1/time").withoutAuthorization

/-- The application is in the foreground, and the first attempt to connect fails. -/
def failing : List Move :=
  [.operate .unidentified (.setActive true), .atHead .unidentified {} 0 .hanging,
    .connectFailed .unidentified {} 0 .brokenPipe]

/-- A request that takes a token ends the wait at once. -/
theorem ends_for_request :
    let t := (start {}).makeAll (failing ++ [.call (.request aRequest), .step 0 {} 0])
    ((t.holder.app.make (.keeper .unidentified .woken {} 0 {})).connection .unidentified).phase =
      .atHead := by
  intro t
  have hphase : (t.connection .unidentified).phase = .waiting ⟨1000, 0, 0⟩ := rfl
  obtain ⟨hwoken, hends⟩ := wait_ends_iff_more_taken {} _ .unidentified _ hphase
  exact (hends .woken {} 0 {} (hwoken (by decide) 0 {})).1.2 (.inr (.inr (by decide)))

/-- A token is taken by a request, and another one that was held before is given back, before the
keeper is woken. The token of the request is still held and the socket is wanted, but the wait does
not end. -/
theorem waits_after_exchange :
    let t := (start {}).makeAll ([.operate .unidentified .acquire,
      .atHead .unidentified {} 0 .hanging, .connectFailed .unidentified {} 0 .brokenPipe,
      .call (.request aRequest), .step 0 {} 0, .operate .unidentified .release])
    let c := t.connection .unidentified
    c.phase = .waiting ⟨1000, 1, 0⟩ ∧ t.taken .unidentified = 1 ∧
      t.holder.app.callers[0]?.map Caller.phase =
        some (.holding .unidentified aRequest 30000) ∧
      c.policy.tokens = 1 ∧ c.wanted {} 0 = true ∧ canTake 0 {} c .woken = true ∧
      ((t.holder.app.make (.keeper .unidentified .woken {} 0 {})).connection .unidentified).phase =
        .waiting ⟨1000, 1, 0⟩ :=
  ⟨rfl, rfl, rfl, rfl, rfl, rfl, rfl⟩

end Tally

end Application

end ChatSockets
