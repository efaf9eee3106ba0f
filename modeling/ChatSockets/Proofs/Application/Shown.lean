import ChatSockets.Proofs.Application.Shutdown
import ChatSockets.Proofs.Device.Schedule

/-!
# The state that is shown

An application asks for the state of a socket to learn whether a request that it submits now can be
written. What it is told is what the keeper of the socket is doing, whatever has happened: the
keeper is away, or dials, or has an open socket with an outbox; and nothing is left of a socket that
is not open any more (`shows_what_is`).

There is one exception. A keeper makes it known that its socket is open before it sets the timer for
its probes, and it crashes if no such timer can be set (`opens_make`, `crashed_iff`). Then the
socket is shown as open for good, and no request can be submitted on it (`shown_without_keeper`).
-/

namespace ChatSockets

open Keeper

namespace Keeper

/-! ## How a keeper crashes -/

section

variable {branch : Branch} {stores : Stores} {now link : Nat} {c : Connection} {t t' : Turn}

/-- A keeper at the head of its loop has no open socket. -/
theorem atHead_shown (c : Connection) (stores : Stores) (now : Nat) (attempt : Attempt) :
    (c.atHead stores now attempt).phase.shown ≠ .open := by
  unfold Connection.atHead
  split
  · nofun
  · split
    · dsimp only
      split
      · rw [(connectFailed_away _ stores now _).2.1]
        nofun
      · nofun
    · nofun

/-- A keeper whose socket was opened has crashed if no timer could be set, and only then. -/
theorem Turn.Opens.crashed_iff {error : Option ChatError} {why : Option Close}
    (h : Opens c stores now link error why t') (hopen : t'.connection.phase.shown = .open) :
    t'.connection.phase = .crashed ↔ canRepeat now c.config.keepalive = false := by
  cases h with
  | fails _ e heq =>
    rw [heq, (connectFailed_away c stores now e).2.1] at hopen
    cases hopen
  | waits _ rest hphase =>
    rw [hphase] at hopen
    cases hopen
  | crashes _ hphase _ htimer => exact iff_of_true hphase htimer
  | opened _ _ hfares htimer =>
    refine iff_of_false (fun hcrashed => ?_) (by simp [htimer])
    cases hfares with
    | keeps _ live hlive =>
      rw [hcrashed] at hlive
      cases hlive
    | closes u why =>
      rw [u.close_shown stores now false why] at hopen
      cases hopen

/-- A keeper that shows an open socket after a step, and did not before, was writing its handshake.
-/
theorem greets_of_opens (hbefore : t.connection.phase.shown ≠ .open)
    (hafter : (step branch stores now t).connection.phase.shown = .open) :
    ∃ link rest, t.connection.phase = .greeting link rest := by
  cases hphase : t.connection.phase with
  | greeting link rest => exact ⟨link, rest, rfl⟩
  | looking | serving | draining | writing | crashed =>
    rw [hphase] at hbefore
    exact absurd rfl hbefore
  | atHead | dialing | finished =>
    simp only [step, hphase] at hafter
    exact absurd (hphase ▸ hafter) hbefore
  | parked =>
    simp only [step, hphase] at hafter
    split at hafter
    · cases hafter
    · exact absurd hafter hbefore
  | waiting b =>
    simp only [step, hphase] at hafter
    split at hafter
    · next htake =>
      obtain ⟨-, -, hwaits⟩ := t.connection.goOn_ends_iff stores now hphase htake
      by_cases hhead : (t.connection.goOn stores now b branch).phase = .atHead
      · rw [hhead] at hafter
        cases hafter
      · rw [(hwaits hhead).1] at hafter
        cases hafter
    · exact absurd hafter hbefore

/-- A keeper with an open socket does not crash any more. -/
theorem crashed_of_step (hbefore : t.connection.phase.shown = .open)
    (hcrashed : (step branch stores now t).connection.phase = .crashed) :
    t.connection.phase = .crashed := by
  by_contra hno
  obtain ⟨link, hlink⟩ := Option.isSome_iff_exists.1
    (t.connection.phase.isSome_openLink?_iff.2 ⟨hbefore, hno⟩)
  obtain ⟨live, hlive, -⟩ := Option.map_eq_some_iff.1 hlink
  have hfares := step_fares branch stores now hlive
  generalize step branch stores now t = t' at hfares hcrashed
  generalize closing? branch stores now t = why? at hfares
  cases hfares with
  | keeps _ live' hlive' =>
    rw [hcrashed] at hlive'
    cases hlive'
  | closes u why =>
    have hclosed := u.close_shown stores now (live.heard || (hears t).isSome) why
    rw [hcrashed] at hclosed
    cases hclosed

end

end Keeper

namespace Application

variable {a : Application} {k : SocketKind} {move : Move} {config : ClientConfig}
  {moves : List Move}

/-- When the keeper of a socket writes on its link in a move, if it does. -/
def Move.writesAt? (k : SocketKind) : Move → Option Nat
  | .connected j _ now _ _ => if j = k then some now else none
  | .keeper j _ _ now _ => if j = k then some now else none
  | _ => none

/-- **The move in which a socket opens** is one of its keeper, which crashes in it if no timer can
be set for the probes, and only then. -/
theorem opens_make (hbefore : (a.connection k).phase.shown ≠ .open)
    (hafter : ((a.make move).connection k).phase.shown = .open) :
    ∃ now, move.writesAt? k = some now ∧ (((a.make move).connection k).phase = .crashed ↔
      Turn.canRepeat now (a.connection k).config.keepalive = false) := by
  by_cases hk : a.stirs? move = some k
  · cases stirs_of_stirs? hk with
    | atHead stores now attempt hphase =>
      rw [connection_atHead hphase] at hafter
      exact absurd hafter (atHead_shown (a.connection k) stores now attempt)
    | connectFailed stores now e hello deadline attempt hphase =>
      rw [connection_connectFailed hphase, (connectFailed_away _ stores now e).2.1] at hafter
      cases hafter
    | connected stores now others link hello deadline attempt hphase =>
      rw [connection_connected stores now others link hphase] at hafter ⊢
      exact ⟨now, if_pos rfl, (connected_opens stores now _ hello _).crashed_iff hafter⟩
    | keeper branch stores now link hgoes =>
      rw [connection_keeper] at hafter ⊢
      obtain ⟨n, rest, hphase⟩ := greets_of_opens hbefore hafter
      exact ⟨now, if_pos rfl, (step_opens branch stores now hphase).crashed_iff hafter⟩
  · rw [(a.worked_of_stirs? hk).keeps.1] at hafter
    exact absurd hafter hbefore

/-- A keeper has crashed after a move if it had before, or if it opened its socket in the move at a
time at which no timer can be set. -/
theorem crashed_make_iff (a : Application) (move : Move) (k : SocketKind) :
    ((a.make move).connection k).phase = .crashed ↔
      (a.connection k).phase = .crashed ∨
        (a.connection k).phase.shown ≠ .open ∧
          ((a.make move).connection k).phase.shown = .open ∧
          ∃ now, move.writesAt? k = some now ∧
            Turn.canRepeat now (a.connection k).config.keepalive = false := by
  constructor
  · intro hcrashed
    have hafter : ((a.make move).connection k).phase.shown = .open := by rw [hcrashed]; rfl
    by_cases hbefore : (a.connection k).phase.shown = .open
    · left
      by_cases hk : a.stirs? move = some k
      · cases stirs_of_stirs? hk with
        | atHead _ _ _ hphase | connectFailed _ _ _ _ _ _ hphase | connected _ _ _ _ _ _ _ hphase =>
          rw [hphase] at hbefore
          cases hbefore
        | keeper branch stores now link =>
          rw [connection_keeper] at hcrashed
          exact crashed_of_step hbefore hcrashed
      · rw [← (a.worked_of_stirs? hk).keeps.1]
        exact hcrashed
    · obtain ⟨now, hnow, hiff⟩ := opens_make hbefore hafter
      exact .inr ⟨hbefore, hafter, now, hnow, hiff.1 hcrashed⟩
  · rintro (hcrashed | ⟨hbefore, hafter, now, hnow, htimer⟩)
    · exact (ended_make (Phase.ended_iff.2 (.inr hcrashed)) move).1.trans hcrashed
    · obtain ⟨now', hnow', hiff⟩ := opens_make hbefore hafter
      obtain rfl := Option.some.inj (hnow.symm.trans hnow')
      exact hiff.2 htimer

/-- In a run a socket opens at a time at which no timer can be set for its probes. -/
def OpensUntimed (config : ClientConfig) (moves : List Move) (k : SocketKind) : Prop :=
  ∃ before move after now, moves = before ++ move :: after ∧ move.writesAt? k = some now ∧
    (((start config).makeAll before).connection k).phase.shown ≠ .open ∧
    (((start config).makeAll (before ++ [move])).connection k).phase.shown = .open ∧
    Turn.canRepeat now config.keepalive = false

/-- **A keeper has crashed** if its socket was opened at such a time, and only then. -/
theorem crashed_iff (config : ClientConfig) (moves : List Move) (k : SocketKind) :
    (((start config).makeAll moves).connection k).phase = .crashed ↔
      OpensUntimed config moves k := by
  constructor
  · induction moves using List.reverseRecOn with
    | nil =>
      intro hcrashed
      cases k <;> cases hcrashed
    | append_singleton moves move ih =>
      rw [makeAll_snoc, crashed_make_iff, config_makeAll]
      rintro (hcrashed | ⟨hbefore, hafter, now, hnow, htimer⟩)
      · obtain ⟨before, move', after, now, rfl, hopens⟩ := ih hcrashed
        exact ⟨before, move', after ++ [move], now, List.append_assoc .., hopens⟩
      · exact ⟨moves, move, [], now, rfl, hnow, hbefore, by rwa [makeAll_snoc], htimer⟩
  · rintro ⟨before, move, after, now, rfl, hnow, hbefore, hafter, htimer⟩
    have hcrashed :
        (((start config).makeAll (before ++ [move])).connection k).phase = .crashed := by
      rw [makeAll_snoc] at hafter ⊢
      refine (crashed_make_iff _ move k).2 (.inr ⟨hbefore, hafter, now, hnow, ?_⟩)
      rwa [config_makeAll]
    rw [List.append_cons, makeAll, List.foldl_append]
    exact (ended_makeAll (Phase.ended_iff.2 (.inr hcrashed)) after).1.trans hcrashed

/-! ## What is shown -/

/-- A request that is submitted on a socket now is put behind those in the outbox of a keeper that
has an open socket. -/
def QueuesOn (a : Application) (k : SocketKind) (now : Nat) (token : SocketKind) (r : Request) :
    Prop :=
  ∃ live queue, (a.connection k).phase.live? = some live ∧
    (a.connection k).outbox = some queue ∧
    ((Call.submit a.sockets now k token r).2.get k).phase = (a.connection k).phase ∧
    ((Call.submit a.sockets now k token r).2.get k).outbox =
      some (queue ++ [.ofRequest (r.toWire (a.connection k).pending.draw.1)])

/-- A keeper without an open socket has nothing left of one. -/
theorem Sound.bare (ha : a.Sound) (hnone : (a.connection k).phase.openLink? = none) :
    (a.connection k).outbox = none ∧ (a.connection k).pending.size = 0 ∧
      (a.connection k).queueEmptied = false := by
  have h := ha.published k
  obtain ⟨hsize, hemptied, -⟩ := h.quiet hnone
  refine ⟨Option.not_isSome_iff_eq_none.1 fun hopen => ?_, hsize, hemptied⟩
  have hlink := h.outbox.1 hopen
  rw [show (a.ledger k).link? = none from hnone] at hlink
  cases hlink

/-- Without an outbox a request fails. -/
theorem refused_of_outbox (hnone : (a.connection k).outbox = none) (now : Nat)
    (token : SocketKind) (r : Request) :
    (Call.submit a.sockets now k token r).1 = .done (.error (.notConnected k)) := by
  have hsubmits := Call.submit_submits (.refl a.sockets) now k token r
  generalize (Call.submit a.sockets now k token r).1 = p at hsubmits ⊢
  generalize (Call.submit a.sockets now k token r).2 = s' at hsubmits
  cases hsubmits with
  | queued timeout deadline _ hopen =>
    rw [show (a.sockets.get k).outbox = none from hnone] at hopen
    cases hopen
  | refused => rfl

/-- With one it is put into it. -/
theorem Sound.queuesOn (ha : a.Sound) (hlink : (a.connection k).phase.openLink?.isSome = true)
    (now : Nat) (token : SocketKind) (r : Request) : a.QueuesOn k now token r := by
  obtain ⟨link, hlink'⟩ := Option.isSome_iff_exists.1 hlink
  obtain ⟨live, hlive, -⟩ := Option.map_eq_some_iff.1 hlink'
  obtain ⟨queue, hqueue⟩ := Option.isSome_iff_exists.1 ((ha.published k).outbox.2 hlink)
  have hsubmits := Call.submit_submits (.refl a.sockets) now k token r
  unfold QueuesOn
  generalize (Call.submit a.sockets now k token r).1 = p at hsubmits
  generalize (Call.submit a.sockets now k token r).2 = s' at hsubmits ⊢
  cases hsubmits with
  | queued timeout deadline _ _ hchanges =>
    refine ⟨live, queue, hlive, hqueue, hchanges.phase, ?_⟩
    refine (congrArg Ledger.outbox hchanges.ledger).trans ?_
    show (a.connection k).outbox.map _ = _
    rw [show (a.connection k).outbox = some queue from hqueue]
    rfl
  | refused _ hnone =>
    rw [show (a.sockets.get k).outbox = some queue from hqueue] at hnone
    cases hnone

/-- **What a socket shows is what its keeper is doing**, after any moves: the keeper is away or
dials, and then there is no outbox, nobody waits, and nothing is known of the mailbox; or it has an
open socket with an outbox, unless it has crashed. It has crashed if and only if its socket was
opened at a time at which no timer can be set for the probes; then an open socket is shown, and
nothing is left of it. So a request that is submitted now is put into the outbox of a keeper with an
open socket exactly if the state is open and the keeper has not crashed, and it fails otherwise. And
no event ever came that could not happen. -/
theorem shows_what_is (config : ClientConfig) (moves : List Move) (k : SocketKind) :
    let a := (start config).makeAll moves
    let c := a.connection k
    c.state = c.phase.shown ∧ c.ignored = [] ∧ (c.phase = .crashed ↔ OpensUntimed config moves k) ∧
      (c.phase.shown = .open ∧ c.phase ≠ .crashed → c.outbox.isSome = true) ∧
      (c.phase.shown ≠ .open ∨ c.phase = .crashed →
        c.outbox = none ∧ c.pending.size = 0 ∧ c.queueEmptied = false) ∧
      ∀ (now : Nat) (token : SocketKind) (r : Request),
        (c.state.isOpen = true ∧ c.phase ≠ .crashed ↔ a.QueuesOn k now token r) ∧
        (c.state.isOpen = false ∨ c.phase = .crashed →
          (Call.submit a.sockets now k token r).1 = .done (.error (.notConnected k))) := by
  intro a c
  have hsound : a.Sound := sound_makeAll (sound_start config) moves
  have hstate : c.state = c.phase.shown := (hsound.published k).state
  have hopen : c.state.isOpen = true ↔ c.phase.shown = .open := by
    rw [SocketState.isOpen, hstate, decide_eq_true_iff]
  have hlinked : c.phase.openLink?.isSome = true ↔ c.phase.shown = .open ∧ c.phase ≠ .crashed :=
    c.phase.isSome_openLink?_iff
  have hbare : c.phase.shown ≠ .open ∨ c.phase = .crashed → c.phase.openLink? = none := by
    rw [← Option.not_isSome_iff_eq_none, hlinked, not_and_or, not_not]
    exact id
  refine ⟨hstate, (hsound.published k).ignored, crashed_iff config moves k,
    fun h => (hsound.published k).outbox.2 (hlinked.2 h), fun h => hsound.bare (hbare h),
    fun now token r => ⟨⟨fun ⟨hshown, hrunning⟩ => ?_, ?_⟩, fun h => ?_⟩⟩
  · exact hsound.queuesOn (hlinked.2 ⟨hopen.1 hshown, hrunning⟩) now token r
  · rintro ⟨live, queue, hlive, -⟩
    have hlink : c.phase.openLink?.isSome = true := by
      rw [Phase.openLink?, show c.phase.live? = some live from hlive]
      rfl
    exact (hlinked.1 hlink).imp_left hopen.2
  · have hnone := hbare (h.imp_left fun hclosed hshown => by simp [hopen.2 hshown] at hclosed)
    exact refused_of_outbox (hsound.bare hnone).1 now token r

/-- Nothing is to lie between two probes of a socket, and the socket is wanted and opened. -/
def untimed : List Move :=
  [.operate .unidentified (.setActive true), .atHead .unidentified {} 0 .connected,
    .connected .unidentified {} 0 0 {}]

/-- **A socket is shown as open that nobody keeps.** It stays so, and a request that is submitted on
it fails. -/
theorem shown_without_keeper :
    let a := (start { keepalive := 0 }).makeAll untimed
    a.Ended .unidentified .crashed .open ∧
      ∀ now token r, (Call.submit a.sockets now .unidentified token r).1 =
        .done (.error (.notConnected .unidentified)) := by
  intro a
  have hsound : a.Sound := sound_makeAll (sound_start _) untimed
  have hcrashed : (a.connection .unidentified).phase = .crashed := rfl
  exact ⟨hsound.ended hcrashed rfl, refused_of_outbox rfl⟩

end Application

end ChatSockets
