import ChatSockets.Proofs.Device.Schedule

/-!
# What calls a keeper back from its wait

A push and a cycle are to call a keeper back that waits after a failure, and to reset its wait. Each
leaves the keeper two notices: a wake-up, and a request to reconnect (`Connection.Recalled`). They
stay as long as the keeper does not go on (`Recalled.worked`), and either may be the one it goes on
for. Only the request to reconnect ends the wait and resets it. A keeper that goes on for the
wake-up waits on, as after any other wake-up, and begins to count the requests to reconnect anew:
this one is lost (`recalled_wait_ends_iff`, `push_is_overlooked`).
-/

namespace ChatSockets

open Keeper

/-- Whether an operation is to call a keeper back from its wait. -/
def Operation.recalls : Operation → Bool
  | .push _ | .cycle => true
  | _ => false

namespace Connection

variable {c c' : Connection} {b : Backoff} {op : Operation}

/-- A keeper that waits has a wake-up, and a request to reconnect that came since the wait began. -/
structure Recalled (c : Connection) (b : Backoff) : Prop where
  phase : c.phase = .waiting b
  woken : c.policy.woken = true
  asked : b.joined < c.policy.reconnects

/-- A push, and a cycle, leave both. -/
theorem recalled_perform (hjoined : c.Joined) (hphase : c.phase = .waiting b)
    (hop : op.recalls = true) : (c.perform op).Recalled b := by
  have hle : b.joined ≤ c.policy.reconnects := hjoined b hphase
  cases op with
  | push now =>
    refine ⟨hphase, rfl, ?_⟩
    show b.joined < (c.policy.extendPush now c.config.push).reconnects + 1
    rw [Policy.reconnects_extendPush]
    exact Nat.lt_succ_of_le hle
  | cycle => exact ⟨hphase, rfl, Nat.lt_succ_of_le hle⟩
  | _ => cases hop

/-- No operation takes a wake-up. -/
theorem perform_woken (op : Operation) (h : c.policy.woken = true) :
    (c.perform op).policy.woken = true := by
  have hkept : c.Touched (c.perform op) → (c.perform op).policy.woken = true := by
    intro htouched
    rw [← Bool.not_eq_false]
    intro hgone
    rw [htouched.woken hgone] at h
    cases h
  cases op with
  | setActive | push | cycle | acquire | release | shutDown => exact hkept (c.perform_touched rfl)
  | withdraw id => exact hkept (c.withdraw_touched id)
  | register => exact h
  | send r id =>
    unfold perform send?
    dsimp only
    cases c.outbox <;> exact h

/-- Both stay, whatever is done to the connection from outside. -/
theorem Recalled.worked (h : c.Recalled b) (hworked : c.Worked c') : c'.Recalled b := by
  obtain ⟨hphase, -, hle⟩ := hworked.keeps
  refine ⟨hphase.trans h.phase, ?_, Nat.lt_of_lt_of_le h.asked hle⟩
  exact hworked.induct (P := fun c => c.policy.woken = true) h.woken
    (fun c op => perform_woken op) fun _ => id

/-- The keeper can go on for either. -/
theorem Recalled.canTake (h : c.Recalled b) (now : Nat) (link : Link) :
    canTake now link c .nudge = true ∧ canTake now link c .woken = true := by
  simp only [Keeper.canTake, h.phase, Policy.reconnectSince]
  exact ⟨decide_eq_true h.asked, h.woken⟩

end Connection

namespace Application

variable {a : Application} {k : SocketKind}

/-- **A keeper that waits counts only requests to reconnect that there are**, after any moves. -/
theorem joined_makeAll (hjoined : (a.connection k).Joined) (moves : List Move) :
    ((a.makeAll moves).connection k).config = (a.connection k).config ∧
      ((a.makeAll moves).connection k).Joined := by
  induction moves generalizing a with
  | nil => exact ⟨rfl, hjoined⟩
  | cons move rest ih =>
    obtain ⟨stores, now, hfinds⟩ := move.exists_finding
    have hpaced := a.make_paced move stores now k
    rw [hfinds] at hpaced
    obtain ⟨hconfig, hafter⟩ := ih (hpaced.joined hjoined)
    exact ⟨hconfig.trans hpaced.config, hafter⟩

theorem joined_start (config : ClientConfig) (k : SocketKind) :
    ((start config).connection k).config = config ∧ ((start config).connection k).Joined := by
  cases k <;> exact ⟨rfl, .of_phase rfl⟩

/-- A push and a cycle are the doing of an application, and no part of a call. -/
theorem connection_recall {op : Operation} (hop : op.recalls = true) :
    (a.make (.operate k op)).connection k = (a.connection k).perform op := by
  have hown : op.ofCall = false := by
    cases op <;> first | rfl | cases hop
  simp only [make, hown, Bool.false_eq_true, if_false]
  exact (connection_modify a k k _).trans (if_pos rfl)

/-- **What calls a keeper back ends its wait** if the keeper goes on for it, and not always if it
goes on for the wake-up. In any run, at any time at which a push or a cycle comes while the keeper
of the socket waits, and whatever happens until the keeper goes on: it waits as before, and it can
go on for the request to reconnect as well as for the wake-up.

Whatever it goes on for then, the wait is over, unless that was the wake-up while the socket is
wanted and there are no more tokens than before. The next wait is the shortest one again if the
keeper went on for the request to reconnect; the end of the wait doubles it, and anything else
leaves it as it was. If the wait is not over, it goes on until the same time, and the keeper can go
on neither for a wake-up nor for a request to reconnect: the push or the cycle is lost. -/
theorem recalled_wait_ends_iff (config : ClientConfig) (before rest : List Move) (k : SocketKind)
    (op : Operation) (hop : op.recalls = true) (b : Backoff) :
    let a := (start config).makeAll before
    let a' := (a.make (.operate k op)).makeAll rest
    let c := a.connection k
    let c' := a'.connection k
    c.phase = .waiting b → (a.make (.operate k op)).Idles k rest →
      c'.phase = .waiting b ∧ c'.delay = c.delay ∧
      (∀ now link, canTake now link c' .nudge = true ∧ canTake now link c' .woken = true) ∧
      ∀ branch stores now link, canTake now link c' branch = true →
        let after := (a'.make (.keeper k branch stores now link)).connection k
        (after.phase = .atHead ↔
          branch ≠ .woken ∨ c'.wanted stores now = false ∨ b.tokens < c'.policy.tokens) ∧
        after.delay = (if branch = .nudge then config.reconnect
          else if branch = .timer then min (2 * c.delay) config.maxReconnect else c.delay) ∧
        (after.phase ≠ .atHead →
          after.phase = .waiting ⟨b.due, c'.policy.tokens, c'.policy.reconnects⟩ ∧
          ∀ now link, canTake now link after .nudge = false ∧
            canTake now link after .woken = false) := by
  intro a a' c c' hphase hidles
  obtain ⟨hconfig, hjoined⟩ := joined_makeAll (joined_start config k).2 before
  have hworked : (c.perform op).Worked c' := connection_recall hop ▸ worked_of_idles hidles
  have hrecalled : c'.Recalled b := (Connection.recalled_perform hjoined hphase hop).worked hworked
  obtain ⟨-, ⟨hconfig', hdelay⟩, -⟩ := (Connection.Worked.refl.performs op |>.trans hworked).keeps
  refine ⟨hrecalled.phase, hdelay, hrecalled.canTake, fun branch stores now link htake => ?_⟩
  have hafter : (a'.make (.keeper k branch stores now link)).connection k =
      c'.goOn stores now b branch := by
    rw [connection_keeper]
    show (step branch stores now ⟨c', link, none⟩).connection = _
    simp only [step, hrecalled.phase, if_pos htake]
  have hends := c'.goOn_ends_iff stores now hrecalled.phase htake
  rw [hdelay, hconfig'.trans (hconfig.trans (joined_start config k).1)] at hends
  dsimp only
  rw [hafter]
  exact hends

/-- The application is in the foreground, one attempt to connect fails, and the one after it too. -/
def failingTwice : List Move :=
  [.operate .unidentified (.setActive true), .atHead .unidentified {} 0 .hanging,
    .connectFailed .unidentified {} 0 .brokenPipe, .keeper .unidentified .timer {} 1000 {},
    .atHead .unidentified {} 1000 .hanging, .connectFailed .unidentified {} 1000 .brokenPipe]

/-- A push ends the second wait and resets it, if the keeper goes on for it. -/
theorem push_recalls :
    let a := ((start {}).makeAll failingTwice).make (.operate .unidentified (.push 1500))
    let after := (a.make (.keeper .unidentified .nudge {} 1500 {})).connection .unidentified
    (a.connection .unidentified).delay = 2000 ∧ after.phase = .atHead ∧ after.delay = 1000 := by
  intro a after
  obtain ⟨-, hdelay, htake, hends⟩ := recalled_wait_ends_iff {} failingTwice [] .unidentified
    (.push 1500) rfl ⟨3000, 0, 0⟩ rfl trivial
  obtain ⟨hover, hreset, -⟩ := hends .nudge {} 1500 {} (htake 1500 {}).1
  exact ⟨hdelay, hover.2 (.inl (by decide)), hreset⟩

/-- A push is overlooked by a keeper that goes on for the wake-up: the socket is wanted, but the
second wait goes on, and nothing ends it before its time is over. -/
theorem push_is_overlooked :
    let a := ((start {}).makeAll failingTwice).make (.operate .unidentified (.push 1500))
    let c := a.connection .unidentified
    let after := (a.make (.keeper .unidentified .woken {} 1500 {})).connection .unidentified
    c.phase = .waiting ⟨3000, 0, 0⟩ ∧ c.wanted {} 1500 = true ∧ canTake 1500 {} c .woken = true ∧
      after.phase = .waiting ⟨3000, 0, 1⟩ ∧ after.delay = 2000 ∧ after.wanted {} 2999 = true ∧
      ready 2999 {} after = false :=
  ⟨rfl, rfl, rfl, rfl, rfl, rfl, rfl⟩

end Application

end ChatSockets
