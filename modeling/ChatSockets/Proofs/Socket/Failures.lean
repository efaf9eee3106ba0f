import ChatSockets.Proofs.Socket.Pace

/-!
# The failures that are made known

Whoever waits for a socket to open is told of two kinds of failures: the socket could not be opened,
or it was open and failed before anything was heard on it (`Keeper.Failure`). A connection keeps
count of them and the reason of the last one. `Connection.Learns` says that it does for one step,
and every step of a keeper has the failure that it finds (`Keeper.failure?`, `step_learns`).
-/

namespace ChatSockets

namespace Keeper

/-- A failure that is made known to those who wait for a socket to open. -/
inductive Failure
  /-- the connection was not made, or the handshake not written -/
  | attempt (e : ChatError)
  /-- an open socket on a link failed, and no message was ever taken from its decoder -/
  | unheard (link : Nat) (reason : String)

/-- What is said of a failure. -/
def Failure.reason : Failure → String
  | attempt e => e.message
  | unheard _ reason => reason

/-- The failure that is made known when something ends, if one is. -/
def Event.failure? : Event → Option Failure
  | .closed link false (.failed reason) => some (.unheard link reason)
  | _ => none

/-- The failure that is made known in a step of a keeper that is neither at the head of its loop nor
dialing, if one is. -/
def failure? (branch : Branch) (stores : Stores) (now : Nat) (t : Turn) : Option Failure :=
  ((error? t).map .attempt).or ((event? branch stores now t).bind Event.failure?)

end Keeper

open Keeper

namespace Connection

/-- Why a keeper at the head of its loop fails to open its socket, if it does. -/
def headError? (c : Connection) (stores : Stores) (now : Nat) : Option ChatError :=
  if !c.policy.shutDown && c.wanted stores now && (c.hello? stores).isNone then
    some (.transport "no credentials for the identified socket")
  else none

/-- A connection after a step with a failure, if there was one: it is counted, and what is said of
it is remembered. -/
structure Learns (c : Connection) (f : Option Failure) (c' : Connection) : Prop where
  failures : c'.failures = c.failures + f.toList.length
  lastFailure : c'.lastFailure = (f.map Failure.reason).getD c.lastFailure

variable {c c' : Connection} {stores : Stores} {now : Nat}

theorem SamePace.learns (h : c.SamePace c') : c.Learns none c' := ⟨h.failures, h.lastFailure⟩

theorem Learns.trans_pace {c'' : Connection} {f : Option Failure} (h : c.Learns f c')
    (h' : c'.SamePace c'') : c.Learns f c'' :=
  ⟨h'.failures.trans h.failures, h'.lastFailure.trans h.lastFailure⟩

theorem connectFailed_learns (hpace : c.SamePace c') (stores : Stores) (now : Nat)
    (e : ChatError) : c.Learns (some (.attempt e)) (c'.connectFailed stores now e) := by
  have hfails : c.Learns (some (.attempt e))
      ((c'.transition .connectFailed).recordFailure e.message) :=
    ⟨congrArg (· + 1) hpace.failures, rfl⟩
  exact hfails.trans_pace (backOff_begins _ stores now).1

theorem atHead_learns (c : Connection) (stores : Stores) (now : Nat) (attempt : Attempt) :
    c.Learns ((c.headError? stores now).map .attempt) (c.atHead stores now attempt) := by
  unfold headError? atHead
  cases hshut : c.policy.shutDown with
  | true => exact ⟨rfl, rfl⟩
  | false =>
    cases hwanted : c.wanted stores now with
    | false => exact ⟨rfl, rfl⟩
    | true =>
      let dialing := { c with cycling := false }.transition .connectStarted
      have hsame : dialing.hello? stores = c.hello? stores := rfl
      have hpace : c.SamePace dialing := ⟨rfl, rfl, rfl, rfl⟩
      simp only [Bool.false_eq_true, if_false, if_true]
      rw [hsame]
      cases hhello : c.hello? stores with
      | none => exact connectFailed_learns hpace stores now _
      | some hello => exact ⟨rfl, rfl⟩

theorem goOn_learns (c : Connection) (stores : Stores) (now : Nat) (b : Backoff)
    (branch : Branch) : c.Learns none (c.goOn stores now b branch) := by
  cases branch with
  | woken =>
    unfold goOn
    dsimp only
    split <;> exact ⟨rfl, rfl⟩
  | timer | nudge | shutdown | window | probe | send | receive => exact ⟨rfl, rfl⟩

end Connection

namespace Keeper

variable {c : Connection} {stores : Stores} {now link : Nat} {heard : Bool} {probes : List UInt64}
  {error : Option ChatError} {why : Option Turn.Close} {t' : Turn}

/-- **A socket that is closed** is a failure that is made known if it failed and nothing was heard
on it. -/
theorem Turn.close_learns (u : Turn) (stores : Stores) (now link : Nat) (heard : Bool)
    (why : Close) (hpace : c.SamePace u.connection) :
    c.Learns (Event.closed link heard why).failure? (u.close stores now heard why).connection := by
  have htorn : c.SamePace u.connection.tearDown := hpace.trans ⟨rfl, rfl, rfl, rfl⟩
  cases why with
  | unwanted | cycled => cases heard <;> exact ⟨htorn.failures, htorn.lastFailure⟩
  | failed reason =>
    cases heard with
    | true =>
      have hreset : c.Learns none u.connection.tearDown.resetDelay :=
        ⟨htorn.failures, htorn.lastFailure⟩
      exact hreset.trans_pace (Connection.backOff_begins _ stores now).1
    | false =>
      have hfails : c.Learns (some (.unheard link reason))
          (u.connection.tearDown.recordFailure reason) :=
        ⟨congrArg (· + 1) htorn.failures, rfl⟩
      exact hfails.trans_pace (Connection.backOff_begins _ stores now).1

theorem Turn.Fares.learns (h : Turn.Fares c stores now link heard probes why t') :
    c.Learns ((why.map (.closed link heard)).bind Event.failure?) t'.connection := by
  cases h with
  | keeps _ live hlive _ _ _ hpace => exact hpace.learns
  | closes u why hpace => exact u.close_learns stores now link heard why hpace

theorem Turn.Opens.learns (h : Turn.Opens c stores now link error why t') :
    c.Learns ((error.map .attempt).or ((why.map (.closed link false)).bind Event.failure?))
      t'.connection := by
  cases h with
  | fails _ e heq =>
    rw [heq]
    exact Connection.connectFailed_learns (.refl c) stores now e
  | waits _ rest hphase hpace => exact hpace.learns
  | crashes _ hphase hpace => exact hpace.learns
  | opened _ _ h => exact h.learns

/-- **A step of a keeper** makes known the failure that it finds. -/
theorem step_learns (branch : Branch) (stores : Stores) (now : Nat) (t : Turn) :
    t.connection.Learns (failure? branch stores now t) (step branch stores now t).connection := by
  cases hphase : t.connection.phase with
  | atHead | dialing | finished | crashed =>
    simp only [failure?, error?, event?, step, hphase]
    exact ⟨rfl, rfl⟩
  | parked =>
    simp only [failure?, error?, event?, step, hphase]
    split <;> exact ⟨rfl, rfl⟩
  | greeting n rest =>
    simp only [failure?, event?, hphase]
    exact (step_opens branch stores now hphase).learns
  | looking live look =>
    simp only [failure?, error?, event?, hphase]
    exact (step_fares branch stores now (by rw [hphase]; rfl)).learns
  | serving live window =>
    simp only [failure?, error?, event?, hphase]
    exact (step_fares branch stores now (by rw [hphase]; rfl)).learns
  | draining live =>
    simp only [failure?, error?, event?, hphase]
    exact (step_fares branch stores now (by rw [hphase]; rfl)).learns
  | writing live rest purpose =>
    simp only [failure?, error?, event?, hphase]
    exact (step_fares branch stores now (by rw [hphase]; rfl)).learns
  | waiting b =>
    have hnone : failure? branch stores now t = none := by
      simp only [failure?, error?, event?, hphase]
      split <;> rfl
    rw [hnone]
    simp only [step, hphase]
    split
    · exact t.connection.goOn_learns stores now b branch
    · exact ⟨rfl, rfl⟩

end Keeper

end ChatSockets
