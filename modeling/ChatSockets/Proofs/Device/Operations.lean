import ChatSockets.Proofs.Device.Credentials
import ChatSockets.Proofs.Socket.Verdict

/-!
# What is done to a connection from outside

Whatever an application and its calls do to a connection comes down to the operations of its own
(`Operation`), and to the claim to wait for its keeper. So a connection whose keeper does not go on
has been worked on by some of these, one after the other (`Connection.Worked`,
`Application.worked_of_stirs?`), and what each of them keeps, all moves keep that do not let the
keeper go on. Calls never push, and so a connection on which the application does not push is tended
at most (`Connection.Tended`, `Application.tended_of_stirs?`).
-/

namespace ChatSockets

open Keeper

/-- A connection after some operations and claims. -/
inductive Connection.Worked (c : Connection) : Connection → Prop
  | refl : Worked c c
  | performs {c' : Connection} (h : Worked c c') (op : Operation) : Worked c (c'.perform op)
  | claims {c' : Connection} (h : Worked c c') : Worked c { c' with claimed := true }

/-- Whether an operation is a push. -/
def Operation.pushes : Operation → Bool
  | .push _ => true
  | _ => false

/-- A connection after some operations and claims, none of which was a push. -/
inductive Connection.Tended (c : Connection) : Connection → Prop
  | refl : Tended c c
  | performs {c' : Connection} (h : Tended c c') (op : Operation) (hop : op.pushes = false) :
      Tended c (c'.perform op)
  | claims {c' : Connection} (h : Tended c c') : Tended c { c' with claimed := true }

/-- Both connections after some operations and claims, none of which was a push. -/
def Sockets.Tended (s s' : Sockets) : Prop := ∀ k, (s.get k).Tended (s'.get k)

/-- A push keeps a socket wanted, and asks for no reconnection by that alone. -/
theorem Policy.reconnects_extendPush (p : Policy) (now ms : Nat) :
    (p.extendPush now ms).reconnects = p.reconnects := by
  rw [Policy.extendPush, Policy.wake]
  dsimp only
  rw [apply_ite Policy.reconnects, ite_self]

namespace Connection

variable {c c' c'' : Connection}

theorem Worked.trans (h : c.Worked c') (h' : c'.Worked c'') : c.Worked c'' := by
  induction h' with
  | refl => exact h
  | performs _ op ih => exact ih.performs op
  | claims _ ih => exact ih.claims

theorem Tended.trans (h : c.Tended c') (h' : c'.Tended c'') : c.Tended c'' := by
  induction h' with
  | refl => exact h
  | performs _ op hop ih => exact ih.performs op hop
  | claims _ ih => exact ih.claims

theorem Tended.worked (h : c.Tended c') : c.Worked c' := by
  induction h with
  | refl => exact .refl
  | performs _ op _ ih => exact ih.performs op
  | claims _ ih => exact ih.claims

/-- What each operation keeps, and a claim too, is kept. -/
theorem Worked.induct {P : Connection → Prop} (h : c.Worked c') (hc : P c)
    (hperforms : ∀ (c : Connection) (op : Operation), P c → P (c.perform op))
    (hclaims : ∀ c : Connection, P c → P { c with claimed := true }) : P c' := by
  induction h with
  | refl => exact hc
  | performs _ op ih => exact hperforms _ op ih
  | claims _ ih => exact hclaims _ ih

/-- An operation has nothing to do with failures and with the next wait after one, and takes back no
request to reconnect. -/
theorem perform_pace (c : Connection) (op : Operation) :
    c.SamePace (c.perform op) ∧ c.policy.reconnects ≤ (c.perform op).policy.reconnects := by
  cases op with
  | withdraw id =>
    unfold perform withdraw
    dsimp only
    split <;> exact ⟨⟨rfl, rfl, rfl, rfl⟩, Nat.le_refl _⟩
  | send r id =>
    unfold perform send?
    dsimp only
    cases c.outbox <;> exact ⟨⟨rfl, rfl, rfl, rfl⟩, Nat.le_refl _⟩
  | setActive active =>
    unfold perform setActive withPolicy Policy.setActive
    dsimp only
    split <;> exact ⟨⟨rfl, rfl, rfl, rfl⟩, Nat.le_refl _⟩
  | push now =>
    refine ⟨⟨rfl, rfl, rfl, rfl⟩, ?_⟩
    show _ ≤ (c.policy.extendPush now c.config.push).reconnects + 1
    rw [Policy.reconnects_extendPush]
    exact Nat.le_succ _
  | cycle | shutDown => exact ⟨⟨rfl, rfl, rfl, rfl⟩, Nat.le_succ _⟩
  | acquire | release | register => exact ⟨⟨rfl, rfl, rfl, rfl⟩, Nat.le_refl _⟩

/-- **A connection that is worked on** has its keeper where it was, and the next wait is as long as
before. -/
theorem Worked.keeps (h : c.Worked c') :
    c'.phase = c.phase ∧ c.SamePace c' ∧ c.policy.reconnects ≤ c'.policy.reconnects := by
  refine h.induct (P := fun c' => c'.phase = c.phase ∧ c.SamePace c' ∧
    c.policy.reconnects ≤ c'.policy.reconnects) ⟨rfl, .refl _, Nat.le_refl _⟩ ?_ ?_
  · rintro c' op ⟨hphase, hpace, hle⟩
    obtain ⟨hpace', hle'⟩ := c'.perform_pace op
    exact ⟨(c'.perform_spec op).1.trans hphase, hpace.trans hpace', Nat.le_trans hle hle'⟩
  · rintro c' ⟨hphase, hpace, hle⟩
    exact ⟨hphase, hpace.trans ⟨rfl, rfl, rfl, rfl⟩, hle⟩

end Connection

namespace Sockets

theorem Tended.refl (s : Sockets) : s.Tended s := fun _ => .refl

theorem Tended.trans {s s' s'' : Sockets} (h : s.Tended s') (h' : s'.Tended s'') : s.Tended s'' :=
  fun k => (h k).trans (h' k)

theorem Tended.set {s : Sockets} {k : SocketKind} {c : Connection} (h : (s.get k).Tended c) :
    s.Tended (s.set k c) := by
  intro j
  rw [get_set]
  split
  · next heq => exact heq ▸ h
  · exact .refl

theorem modify_tended (s : Sockets) (k : SocketKind) {f : Connection → Connection}
    (h : ∀ c : Connection, c.Tended (f c)) : s.Tended (s.modify k f) :=
  .set (h _)

theorem foldl_modify_tended (s : Sockets) (ks : List SocketKind) {f : Connection → Connection}
    (h : ∀ c : Connection, c.Tended (f c)) : s.Tended (ks.foldl (fun s k => s.modify k f) s) := by
  induction ks generalizing s with
  | nil => exact .refl s
  | cons k ks ih => exact (s.modify_tended k h).trans (ih _)

end Sockets

namespace Call

theorem submit_tended (s : Sockets) (now : Nat) (socket token : SocketKind) (r : Request) :
    s.Tended (submit s now socket token r).2 := by
  have hhanded : s.Tended (handedOver s socket token) := by
    have hregistered : s.Tended (registered s socket) := .set (.performs .refl .register rfl)
    exact hregistered.trans (Sockets.modify_tended _ token fun c => .performs .refl .release rfl)
  let m := Wire.Message.ofRequest (r.toWire (s.get socket).register.1)
  rw [submit_eq]
  cases hsend : ((handedOver s socket token).get socket).send? m with
  | none => exact hhanded.trans (.set (.performs .refl (.withdraw _) rfl))
  | some c =>
    have hperform : ((handedOver s socket token).get socket).perform
        (.send r (s.get socket).register.1) = c := by
      rw [Connection.perform, hsend]
      rfl
    exact hhanded.trans (.set (hperform ▸ .performs .refl _ rfl))

theorem begin_tended (s : Sockets) (stores : Stores) (now : Nat) (goal : Goal) :
    s.Tended (begin s stores now goal).2 := by
  cases goal with
  | request r =>
    have hacquired : s.Tended (s.modify r.route Connection.acquire) :=
      s.modify_tended r.route fun c => .performs .refl .acquire rfl
    unfold begin
    dsimp only
    split
    · exact hacquired
    · exact hacquired.trans (submit_tended _ now _ _ r)
  | submit socket token r => exact submit_tended s now socket token r
  | opening | openWithin | state =>
    rw [begin_looks s stores now rfl]
    exact .refl s
  | shutdown sockets =>
    rw [begin_shutdown]
    exact s.foldl_modify_tended sockets fun c => .performs (.claims .refl) .shutDown rfl

/-- **A step of a call** tends the connections. -/
theorem step_tended (s : Sockets) (stores : Stores) (now : Nat) (p : Phase) :
    s.Tended (step s stores now p).2 := by
  have hwithdraw : ∀ socket id, s.Tended (s.modify socket (·.withdraw id)) :=
    fun socket id => s.modify_tended socket fun c => .performs .refl (.withdraw id) rfl
  cases p with
  | fresh goal => exact begin_tended s stores now goal
  | holding socket r limit =>
    unfold step
    dsimp only
    split
    · exact submit_tended s now socket socket r
    · exact .refl s
  | submitted socket id path timeout deadline =>
    unfold step
    dsimp only
    split
    · exact hwithdraw socket id
    · split
      · exact hwithdraw socket id
      · exact .refl s
  | opening | openWithin | state | shutdown =>
    unfold step
    dsimp only
    split <;> exact .refl s
  | done | abandoned => exact .refl s

/-- So does a call that is abandoned. -/
theorem cancel_tended (s : Sockets) (p : Phase) : s.Tended (cancel s p).2 := by
  have hreleased : ∀ k, s.Tended (s.modify k Connection.release) :=
    fun k => s.modify_tended k fun c => .performs .refl .release rfl
  cases p with
  | fresh goal =>
    cases goal with
    | submit socket token r => exact hreleased token
    | _ => exact .refl s
  | holding socket r limit => exact hreleased socket
  | submitted socket id path timeout deadline =>
    exact s.modify_tended socket fun c => .performs .refl (.withdraw id) rfl
  | _ => exact .refl s

end Call

namespace Application

/-- A keeper that does not go on has its connection tended at most, unless the application pushes on
it. -/
theorem tended_of_stirs? (a : Application) {move : Move} {k : SocketKind}
    (hk : a.stirs? move ≠ some k) (hpush : ∀ now, move ≠ .operate k (.push now)) :
    (a.connection k).Tended ((a.make move).connection k) := by
  have hother : ∀ {j : SocketKind} {c : Connection}, a.stirs? move = some j →
      (a.connection k).Tended ((a.sockets.set j c).get k) := by
    intro j c hj
    have hne : k ≠ j := fun h => hk (h ▸ hj)
    rw [Sockets.get_set, if_neg hne]
    exact .refl
  cases move with
  | call goal => exact .refl
  | step i stores now =>
    unfold make
    dsimp only
    split
    · exact .refl
    · exact Call.step_tended a.sockets stores now _ k
  | cancel i =>
    unfold make
    dsimp only
    split
    · exact .refl
    · exact Call.cancel_tended a.sockets _ k
  | operate j op =>
    unfold make
    dsimp only
    split
    · exact .refl
    · by_cases hj : j = k
      · subst hj
        have hop : op.pushes = false := by
          cases op with
          | push now => exact absurd rfl (hpush now)
          | _ => rfl
        exact Sockets.modify_tended a.sockets j (fun c => .performs .refl op hop) j
      · rw [connection_modify, if_neg (Ne.symm hj)]
        exact .refl
  | atHead j stores now attempt =>
    unfold make
    dsimp only
    split
    · next hphase => exact hother (by simp only [stirs?, hphase])
    · exact .refl
  | connectFailed j stores now e =>
    unfold make
    dsimp only
    split
    · next hphase => exact hother (by simp only [stirs?, hphase])
    · exact .refl
  | connected j stores now others link =>
    unfold make
    dsimp only
    split
    · next hphase => exact hother (by simp only [stirs?, hphase])
    · exact .refl
  | keeper j branch stores now link =>
    cases hgoes : goesOn branch now ⟨a.connection j, link, none⟩ with
    | true => exact hother (by simp only [stirs?, hgoes, if_true])
    | false =>
      have hsame := step_of_not_goesOn branch stores now _ hgoes
      show (a.connection k).Tended ((a.sockets.set j _).get k)
      rw [Sockets.get_set, hsame]
      split
      · next heq => exact heq ▸ .refl
      · exact .refl

/-- **A keeper that does not go on** has its connection worked on at most. -/
theorem worked_of_stirs? (a : Application) {move : Move} {k : SocketKind}
    (hk : a.stirs? move ≠ some k) : (a.connection k).Worked ((a.make move).connection k) := by
  by_cases hpush : ∃ now, move = .operate k (.push now)
  · obtain ⟨now, rfl⟩ := hpush
    rw [show (a.make (.operate k (.push now))).connection k = (a.connection k).perform (.push now)
      from (a.connection_modify k k _).trans (if_pos rfl)]
    exact .performs .refl (.push now)
  · exact (a.tended_of_stirs? hk (not_exists.1 hpush)).worked

/-- The keeper of a socket does not go on in some moves. -/
def Idles (a : Application) (k : SocketKind) : List Move → Prop
  | [] => True
  | move :: rest => a.stirs? move ≠ some k ∧ (a.make move).Idles k rest

/-- **In all moves in which a keeper does not go on** its connection is worked on at most. -/
theorem worked_of_idles {a : Application} {k : SocketKind} {moves : List Move}
    (h : a.Idles k moves) : (a.connection k).Worked ((a.makeAll moves).connection k) := by
  induction moves generalizing a with
  | nil => exact .refl
  | cons move rest ih => exact (a.worked_of_stirs? h.1).trans (ih h.2)

end Application

end ChatSockets
