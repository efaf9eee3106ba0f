import ChatSockets.Proofs.Application.Written
import ChatSockets.Proofs.Network.Delivery
import ChatSockets.Proofs.Server.Deeds

/-!
# The steps on the sockets of a network

`Network.steps` lists the steps that sessions and keepers made on sockets. From it one reads what a
session heard, what it set out to write, what bytes it wrote, and as whom it was registered with
which backlog. Each of these is a list, or the first of some things, so that it is told of more
steps part by part; and the steps of others tell nothing of a session (`same_append`).
-/

namespace ChatSockets.Network

open Wire

/-! ## What happened on the sockets -/

/-- A step that was made on a socket. -/
inductive Step
  | session (n : Nat) (branch : Session.Branch) (now wallClock : Nat) (before : Session.Turn)
  | keeper (k n : Nat) (branch : Keeper.Branch) (stores : Stores) (now : Nat)
    (before : Keeper.Turn)

/-- The step on a socket that a move is, if it is one. -/
def step? (w : Network) : Move → Option Step
  | .session n branch now wallClock =>
    w.visits[n]?.map fun v => .session n branch now wallClock ⟨v.session, w.mailroom, v.far⟩
  | .keeper k branch stores now =>
    w.clients[k]?.bind fun c =>
      (Keeper.linkOf? c.connection).bind fun n =>
        w.visits[n]?.map fun v => .keeper k n branch stores now ⟨c.connection, v.near, none⟩
  | _ => none

/-- The steps that some moves are. -/
def steps (w : Network) : List Move → List Step
  | [] => []
  | move :: moves => (w.step? move).toList ++ (w.make move).steps moves

namespace Step

/-- The socket of a step. -/
def socket : Step → Nat
  | session n .. => n
  | keeper _ n .. => n

/-- The session that makes a step, if a session does. -/
def session? : Step → Option Nat
  | session n .. => some n
  | keeper .. => none

/-- What a session hears in a step. -/
def heard? (n : Nat) : Step → Option Message
  | session m branch _ _ t => if m = n then Session.hears branch t else none
  | keeper .. => none

/-- What a session sets out to write in a step. -/
def said? (n : Nat) : Step → Option Session.Remark
  | session m branch _ wallClock t => if m = n then Session.remark? branch wallClock t else none
  | keeper .. => none

/-- The bytes that a session writes in a step. -/
def wrote (n : Nat) : Step → ByteArray
  | session m branch now wallClock t =>
    if m = n then
      Application.gained t.link.down (Session.step branch now wallClock t).link.down
    else .empty
  | keeper .. => .empty

/-- How a session is registered in a step, with the mailbox at this time. -/
def registered? (n : Nat) : Step → Option (SignIn × List Queued)
  | session m branch now wallClock t =>
    if m = n then
      match t.session.phase with
      | .greeting _ => (Session.step branch now wallClock t).session.phase.signIn?.map
          fun i => (i, t.mailroom.mailbox i.login)
      | _ => none
    else none
  | keeper .. => none

end Step

/-- What a session heard in some steps. -/
def heardOn (n : Nat) (steps : List Step) : List Message := steps.filterMap (Step.heard? n)

/-- What a session set out to write. -/
def saidOn (n : Nat) (steps : List Step) : List Session.Remark := steps.filterMap (Step.said? n)

/-- The requests that a session passed on to its client. -/
def pushesOn (n : Nat) (steps : List Step) : List Wire.Request :=
  (saidOn n steps).filterMap Session.Remark.push?

/-- The bytes that a session wrote. -/
def writtenOn (n : Nat) : List Step → ByteArray
  | [] => .empty
  | s :: rest => s.wrote n ++ writtenOn n rest

/-- How a session was registered, if it was. -/
def registeredOn (n : Nat) (steps : List Step) : Option (SignIn × List Queued) :=
  steps.findSome? (Step.registered? n)

/-- The first of some messages is a handshake that presents a login with the password of its
account. -/
def Presents (accounts : Accounts) (heard : List Message) (login : String) : Prop :=
  ∃ m rest h password, heard = m :: rest ∧ Session.handshakeOf m = .ok h ∧
    h.login = some login ∧ h.password = some password ∧ accounts.get? login = some password

/-- A message was accepted for a login in one of some moves. -/
def AcceptedIn (w : Network) (moves : List Move) (login : String) (q : Queued) : Prop :=
  ∃ before move after, moves = before ++ move :: after ∧
    Accepts login (w.makeAll before) move q

variable {accounts : Accounts} {w : Network} {moves : List Move} {more ss ss' : List Step}
  {n : Nat} {login : String} {q : Queued}

theorem makeAll_append (w : Network) (moves more : List Move) :
    w.makeAll (moves ++ more) = (w.makeAll moves).makeAll more := List.foldl_append

theorem steps_append (w : Network) (moves more : List Move) :
    w.steps (moves ++ more) = w.steps moves ++ (w.makeAll moves).steps more := by
  induction moves generalizing w with
  | nil => rfl
  | cons move moves ih =>
    rw [List.cons_append, steps, steps, ih, List.append_assoc]
    rfl

theorem steps_snoc (w : Network) (moves : List Move) (move : Move) :
    w.steps (moves ++ [move]) = w.steps moves ++ ((w.makeAll moves).step? move).toList := by
  rw [steps_append]
  exact congrArg _ (List.append_nil _)

theorem heardOn_append (n : Nat) (ss more : List Step) :
    heardOn n (ss ++ more) = heardOn n ss ++ heardOn n more := List.filterMap_append

theorem saidOn_append (n : Nat) (ss more : List Step) :
    saidOn n (ss ++ more) = saidOn n ss ++ saidOn n more := List.filterMap_append

theorem pushesOn_append (n : Nat) (ss more : List Step) :
    pushesOn n (ss ++ more) = pushesOn n ss ++ pushesOn n more := by
  rw [pushesOn, saidOn_append, List.filterMap_append]
  rfl

theorem writtenOn_append (n : Nat) (ss more : List Step) :
    writtenOn n (ss ++ more) = writtenOn n ss ++ writtenOn n more := by
  induction ss with
  | nil => exact ByteArray.empty_append.symm
  | cons s ss ih => rw [List.cons_append, writtenOn, writtenOn, ih, ByteArray.append_assoc]

theorem registeredOn_append (n : Nat) (ss more : List Step) :
    registeredOn n (ss ++ more) = (registeredOn n ss).or (registeredOn n more) :=
  List.findSome?_append

/-- A message is accepted in some moves or in the last one. -/
theorem acceptedIn_snoc {move : Move} : AcceptedIn w (moves ++ [move]) login q ↔
    AcceptedIn w moves login q ∨ Accepts login (w.makeAll moves) move q := by
  constructor
  · rintro ⟨before, move', after, hsplit, haccepts⟩
    rcases List.eq_nil_or_concat after with rfl | ⟨init, last, rfl⟩
    · obtain ⟨rfl, hlast⟩ := List.append_inj' hsplit rfl
      obtain rfl := List.singleton_inj.1 hlast
      exact .inr haccepts
    · rw [List.concat_eq_append, ← List.cons_append, ← List.append_assoc] at hsplit
      exact .inl ⟨before, move', init, (List.append_inj' hsplit rfl).1, haccepts⟩
  · rintro (⟨before, move', after, rfl, haccepts⟩ | haccepts)
    · exact ⟨before, move', after ++ [move], by simp, haccepts⟩
    · exact ⟨moves, move, [], rfl, haccepts⟩

theorem Presents.append {heard : List Message} (h : Presents accounts heard login)
    (more : List Message) : Presents accounts (heard ++ more) login := by
  obtain ⟨m, rest, hello, password, rfl, hrest⟩ := h
  exact ⟨m, rest ++ more, hello, password, rfl, hrest⟩

/-- A step is made on a socket that is there. -/
theorem socket_lt {s : Step} (hs : s ∈ w.steps moves) :
    s.socket < (w.makeAll moves).visits.length := by
  induction moves using List.reverseRecOn with
  | nil => cases hs
  | append_singleton moves move ih =>
    rw [makeAll_append]
    have hgrown : (w.makeAll moves).Grown ((w.makeAll moves).make move) := .make _ move
    refine Nat.lt_of_lt_of_le ?_ hgrown.length_visits
    rw [steps_snoc] at hs
    rcases List.mem_append.1 hs with hs | hs
    · exact ih hs
    · have hstep := Option.mem_toList.1 hs
      cases move with
      | session n branch now wallClock =>
        obtain ⟨v, hv, rfl⟩ := Option.map_eq_some_iff.1 hstep
        exact (List.getElem?_eq_some_iff.1 hv).1
      | keeper k branch stores now =>
        obtain ⟨c, -, hrest⟩ := Option.bind_eq_some_iff.1 hstep
        obtain ⟨n, -, hrest⟩ := Option.bind_eq_some_iff.1 hrest
        obtain ⟨v, hv, rfl⟩ := Option.map_eq_some_iff.1 hrest
        exact (List.getElem?_eq_some_iff.1 hv).1
      | _ => cases hstep

/-- What a session did is not touched by the steps of others. -/
structure Same (n : Nat) (ss ss' : List Step) : Prop where
  heard : heardOn n ss' = heardOn n ss
  said : saidOn n ss' = saidOn n ss
  written : writtenOn n ss' = writtenOn n ss
  registered : registeredOn n ss' = registeredOn n ss

/-- Steps of others tell nothing of a session. -/
theorem same_append (ss : List Step) (h : ∀ s ∈ more, s.session? ≠ some n) :
    Same n ss (ss ++ more) := by
  have hnone : heardOn n more = [] ∧ saidOn n more = [] ∧ writtenOn n more = .empty ∧
      registeredOn n more = none := by
    induction more with
    | nil => exact ⟨rfl, rfl, rfl, rfl⟩
    | cons s more ih =>
      obtain ⟨hheard, hsaid, hwritten, hregistered⟩ :=
        ih fun s hs => h s (List.mem_cons_of_mem _ hs)
      have hs : s.heard? n = none ∧ s.said? n = none ∧ s.wrote n = .empty ∧
          s.registered? n = none := by
        cases s with
        | session m branch now wallClock t =>
          have hne : m ≠ n := fun heq => h _ List.mem_cons_self (congrArg some heq)
          exact ⟨if_neg hne, if_neg hne, if_neg hne, if_neg hne⟩
        | keeper => exact ⟨rfl, rfl, rfl, rfl⟩
      refine ⟨?_, ?_, ?_, ?_⟩
      · rw [heardOn, List.filterMap_cons_none hs.1]
        exact hheard
      · rw [saidOn, List.filterMap_cons_none hs.2.1]
        exact hsaid
      · rw [writtenOn, hs.2.2.1, hwritten]
        rfl
      · rw [registeredOn, List.findSome?_cons, hs.2.2.2]
        exact hregistered
  constructor
  · rw [heardOn_append, hnone.1, List.append_nil]
  · rw [saidOn_append, hnone.2.1, List.append_nil]
  · rw [writtenOn_append, hnone.2.2.1, ByteArray.append_empty]
  · rw [registeredOn_append, hnone.2.2.2, Option.or_none]

theorem Same.pushes (h : Same n ss ss') : pushesOn n ss' = pushesOn n ss :=
  congrArg (List.filterMap Session.Remark.push?) h.said

/-! ## A step of a session -/

section

variable {t : Session.Turn} {branch : Session.Branch} {now wallClock : Nat}

theorem heardOn_session (n : Nat) (branch : Session.Branch) (now wallClock : Nat)
    (t : Session.Turn) :
    heardOn n [.session n branch now wallClock t] = (Session.hears branch t).toList := by
  cases h : Session.hears branch t <;> simp [heardOn, Step.heard?, h]

theorem saidOn_session (n : Nat) (branch : Session.Branch) (now wallClock : Nat)
    (t : Session.Turn) :
    saidOn n [.session n branch now wallClock t] =
      (Session.remark? branch wallClock t).toList := by
  cases h : Session.remark? branch wallClock t <;> simp [saidOn, Step.said?, h]

theorem registeredOn_session (n : Nat) (branch : Session.Branch) (now wallClock : Nat)
    (t : Session.Turn) :
    registeredOn n [.session n branch now wallClock t] =
      Step.registered? n (.session n branch now wallClock t) := by
  rw [registeredOn, List.findSome?_cons]
  cases Step.registered? n (.session n branch now wallClock t) <;> rfl

/-- A session is registered in a step only if it waits for its handshake, and then as whom it is
signed in afterwards. -/
theorem registered?_eq_some {i : SignIn} {backlog : List Queued}
    (h : Step.registered? n (.session n branch now wallClock t) = some (i, backlog)) :
    (∃ deadline, t.session.phase = .greeting deadline) ∧
      (Session.step branch now wallClock t).session.phase.signIn? = some i ∧
      backlog = t.mailroom.mailbox i.login := by
  rw [Step.registered?, if_pos rfl] at h
  split at h
  · next deadline hphase =>
    obtain ⟨j, hj, heq⟩ := Option.map_eq_some_iff.1 h
    obtain ⟨rfl, rfl⟩ := Prod.mk.inj heq
    exact ⟨⟨deadline, hphase⟩, hj, rfl⟩
  · cases h

/-- A session that is signed in by its first message is registered. -/
theorem registered?_of_greeting {deadline : Nat} (hphase : t.session.phase = .greeting deadline) :
    Step.registered? n (.session n branch now wallClock t) =
      (Session.step branch now wallClock t).session.phase.signIn?.map
        fun i => (i, t.mailroom.mailbox i.login) := by
  rw [Step.registered?, if_pos rfl, hphase]

end

end ChatSockets.Network
