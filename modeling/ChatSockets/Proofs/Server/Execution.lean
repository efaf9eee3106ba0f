import ChatSockets.Proofs.Server.Custody
import ChatSockets.Proofs.Server.Push

/-!
# Executing a request

A session executes a request in the step in which it answers it; nothing else that a session does
puts a message into a mailbox (`step_mailbox`). An `Execution` tells what was asked and answered,
and the mailroom before and after the step. For a request that brings a message, the answer says
what became of the message (`Execution.Right.sends`).
-/

namespace ChatSockets

/-- A request that a session answered, with the mailroom before and after the step. -/
structure Execution where
  /-- the socket on which it came -/
  visit : Nat
  request : Wire.Request
  response : Wire.Response
  before : Mailroom
  after : Mailroom

namespace Session

open Wire

variable {branch : Branch} {now wallClock : Nat} {t : Turn}

/-- The request that a session answers in a step, with the answer. -/
def answers? (branch : Branch) (wallClock : Nat) (t : Turn) :
    Option (Wire.Request × Wire.Response) :=
  match t.session.phase, hears branch t with
  | .serving signIn, some m =>
    match m.kindOf, m.request with
    | .request, some r => some (r, (answer t.mailroom wallClock (signIn.map SignIn.login) r).1)
    | _, _ => none
  | _, _ => none

/-- A request is answered when it is taken by a session that serves. -/
theorem answers?_eq_some_iff {r : Wire.Request} {w : Wire.Response} :
    answers? branch wallClock t = some (r, w) ↔ ∃ signIn m, t.session.phase = .serving signIn ∧
      hears branch t = some m ∧ m.kindOf = .request ∧ m.request = some r ∧
      w = (answer t.mailroom wallClock (signIn.map SignIn.login) r).1 := by
  unfold answers?
  constructor
  · intro h
    split at h
    · next signIn m hphase hheard =>
      split at h
      · next q hkind hq =>
        obtain ⟨rfl, rfl⟩ := Prod.mk.inj (Option.some.inj h)
        exact ⟨signIn, m, hphase, hheard, hkind, hq, rfl⟩
      · cases h
    · cases h
  · rintro ⟨signIn, m, hphase, hheard, hkind, hr, hw⟩
    rw [hw]
    simp only [hphase, hheard, hkind, hr]

/-- The answer to a request bears its id. -/
theorem answer_id (m : Mailroom) (wallClock : Nat) (login : Option String) (r : Wire.Request) :
    (answer m wallClock login r).1.id = r.id := by
  unfold answer
  split
  · rfl
  · split
    · split <;> rfl
    · split
      · rfl
      · split <;> rfl

/-- **A step that answers a request** leaves the mailboxes as the answer does. -/
theorem step_answers {r : Wire.Request} {w : Wire.Response}
    (h : answers? branch wallClock t = some (r, w)) (now : Nat) :
    ∃ login, w = (answer t.mailroom wallClock login r).1 ∧
      ∀ recipient, (step branch now wallClock t).mailroom.mailbox recipient =
        (answer t.mailroom wallClock login r).2.mailbox recipient := by
  obtain ⟨signIn, m, hphase, hheard, hkind, hr, hw⟩ := answers?_eq_some_iff.1 h
  refine ⟨signIn.map SignIn.login, hw, fun recipient => ?_⟩
  have hdoes := step_does branch now wallClock t
  rw [hheard] at hdoes
  generalize step branch now wallClock t = t' at hdoes ⊢
  cases hdoes with
  | greets deadline _ decoder hgreeting => rw [hphase] at hgreeting; cases hgreeting
  | handles signIn' _ decoder hserving hnext =>
    rw [hphase] at hserving
    cases hserving
    unfold handle
    rw [hkind, hr]
    exact Turn.mailbox_writeMessage _ signIn _ recipient

/-- A step in which no message is taken leaves all mailboxes as they are. -/
theorem Does.mailbox_of_silent {t' : Turn} (h : Does wallClock t none t') (login : String) :
    t'.mailroom.mailbox login = t.mailroom.mailbox login := by
  cases h with
  | nothing => rfl
  | takes b up hread => rfl
  | ends decoder result => exact Turn.mailbox_signOut _ _ _ login
  | passes i r m hphase hline =>
    exact (Turn.mailbox_writeMessage _ (some i) _ login).trans
      (Mailroom.mailbox_receive? hline login)
  | writes signIn rest hphase =>
    rcases t.write_cases signIn rest with heq | hgoes
    · rw [heq]
      exact t.mailbox_signOut signIn _ login
    · rw [hgoes.mailroom]

/-- **A step that answers no request** puts no message into any mailbox. -/
theorem step_mailbox (h : answers? branch wallClock t = none) (login : String) :
    ((step branch now wallClock t).mailroom.mailbox login).Sublist (t.mailroom.mailbox login) := by
  have hsame : ∀ {m : Mailroom}, m.mailbox login = t.mailroom.mailbox login →
      (m.mailbox login).Sublist (t.mailroom.mailbox login) := fun heq => heq ▸ List.Sublist.refl _
  have hdoes := step_does branch now wallClock t
  generalize hheard : hears branch t = heard at hdoes
  generalize step branch now wallClock t = t' at hdoes ⊢
  cases heard with
  | none => exact hsame (hdoes.mailbox_of_silent login)
  | some message =>
    cases hdoes with
    | greets deadline _ decoder hphase hnext =>
      rcases greet_cases (t.withDecoder decoder) message with ⟨e, heq⟩ | heq | ⟨recipient, -, heq⟩
      · rw [heq]
        exact hsame (Turn.mailbox_signOut _ none _ login)
      · rw [heq]
        exact hsame rfl
      · rw [heq]
        exact hsame ((Mailroom.mailbox_register _ _ _ login).trans
          (t.mailroom.mailbox_openLine login))
    | handles signIn _ decoder hphase hnext =>
      rcases handle_cases (t.withDecoder decoder) wallClock signIn message with
        heq | ⟨r, hkind, hr, heq⟩ | ⟨r, i, -, -, -, -, heq⟩
      · rw [heq]
        exact hsame rfl
      · rw [answers?_eq_some_iff.2 ⟨signIn, message, hphase, hheard, hkind, hr, rfl⟩] at h
        cases h
      · rw [heq]
        refine (Mailroom.mailbox_acknowledge t.mailroom i.login r.id login) ▸ ?_
        split
        · next heq => exact heq ▸ List.eraseP_sublist
        · exact List.Sublist.refl _

end Session

namespace Execution

/-- The response is the answer to the request, and the mailboxes are as the answer leaves them. -/
def Right (e : Execution) : Prop := ∃ (wallClock : Nat) (login : Option String),
  e.response = (Session.answer e.before wallClock login e.request).1 ∧
    ∀ recipient, e.after.mailbox recipient =
      (Session.answer e.before wallClock login e.request).2.mailbox recipient

/-- One message with some body went into the mailbox of a login, and nothing into any other. -/
def Inserts (e : Execution) (login : String) (body : ByteArray) : Prop :=
  ∃ q : Queued, q.body = body ∧ ∀ other, e.after.mailbox other =
    if other = login then e.before.mailbox login ++ [q] else e.before.mailbox other

/-- All mailboxes stayed as they were. -/
def InsertsNothing (e : Execution) : Prop :=
  ∀ login, e.after.mailbox login = e.before.mailbox login

variable {e : Execution}

theorem Right.id (h : e.Right) : e.response.id = e.request.id := by
  obtain ⟨wallClock, login, hresponse, -⟩ := h
  rw [hresponse, Session.answer_id]

/-- **What became of a message**: it went into the mailbox of its recipient if the answer says so,
and nowhere otherwise. -/
theorem Right.sends (h : e.Right) {recipient : String} (hverb : e.request.verb = "PUT")
    (hpath : e.request.path = Path.messagesTo ++ recipient) :
    e.response.isSuccess = true ∧ e.Inserts recipient e.request.body ∨
      e.response.isSuccess = false ∧ e.InsertsNothing := by
  obtain ⟨wallClock, login, hresponse, hafter⟩ := h
  have hanswer := Session.answer_of_message hverb hpath e.before wallClock login
  by_cases haccount : e.before.hasAccount recipient = true
  · rw [if_pos haccount] at hanswer
    rw [hanswer] at hresponse hafter
    refine .inl ⟨by rw [hresponse]; rfl, ⟨e.before.nextId, e.request.body, wallClock⟩, rfl,
      fun other => ?_⟩
    rw [hafter, Mailroom.mailbox_deliver]
    simp only [haccount, and_true]
  · rw [if_neg haccount] at hanswer
    rw [hanswer] at hresponse hafter
    exact .inr ⟨by rw [hresponse]; rfl, hafter⟩

end Execution

end ChatSockets
