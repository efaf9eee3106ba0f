import ChatSockets.Proofs.Entries
import ChatSockets.Proofs.Server.Parting

/-!
# The sessions of a server and the register of who is signed in

A `Lobby` is a mailroom with all sessions that ever began, each over a link of which nothing is
assumed. A session that is signed in and ends hangs up its line in its last step and gives up its
account in a later move of its own (`Move.leaves`); then its run has returned. Messages from outside
get their id at one move and are posted at another, as in an `Office`. A lobby keeps the order in
which sessions were registered (`Lobby.last?`).

The two moves by which a session ends are together what its step is to the mailroom (`room_leaves`).

What the register has to do with a session is its `Seat`: its account and handle, and whether it
still serves. A move changes at most one seat, in one of three ways (`Shift`, `make_shift`): a
session is signed in, or hangs up its line, or returns. To the sessions themselves a move is one of
three things as well (`Changes`, `make_changes`).
-/

namespace ChatSockets

open Session (Branch Turn Parts step_parts step_id step_of_ended remembers_served)

/-- A session with the account that it has still to give up, once it has ended. -/
structure Guest where
  session : Session
  leaving : Option SignIn := none

/-- A mailroom with all sessions that ever began. -/
structure Lobby where
  office : Office
  guests : List Guest := []
  /-- the logins for which sessions were registered, with the sessions, the latest first -/
  enrolled : List (String × Nat) := []

/-- What a session is to the register while its run has not returned. -/
structure Seat where
  login : String
  handle : Handle
  /-- the session is still in its loop -/
  serves : Bool

namespace Guest

/-- Whom a session is signed in as, until its run returns. -/
def signIn? (g : Guest) : Option SignIn := g.session.phase.signIn?.or g.leaving

/-- Whether the run of a session has returned. -/
def hasReturned (g : Guest) : Bool := g.session.result?.isSome && g.leaving.isNone

/-- A session after a step; one that was signed in and has ended has its account to give up. -/
def after (g : Guest) (session : Session) : Guest where
  session
  leaving := g.leaving.or (session.result?.bind fun _ => g.session.phase.signIn?)

/-- The seat of a session. -/
def seat? (g : Guest) : Option Seat :=
  g.signIn?.map fun i => ⟨i.login, ⟨g.session.id, i.line⟩, g.session.phase.signIn?.isSome⟩

/-- A session is or was signed in as a login. -/
def Entered (g : Guest) (login : String) : Prop :=
  (∃ i, g.session.phase.signIn? = some i ∧ i.login = login) ∨
    (∃ result, g.session.phase = .ended result) ∧ ∀ i, g.leaving = some i → i.login = login

/-- Only a session that has ended has an account to give up. -/
def Parted (g : Guest) : Prop := g.leaving ≠ none → ∃ result, g.session.phase = .ended result

end Guest

namespace Lobby

/-- What can happen. -/
inductive Move
  /-- a session begins -/
  | begins (id : UInt64) (now : Nat)
  /-- a session makes a step, with whatever is on its link -/
  | session (n : Nat) (branch : Branch) (now wallClock : Nat) (link : Link)
  /-- a session that has ended gives up its account, and its run returns -/
  | leaves (n : Nat)
  /-- a message from outside gets its id -/
  | accepts (now : Nat) (login : String) (body : ByteArray)
  /-- a message that has its id is posted -/
  | posts (n : Nat)

/-- The mailroom of a lobby. -/
def room (l : Lobby) : Mailroom := l.office.room

/-- The lobby with another mailroom. -/
def withRoom (l : Lobby) (room : Mailroom) : Lobby := { l with office := { l.office with room } }

/-- A step of a session. One that was signed in and ends has hung up its line, no more. -/
def stepGuest (l : Lobby) (n : Nat) (branch : Branch) (now wallClock : Nat) (link : Link) : Lobby :=
  match l.guests[n]? with
  | none => l
  | some g =>
    let t : Turn := ⟨g.session, l.room, link⟩
    let t' := Session.step branch now wallClock t
    let room := match g.session.phase.signIn?, t'.session.result? with
      | some i, some _ => (t.served branch wallClock).hangUp i.line
      | _, _ => t'.mailroom
    let enrolled := match g.session.phase.signIn?, t'.session.phase.signIn? with
      | none, some i => (i.login, n) :: l.enrolled
      | _, _ => l.enrolled
    { l.withRoom room with guests := l.guests.set n (g.after t'.session), enrolled }

/-- The lobby after a move. -/
def make (l : Lobby) : Move → Lobby
  | .begins id now => { l with guests := l.guests ++ [{ session := .start id now }] }
  | .session n branch now wallClock link => l.stepGuest n branch now wallClock link
  | .leaves n =>
    match l.guests[n]? with
    | some ⟨session, some i⟩ =>
      { l.withRoom (l.room.unregister i.login session.id) with
        guests := l.guests.set n { session } }
    | _ => l
  | .accepts now login body => { l with office := l.office.make (.accept now login body) }
  | .posts n => { l with office := l.office.make (.post n) }

/-- The lobby after some moves. -/
def makeAll (l : Lobby) (moves : List Move) : Lobby := moves.foldl make l

/-- A server with some accounts, before anything happened. -/
def start (accounts : Accounts) : Lobby := { office := .start accounts }

/-- The session that was registered last for a login. -/
def last? (l : Lobby) (login : String) : Option Nat :=
  (l.enrolled.find? (·.1 = login)).map Prod.snd

/-- The seat of a session of the lobby. -/
def seat? (l : Lobby) (n : Nat) : Option Seat := (l.guests[n]?).bind Guest.seat?

/-- The ids of all sessions. -/
def ids (l : Lobby) : List UInt64 := l.guests.map (·.session.id)

/-- The ids of the sessions that begin in some moves. -/
def begun (moves : List Move) : List UInt64 :=
  moves.filterMap fun
    | .begins id _ => some id
    | _ => none

/-- A session of the lobby is or was signed in as a login. -/
def HasEntered (l : Lobby) (n : Nat) (login : String) : Prop :=
  ∃ g, l.guests[n]? = some g ∧ g.Entered login

/-- What a move can be to the register. -/
inductive Shift (l l' : Lobby) : Prop
  | keeps (hseats : ∀ k, l'.seat? k = l.seat? k) (henrolled : l'.enrolled = l.enrolled)
    (hroom : l.room.Remembers l'.room)
  /-- a session is signed in -/
  | enters (n : Nat) (login : String) (id : UInt64) (hnew : ∀ login, ¬ l.HasEntered n login)
    (hentered : l'.HasEntered n login)
    (hseats : ∀ k, l'.seat? k =
      if k = n then some ⟨login, ⟨id, l.room.nextLine⟩, true⟩ else l.seat? k)
    (henrolled : l'.enrolled = (login, n) :: l.enrolled)
    (hroom : l'.room = (l.room.openLine.2.register login ⟨id, l.room.nextLine⟩).2)
  /-- a session ends, after it has done what else it does -/
  | hangsUp (n : Nat) (s : Seat) (m : Mailroom) (hseat : l.seat? n = some s)
    (hseats : ∀ k, l'.seat? k = if k = n then some { s with serves := false } else l.seat? k)
    (henrolled : l'.enrolled = l.enrolled) (hkeeps : l.room.Remembers m)
    (hroom : l'.room = m.hangUp s.handle.line)
  /-- the run of a session returns -/
  | leaves (n : Nat) (s : Seat) (hseat : l.seat? n = some s)
    (hseats : ∀ k, l'.seat? k = if k = n then none else l.seat? k)
    (henrolled : l'.enrolled = l.enrolled)
    (hroom : l'.room = l.room.unregister s.login s.handle.session)

end Lobby

/-! ## What a step is to a session -/

namespace Guest

variable {g : Guest} {s : Seat} {login : String}

/-- The seat of a session that is in its loop. -/
theorem seat?_of_signIn? {i : SignIn} (hi : g.session.phase.signIn? = some i) :
    g.seat? = some ⟨i.login, ⟨g.session.id, i.line⟩, true⟩ := by
  rw [seat?, signIn?, hi]
  rfl

/-- The seat of a session that is not in its loop. -/
theorem seat?_of_signIn?_eq_none (hnone : g.session.phase.signIn? = none) :
    g.seat? = g.leaving.map fun i => ⟨i.login, ⟨g.session.id, i.line⟩, false⟩ := by
  rw [seat?, signIn?, hnone]
  rfl

/-- A session has the seat of the login that it entered with. -/
theorem Entered.login_eq (h : g.Entered login) (hs : g.seat? = some s) : s.login = login := by
  rcases h with ⟨i, hi, rfl⟩ | ⟨⟨result, hended⟩, hleaving⟩
  · rw [seat?_of_signIn? hi] at hs
    exact congrArg Seat.login (Option.some.inj hs).symm
  · have hnone : g.session.phase.signIn? = none := by rw [hended]; rfl
    rw [seat?_of_signIn?_eq_none hnone] at hs
    obtain ⟨i, hi, rfl⟩ := Option.map_eq_some_iff.1 hs
    exact hleaving i hi

/-- A session that has entered and not ended serves in its seat. -/
theorem Entered.serves (h : g.Entered login) (hgoes : g.session.result? = none) :
    ∃ s, g.seat? = some s ∧ s.serves = true := by
  rcases h with ⟨i, hi, -⟩ | ⟨⟨result, hended⟩, -⟩
  · exact ⟨_, seat?_of_signIn? hi, rfl⟩
  · rw [Session.result?, hended] at hgoes
    cases hgoes

/-- A session whose run has returned has no seat. -/
theorem seat?_of_hasReturned (h : g.hasReturned = true) : g.seat? = none := by
  obtain ⟨hended, hleaving⟩ := (Bool.and_eq_true _ _).mp h
  have hnone : g.session.phase.signIn? = none := by
    unfold Session.result? at hended
    split at hended
    · next result hphase => rw [hphase]; rfl
    · cases hended
  rw [seat?_of_signIn?_eq_none hnone, Option.isNone_iff_eq_none.1 hleaving]
  rfl

variable (branch : Branch) (now wallClock : Nat) (room : Mailroom) (link : Link)

/-- A session that is signed in stays so in a step, or ends. -/
theorem signIn?_step {i : SignIn} (hi : g.session.phase.signIn? = some i) :
    let t' := Session.step branch now wallClock ⟨g.session, room, link⟩
    t'.session.phase.signIn? = some i ∨ ∃ result, t'.session.phase = .ended result := by
  intro t'
  have hparts : Parts branch wallClock ⟨g.session, room, link⟩ t' := step_parts ..
  cases hparts with
  | enters login deadline hphase => rw [hphase] at hi; cases hi
  | goesOn hsignIn => exact .inl (hsignIn.trans hi)
  | leaves j result hsignIn hended => exact .inr ⟨result, hended⟩

/-- A session that is signed in has no account to give up yet. -/
theorem Parted.leaving_eq_none (h : g.Parted) (hi : g.session.phase.signIn? ≠ none) :
    g.leaving = none := by
  by_contra hleaving
  obtain ⟨result, hended⟩ := h hleaving
  rw [hended] at hi
  exact hi rfl

/-- A session that was not signed in has no more to give up than before. -/
theorem after_of_stranger (hnone : g.session.phase.signIn? = none) (session : Session) :
    g.after session = ⟨session, g.leaving⟩ := by
  rw [after, hnone, Option.bind_fun_none, Option.or_none]

/-- A session that is signed in has not ended. -/
theorem after_of_signIn? {session : Session} {i : SignIn} (hi : session.phase.signIn? = some i) :
    session.result? = none ∧ g.after session = ⟨session, g.leaving⟩ := by
  have hgoes : session.result? = none := by
    unfold Session.result?
    split
    · next result hended => rw [hended] at hi; cases hi
    · rfl
  exact ⟨hgoes, by rw [after, hgoes, Option.bind_none, Option.or_none]⟩

/-- A session that was signed in and has ended has its account to give up. -/
theorem Parted.after_of_ended (h : g.Parted) {i : SignIn} (hi : g.session.phase.signIn? = some i)
    {session : Session} {result : Except SessionError Unit}
    (hended : session.phase = .ended result) :
    session.result? = some result ∧ g.after session = ⟨session, some i⟩ := by
  have hresult : session.result? = some result := by rw [Session.result?, hended]
  have hgone := h.leaving_eq_none (by rw [hi]; exact Option.some_ne_none i)
  exact ⟨hresult, by rw [Guest.after, hgone, hresult, hi]; rfl⟩

/-- A session that has ended stays as it is. -/
theorem after_step_of_ended {result : Except SessionError Unit}
    (hended : g.session.phase = .ended result) :
    g.after (Session.step branch now wallClock ⟨g.session, room, link⟩).session = g := by
  rw [step_of_ended hended]
  exact after_of_stranger (by rw [hended]; rfl) g.session

theorem Parted.after (h : g.Parted) :
    (g.after (Session.step branch now wallClock ⟨g.session, room, link⟩).session).Parted := by
  by_cases hgone : g.leaving = none
  · intro hleaving
    unfold Guest.after at hleaving ⊢
    rw [hgone] at hleaving
    unfold Session.result? at hleaving
    split at hleaving
    · next result hended => exact ⟨result, hended⟩
    · exact absurd rfl hleaving
  · obtain ⟨result, hended⟩ := h hgone
    rw [after_step_of_ended branch now wallClock room link hended]
    exact h

/-- A session that has entered as a login has done so ever after. -/
theorem Entered.after (h : g.Entered login) (hparted : g.Parted) :
    (g.after (Session.step branch now wallClock ⟨g.session, room, link⟩).session).Entered
      login := by
  rcases h with ⟨i, hi, hlogin⟩ | hended
  · rcases signIn?_step branch now wallClock room link hi with hsame | ⟨result, hended⟩
    · exact .inl ⟨i, hsame, hlogin⟩
    · refine .inr ⟨⟨result, hended⟩, fun j hj => ?_⟩
      rw [(hparted.after_of_ended hi hended).2] at hj
      exact Option.some.inj hj ▸ hlogin
  · obtain ⟨result, hphase⟩ := hended.1
    rw [after_step_of_ended branch now wallClock room link hphase]
    exact .inr hended

end Guest

namespace Lobby

variable {l l' : Lobby} {login : String} {n : Nat} {g : Guest}

/-! ## What a move is to the register -/

theorem seat?_of_guest (hg : l.guests[n]? = some g) : l.seat? n = g.seat? := by
  rw [seat?, hg, Option.bind_some]

/-- The seats after one session has changed. -/
theorem seat?_set (hg : l.guests[n]? = some g) (g' : Guest)
    (hguests : l'.guests = l.guests.set n g') (k : Nat) :
    l'.seat? k = if k = n then g'.seat? else l.seat? k := by
  rw [seat?, hguests]
  by_cases hk : k = n
  · rw [if_pos hk, hk, getElem?_set_of_some hg, Option.bind_some]
  · rw [if_neg hk, List.getElem?_set, if_neg (Ne.symm hk), seat?]

/-- The seats after a session has changed that keeps its own. -/
theorem seat?_set_of_same (hg : l.guests[n]? = some g) (g' : Guest)
    (hguests : l'.guests = l.guests.set n g') (hsame : g'.seat? = g.seat?) (k : Nat) :
    l'.seat? k = l.seat? k := by
  rw [seat?_set hg g' hguests]
  by_cases hk : k = n
  · rw [if_pos hk, hk, seat?_of_guest hg, hsame]
  · rw [if_neg hk]

/-- The seats after a session began. -/
theorem seat?_begins (l : Lobby) (id : UInt64) (now k : Nat) :
    (l.make (.begins id now)).seat? k = l.seat? k := by
  show ((l.guests ++ [_])[k]?).bind Guest.seat? = _
  rw [List.getElem?_append]
  split
  · rfl
  · next hk =>
    rw [seat?, List.getElem?_eq_none (Nat.le_of_not_lt hk)]
    cases k - l.guests.length <;> rfl

/-- A step of a session that is signed in as before, or was not and is not. -/
theorem stepGuest_of_goesOn {branch : Branch} {now wallClock : Nat} {link : Link}
    (hg : l.guests[n]? = some g) {t' : Turn}
    (ht' : Session.step branch now wallClock ⟨g.session, l.room, link⟩ = t')
    (hsignIn : t'.session.phase.signIn? = g.session.phase.signIn?) :
    l.stepGuest n branch now wallClock link =
      { l.withRoom t'.mailroom with guests := l.guests.set n ⟨t'.session, g.leaving⟩ } := by
  simp only [stepGuest, hg, ht']
  cases hi : g.session.phase.signIn? with
  | none =>
    rw [hsignIn, hi, Guest.after_of_stranger hi]
    rfl
  | some i =>
    rw [hi] at hsignIn
    obtain ⟨hgoes, hafter⟩ := Guest.after_of_signIn? (g := g) hsignIn
    rw [hgoes, hsignIn, hafter]
    rfl

/-- A step of a session that is signed in by it. -/
theorem stepGuest_of_enters {branch : Branch} {now wallClock : Nat} {link : Link}
    (hg : l.guests[n]? = some g) (hnone : g.session.phase.signIn? = none) {t' : Turn} {i : SignIn}
    (ht' : Session.step branch now wallClock ⟨g.session, l.room, link⟩ = t')
    (hi : t'.session.phase.signIn? = some i) :
    l.stepGuest n branch now wallClock link =
      { l.withRoom t'.mailroom with
        guests := l.guests.set n ⟨t'.session, g.leaving⟩
        enrolled := (i.login, n) :: l.enrolled } := by
  simp only [stepGuest, hg, ht', hnone, hi, Guest.after_of_stranger hnone]

/-- A step in which a session ends that was signed in. -/
theorem stepGuest_of_leaves {branch : Branch} {now wallClock : Nat} {link : Link}
    (hg : l.guests[n]? = some g) (hparted : g.Parted) {t' : Turn} {i : SignIn}
    (ht' : Session.step branch now wallClock ⟨g.session, l.room, link⟩ = t')
    (hi : g.session.phase.signIn? = some i) {result : Except SessionError Unit}
    (hended : t'.session.phase = .ended result) :
    l.stepGuest n branch now wallClock link =
      { l.withRoom ((Turn.served branch wallClock ⟨g.session, l.room, link⟩).hangUp i.line) with
        guests := l.guests.set n ⟨t'.session, some i⟩ } := by
  obtain ⟨hresult, hafter⟩ := hparted.after_of_ended hi hended
  simp only [stepGuest, hg, ht', hi, hresult, hafter]
  rfl

/-- A step of a session as a shift. -/
theorem shift_stepGuest (hg : l.guests[n]? = some g) (hparted : g.Parted) (branch : Branch)
    (now wallClock : Nat) (link : Link) :
    Shift l (l.stepGuest n branch now wallClock link) := by
  have hparts := step_parts branch now wallClock ⟨g.session, l.room, link⟩
  have hid : (Session.step branch now wallClock ⟨g.session, l.room, link⟩).session.id =
    g.session.id := step_id ..
  have hserved : l.room.Remembers (Turn.served branch wallClock ⟨g.session, l.room, link⟩) :=
    remembers_served branch wallClock ⟨g.session, l.room, link⟩
  generalize ht' : Session.step branch now wallClock ⟨g.session, l.room, link⟩ = t' at hparts hid
  cases hparts with
  | enters login deadline hphase hserves hroom =>
    have hnone : g.session.phase.signIn? = none := congrArg Session.Phase.signIn? hphase
    have hsignIn : t'.session.phase.signIn? = some ⟨login, l.room.nextLine⟩ :=
      congrArg Session.Phase.signIn? hserves
    rw [stepGuest_of_enters hg hnone ht' hsignIn]
    refine .enters n login g.session.id ?_
      ⟨_, getElem?_set_of_some hg, .inl ⟨⟨login, l.room.nextLine⟩, hsignIn, rfl⟩⟩
      (fun k => ?_) rfl hroom
    · rintro other ⟨g', hg', hentered⟩
      obtain rfl : g = g' := Option.some.inj (hg.symm.trans hg')
      rcases hentered with ⟨i, hi, -⟩ | ⟨⟨result, hended⟩, -⟩
      · cases hnone.symm.trans hi
      · cases hphase.symm.trans hended
    · rw [seat?_set hg ⟨t'.session, g.leaving⟩ rfl, Guest.seat?_of_signIn? hsignIn]
      show (if k = n then some (Seat.mk login ⟨t'.session.id, _⟩ true) else _) = _
      rw [hid]
  | goesOn hsignIn hroom =>
    rw [stepGuest_of_goesOn hg ht' hsignIn]
    refine .keeps (seat?_set_of_same hg ⟨t'.session, g.leaving⟩ rfl ?_) rfl (hroom ▸ hserved)
    show ((t'.session.phase.signIn?.or g.leaving).map fun i =>
      Seat.mk i.login ⟨t'.session.id, i.line⟩ t'.session.phase.signIn?.isSome) = _
    rw [hsignIn, hid]
    rfl
  | leaves i result hsignIn hended hroom =>
    have hnone : t'.session.phase.signIn? = none := congrArg Session.Phase.signIn? hended
    rw [stepGuest_of_leaves hg hparted ht' hsignIn hended]
    refine .hangsUp n _ _ ((seat?_of_guest hg).trans (Guest.seat?_of_signIn? hsignIn)) (fun k => ?_)
      rfl hserved rfl
    rw [seat?_set hg ⟨t'.session, some i⟩ rfl, Guest.seat?_of_signIn?_eq_none hnone]
    show (if k = n then some (Seat.mk i.login ⟨t'.session.id, _⟩ false) else _) = _
    rw [hid]

/-- **A step and the return of the run** are together what a step is to the mailroom. -/
theorem room_leaves (hg : l.guests[n]? = some g) (hgone : g.leaving = none) (branch : Branch)
    (now wallClock : Nat) (link : Link) :
    ((l.make (.session n branch now wallClock link)).make (.leaves n)).room =
      (Session.step branch now wallClock ⟨g.session, l.room, link⟩).mailroom := by
  have hparts := step_parts branch now wallClock ⟨g.session, l.room, link⟩
  have hid : (Session.step branch now wallClock ⟨g.session, l.room, link⟩).session.id =
    g.session.id := step_id ..
  have hparted : g.Parted := fun h => absurd hgone h
  have hidle : ∀ {l' : Lobby} {session : Session}, l'.guests = l.guests.set n ⟨session, g.leaving⟩ →
      (l'.make (.leaves n)).room = l'.room := by
    intro l' session hguests
    have hn : l'.guests[n]? = some ⟨session, none⟩ := by
      rw [hguests, getElem?_set_of_some hg, hgone]
    simp only [make, hn]
  show ((l.stepGuest n branch now wallClock link).make (.leaves n)).room = _
  generalize ht' : Session.step branch now wallClock ⟨g.session, l.room, link⟩ = t' at hparts hid ⊢
  cases hparts with
  | enters login deadline hphase hserves hroom =>
    rw [stepGuest_of_enters hg (congrArg Session.Phase.signIn? hphase) ht'
      (congrArg Session.Phase.signIn? hserves)]
    exact hidle rfl
  | goesOn hsignIn hroom =>
    rw [stepGuest_of_goesOn hg ht' hsignIn]
    exact hidle rfl
  | leaves i result hsignIn hended hroom =>
    rw [stepGuest_of_leaves hg hparted ht' hsignIn hended, hroom]
    simp only [make, getElem?_set_of_some hg]
    rw [hid]
    rfl

/-- **What a move is to the register**: it changes one seat, or none. -/
theorem make_shift (hparted : ∀ (n : Nat) (g : Guest), l.guests[n]? = some g → g.Parted)
    (move : Move) : Shift l (l.make move) := by
  have hidle : Shift l l := .keeps (fun _ => rfl) rfl l.room.remembers_refl
  cases move with
  | begins id now => exact .keeps (l.seat?_begins id now) rfl l.room.remembers_refl
  | session n branch now wallClock link =>
    cases hg : l.guests[n]? with
    | none =>
      have hsame : l.make (.session n branch now wallClock link) = l := by
        simp only [make, stepGuest, hg]
      rw [hsame]
      exact hidle
    | some g => exact shift_stepGuest hg (hparted n g hg) branch now wallClock link
  | leaves n =>
    unfold make
    dsimp only
    split
    · next session i hg =>
      obtain ⟨result, hended⟩ := hparted n _ hg (Option.some_ne_none i)
      have hnone : session.phase.signIn? = none := by rw [hended]; rfl
      have hseat := Guest.seat?_of_signIn?_eq_none (g := ⟨session, some i⟩) hnone
      refine .leaves n _ ((seat?_of_guest hg).trans hseat) (fun k => ?_) rfl rfl
      rw [seat?_set hg { session } rfl, Guest.seat?_of_signIn?_eq_none hnone]
      rfl
    · exact hidle
  | accepts now login body =>
    refine .keeps (fun _ => rfl) rfl ?_
    show l.office.room.Remembers (l.office.make _).room
    unfold Office.make
    dsimp only
    split
    · exact Mailroom.remembers_of_eq rfl rfl rfl
    · exact l.room.remembers_refl
  | posts n =>
    refine .keeps (fun _ => rfl) rfl ?_
    show l.office.room.Remembers (l.office.make _).room
    unfold Office.make
    dsimp only
    split
    · exact l.room.remembers_post _ _
    · exact l.room.remembers_refl

/-! ## What a move is to a session -/

/-- What a move does to the sessions, with the ids of those that begin. -/
inductive Changes (l l' : Lobby) : List UInt64 → Prop
  | nothing (h : l'.guests = l.guests) : Changes l l' []
  | begins (id : UInt64) (now : Nat)
    (h : l'.guests = l.guests ++ [{ session := .start id now }]) : Changes l l' [id]
  | session (n : Nat) (g g' : Guest) (hg : l.guests[n]? = some g)
    (h : l'.guests = l.guests.set n g') (hid : g'.session.id = g.session.id)
    (hkept : g.Parted → g'.Parted ∧ ∀ login, g.Entered login → g'.Entered login) :
    Changes l l' []

/-- A move begins a session, or changes one. -/
theorem make_changes (l : Lobby) (move : Move) : Changes l (l.make move) (begun [move]) := by
  cases move with
  | begins id now => exact .begins id now rfl
  | session n branch now wallClock link =>
    show Changes l (l.stepGuest n branch now wallClock link) []
    unfold stepGuest
    split
    · exact .nothing rfl
    · next g hg =>
      exact .session n g _ hg rfl (step_id branch now wallClock ⟨g.session, l.room, link⟩)
        fun hparted => ⟨hparted.after _ _ _ _ _, fun login h => h.after _ _ _ _ _ hparted⟩
  | leaves n =>
    show Changes l (l.make (.leaves n)) []
    unfold make
    dsimp only
    split
    · next session i hg =>
      refine .session n _ { session } hg rfl rfl fun hparted => ⟨fun h => absurd rfl h, ?_⟩
      rintro login (hi | ⟨hended, -⟩)
      · exact .inl hi
      · exact .inr ⟨hended, nofun⟩
    · exact .nothing rfl
  | accepts now login body => exact .nothing rfl
  | posts n => exact .nothing rfl

variable {new : List UInt64}

/-- The ids of all sessions after a move. -/
theorem Changes.ids (h : Changes l l' new) : l'.ids = l.ids ++ new := by
  unfold Lobby.ids
  cases h with
  | nothing h => rw [h, List.append_nil]
  | begins id now h => rw [h, List.map_append]; rfl
  | session n g g' hg h hid =>
    obtain ⟨hn, hget⟩ := List.getElem?_eq_some_iff.1 hg
    have hlength : n < (l.guests.map (·.session.id)).length := by rwa [List.length_map]
    have hsame : g.session.id = (l.guests.map (·.session.id))[n] := by rw [List.getElem_map, hget]
    rw [h, List.append_nil, List.map_set, hid, hsame, List.set_getElem_self hlength]

/-- Only sessions that have ended have an account to give up. -/
theorem Changes.parted (h : Changes l l' new)
    (hparted : ∀ (n : Nat) (g : Guest), l.guests[n]? = some g → g.Parted) (n : Nat) (g : Guest)
    (hg : l'.guests[n]? = some g) : g.Parted := by
  cases h with
  | nothing h => exact hparted n g (h ▸ hg)
  | begins id now h =>
    rw [h] at hg
    rcases getElem?_append_cases hg with ⟨-, rfl⟩ | hold
    · exact fun hleaving => absurd rfl hleaving
    · exact hparted n g hold
  | session k g₁ g₂ hg₁ h hid hkept =>
    rw [h] at hg
    rcases getElem?_set_cases hg with ⟨-, rfl⟩ | ⟨-, hold⟩
    · exact (hkept (hparted k g₁ hg₁)).1
    · exact hparted n g hold

/-- A session that has entered has done so ever after. -/
theorem Changes.hasEntered (h : Changes l l' new)
    (hparted : ∀ (n : Nat) (g : Guest), l.guests[n]? = some g → g.Parted)
    (hentered : l.HasEntered n login) : l'.HasEntered n login := by
  obtain ⟨g, hg, hlogin⟩ := hentered
  cases h with
  | nothing h => exact ⟨g, h ▸ hg, hlogin⟩
  | begins id now h =>
    refine ⟨g, ?_, hlogin⟩
    rw [h, List.getElem?_append_left (List.getElem?_eq_some_iff.1 hg).1]
    exact hg
  | session k g₁ g₂ hg₁ h hid hkept =>
    by_cases hn : n = k
    · subst hn
      obtain rfl : g₁ = g := Option.some.inj (hg₁.symm.trans hg)
      exact ⟨g₂, h ▸ getElem?_set_of_some hg, (hkept (hparted n g₁ hg)).2 login hlogin⟩
    · exact ⟨g, by rw [h, List.getElem?_set, if_neg (Ne.symm hn)]; exact hg, hlogin⟩

end Lobby

end ChatSockets
