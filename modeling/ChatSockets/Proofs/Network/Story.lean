import ChatSockets.Proofs.Network.Steps
import ChatSockets.Proofs.Office.Owners

/-!
# The story of a network

The mailroom of a network is an office with a story of its own, and the sessions of a network tell
theirs by their steps. `Story` says how the two belong together: what a session passed on to its
client is what was received from its line (`Enrolled.pushed`), the line belongs to the login that
the client presented with its password (`Enrolled.presented`), and what was posted was accepted.
Every move keeps this (`Story.make`).
-/

namespace ChatSockets

namespace Network

open Wire

variable {accounts : Accounts} {w w' : Network} {moves : List Move} {more ss ss' : List Step}
  {σ es : List Office.Entry} {n : Nat} {login : String} {q : Queued}

/-! ## What the steps and the story tell of a session -/

/-- A session that was registered: its client presented the login with its password, its line
belongs to the login, and it passed on what was received from the line. -/
structure Enrolled (accounts : Accounts) (σ : List Office.Entry) (ss : List Step) (n : Nat)
    (i : SignIn) (backlog : List Queued) : Prop where
  presented : Presents accounts (heardOn n ss) i.login
  owned : ∃ signal, Office.Owned σ i.line i.login backlog signal
  pushed : pushesOn n ss = Office.receivedFrom i.line σ

/-- What the steps and the story tell of a session with a number. -/
structure Told (accounts : Accounts) (σ : List Office.Entry) (ss : List Step) (n : Nat)
    (s : Session) : Prop where
  greeting : ∀ deadline, s.phase = .greeting deadline →
    heardOn n ss = [] ∧ saidOn n ss = [] ∧ registeredOn n ss = none
  serving : ∀ i, s.phase.signIn? = some i → ∃ backlog, registeredOn n ss = some (i, backlog)
  nobody : registeredOn n ss = none → pushesOn n ss = []
  enrolled : ∀ i backlog, registeredOn n ss = some (i, backlog) →
    Enrolled accounts σ ss n i backlog
  /-- an answer has no body, or tells a client which account it is signed in to -/
  replies : ∀ r a, .reply r a ∈ saidOn n ss →
    a.body = .empty ∧ ¬ (r.verb = "GET" ∧ r.path = Path.whoami ∧ a.status = 200) ∨
      ∃ i backlog, registeredOn n ss = some (i, backlog) ∧ a.body = i.login.toUTF8
  /-- what was said is written, but perhaps for the last bytes of a session that has ended -/
  written : ∃ more, writtenOn n ss ++ more =
      stream (fitting ((saidOn n ss).map Session.Remark.message)) ∧
    ((∀ result, s.phase ≠ .ended result) → more = s.phase.unwritten)
  /-- what has no frame is not written, and is the last that is said -/
  fits : ∃ left, (saidOn n ss).map Session.Remark.message =
      fitting ((saidOn n ss).map Session.Remark.message) ++ left ∧
    ((∀ result, s.phase ≠ .ended result) → left = [])

/-- Of a session that begins there is nothing to tell. -/
theorem told_start (h : ∀ s ∈ ss, s.session? ≠ some n) (id : UInt64) (now : Nat) :
    Told accounts σ ss n (.start id now) := by
  have hsame : Same n [] ss := same_append [] h
  have hheard : heardOn n ss = [] := hsame.heard
  have hsaid : saidOn n ss = [] := hsame.said
  have hregistered : registeredOn n ss = none := hsame.registered
  refine ⟨fun _ _ => ⟨hheard, hsaid, hregistered⟩, fun i hi => ?_, fun _ => hsame.pushes,
    fun i backlog hi => ?_, fun r a hr => ?_, ⟨.empty, ?_, fun _ => rfl⟩, ⟨[], ?_, fun _ => rfl⟩⟩
  · cases hi
  · cases hregistered.symm.trans hi
  · rw [hsaid] at hr
    cases hr
  · rw [hsame.written, hsaid]
    rfl
  · rw [hsaid]
    rfl

/-- What happens elsewhere does not touch a session. -/
theorem Told.elsewhere {s : Session} (h : Told accounts σ ss n s) (hsame : Same n ss ss')
    (helse : ∀ i backlog, registeredOn n ss = some (i, backlog) →
      Office.receivedFrom i.line es = [] ∧
        ∀ l k b signal, .registered l k b signal ∈ es → k.line ≠ i.line) :
    Told accounts (σ ++ es) ss' n s := by
  refine ⟨fun deadline hphase => ?_, fun i hi => ?_, fun hnone => ?_, fun i backlog hi => ?_, ?_,
    ?_, ?_⟩
  · rw [hsame.heard, hsame.said, hsame.registered]
    exact h.greeting deadline hphase
  · rw [hsame.registered]
    exact h.serving i hi
  · rw [hsame.registered] at hnone
    rw [hsame.pushes]
    exact h.nobody hnone
  · rw [hsame.registered] at hi
    obtain ⟨hpresented, ⟨signal, howned⟩, hpushed⟩ := h.enrolled i backlog hi
    obtain ⟨hreceived, hregistered⟩ := helse i backlog hi
    refine ⟨hsame.heard ▸ hpresented, ⟨signal, howned.append hregistered⟩, ?_⟩
    rw [hsame.pushes, hpushed, Office.receivedFrom_append, hreceived, List.append_nil]
  · rw [hsame.said, hsame.registered]
    exact h.replies
  · rw [hsame.said, hsame.written]
    exact h.written
  · rw [hsame.said]
    exact h.fits

/-! ## A step of the session -/

section

variable {t : Session.Turn} {branch : Session.Branch} {now wallClock : Nat} {o : Office}
  {moves : List Office.Move} {signIn : Option SignIn}

variable (h : Told accounts σ ss n t.session)
  (hadds : Session.Adds wallClock t (Session.hears branch t) (Session.remark? branch wallClock t)
    signIn es)
  (hleads : Session.Leads t (Session.hears branch t) (Session.remark? branch wallClock t) moves
    signIn (Session.step branch now wallClock t))
  (hremarks : ∀ x ∈ Session.remark? branch wallClock t,
    t.session.phase = .serving signIn ∧ x.Right t.mailroom wallClock signIn)

include h hremarks

/-- Only a session that is signed in passes on a request. -/
theorem Told.pushes {r : Wire.Request} (hr : .push r ∈ Session.remark? branch wallClock t) :
    ∃ i backlog, t.session.phase.signIn? = some i ∧ registeredOn n ss = some (i, backlog) := by
  obtain ⟨hphase, hsome⟩ := hremarks _ hr
  obtain ⟨i, rfl⟩ := Option.ne_none_iff_exists'.1 hsome
  have hi : t.session.phase.signIn? = some i := congrArg Session.Phase.signIn? hphase
  obtain ⟨backlog, hbacklog⟩ := h.serving i hi
  exact ⟨i, backlog, hi, hbacklog⟩

omit hremarks in
include hadds hleads in
theorem Told.serving_session {i : SignIn}
    (hi : (Session.step branch now wallClock t).session.phase.signIn? = some i) :
    ∃ backlog,
      registeredOn n (ss ++ [.session n branch now wallClock t]) = some (i, backlog) := by
  have hsignIn := hleads.signIn? hi
  rw [registeredOn_append, registeredOn_session]
  rcases hadds.signs with hstays | ⟨deadline, -, -, -, -, hphase, -⟩
  · obtain ⟨backlog, hbacklog⟩ := h.serving i (hstays.symm.trans hsignIn)
    exact ⟨backlog, by rw [hbacklog]; rfl⟩
  · obtain ⟨-, -, hnone⟩ := h.greeting deadline hphase
    rw [hnone, registered?_of_greeting hphase, hi]
    exact ⟨_, rfl⟩

include hadds hleads

/-- What is told of a session that was or is now registered. -/
theorem Told.enrolled_session (hreached : Office.Reached accounts o σ) (ho : o.room = t.mailroom)
    {i : SignIn} {backlog : List Queued}
    (hi : registeredOn n (ss ++ [.session n branch now wallClock t]) = some (i, backlog)) :
    Enrolled accounts (σ ++ es) (ss ++ [.session n branch now wallClock t]) n i backlog := by
  rw [registeredOn_append, registeredOn_session] at hi
  rcases Option.or_eq_some_iff.1 hi with hold | ⟨hnone, hnew⟩
  · obtain ⟨hpresented, ⟨signal, howned⟩, hpushed⟩ := h.enrolled i backlog hold
    refine ⟨?_, ⟨signal, howned.append fun l k b s hmem => ?_⟩, ?_⟩
    · rw [heardOn_append]
      exact hpresented.append _
    · have hlt := howned.opened hreached.lined
      rw [ho] at hlt
      rw [hadds.registered l k b s hmem]
      exact (Nat.ne_of_lt hlt).symm
    · rw [pushesOn_append, hpushed, Office.receivedFrom_append, hadds.received]
      congr 1
      rw [pushesOn, saidOn_session]
      cases hremark : Session.remark? branch wallClock t with
      | none => exact (ite_self _).symm
      | some x =>
        cases x with
        | push r =>
          obtain ⟨j, b, hj, hregistered⟩ := h.pushes hremarks hremark
          obtain ⟨rfl, -⟩ := Prod.mk.inj (Option.some.inj (hregistered.symm.trans hold))
          simp [hj]
        | reply r a => exact (ite_self _).symm
  · obtain ⟨⟨deadline, hphase⟩, hafter, rfl⟩ := registered?_eq_some hnew
    obtain ⟨hheard, hsaid, -⟩ := h.greeting deadline hphase
    have hsignIn := hleads.signIn? hafter
    rcases hadds.signs with hstays | ⟨-, message, hello, login, password, -, hmessage, hremark,
      hhandshake, hlogin, hpassword, haccount, hnow, hes⟩
    · rw [hstays, hphase] at hsignIn
      cases hsignIn
    · obtain rfl : i = ⟨login, t.mailroom.nextLine⟩ :=
        Option.some.inj (hsignIn.symm.trans hnow)
      rw [← ho] at haccount hes ⊢
      refine ⟨⟨message, [], hello, password, ?_, hhandshake, hlogin, hpassword, ?_⟩,
        ⟨o.room.nextId, ?_⟩, ?_⟩
      · rw [heardOn_append, hheard, heardOn_session, hmessage]
        rfl
      · rwa [← hreached.accounts_eq]
      · rw [hes]
        exact hreached.owned login t.session.id
      · rw [pushesOn, saidOn_append, hsaid, saidOn_session, hremark, hes,
          Office.receivedFrom_append, (hreached.lined.unopened _ (Nat.le_refl _)).2]
        rfl

omit hadds hremarks in
/-- What a session has written after a step. -/
theorem Told.written_session :
    ∃ more, writtenOn n (ss ++ [.session n branch now wallClock t]) ++ more =
        stream (fitting ((saidOn n (ss ++ [.session n branch now wallClock t])).map
          Session.Remark.message)) ∧
      ((∀ result, (Session.step branch now wallClock t).session.phase ≠ .ended result) →
        more = (Session.step branch now wallClock t).session.phase.unwritten) := by
  obtain ⟨more, hwritten, hmore⟩ := h.written
  have hone : ∀ put, (Session.step branch now wallClock t).link.down.held =
      t.link.down.held ++ put →
      writtenOn n [.session n branch now wallClock t] = put := by
    intro put hheld
    rw [writtenOn, writtenOn, Step.wrote, if_pos rfl, ByteArray.append_empty]
    exact Record.Wired.gained_eq hheld
  rw [writtenOn_append, saidOn_append, saidOn_session, List.map_append, fitting_append,
    stream_append, ← hwritten]
  by_cases hgoing : ∀ result, t.session.phase ≠ .ended result
  · obtain ⟨put, more', hput, hheld, hmore'⟩ := hleads.down
    refine ⟨more', ?_, hmore'⟩
    rw [hone put hheld, ByteArray.append_assoc, hput, hmore hgoing, ByteArray.append_assoc]
  · -- a session that has ended writes nothing
    simp only [not_forall, not_not] at hgoing
    obtain ⟨result, hended⟩ := hgoing
    have hsame := Session.step_of_ended hended branch now wallClock
    have hremark := Session.remark?_of_ended hended branch wallClock
    refine ⟨more, ?_, fun hgoes => absurd ?_ (hgoes result)⟩
    · rw [hone .empty (by rw [hsame, ByteArray.append_empty]), hremark, ByteArray.append_empty]
      exact ByteArray.append_empty.symm
    · rw [hsame]
      exact hended

omit hadds hremarks in
/-- What has no frame is the last that a session says. -/
theorem Told.fits_session :
    ∃ left, (saidOn n (ss ++ [.session n branch now wallClock t])).map Session.Remark.message =
        fitting ((saidOn n (ss ++ [.session n branch now wallClock t])).map
          Session.Remark.message) ++ left ∧
      ((∀ result, (Session.step branch now wallClock t).session.phase ≠ .ended result) →
        left = []) := by
  obtain ⟨left, hsaid, hleft⟩ := h.fits
  rw [saidOn_append, saidOn_session, List.map_append, fitting_append]
  by_cases hgoing : ∀ result, t.session.phase ≠ .ended result
  · rw [hleft hgoing, List.append_nil] at hsaid
    rw [← hsaid]
    cases hremark : Session.remark? branch wallClock t with
    | none => exact ⟨[], (List.append_nil _).symm, fun _ => rfl⟩
    | some x =>
      by_cases hfit : x.message.length ≤ Frame.maxLength
      · refine ⟨[], ?_, fun _ => rfl⟩
        simp [fitting, hfit]
      · refine ⟨[x.message], ?_, fun hgoes => ?_⟩
        · simp [fitting, hfit]
        · rcases hleads.fits with ⟨result, hended⟩ | hall
          · exact absurd hended (hgoes result)
          · exact absurd (hall x hremark) hfit
  · -- a session that has ended says nothing
    simp only [not_forall, not_not] at hgoing
    obtain ⟨result, hended⟩ := hgoing
    have hremark := Session.remark?_of_ended hended branch wallClock
    refine ⟨left, ?_, fun hgoes => absurd ?_ (hgoes result)⟩
    · rw [hremark]
      simpa [fitting] using hsaid
    · rw [Session.step_of_ended hended branch now wallClock]
      exact hended

/-- **What is told of a session after a step.** -/
theorem Told.session (hreached : Office.Reached accounts o σ) (ho : o.room = t.mailroom) :
    Told accounts (σ ++ es) (ss ++ [.session n branch now wallClock t]) n
      (Session.step branch now wallClock t).session := by
  have hregistered : ∀ {i backlog}, registeredOn n ss = some (i, backlog) →
      registeredOn n (ss ++ [.session n branch now wallClock t]) = some (i, backlog) := by
    intro i backlog hi
    rw [registeredOn_append, hi]
    rfl
  refine ⟨fun deadline hphase => ?_, fun i hi => h.serving_session hadds hleads hi,
    fun hnone => ?_, fun i backlog hi => h.enrolled_session hadds hleads hremarks hreached ho hi,
    fun r a hr => ?_, h.written_session hleads, h.fits_session hleads⟩
  · rcases hleads.phase with ⟨result, hended⟩ | ⟨-, hgreets⟩
    · cases hended.symm.trans hphase
    · obtain ⟨hheard, hbefore⟩ := hgreets deadline hphase
      obtain ⟨hheard', hsaid, hnone⟩ := h.greeting deadline hbefore
      have hremark : Session.remark? branch wallClock t = none :=
        Option.eq_none_iff_forall_ne_some.2 fun x hx => by
          cases hbefore.symm.trans (hremarks x hx).1
      refine ⟨?_, ?_, ?_⟩
      · rw [heardOn_append, hheard', heardOn_session, hheard]
        rfl
      · rw [saidOn_append, hsaid, saidOn_session, hremark]
        rfl
      · rw [registeredOn_append, hnone, registeredOn_session, registered?_of_greeting hbefore,
          hphase]
        rfl
  · rw [registeredOn_append, Option.or_eq_none_iff] at hnone
    rw [pushesOn_append, h.nobody hnone.1, pushesOn, saidOn_session]
    cases hremark : Session.remark? branch wallClock t with
    | none => rfl
    | some x =>
      cases x with
      | push r =>
        obtain ⟨i, backlog, -, hi⟩ := h.pushes hremarks hremark
        cases hnone.1.symm.trans hi
      | reply r a => rfl
  · rw [saidOn_append, saidOn_session] at hr
    rcases List.mem_append.1 hr with hold | hnew
    · refine (h.replies r a hold).imp_right ?_
      rintro ⟨i, backlog, hi, hbody⟩
      exact ⟨i, backlog, hregistered hi, hbody⟩
    · obtain ⟨hphase, rfl⟩ := hremarks _ (Option.mem_toList.1 hnew)
      refine (Session.answer_body _ _ _ r).imp_right ?_
      rintro ⟨name, hname, hbody⟩
      obtain ⟨i, rfl, rfl⟩ := Option.map_eq_some_iff.1 hname
      obtain ⟨backlog, hi⟩ := h.serving i (congrArg Session.Phase.signIn? hphase)
      exact ⟨i, backlog, hregistered hi, hbody⟩

end

/-! ## The story of all sessions -/

/-- The mailroom of a network with the messages that are about to be posted. -/
def office (w : Network) : Office := ⟨w.mailroom, w.accepted⟩

/-- How the story of the mailroom and the steps on the sockets belong together, after some moves.
-/
structure Story (accounts : Accounts) (w : Network) (moves : List Move) (σ : List Office.Entry) :
    Prop where
  reached : Office.Reached accounts (w.makeAll moves).office σ
  drawn : (Office.draws σ).length = (w.makeAll moves).drawn
  /-- what was posted is what was accepted -/
  posted : ∀ login q, (login, q) ∈ Office.posts σ ↔ AcceptedIn w moves login q
  told : ∀ n v, (w.makeAll moves).visits[n]? = some v →
    Told accounts σ (w.steps moves) n v.session
  /-- no two sessions have one line -/
  lines : ∀ n n' i i' b b', registeredOn n (w.steps moves) = some (i, b) →
    registeredOn n' (w.steps moves) = some (i', b') → i.line = i'.line → n = n'

/-- A session that was registered is there. -/
theorem visit_of_registered {i : SignIn} {backlog : List Queued}
    (h : registeredOn n (w.steps moves) = some (i, backlog)) :
    ∃ v, (w.makeAll moves).visits[n]? = some v := by
  obtain ⟨s, hs, hregistered⟩ := List.exists_of_findSome?_eq_some h
  have hn : s.socket = n := by
    cases s with
    | session m branch now wallClock t =>
      by_contra hne
      have hnone : Step.registered? n (.session m branch now wallClock t) = none := if_neg hne
      cases hnone.symm.trans hregistered
    | keeper => cases hregistered
  have hlt := socket_lt hs
  rw [hn] at hlt
  exact ⟨_, List.getElem?_eq_getElem hlt⟩

/-- The line of a session that was registered was opened before. -/
theorem Story.opened (h : Story accounts w moves σ) {i : SignIn} {backlog : List Queued}
    (hi : registeredOn n (w.steps moves) = some (i, backlog)) :
    i.line < (w.makeAll moves).mailroom.nextLine := by
  obtain ⟨v, hv⟩ := visit_of_registered hi
  obtain ⟨signal, howned⟩ := ((h.told n v hv).enrolled i backlog hi).owned
  exact howned.opened h.reached.lined

/-- What is to be shown of a move that adds some entries to the story. -/
theorem Story.snoc (h : Story accounts w moves σ) {move : Move}
    (hreached : Office.Reached accounts ((w.makeAll moves).make move).office (σ ++ es))
    (hdrawn : ((w.makeAll moves).make move).drawn =
      (w.makeAll moves).drawn + (Office.draws es).length)
    (hposted : ∀ login q, (login, q) ∈ Office.posts es →
      Accepts login (w.makeAll moves) move q)
    (htold : ∀ n v, ((w.makeAll moves).make move).visits[n]? = some v →
      Told accounts (σ ++ es) (w.steps (moves ++ [move])) n v.session)
    (hlines : ∀ n n' i i' b b', registeredOn n (w.steps (moves ++ [move])) = some (i, b) →
      registeredOn n' (w.steps (moves ++ [move])) = some (i', b') → i.line = i'.line → n = n') :
    Story accounts w (moves ++ [move]) (σ ++ es) := by
  have hmake : w.makeAll (moves ++ [move]) = (w.makeAll moves).make move := makeAll_append ..
  refine ⟨?_, ?_, fun login q => ?_, ?_, hlines⟩
  · rw [hmake]
    exact hreached
  · rw [hmake, hdrawn, Office.draws_append, List.length_append, h.drawn]
  · rw [acceptedIn_snoc, ← h.posted, Office.posts_append, List.mem_append]
    constructor
    · exact Or.imp_right (hposted login q)
    · rintro (hold | haccepts)
      · exact .inl hold
      · rw [← List.mem_append, ← Office.posts_append]
        exact hreached.posted haccepts.mailbox
  · rw [hmake]
    exact htold

/-- The sessions stay as they are, but new ones may begin. -/
def Begins (w w' : Network) : Prop :=
  ∀ n v', w'.visits[n]? = some v' →
    (∃ v, w.visits[n]? = some v ∧ v'.session = v.session) ∨
      w.visits.length ≤ n ∧ ∃ id now, v'.session = .start id now

/-- **A move that no session makes.** -/
theorem Story.elsewhere (h : Story accounts w moves σ) {move : Move}
    (officeMoves : List Office.Move)
    (hoffice : ((w.makeAll moves).make move).office =
      (w.makeAll moves).office.makeAll officeMoves)
    (hdrawn : ((w.makeAll moves).make move).drawn = (w.makeAll moves).drawn +
      (Office.draws ((w.makeAll moves).office.story officeMoves)).length)
    (hposted : ∀ login q, (login, q) ∈ Office.posts ((w.makeAll moves).office.story officeMoves) →
      Accepts login (w.makeAll moves) move q)
    (hreceived : ∀ line,
      Office.receivedFrom line ((w.makeAll moves).office.story officeMoves) = [])
    (hregistered : ∀ l k b s,
      .registered l k b s ∉ (w.makeAll moves).office.story officeMoves)
    (hbegins : (w.makeAll moves).Begins ((w.makeAll moves).make move))
    (hstep : ∀ s ∈ (w.makeAll moves).step? move, s.session? = none) :
    ∃ es, Story accounts w (moves ++ [move]) (σ ++ es) := by
  have hothers : ∀ n, ∀ s ∈ ((w.makeAll moves).step? move).toList, s.session? ≠ some n := by
    intro n s hs
    rw [hstep s (Option.mem_toList.1 hs)]
    nofun
  have hsame : ∀ n, Same n (w.steps moves) (w.steps (moves ++ [move])) := fun n => by
    rw [steps_snoc]
    exact same_append _ (hothers n)
  refine ⟨_, h.snoc (hoffice ▸ h.reached.makeAll officeMoves) hdrawn hposted (fun n v' hv' => ?_)
    fun n n' i i' b b' hi hi' hline => ?_⟩
  · rcases hbegins n v' hv' with ⟨v, hv, heq⟩ | ⟨hlen, id, now, heq⟩
    · rw [heq]
      exact (h.told n v hv).elsewhere (hsame n) fun i backlog _ =>
        ⟨hreceived i.line, fun l k b s hmem => absurd hmem (hregistered l k b s)⟩
    · rw [heq, steps_snoc]
      refine told_start (fun s hs => ?_) id now
      rcases List.mem_append.1 hs with hs | hs
      · intro hsession
        have hn : s.socket = n := by
          cases s with
          | session => exact Option.some.inj hsession
          | keeper => cases hsession
        exact absurd (socket_lt hs) (by rw [hn]; exact Nat.not_lt.2 hlen)
      · exact hothers n s hs
  · rw [(hsame n).registered] at hi
    rw [(hsame n').registered] at hi'
    exact h.lines n n' i i' b b' hi hi' hline

/-- What is counted on from a number, up to one more. -/
theorem toNat_ofNat_add_sub {a d : Nat} (hd : d ≤ 1) :
    (UInt64.ofNat (a + d) - UInt64.ofNat a).toNat = d := by
  rw [UInt64.ofNat_add, UInt64.add_comm, UInt64.add_sub_cancel, UInt64.toNat_ofNat']
  exact Nat.mod_eq_of_lt (Nat.lt_of_le_of_lt hd (by decide))

/-- Who is registered after a step of a session was registered before, or is this session, now on
the line that it has opened. -/
theorem registeredOn_session_cases {t : Session.Turn} {branch : Session.Branch}
    {now wallClock m : Nat} {officeMoves : List Office.Move} {signIn : Option SignIn}
    (hadds : Session.Adds wallClock t (Session.hears branch t) (Session.remark? branch wallClock t)
      signIn es)
    (hleads : Session.Leads t (Session.hears branch t) (Session.remark? branch wallClock t)
      officeMoves signIn (Session.step branch now wallClock t)) {i : SignIn} {b : List Queued}
    (hi : registeredOn m (ss ++ [.session n branch now wallClock t]) = some (i, b)) :
    registeredOn m ss = some (i, b) ∨ m = n ∧ i.line = t.mailroom.nextLine := by
  by_cases hm : m = n
  · rw [hm, registeredOn_append, registeredOn_session] at hi
    rcases Option.or_eq_some_iff.1 hi with hold | ⟨-, hnew⟩
    · exact .inl (hm ▸ hold)
    · obtain ⟨⟨deadline, hphase⟩, hafter, -⟩ := registered?_eq_some hnew
      have hsignIn := hleads.signIn? hafter
      rcases hadds.signs with hstays | ⟨-, -, -, login, -, -, -, -, -, -, -, -, hnow, -⟩
      · rw [hstays, hphase] at hsignIn
        cases hsignIn
      · obtain rfl := Option.some.inj (hsignIn.symm.trans hnow)
        exact .inr ⟨hm, rfl⟩
  · rw [(same_append _ fun s hs => ?_ : Same m _ _).registered] at hi
    · exact .inl hi
    · rw [List.mem_singleton.1 hs]
      exact fun heq => hm (Option.some.inj heq).symm

/-- **A move of a session.** -/
theorem Story.session (h : Story accounts w moves σ) {v : Visit}
    (hv : (w.makeAll moves).visits[n]? = some v) (branch : Session.Branch) (now wallClock : Nat) :
    ∃ es, Story accounts w (moves ++ [.session n branch now wallClock]) (σ ++ es) := by
  have hmake : (w.makeAll moves).make (.session n branch now wallClock) = _ :=
    stepSession_of_some hv branch now wallClock
  have hstep : w.steps (moves ++ [.session n branch now wallClock]) = w.steps moves ++
      [.session n branch now wallClock ⟨v.session, (w.makeAll moves).mailroom, v.far⟩] := by
    rw [steps_snoc, step?, hv]
    rfl
  obtain ⟨officeMoves, officeMoves', signIn, hmade, hadds, hleads, hremarks⟩ :=
    Session.step_adds branch now wallClock ⟨v.session, (w.makeAll moves).mailroom, v.far⟩
      (o := (w.makeAll moves).office) rfl
  have hreached := h.reached.makeAll officeMoves
  generalize (w.makeAll moves).office.story officeMoves = es at hadds hreached
  rw [hmade] at hreached
  have hreached' : Office.Reached accounts
      ((w.makeAll moves).make (.session n branch now wallClock)).office (σ ++ es) := by
    rw [hmake]
    exact hreached
  refine ⟨es, h.snoc hreached' ?_ (fun login q hq => ?_) (fun m u hu => ?_)
    fun m m' i i' b b' hi hi' hline => ?_⟩
  · have hbefore : (w.makeAll moves).mailroom.nextId = _ := h.reached.sound.next
    have hafter := hreached.sound.next
    rw [Office.draws_append, List.length_append, Nat.add_right_comm] at hafter
    rw [hmake]
    dsimp only at hafter ⊢
    rw [hafter, hbefore, toNat_ofNat_add_sub hadds.draws]
  · obtain ⟨message, r, hphase, hheard, hkind, hr, hverb, hpath, haccount, rfl⟩ :=
      hadds.posted login q hq
    obtain ⟨rfl, decoder, hnext⟩ := Session.hears_of_serving hphase hheard
    exact .request n v now wallClock signIn message decoder r hv hphase hnext hkind hr hverb hpath
      haccount
  · rw [hmake] at hu
    rw [hstep]
    rcases getElem?_set_cases hu with ⟨rfl, rfl⟩ | ⟨hm, hold⟩
    · exact (h.told m v hv).session hadds hleads hremarks h.reached rfl
    · refine (h.told m u hold).elsewhere (same_append _ fun s hs => ?_) fun i b hi =>
        ⟨?_, fun l k b s hmem => ?_⟩
      · rw [List.mem_singleton.1 hs]
        exact fun heq => hm (Option.some.inj heq).symm
      · rw [hadds.received, if_neg ?_]
        intro hany
        obtain ⟨j, hj, hline⟩ := (Option.any_eq_true _ _).1 hany
        have hline : j.line = i.line := by simpa using hline
        obtain ⟨b', hb'⟩ := (h.told n v hv).serving j hj
        exact hm (h.lines m n i j b b' hi hb' hline.symm)
      · rw [hadds.registered l k b s hmem]
        exact (Nat.ne_of_lt (h.opened hi)).symm
  · rw [hstep] at hi hi'
    rcases registeredOn_session_cases hadds hleads hi with hold | ⟨rfl, hnew⟩
    · rcases registeredOn_session_cases hadds hleads hi' with hold' | ⟨rfl, hnew'⟩
      · exact h.lines m m' i i' b b' hold hold' hline
      · exact absurd (hline.trans hnew') (Nat.ne_of_lt (h.opened hold))
    · rcases registeredOn_session_cases hadds hleads hi' with hold' | ⟨rfl, -⟩
      · exact absurd (hline.symm.trans hnew) (Nat.ne_of_lt (h.opened hold'))
      · rfl

/-! ## Moves of others -/

theorem Begins.of_visits (h : w'.visits = w.visits) : w.Begins w' :=
  fun _ v hv => .inl ⟨v, h ▸ hv, rfl⟩

theorem Begins.set {v u : Visit} (hv : w.visits[n]? = some v) (hsession : u.session = v.session)
    (h : w'.visits = w.visits.set n u) : w.Begins w' := by
  intro m v' hv'
  rw [h] at hv'
  rcases getElem?_set_cases hv' with ⟨rfl, rfl⟩ | ⟨-, hold⟩
  · exact .inl ⟨v, hv, hsession⟩
  · exact .inl ⟨v', hold, rfl⟩

theorem Begins.append {v : Visit} {id : UInt64} {now : Nat} (hsession : v.session = .start id now)
    (h : w'.visits = w.visits ++ [v]) : w.Begins w' := by
  intro m v' hv'
  rw [h] at hv'
  rcases getElem?_append_cases hv' with ⟨rfl, rfl⟩ | hold
  · exact .inr ⟨Nat.le_refl _, id, now, hsession⟩
  · exact .inl ⟨v', hold, rfl⟩

/-- Nothing happens at the server, but perhaps a session begins. -/
structure Apart (w w' : Network) : Prop where
  office : w'.office = w.office
  drawn : w'.drawn = w.drawn
  begins : w.Begins w'

theorem Apart.refl (w : Network) : w.Apart w := ⟨rfl, rfl, .of_visits rfl⟩

theorem apart_atClient (w : Network) (k : Nat) (f : Connection → Connection) :
    w.Apart (w.atClient k f) := by
  unfold atClient
  split
  · exact .refl w
  · exact ⟨rfl, rfl, .of_visits rfl⟩

theorem apart_atVisit (w : Network) (n : Nat) {f : Visit → Visit}
    (hf : ∀ v, (f v).session = v.session) : w.Apart (w.atVisit n f) := by
  unfold atVisit
  split
  · exact .refl w
  · next v hv => exact ⟨rfl, rfl, .set hv (hf v) rfl⟩

theorem apart_stepKeeper (w : Network) (k : Nat) (branch : Keeper.Branch) (stores : Stores)
    (now : Nat) : w.Apart (w.stepKeeper k branch stores now) := by
  unfold stepKeeper
  split
  · exact .refl w
  · next c _ =>
    split
    · exact ⟨rfl, rfl, .of_visits rfl⟩
    · split
      · exact .refl w
      · next v hv =>
        let t := Keeper.step branch stores now ⟨c.connection, v.near, none⟩
        exact ⟨rfl, rfl, .set (u := { v with near := t.link }) hv rfl rfl⟩

theorem apart_connect (w : Network) (k : Nat) (stores : Stores) (now : Nat) (id : UInt64) :
    w.Apart (w.connect k stores now id) := by
  unfold Network.connect
  split
  · exact .refl w
  · split
    · exact ⟨rfl, rfl, .append rfl rfl⟩
    · exact .refl w

/-- What a move is to the server: nothing but perhaps a session that begins, half of a delivery from
outside, or a step of a session. -/
theorem make_cases (w : Network) (move : Move) :
    (w.Apart (w.make move) ∧ ∀ s ∈ w.step? move, s.session? = none) ∨
      (∃ recipient body now, move = .accept recipient body now) ∨ (∃ n, move = .post n) ∨
        ∃ n branch now wallClock v, move = .session n branch now wallClock ∧
          w.visits[n]? = some v := by
  have hnone : ∀ {move}, w.step? move = none → ∀ s ∈ w.step? move, s.session? = none := by
    intro move hstep s hs
    rw [hstep] at hs
    cases hs
  cases move with
  | accept recipient body now => exact .inr (.inl ⟨recipient, body, now, rfl⟩)
  | post n => exact .inr (.inr (.inl ⟨n, rfl⟩))
  | session n branch now wallClock =>
    cases hv : w.visits[n]? with
    | some v => exact .inr (.inr (.inr ⟨n, branch, now, wallClock, v, rfl, hv⟩))
    | none =>
      have hmake : w.make (.session n branch now wallClock) = w :=
        stepSession_of_none hv branch now wallClock
      refine .inl ⟨by rw [hmake]; exact .refl w, hnone ?_⟩
      rw [step?, hv]
      rfl
  | keeper k branch stores now =>
    refine .inl ⟨apart_stepKeeper w k branch stores now, fun s hs => ?_⟩
    obtain ⟨c, -, hrest⟩ := Option.bind_eq_some_iff.1 hs
    obtain ⟨n, -, hrest⟩ := Option.bind_eq_some_iff.1 hrest
    obtain ⟨v, -, rfl⟩ := Option.map_eq_some_iff.1 hrest
    rfl
  | atHead k stores now attempt =>
    refine .inl ⟨?_, hnone rfl⟩
    unfold Network.make
    exact apart_atClient w k _
  | connectFailed k stores now e =>
    refine .inl ⟨?_, hnone rfl⟩
    unfold Network.make
    exact apart_atClient w k _
  | connected k stores now id => exact .inl ⟨apart_connect w k stores now id, hnone rfl⟩
  | application k op =>
    refine .inl ⟨?_, hnone rfl⟩
    unfold Network.make
    exact apart_atClient w k _
  | stranger id now => exact .inl ⟨⟨rfl, rfl, .append rfl rfl⟩, hnone rfl⟩
  | speaks n b =>
    refine .inl ⟨apart_atVisit w n fun v => ?_, hnone rfl⟩
    unfold Visit.speaks
    split <;> rfl
  | carry n up down => exact .inl ⟨apart_atVisit w n fun _ => rfl, hnone rfl⟩
  | closeNear n => exact .inl ⟨apart_atVisit w n fun _ => rfl, hnone rfl⟩
  | closeFar n => exact .inl ⟨apart_atVisit w n fun _ => rfl, hnone rfl⟩

theorem Story.apart (h : Story accounts w moves σ) {move : Move}
    (hapart : (w.makeAll moves).Apart ((w.makeAll moves).make move))
    (hstep : ∀ s ∈ (w.makeAll moves).step? move, s.session? = none) :
    ∃ es, Story accounts w (moves ++ [move]) (σ ++ es) :=
  h.elsewhere [] hapart.office hapart.drawn (fun _ _ hq => by cases hq) (fun _ => rfl)
    (fun _ _ _ _ => List.not_mem_nil) hapart.begins hstep

/-- A message from outside gets its id. -/
theorem Story.accept (h : Story accounts w moves σ) (recipient : String) (body : ByteArray)
    (now : Nat) : ∃ es, Story accounts w (moves ++ [.accept recipient body now]) (σ ++ es) := by
  by_cases haccount : (w.makeAll moves).mailroom.hasAccount recipient = true
  · have hmake : (w.makeAll moves).make (.accept recipient body now) = _ := if_pos haccount
    have hentries : (w.makeAll moves).office.entries (.accept now recipient body) = _ :=
      if_pos haccount
    have hoffice : (w.makeAll moves).office.make (.accept now recipient body) = _ :=
      if_pos haccount
    have hstory : (w.makeAll moves).office.story [.accept now recipient body] =
        [.drew (w.makeAll moves).mailroom.nextId (.message recipient)] := by
      rw [Office.story, hentries]
      rfl
    refine h.elsewhere [.accept now recipient body] ?_ ?_ ?_ ?_ ?_ ?_ (fun s hs => by cases hs)
    · show _ = (w.makeAll moves).office.make (.accept now recipient body)
      rw [hmake, hoffice]
      rfl
    · rw [hmake, hstory]
      rfl
    · rw [hstory]
      exact fun _ _ hq => by cases hq
    · rw [hstory]
      exact fun _ => rfl
    · rw [hstory]
      simp
    · rw [hmake]
      exact .of_visits rfl
  · have hmake : (w.makeAll moves).make (.accept recipient body now) = w.makeAll moves :=
      if_neg haccount
    exact h.apart (by rw [hmake]; exact .refl _) fun s hs => by cases hs

/-- A message from outside is posted. -/
theorem Story.post (h : Story accounts w moves σ) (n : Nat) :
    ∃ es, Story accounts w (moves ++ [.post n]) (σ ++ es) := by
  cases hn : (w.makeAll moves).accepted[n]? with
  | none =>
    have hmake : (w.makeAll moves).make (.post n) = w.makeAll moves := by
      simp only [Network.make, hn]
    exact h.apart (by rw [hmake]; exact .refl _) fun s hs => by cases hs
  | some p =>
    obtain ⟨recipient, q⟩ := p
    have hn' : (w.makeAll moves).office.accepted[n]? = some (recipient, q) := hn
    have hstory : (w.makeAll moves).office.story [.post n] = [.posted recipient q] := by
      simp only [Office.story, Office.entries, hn', List.append_nil]
    refine h.elsewhere [.post n] ?_ ?_ ?_ ?_ ?_ ?_ (fun s hs => by cases hs)
    · show _ = (w.makeAll moves).office.make (.post n)
      simp only [Network.make, Office.make, hn, hn']
      rfl
    · rw [hstory]
      simp only [Network.make, hn]
      rfl
    · rw [hstory]
      intro login q' hq
      obtain ⟨rfl, rfl⟩ := Prod.mk.inj (List.mem_singleton.1 hq)
      exact .outside n q' hn
    · rw [hstory]
      exact fun _ => rfl
    · rw [hstory]
      simp
    · simp only [Network.make, hn]
      exact .of_visits rfl

/-- **Every move goes on with the story.** -/
theorem Story.make (h : Story accounts w moves σ) (move : Move) :
    ∃ es, Story accounts w (moves ++ [move]) (σ ++ es) := by
  rcases make_cases (w.makeAll moves) move with ⟨hapart, hstep⟩ | ⟨recipient, body, now, rfl⟩ |
    ⟨n, rfl⟩ | ⟨n, branch, now, wallClock, v, rfl, hv⟩
  · exact h.apart hapart hstep
  · exact h.accept recipient body now
  · exact h.post n
  · exact h.session hv branch now wallClock

/-- **The story of a network** that begins with nothing. -/
theorem story (accounts : Accounts) (clients : List (SocketKind × ClientConfig))
    (moves : List Move) : ∃ σ, Story accounts (start accounts clients) moves σ := by
  induction moves using List.reverseRecOn with
  | nil =>
    refine ⟨[], Office.reached_start accounts, rfl, fun login q => ⟨fun hq => ?_, ?_⟩,
      fun n v hv => ?_, fun n n' i i' b b' hi => ?_⟩
    · cases hq
    · rintro ⟨before, move, after, hsplit, -⟩
      simp at hsplit
    · cases hv
    · cases hi
  | append_singleton moves move ih =>
    obtain ⟨σ, h⟩ := ih
    obtain ⟨es, h'⟩ := h.make move
    exact ⟨_, h'⟩

end Network

end ChatSockets
