import ChatSockets.Proofs.Office.Owners
import ChatSockets.Proofs.Server.Execution

/-!
# The deeds of a session

In a step a session may take one message (`hears`) and set out to write one (`remark?`): a request
from its line, or the answer to the request that it takes. `Deed` lists what the two can be, with
what made them possible, what the mailroom was used for, and who the session is signed in as
afterwards. `Leads` is what the step leaves behind, and `step_deed` says that a step is one deed
that leads there. In particular the remark is written behind what was written before, and nothing
else is.
-/

namespace ChatSockets

namespace Session

open Wire

/-- Something that a session sets out to write. -/
inductive Remark
  /-- a request from its line -/
  | push (r : Wire.Request)
  /-- the answer to a request -/
  | reply (r : Wire.Request) (w : Wire.Response)

/-- What is written for a remark. -/
def Remark.message : Remark → Message
  | .push r => .ofRequest r
  | .reply _ w => .ofResponse w

/-- The answer to a message, if it gets one. -/
def replyTo? (wallClock : Nat) (t : Turn) (signIn : Option SignIn) (m : Message) : Option Remark :=
  match m.kindOf, m.request with
  | .request, some r =>
    some (.reply r (answer t.mailroom wallClock (signIn.map SignIn.login) r).1)
  | _, _ => none

/-- What a session sets out to write in a step, if it begins to write something. -/
def remark? (branch : Branch) (wallClock : Nat) (t : Turn) : Option Remark :=
  match t.session.phase, branch with
  | .serving (some i), .push => (t.mailroom.receive? i.line).map fun p => .push p.1
  | .serving signIn, .frame => t.session.decoder.message?.bind (replyTo? wallClock t signIn)
  | _, _ => none

/-- A session that has ended says nothing. -/
theorem remark?_of_ended {t : Turn} {result : Except SessionError Unit}
    (hphase : t.session.phase = .ended result) (branch : Branch) (wallClock : Nat) :
    remark? branch wallClock t = none := by
  simp only [remark?, hphase]

/-- What a session does in a step at a time: what it takes, what it sets out to write, what it does
in the mailroom, and who it is signed in as if it goes on. -/
inductive Deed (wallClock : Nat) (t : Turn) :
    Option Message → Option Remark → List Office.Move → Option SignIn → Prop
  | silent : Deed wallClock t none none [] t.session.phase.signIn?
  /-- the first message is no handshake that is accepted, or it asks for no account -/
  | admits (deadline : Nat) (message : Message) (hphase : t.session.phase = .greeting deadline)
    (hnobody : ∀ login, (handshakeOf message >>= authenticate t.mailroom) ≠ .ok (some login)) :
    Deed wallClock t (some message) none [] none
  /-- the handshake presents an account with its password -/
  | enters (deadline : Nat) (message : Message) (h : Handshake) (login password : String)
    (hphase : t.session.phase = .greeting deadline) (hhandshake : handshakeOf message = .ok h)
    (hlogin : h.login = some login) (hpassword : h.password = some password)
    (haccount : t.mailroom.accounts.get? login = some password) :
    Deed wallClock t (some message) none
      [.openLine, .register login ⟨t.session.id, t.mailroom.nextLine⟩]
      (some ⟨login, t.mailroom.nextLine⟩)
  /-- a message that is neither a request nor a response that matters -/
  | ignores (signIn : Option SignIn) (message : Message)
    (hphase : t.session.phase = .serving signIn)
    (hrequest : message.kindOf = .request → message.request = none)
    (hresponse : ∀ i r, signIn = some i → message.kindOf = .response → message.response = some r →
      r.isSuccess = false) :
    Deed wallClock t (some message) none [] signIn
  | acknowledges (i : SignIn) (message : Message) (r : Wire.Response)
    (hphase : t.session.phase = .serving (some i)) (hkind : message.kindOf = .response)
    (hr : message.response = some r) (hsuccess : r.isSuccess = true) :
    Deed wallClock t (some message) none [.acknowledge i.login r.id] (some i)
  /-- a request that brings no message for an account -/
  | replies (signIn : Option SignIn) (message : Message) (r : Wire.Request)
    (hphase : t.session.phase = .serving signIn) (hkind : message.kindOf = .request)
    (hr : message.request = some r)
    (hsame : (answer t.mailroom wallClock (signIn.map SignIn.login) r).2 = t.mailroom) :
    Deed wallClock t (some message)
      (some (.reply r (answer t.mailroom wallClock (signIn.map SignIn.login) r).1)) [] signIn
  | delivers (signIn : Option SignIn) (message : Message) (r : Wire.Request) (recipient : String)
    (hphase : t.session.phase = .serving signIn) (hkind : message.kindOf = .request)
    (hr : message.request = some r) (hverb : r.verb = "PUT")
    (hpath : r.path = Path.messagesTo ++ recipient)
    (haccount : t.mailroom.hasAccount recipient = true) :
    Deed wallClock t (some message)
      (some (.reply r (answer t.mailroom wallClock (signIn.map SignIn.login) r).1))
      [.deliver wallClock recipient r.body] signIn
  | pushes (i : SignIn) (r : Wire.Request) (m : Mailroom)
    (hphase : t.session.phase = .serving (some i))
    (hline : t.mailroom.receive? i.line = some (r, m)) :
    Deed wallClock t none (some (.push r)) [.receive i.line] (some i)

/-- What a session that leaves does in the mailroom. -/
def leaving (id : UInt64) : Option SignIn → List Office.Move
  | none => []
  | some i => [.hangUp i.line, .unregister i.login id]

/-- The first of some bytes are written, and while the session goes on the others are still to be
written. -/
def Turn.Puts (t : Turn) (b : ByteArray) (t' : Turn) : Prop :=
  ∃ put more, put ++ more = b ∧ t'.link.down.held = t.link.down.held ++ put ∧
    ((∀ result, t'.session.phase ≠ .ended result) → more = t'.session.phase.unwritten)

/-- A session that serves hears what its decoder gives, when it reads. -/
theorem hears_of_serving {branch : Branch} {t : Turn} {signIn : Option SignIn} {message : Message}
    (hphase : t.session.phase = .serving signIn) (h : hears branch t = some message) :
    branch = .frame ∧ ∃ decoder, t.session.decoder.next = (.ok (some message), decoder) := by
  cases branch with
  | push => simp only [hears, hphase] at h; cases h
  | frame =>
    simp only [hears, hphase, Decoder.message?] at h
    split at h
    · next m decoder hnext => exact ⟨rfl, decoder, h ▸ hnext⟩
    · cases h

/-- What a deed leads to: the session goes on, or it leaves the mailroom and has ended. -/
structure Leads (t : Turn) (heard : Option Message) (remark? : Option Remark)
    (moves : List Office.Move) (signIn : Option SignIn) (t' : Turn) : Prop where
  id : t'.session.id = t.session.id
  phase : (∃ result, t'.session.phase = .ended result) ∨
    t'.session.phase.signIn? = signIn ∧
      ∀ deadline, t'.session.phase = .greeting deadline →
        heard = none ∧ t.session.phase = .greeting deadline
  mailroom : ∃ left, (left = [] ∨ left = leaving t.session.id t.session.phase.signIn?) ∧
    ∀ accepted, (Office.mk t.mailroom accepted).makeAll (moves ++ left) = ⟨t'.mailroom, accepted⟩
  /-- the remark is written behind what was still to be written -/
  down : t.Puts
    (t.session.phase.unwritten ++ stream (fitting (remark?.toList.map Remark.message))) t'
  /-- a remark that has no frame ends the session -/
  fits : (∃ result, t'.session.phase = .ended result) ∨
    ∀ x ∈ remark?, x.message.length ≤ Frame.maxLength

variable {wallClock : Nat} {t u t' : Turn} {heard : Option Message} {remark : Option Remark}
  {moves : List Office.Move} {signIn : Option SignIn}

/-! ## What a deed leads to -/

/-- A session that is signed out writes nothing. -/
theorem puts_signOut (t : Turn) (signIn : Option SignIn) (result : Except SessionError Unit)
    (b : ByteArray) : t.Puts b (t.signOut signIn result) := by
  refine ⟨.empty, b, ByteArray.empty_append, ?_, fun hgoes => ?_⟩
  · rw [(t.signOut_eq signIn result).2.1, ByteArray.append_empty]
    rfl
  · exact absurd (t.signOut_phase signIn result) (hgoes result)

/-- A session writes what there is room for. -/
theorem puts_write (t : Turn) (signIn : Option SignIn) (b : ByteArray) :
    t.Puts b (t.write signIn b) := by
  unfold Turn.write
  split
  · exact puts_signOut t signIn _ b
  · next rest down hwrite =>
    obtain ⟨put, hput, hheld⟩ := Pipe.write?_puts hwrite
    refine ⟨put, rest, hput, hheld, fun _ => ?_⟩
    by_cases hrest : rest.isEmpty = true
    · rw [if_pos hrest]
      exact ByteArray.size_eq_zero_iff.1 (by simpa [ByteArray.isEmpty] using hrest)
    · rw [if_neg hrest]
      rfl

/-- A message is written in its frame; without a frame nothing is written. -/
theorem puts_writeMessage (t : Turn) (signIn : Option SignIn) (m : Message) :
    t.Puts (offer m) (t.writeMessage signIn m) := by
  unfold Turn.writeMessage
  by_cases hfit : m.length ≤ Frame.maxLength
  · rw [Frame.encode_of_le hfit, offer_of_le hfit]
    exact puts_write t signIn _
  · rw [Frame.encode_of_lt (by omega)]
    exact puts_signOut t signIn _ _

/-- What is written does not depend on the mailroom and what comes up. -/
theorem Turn.Puts.of_down {b : ByteArray} (h : u.Puts b t') (hdown : u.link.down = t.link.down) :
    t.Puts b t' := by
  obtain ⟨put, more, hput, hheld, hmore⟩ := h
  exact ⟨put, more, hput, by rw [hheld, hdown], hmore⟩

/-- A session that is signed in after a deed is signed in as the deed says. -/
theorem Leads.signIn? (h : Leads t heard remark moves signIn t') {i : SignIn}
    (hi : t'.session.phase.signIn? = some i) : signIn = some i := by
  rcases h.phase with ⟨result, hended⟩ | ⟨hsame, -⟩
  · rw [hended] at hi
    cases hi
  · exact hsame.symm.trans hi

/-- A session that writes nothing and goes on. -/
theorem leads_quiet (hid : t'.session.id = t.session.id) (hdown : t'.link.down = t.link.down)
    (hphase : t'.session.phase.signIn? = signIn ∧
      ∀ deadline, t'.session.phase = .greeting deadline →
        heard = none ∧ t.session.phase = .greeting deadline)
    (hunwritten : t'.session.phase.unwritten = t.session.phase.unwritten)
    (hroom : ∀ accepted, (Office.mk t.mailroom accepted).makeAll moves = ⟨t'.mailroom, accepted⟩) :
    Leads t heard none moves signIn t' := by
  refine ⟨hid, .inr hphase, ⟨[], .inl rfl, ?_⟩, ⟨.empty, t.session.phase.unwritten, ?_, ?_, ?_⟩,
    .inr fun x hx => by cases hx⟩
  · rwa [List.append_nil]
  · exact ByteArray.empty_append.trans ByteArray.append_empty.symm
  · rw [hdown, ByteArray.append_empty]
  · exact fun _ => hunwritten.symm

/-- A session that is signed out. -/
theorem leads_signOut (t u : Turn) (hid : u.session.id = t.session.id)
    (hdown : u.link.down = t.link.down)
    (hroom : ∀ accepted, (Office.mk t.mailroom accepted).makeAll moves = ⟨u.mailroom, accepted⟩)
    (result : Except SessionError Unit) (remark : Option Remark) :
    Leads t heard remark moves signIn (u.signOut t.session.phase.signIn? result) := by
  obtain ⟨hsession, -, hmailroom⟩ := u.signOut_eq t.session.phase.signIn? result
  refine ⟨?_, .inl ⟨result, u.signOut_phase _ _⟩,
    ⟨leaving t.session.id t.session.phase.signIn?, .inr rfl, fun accepted => ?_⟩,
    (puts_signOut u _ result _).of_down hdown, .inl ⟨result, u.signOut_phase _ _⟩⟩
  · rw [hsession]
    exact hid
  · rw [Office.makeAll_append, hroom, hmailroom, hid]
    cases t.session.phase.signIn? with
    | none => rfl
    | some i => rfl

/-- A session that serves and sets out to write. -/
theorem leads_writeMessage (t u : Turn) (hphase : t.session.phase = .serving signIn)
    (hid : u.session.id = t.session.id) (hdown : u.link.down = t.link.down)
    (hroom : ∀ accepted, (Office.mk t.mailroom accepted).makeAll moves = ⟨u.mailroom, accepted⟩)
    (remark : Remark) :
    Leads t heard (some remark) moves signIn (u.writeMessage signIn remark.message) := by
  have hsignIn : t.session.phase.signIn? = signIn := by rw [hphase]; rfl
  have hunwritten : t.session.phase.unwritten = .empty := by rw [hphase]; rfl
  rcases u.writeMessage_cases signIn remark.message with ⟨e, hout⟩ | ⟨hfit, hgoes⟩
  · rw [hout]
    exact hsignIn ▸ leads_signOut t u hid hdown hroom _ _
  · refine ⟨hgoes.id.trans hid, .inr ⟨hgoes.signIn?, ?_⟩, ⟨[], .inl rfl, fun accepted => ?_⟩, ?_,
      .inr fun x hx => ?_⟩
    · rcases hgoes.phase with hserves | ⟨rest, hwrites, -⟩
      · rw [hserves]
        nofun
      · rw [hwrites]
        nofun
    · rw [List.append_nil, hroom, hgoes.mailroom]
    · rw [hunwritten, ByteArray.empty_append]
      exact (puts_writeMessage u signIn remark.message).of_down hdown
    · rwa [← Option.mem_some_iff.1 hx]

/-! ## A step is a deed -/

/-- What reading leads to: nothing is taken, or a message is handled. -/
theorem Turn.read_induct {P : Option Message → Turn → Prop} (t : Turn) (signIn : Option SignIn)
    (handle : Turn → Message → Turn) (hsame : P none t)
    (hout : ∀ decoder result, P none ((t.withDecoder decoder).signOut signIn result))
    (htakes : ∀ b up, P none
      { t.withDecoder (t.session.decoder.extend b) with link := { t.link with up } })
    (hhandle : ∀ message decoder, P (some message) (handle (t.withDecoder decoder) message)) :
    P t.session.decoder.message? (t.read signIn handle) := by
  unfold Turn.read
  split
  · split
    · next e decoder hnext =>
      rw [Decoder.message?_of_error hnext]
      exact hout decoder _
    · next decoder hnext =>
      rw [Decoder.message?_of_ok hnext]
      exact hsame
    · next message decoder hnext =>
      rw [Decoder.message?_of_ok hnext]
      exact hhandle message decoder
  · next hready =>
    have hnext := (Decoder.ready_eq_false_iff _).1 (by simpa using hready)
    rw [Decoder.message?_of_ok hnext]
    split
    · exact hsame
    · exact hout t.session.decoder _
    · next b up hread => exact htakes b up

/-- A session that does nothing. -/
theorem silent_deed (t : Turn) :
    Deed wallClock t none none [] t.session.phase.signIn? ∧
      Leads t none none [] t.session.phase.signIn? t :=
  ⟨.silent, leads_quiet rfl rfl ⟨rfl, fun _ hphase => ⟨rfl, hphase⟩⟩ rfl fun _ => rfl⟩

/-- Who is signed in presented an account with its password. -/
theorem presented_of_ok {m : Mailroom} {message : Message} {login : String}
    (h : (handshakeOf message >>= authenticate m) = .ok (some login)) :
    ∃ hello password, handshakeOf message = .ok hello ∧ hello.login = some login ∧
      hello.password = some password ∧ m.accounts.get? login = some password := by
  cases hmessage : handshakeOf message with
  | error e =>
    rw [hmessage] at h
    cases h
  | ok hello =>
    rw [hmessage] at h
    change authenticate m hello = .ok (some login) at h
    unfold authenticate at h
    split at h
    · cases h
    · next login' password hlogin hpassword =>
      split at h
      · next haccount =>
        obtain rfl : login' = login := Option.some.inj (Except.ok.inj h)
        exact ⟨hello, password, rfl, hlogin, hpassword, by
          simpa [Mailroom.authenticate] using haccount⟩
      · cases h
    · cases h

/-- The first message of a client. -/
theorem greet_deed {deadline : Nat} (hphase : t.session.phase = .greeting deadline)
    (message : Message) (decoder : Decoder) :
    ∃ moves signIn, Deed wallClock t (some message) none moves signIn ∧
      Leads t (some message) none moves signIn (greet (t.withDecoder decoder) message) := by
  have hnone : t.session.phase.signIn? = none := by rw [hphase]; rfl
  have hunwritten : t.session.phase.unwritten = .empty := by rw [hphase]; rfl
  unfold greet
  split
  · next e herror =>
    have hout : Leads t (some message) none [] none
        ((t.withDecoder decoder).signOut t.session.phase.signIn? (.error e)) :=
      leads_signOut t (t.withDecoder decoder) rfl rfl (fun _ => rfl) _ _
    rw [hnone] at hout
    refine ⟨[], none, .admits deadline message hphase fun login hok => ?_, hout⟩
    cases herror.symm.trans hok
  · next hnobody =>
    refine ⟨[], none, .admits deadline message hphase fun login hok => ?_,
      leads_quiet rfl rfl ⟨rfl, nofun⟩ hunwritten.symm fun _ => rfl⟩
    cases hnobody.symm.trans hok
  · next login hlogin =>
    obtain ⟨hello, password, hhandshake, hname, hpassword, haccount⟩ := presented_of_ok hlogin
    refine ⟨_, _, .enters deadline message hello login password hphase hhandshake hname hpassword
      haccount, ?_⟩
    refine leads_quiet rfl rfl ⟨rfl, nofun⟩ hunwritten.symm fun accepted => ?_
    -- the handle is made with the line that was just opened
    have hopen : t.mailroom.nextLine < t.mailroom.openLine.2.nextLine := Nat.lt_succ_self _
    show Office.make ⟨t.mailroom.openLine.2, accepted⟩ (.register login _) = _
    rw [Office.make, if_pos hopen]
    rfl

/-- A request is answered. -/
theorem handle_of_request {m : Message} {r : Wire.Request} (hkind : m.kindOf = .request)
    (hr : m.request = some r) (t : Turn) (wallClock : Nat) (signIn : Option SignIn) :
    handle t wallClock signIn m =
      { t with mailroom := (answer t.mailroom wallClock (signIn.map SignIn.login) r).2
        }.writeMessage signIn
          (.ofResponse (answer t.mailroom wallClock (signIn.map SignIn.login) r).1) := by
  unfold handle
  rw [hkind, hr]

/-- A message of a client after the handshake. -/
theorem handle_deed (hphase : t.session.phase = .serving signIn) (message : Message)
    (decoder : Decoder) :
    ∃ moves signIn', Deed wallClock t (some message) (replyTo? wallClock t signIn message) moves
        signIn' ∧
      Leads t (some message) (replyTo? wallClock t signIn message) moves signIn'
        (handle (t.withDecoder decoder) wallClock signIn message) := by
  have hsame : t.session.phase.signIn? = signIn ∧
      ∀ deadline, t.session.phase = .greeting deadline →
        some message = none ∧ t.session.phase = .greeting deadline := by
    rw [hphase]
    exact ⟨rfl, nofun⟩
  by_cases hrequest : ∃ r, message.kindOf = .request ∧ message.request = some r
  · obtain ⟨r, hkind, hr⟩ := hrequest
    have hreply : replyTo? wallClock t signIn message =
        some (.reply r (answer t.mailroom wallClock (signIn.map SignIn.login) r).1) := by
      rw [replyTo?, hkind, hr]
    rw [handle_of_request hkind hr, hreply]
    let u : Turn := { t.withDecoder decoder with
      mailroom := (answer t.mailroom wallClock (signIn.map SignIn.login) r).2 }
    have hleads : ∀ {moves}, (∀ accepted, (Office.mk t.mailroom accepted).makeAll moves =
        ⟨u.mailroom, accepted⟩) → Leads t (some message) _ moves signIn _ := fun hroom =>
      leads_writeMessage t u hphase rfl rfl hroom
        (.reply r (answer t.mailroom wallClock (signIn.map SignIn.login) r).1)
    rcases answer_cases t.mailroom wallClock (signIn.map SignIn.login) r with
      hquiet | ⟨recipient, hverb, hpath, hdelivers⟩
    · exact ⟨[], signIn, .replies signIn message r hphase hkind hr hquiet,
        hleads fun accepted => congrArg (Office.mk · accepted) hquiet.symm⟩
    · by_cases haccount : t.mailroom.hasAccount recipient = true
      · exact ⟨_, signIn, .delivers signIn message r recipient hphase hkind hr hverb hpath haccount,
          hleads fun accepted => congrArg (Office.mk · accepted) hdelivers.symm⟩
      · have hquiet : (answer t.mailroom wallClock (signIn.map SignIn.login) r).2 = t.mailroom := by
          rw [hdelivers, Mailroom.deliver_eq, if_neg haccount]
        exact ⟨[], signIn, .replies signIn message r hphase hkind hr hquiet,
          hleads fun accepted => congrArg (Office.mk · accepted) hquiet.symm⟩
  · have hsilent : replyTo? wallClock t signIn message = none := by
      unfold replyTo?
      split
      · next r hkind hr => exact absurd ⟨r, hkind, hr⟩ hrequest
      · rfl
    have hno : message.kindOf = .request → message.request = none := fun hkind =>
      Option.eq_none_iff_forall_ne_some.2 fun r hr => hrequest ⟨r, hkind, hr⟩
    rw [hsilent]
    unfold handle
    split
    · next r hkind hr => exact absurd ⟨r, hkind, hr⟩ hrequest
    · next r i hkind hr =>
      split
      · next hsuccess =>
        exact ⟨_, some i, .acknowledges i message r hphase hkind hr hsuccess,
          leads_quiet rfl rfl hsame rfl fun _ => rfl⟩
      · next hfailed =>
        refine ⟨[], some i, .ignores (some i) message hphase hno (fun j w _ _ hw => ?_),
          leads_quiet rfl rfl hsame rfl fun _ => rfl⟩
        obtain rfl : r = w := Option.some.inj (hr.symm.trans hw)
        simpa using hfailed
    · next hother =>
      exact ⟨[], _, .ignores _ message hphase hno
        (fun i r hi hkind hr => (hother r i hkind hr hi).elim),
        leads_quiet rfl rfl hsame rfl fun _ => rfl⟩

/-- A session takes the next request from its line, if there is one, and passes it on. -/
theorem push_deed (hphase : t.session.phase = .serving signIn) (now wallClock : Nat) :
    ∃ moves signIn', Deed wallClock t none (remark? .push wallClock t) moves signIn' ∧
      Leads t none (remark? .push wallClock t) moves signIn' (step .push now wallClock t) := by
  simp only [remark?, step, hphase]
  cases signIn with
  | none => exact ⟨[], _, silent_deed t⟩
  | some i =>
    dsimp only
    cases hline : t.mailroom.receive? i.line with
    | none => exact ⟨[], _, silent_deed t⟩
    | some received =>
      obtain ⟨r, m⟩ := received
      refine ⟨_, _, .pushes i r m hphase hline,
        leads_writeMessage t { t with mailroom := m } hphase rfl rfl (fun accepted => ?_) (.push r)⟩
      show Office.make ⟨t.mailroom, accepted⟩ (.receive i.line) = _
      rw [Office.make]
      dsimp only
      rw [hline]

/-- A session goes on writing what it has begun to write. -/
theorem writing_deed {rest : ByteArray} (hphase : t.session.phase = .writing signIn rest)
    (wallClock : Nat) :
    ∃ moves signIn', Deed wallClock t none none moves signIn' ∧
      Leads t none none moves signIn' (t.write signIn rest) := by
  have hsignIn : t.session.phase.signIn? = signIn := by rw [hphase]; rfl
  have hunwritten : t.session.phase.unwritten = rest := by rw [hphase]; rfl
  refine ⟨[], _, .silent, ?_⟩
  have hputs : t.Puts (t.session.phase.unwritten ++ stream []) (t.write signIn rest) := by
    rw [hunwritten, stream_nil, ByteArray.append_empty]
    exact puts_write t signIn rest
  rcases t.write_cases signIn rest with hends | hgoes
  · rw [hends, ← hsignIn]
    exact leads_signOut t t rfl rfl (fun _ => rfl) _ none
  · refine ⟨hgoes.id, .inr ⟨hgoes.signIn?.trans hsignIn.symm, ?_⟩,
      ⟨[], .inl rfl, fun accepted => by rw [hgoes.mailroom]; rfl⟩, hputs,
      .inr fun x hx => by cases hx⟩
    intro deadline hgreets
    rcases hgoes.phase with hserves | ⟨rest', hwrites, -⟩
    · cases hserves.symm.trans hgreets
    · cases hwrites.symm.trans hgreets

/-- **A step of a session is one deed.** -/
theorem step_deed (branch : Branch) (now wallClock : Nat) (t : Turn) :
    ∃ moves signIn, Deed wallClock t (hears branch t) (remark? branch wallClock t) moves signIn ∧
      Leads t (hears branch t) (remark? branch wallClock t) moves signIn
        (step branch now wallClock t) := by
  have hout : ∀ decoder result, ∃ moves signIn, Deed wallClock t none none moves signIn ∧
      Leads t none none moves signIn
        ((t.withDecoder decoder).signOut t.session.phase.signIn? result) := fun decoder result =>
    ⟨[], _, .silent, leads_signOut t (t.withDecoder decoder) rfl rfl (fun _ => rfl) result none⟩
  have htakes : ∀ (b : ByteArray) (up : Pipe), ∃ moves signIn,
      Deed wallClock t none none moves signIn ∧ Leads t none none moves signIn
        { t.withDecoder (t.session.decoder.extend b) with link := { t.link with up } } :=
    fun b up => ⟨[], _, .silent,
      leads_quiet rfl rfl ⟨rfl, fun _ hphase => ⟨rfl, hphase⟩⟩ rfl fun _ => rfl⟩
  cases hphase : t.session.phase with
  | greeting deadline =>
    have hnone : t.session.phase.signIn? = none := by rw [hphase]; rfl
    rw [hnone] at hout
    simp only [hears, remark?, step, hphase]
    split
    · exact t.read_induct
        (P := fun heard t' => ∃ moves signIn, Deed wallClock t heard none moves signIn ∧
          Leads t heard none moves signIn t')
        none greet ⟨[], _, silent_deed t⟩ hout htakes fun message decoder =>
          greet_deed hphase message decoder
    · next hinput =>
      rw [message?_of_not_hasInput hinput]
      split
      · exact hout t.session.decoder _
      · exact ⟨[], _, silent_deed t⟩
  | serving signIn =>
    have hsignIn : t.session.phase.signIn? = signIn := by rw [hphase]; rfl
    rw [hsignIn] at hout
    cases branch with
    | frame =>
      have hremark : remark? .frame wallClock t =
          t.session.decoder.message?.bind (replyTo? wallClock t signIn) := by
        simp only [remark?, hphase]
      rw [hremark]
      simp only [hears, step, hphase]
      exact t.read_induct
        (P := fun heard t' => ∃ moves signIn', Deed wallClock t heard
          (heard.bind (replyTo? wallClock t signIn)) moves signIn' ∧
          Leads t heard (heard.bind (replyTo? wallClock t signIn)) moves signIn' t')
        signIn _ ⟨[], _, silent_deed t⟩ hout htakes fun message decoder =>
          handle_deed hphase message decoder
    | push =>
      have hhears : hears .push t = none := by simp only [hears, hphase]
      rw [hhears]
      exact push_deed hphase now wallClock
  | writing signIn rest =>
    simp only [hears, remark?, step, hphase]
    exact writing_deed hphase wallClock
  | ended result =>
    simp only [hears, remark?, step, hphase]
    exact ⟨[], _, silent_deed t⟩

/-! ## What a deed tells -/

/-- The request that a session passes on, if it passes one on. -/
def Remark.push? : Remark → Option Wire.Request
  | .push r => some r
  | .reply .. => none

/-- A session passes on requests only if it is signed in, and replies as the server answers. -/
def Remark.Right (m : Mailroom) (wallClock : Nat) (signIn : Option SignIn) : Remark → Prop
  | .push _ => signIn ≠ none
  | .reply r a => a = (answer m wallClock (signIn.map SignIn.login) r).1

/-- A deed goes on with whoever is signed in, or it is the one that signs in. -/
theorem Deed.cases (h : Deed wallClock t heard remark moves signIn) :
    signIn = t.session.phase.signIn? ∨
      ∃ deadline message hello login password, t.session.phase = .greeting deadline ∧
        heard = some message ∧ remark = none ∧ handshakeOf message = .ok hello ∧
        hello.login = some login ∧ hello.password = some password ∧
        t.mailroom.accounts.get? login = some password ∧
        moves = [.openLine, .register login ⟨t.session.id, t.mailroom.nextLine⟩] ∧
        signIn = some ⟨login, t.mailroom.nextLine⟩ := by
  cases h with
  | silent => exact .inl rfl
  | enters deadline message hello login password hphase hhandshake hlogin hpassword haccount =>
    exact .inr ⟨deadline, message, hello, login, password, hphase, rfl, rfl, hhandshake, hlogin,
      hpassword, haccount, rfl, rfl⟩
  | admits deadline message hphase | ignores _ message hphase
  | acknowledges i message r hphase | replies _ message r hphase
  | delivers _ message r recipient hphase | pushes i r m hphase =>
    refine .inl ?_
    rw [hphase]
    rfl

/-- A session that sets out to write serves, and what it writes is right. -/
theorem Deed.remarks (h : Deed wallClock t heard remark moves signIn) {x : Remark}
    (hx : x ∈ remark) :
    t.session.phase = .serving signIn ∧ x.Right t.mailroom wallClock signIn := by
  cases h with
  | silent | admits | enters | ignores | acknowledges => cases hx
  | replies signIn message r hphase =>
    obtain rfl := Option.some.inj hx
    exact ⟨hphase, rfl⟩
  | delivers signIn message r recipient hphase =>
    obtain rfl := Option.some.inj hx
    exact ⟨hphase, rfl⟩
  | pushes i r m hphase =>
    obtain rfl := Option.some.inj hx
    exact ⟨hphase, Option.some_ne_none i⟩

/-- What is received in a deed is passed on, and it comes from the line of the session. -/
theorem Deed.received (h : Deed wallClock t heard remark moves signIn) {o : Office}
    (ho : o.room = t.mailroom) (line : Nat) :
    Office.receivedFrom line (o.story moves) =
      if t.session.phase.signIn?.any (·.line = line) then remark.toList.filterMap Remark.push?
      else [] := by
  have hnone : ∀ {x : Option Remark}, x.toList.filterMap Remark.push? = [] →
      [] = if t.session.phase.signIn?.any (·.line = line) then x.toList.filterMap Remark.push?
        else [] := by
    intro x hx
    rw [hx, ite_self]
  cases h with
  | silent | admits | ignores | acknowledges | replies => exact hnone rfl
  | enters =>
    refine Eq.trans ?_ (hnone rfl)
    simp only [Office.story, Office.entries]
    split <;> rfl
  | delivers =>
    refine Eq.trans ?_ (hnone rfl)
    simp only [Office.story, Office.entries]
    split <;> rfl
  | pushes i r m hphase hline =>
    have hstory : o.story [.receive i.line] = [.received i.line r] := by
      simp only [Office.story, Office.entries, ho, hline]
      rfl
    rw [hstory, hphase]
    by_cases heq : i.line = line <;> simp [Office.receivedFrom, Remark.push?, heq]

/-- What is posted in a deed was brought by a request. -/
theorem Deed.posted (h : Deed wallClock t heard remark moves signIn) {o : Office}
    (ho : o.room = t.mailroom) {login : String} {q : Queued}
    (hq : (login, q) ∈ Office.posts (o.story moves)) :
    ∃ message r, t.session.phase = .serving signIn ∧ heard = some message ∧
      message.kindOf = .request ∧ message.request = some r ∧ r.verb = "PUT" ∧
      r.path = Path.messagesTo ++ login ∧ t.mailroom.hasAccount login = true ∧
      q = ⟨t.mailroom.nextId, r.body, wallClock⟩ := by
  cases h with
  | silent | admits | ignores | acknowledges | replies => cases hq
  | enters =>
    simp only [Office.story, Office.entries] at hq
    split at hq <;> cases hq
  | delivers signIn message r recipient hphase hkind hr hverb hpath haccount =>
    simp only [Office.story, Office.entries, ho, haccount, if_true] at hq
    obtain ⟨rfl, rfl⟩ := Prod.mk.inj (List.mem_singleton.1 hq)
    exact ⟨message, r, hphase, rfl, hkind, hr, hverb, hpath, haccount, rfl⟩
  | pushes i r m hphase hline =>
    simp only [Office.story, Office.entries, ho, hline] at hq
    cases hq

/-- A deed draws at most one id. -/
theorem Deed.draws_le (h : Deed wallClock t heard remark moves signIn) (o : Office) :
    (Office.draws (o.story moves)).length ≤ 1 := by
  cases h with
  | silent | admits | ignores | acknowledges | replies => exact Nat.zero_le _
  | enters | delivers | pushes =>
    simp only [Office.story, Office.entries]
    split <;> simp [Office.draws]

/-- A session is registered with the line that was just opened for it. -/
theorem Deed.registers (h : Deed wallClock t heard remark moves signIn) {login : String}
    {k : Handle} (hk : .register login k ∈ moves) : k.line = t.mailroom.nextLine := by
  cases h with
  | silent | admits | ignores | acknowledges | replies | delivers | pushes => simp at hk
  | enters =>
    obtain ⟨-, rfl⟩ : login = _ ∧ k = _ := by simpa using hk
    rfl

/-- An answer has no body, unless it tells a client the login that the client is signed in as; the
question for it is granted only then. -/
theorem answer_body (m : Mailroom) (wallClock : Nat) (login : Option String) (r : Wire.Request) :
    (answer m wallClock login r).1.body = .empty ∧
        ¬ (r.verb = "GET" ∧ r.path = Path.whoami ∧
          (answer m wallClock login r).1.status = 200) ∨
      ∃ name, login = some name ∧ (answer m wallClock login r).1.body = name.toUTF8 := by
  unfold answer
  by_cases hkeepalive : r.verb = "GET" ∧ r.path = Path.keepalive
  · rw [if_pos hkeepalive]
    refine .inl ⟨rfl, fun hwhoami => ?_⟩
    have hne : Path.keepalive ≠ Path.whoami := by decide
    exact hne (hkeepalive.2.symm.trans hwhoami.2.1)
  · rw [if_neg hkeepalive]
    by_cases hwhoami : r.verb = "GET" ∧ r.path = Path.whoami
    · rw [if_pos hwhoami]
      cases login with
      | none =>
        have hne : (401 : UInt32) ≠ 200 := by decide
        exact .inl ⟨rfl, fun h => hne h.2.2⟩
      | some name => exact .inr ⟨name, rfl, rfl⟩
    · rw [if_neg hwhoami]
      refine .inl ⟨?_, fun h => hwhoami ⟨h.1, h.2.1⟩⟩
      split
      · rfl
      · split <;> rfl

/-! ## What a step adds to the story -/

/-- A session that leaves adds nothing to the story but that it is unregistered. -/
theorem story_leaving (o : Office) {id : UInt64} {signIn? : Option SignIn} {left : List Office.Move}
    (hleft : left = [] ∨ left = leaving id signIn?) :
    o.story left = [] ∨ ∃ login, o.story left = [.unregistered login id] := by
  rcases hleft with rfl | rfl
  · exact .inl rfl
  · cases signIn? with
    | none => exact .inl rfl
    | some i => exact .inr ⟨i.login, rfl⟩

/-- What a step of a session adds to the story of its office. -/
structure Adds (wallClock : Nat) (t : Turn) (heard : Option Message) (remark : Option Remark)
    (signIn : Option SignIn) (es : List Office.Entry) : Prop where
  received : ∀ line, Office.receivedFrom line es =
    if t.session.phase.signIn?.any (·.line = line) then remark.toList.filterMap Remark.push? else []
  posted : ∀ login q, (login, q) ∈ Office.posts es →
    ∃ message r, t.session.phase = .serving signIn ∧ heard = some message ∧
      message.kindOf = .request ∧ message.request = some r ∧ r.verb = "PUT" ∧
      r.path = Path.messagesTo ++ login ∧ t.mailroom.hasAccount login = true ∧
      q = ⟨t.mailroom.nextId, r.body, wallClock⟩
  registered : ∀ login k backlog signal, .registered login k backlog signal ∈ es →
    k.line = t.mailroom.nextLine
  draws : (Office.draws es).length ≤ 1
  /-- a mailbox is left as it is or grows, or a response that says that a request succeeded takes
  one message out of it -/
  boxes : ∀ login box, box <+: es.foldl (Office.boxAfter login) box ∨
    ∃ i message r, t.session.phase = .serving (some i) ∧ i.login = login ∧ heard = some message ∧
      message.kindOf = .response ∧ message.response = some r ∧ r.isSuccess = true ∧
      es.foldl (Office.boxAfter login) box = box.eraseP (·.id = r.id)
  /-- who is signed in stays, or a client that has presented its account is signed in now -/
  signs : signIn = t.session.phase.signIn? ∨
    ∃ deadline message hello login password, t.session.phase = .greeting deadline ∧
      heard = some message ∧ remark = none ∧ handshakeOf message = .ok hello ∧
      hello.login = some login ∧ hello.password = some password ∧
      t.mailroom.accounts.get? login = some password ∧
      signIn = some ⟨login, t.mailroom.nextLine⟩ ∧
      es = [.drew t.mailroom.nextId (.queueEmpty login),
        .registered login ⟨t.session.id, t.mailroom.nextLine⟩ (t.mailroom.mailbox login)
          t.mailroom.nextId]

/-- What a deed does to a mailbox. -/
theorem Deed.boxes (h : Deed wallClock t heard remark moves signIn) {o : Office}
    (ho : o.room = t.mailroom) (login : String) (box : List Queued) :
    box <+: (o.story moves).foldl (Office.boxAfter login) box ∨
      ∃ i message r, t.session.phase = .serving (some i) ∧ i.login = login ∧
        heard = some message ∧ message.kindOf = .response ∧ message.response = some r ∧
        r.isSuccess = true ∧
        (o.story moves).foldl (Office.boxAfter login) box = box.eraseP (·.id = r.id) := by
  cases h with
  | silent | admits | ignores | replies => exact .inl List.prefix_rfl
  | enters =>
    refine .inl ?_
    simp only [Office.story, Office.entries]
    split <;> exact List.prefix_rfl
  | acknowledges i message r hphase hkind hr hsuccess =>
    by_cases hlogin : i.login = login
    · exact .inr ⟨i, message, r, hphase, hlogin, rfl, hkind, hr, hsuccess, if_pos hlogin⟩
    · refine .inl ?_
      show box <+: if i.login = login then _ else box
      split
      · next h => exact absurd h hlogin
      · exact List.prefix_rfl
  | delivers signIn message r recipient hphase hkind hr hverb hpath haccount =>
    refine .inl ?_
    simp only [Office.story, Office.entries, ho, haccount, if_true]
    show box <+: if recipient = login then box ++ _ else box
    split
    · exact List.prefix_append _ _
    · exact List.prefix_rfl
  | pushes i r m hphase hline =>
    refine .inl ?_
    simp only [Office.story, Office.entries, ho, hline]
    exact List.prefix_rfl

/-- **What a step of a session adds to the story**, and what it leads to. -/
theorem step_adds (branch : Branch) (now wallClock : Nat) (t : Turn) {o : Office}
    (ho : o.room = t.mailroom) :
    ∃ officeMoves moves signIn,
      o.makeAll officeMoves = ⟨(step branch now wallClock t).mailroom, o.accepted⟩ ∧
      Adds wallClock t (hears branch t) (remark? branch wallClock t) signIn
        (o.story officeMoves) ∧
      Leads t (hears branch t) (remark? branch wallClock t) moves signIn
        (step branch now wallClock t) ∧
      ∀ x ∈ remark? branch wallClock t, t.session.phase = .serving signIn ∧
        x.Right t.mailroom wallClock signIn := by
  obtain ⟨moves, signIn, hdeed, hleads⟩ := step_deed branch now wallClock t
  obtain ⟨left, hleft, hmade⟩ := hleads.mailroom
  obtain ⟨room, accepted⟩ := o
  obtain rfl : room = t.mailroom := ho
  refine ⟨moves ++ left, moves, signIn, hmade _, ?_, hleads, fun x hx => hdeed.remarks hx⟩
  have hsigns : signIn = t.session.phase.signIn? ∨
      ∃ deadline message hello login password, t.session.phase = .greeting deadline ∧
        hears branch t = some message ∧ remark? branch wallClock t = none ∧
        handshakeOf message = .ok hello ∧ hello.login = some login ∧
        hello.password = some password ∧ t.mailroom.accounts.get? login = some password ∧
        signIn = some ⟨login, t.mailroom.nextLine⟩ ∧
        Office.story ⟨t.mailroom, accepted⟩ (moves ++ left) =
          [.drew t.mailroom.nextId (.queueEmpty login),
            .registered login ⟨t.session.id, t.mailroom.nextLine⟩ (t.mailroom.mailbox login)
              t.mailroom.nextId] := by
    rcases hdeed.cases with hstays | ⟨deadline, message, hello, login, password, hphase, hheard,
      hremark, hhandshake, hlogin, hpassword, haccount, rfl, hsignIn⟩
    · exact .inl hstays
    · -- nobody was signed in before, so that there was nothing to leave
      obtain rfl : left = [] := by
        rw [hphase] at hleft
        exact hleft.elim (fun h => h) fun h => h
      have hopen : t.mailroom.nextLine < t.mailroom.openLine.2.nextLine := Nat.lt_succ_self _
      refine .inr ⟨deadline, message, hello, login, password, hphase, hheard, hremark, hhandshake,
        hlogin, hpassword, haccount, hsignIn, ?_⟩
      rw [List.append_nil]
      show [] ++ (Office.entries ⟨t.mailroom.openLine.2, accepted⟩ (.register login _) ++ []) = _
      rw [List.nil_append, List.append_nil]
      exact if_pos hopen
  rw [Office.story_append] at hsigns ⊢
  have hlast := story_leaving (Office.makeAll ⟨t.mailroom, accepted⟩ moves) hleft
  generalize Office.story (Office.makeAll ⟨t.mailroom, accepted⟩ moves) left = last
    at hlast hsigns ⊢
  have hnothing : Office.posts last = [] ∧ Office.draws last = [] ∧
      (∀ line, Office.receivedFrom line last = []) ∧
      (∀ login k backlog signal, .registered login k backlog signal ∉ last) ∧
      ∀ login box, last.foldl (Office.boxAfter login) box = box := by
    rcases hlast with rfl | ⟨login, rfl⟩
    · exact ⟨rfl, rfl, fun _ => rfl, fun _ _ _ _ => List.not_mem_nil, fun _ _ => rfl⟩
    · exact ⟨rfl, rfl, fun _ => rfl, fun _ _ _ _ => by simp, fun _ _ => rfl⟩
  obtain ⟨hposts, hdraws, hreceived, hregistered, hboxes⟩ := hnothing
  refine ⟨fun line => ?_, fun login q hq => ?_, fun login k backlog signal hmem => ?_, ?_,
    fun login box => ?_, hsigns⟩
  · rw [Office.receivedFrom_append, hreceived, List.append_nil]
    exact hdeed.received rfl line
  · rw [Office.posts_append, hposts, List.append_nil] at hq
    exact hdeed.posted rfl hq
  · have hmoves := (List.mem_append.1 hmem).resolve_right (hregistered login k backlog signal)
    exact hdeed.registers (Office.register_of_registered hmoves)
  · rw [Office.draws_append, hdraws, List.append_nil]
    exact hdeed.draws_le _
  · rw [List.foldl_append, hboxes]
    exact hdeed.boxes rfl login box

end Session

end ChatSockets
