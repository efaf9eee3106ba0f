import ChatSockets.Proofs.Server.Listening

/-!
# The first frame of a client

`Admits` says of bytes that they begin with a frame which lets a client in, and as whom: a handshake
with its payload, without a login or with one and its password. More bytes behind the frame change
nothing about that (`Admits.append`). `Hails` lists what a step of a session does that waits for a
handshake: it lets the client in only if the bytes that came up do, and registers it for exactly the
login that they present (`Hails.admits`); if it ends, they do not (`Hails.refuses`), and nothing
else is done before (`step_hails`).
-/

namespace ChatSockets

namespace Wire

/-- The first message of a stream stays the first one. -/
theorem head?_good_append {b : ByteArray} {m : Message} (h : (good b).head? = some m)
    (more : ByteArray) : (good (b ++ more)).head? = some m := by
  cases hhead : Frame.head Frame.maxLength b with
  | incomplete => rw [(of_head_incomplete hhead).1] at h; cases h
  | refused n => rw [(of_head_refused hhead).1] at h; cases h
  | frame body rest =>
    cases hbody : Message.decode body with
    | error e => rw [(of_head_malformed hhead hbody).1] at h; cases h
    | ok m' =>
      rw [(of_head_message hhead hbody).1] at h
      have hmore := Frame.head_append_frame hhead (Frame.size_of_head_frame hhead) more
      rw [(of_head_message hmore hbody).1]
      exact h

end Wire

namespace Session

open Wire

/-- Bytes begin with a handshake that lets a client in, as a login whose password it presents, or
without one. -/
def Admits (accounts : Accounts) (b : ByteArray) (login? : Option String) : Prop :=
  ∃ m hello, (good b).head? = some m ∧ m.kindOf = .handshake ∧ m.handshake = some hello ∧
    hello.login = login? ∧ ∀ login, login? = some login →
      ∃ password, hello.password = some password ∧ accounts.get? login = some password

variable {accounts : Accounts} {b : ByteArray} {login? : Option String} {m : Message}
  {room : Mailroom}

theorem Admits.append (h : Admits accounts b login?) (more : ByteArray) :
    Admits accounts (b ++ more) login? := by
  obtain ⟨m, hello, hfirst, hrest⟩ := h
  exact ⟨m, hello, head?_good_append hfirst more, hrest⟩

/-- Bytes admit a client in one way at most. -/
theorem Admits.unique {other? : Option String} (h : Admits accounts b login?)
    (h' : Admits accounts b other?) : login? = other? := by
  obtain ⟨m, hello, hfirst, -, hpayload, hlogin, -⟩ := h
  obtain ⟨m', hello', hfirst', -, hpayload', hlogin', -⟩ := h'
  obtain rfl : m = m' := Option.some.inj (hfirst.symm.trans hfirst')
  obtain rfl : hello = hello' := Option.some.inj (hpayload.symm.trans hpayload')
  exact hlogin.symm.trans hlogin'

/-- Bytes without a whole message admit nobody. -/
theorem not_admits_of_good (h : good b = []) (login? : Option String) :
    ¬ Admits accounts b login? := by
  rintro ⟨m, hello, hfirst, -⟩
  rw [h] at hfirst
  cases hfirst

theorem handshakeOf_eq_ok_iff {hello : Handshake} :
    handshakeOf m = .ok hello ↔ m.kindOf = .handshake ∧ m.handshake = some hello := by
  unfold handshakeOf
  split
  · next hkind =>
    split <;> next hpayload => simp [hkind, hpayload]
  · next hkind => simp [hkind]

/-- A handshake is accepted without a login, or with a login and its password. -/
theorem authenticate_eq_ok_iff {hello : Handshake} :
    authenticate room hello = .ok login? ↔ hello.login = login? ∧ ∀ login, login? = some login →
      ∃ password, hello.password = some password ∧ room.accounts.get? login = some password := by
  unfold authenticate
  split
  · next hlogin =>
    rw [hlogin, Except.ok.injEq]
    exact ⟨fun h => ⟨h, fun login hnone => by rw [← h] at hnone; cases hnone⟩, fun h => h.1⟩
  · next login password hlogin hpassword =>
    rw [hlogin]
    constructor
    · intro h
      split at h
      · next haccount =>
        cases h
        refine ⟨rfl, fun l hl => ⟨password, hpassword, ?_⟩⟩
        cases hl
        simpa [Mailroom.authenticate] using haccount
      · cases h
    · rintro ⟨rfl, haccount⟩
      obtain ⟨password', hpassword', haccount⟩ := haccount login rfl
      cases hpassword.symm.trans hpassword'
      rw [if_pos (by simpa [Mailroom.authenticate] using haccount)]
  · next login hlogin hpassword =>
    rw [hlogin]
    refine ⟨fun h => (by cases h), ?_⟩
    rintro ⟨rfl, haccount⟩
    obtain ⟨password, hsome, -⟩ := haccount login rfl
    cases hpassword.symm.trans hsome

/-- **The first message decides** whether bytes admit a client, as the session does. -/
theorem admits_iff (hfirst : (good b).head? = some m) :
    Admits room.accounts b login? ↔ (handshakeOf m >>= authenticate room) = .ok login? := by
  constructor
  · rintro ⟨m', hello, hfirst', hkind, hpayload, hfit⟩
    obtain rfl : m = m' := Option.some.inj (hfirst.symm.trans hfirst')
    rw [handshakeOf_eq_ok_iff.2 ⟨hkind, hpayload⟩]
    exact authenticate_eq_ok_iff.2 hfit
  · intro h
    cases hmessage : handshakeOf m with
    | error e =>
      rw [hmessage] at h
      cases h
    | ok hello =>
      rw [hmessage] at h
      obtain ⟨hkind, hpayload⟩ := handshakeOf_eq_ok_iff.1 hmessage
      exact ⟨m, hello, hfirst, hkind, hpayload, authenticate_eq_ok_iff.1 h⟩

/-! ## A step of a session that waits for a handshake -/

/-- What came up to a session that has taken no message. -/
def Turn.cameUp (t : Turn) : ByteArray := t.session.decoder.buffer ++ t.link.up.held

/-- The mailroom after a session has let its client in: the session is registered for the login that
the client presented, on a line of its own, if it presented one. -/
def Turn.letIn (t : Turn) : Option String → Mailroom
  | none => t.mailroom
  | some login =>
    (t.mailroom.openLine.2.register login ⟨t.session.id, t.mailroom.nextLine⟩).2

/-- What a session does at a time that waits for a handshake until another one. -/
inductive Hails (deadline now : Nat) (t : Turn) : Turn → Prop
  /-- there is nothing to read yet, and time is left -/
  | waits (hgood : good t.cameUp = [] ∧ fault? t.cameUp = none)
    (hopen : t.link.up.closed = false) (hnow : now < deadline) : Hails deadline now t t
  | takes (b : ByteArray) (up : Pipe) (hread : t.link.up.read Pipe.readSize = (.bytes b, up)) :
    Hails deadline now t
      { t.withDecoder (t.session.decoder.extend b) with link := { t.link with up } }
  /-- the session ends, and has done nothing but read -/
  | refuses (decoder : Decoder) (e : SessionError)
    (hunfit : ∀ login?, ¬ Admits t.mailroom.accounts t.cameUp login?) :
    Hails deadline now t ((t.withDecoder decoder).finish (.error e))
  | admits (t' : Turn) (signIn : Option SignIn) (hphase : t'.session.phase = .serving signIn)
    (hfit : Admits t.mailroom.accounts t.cameUp (signIn.map SignIn.login))
    (hroom : t'.mailroom = t.letIn (signIn.map SignIn.login)) : Hails deadline now t t'

variable {t : Turn} {deadline : Nat}

/-- The first message lets the client in, or ends the session. -/
theorem greet_hails {decoder : Decoder} (now : Nat)
    (hlimit : t.session.decoder.limit = Frame.maxLength)
    (hnext : t.session.decoder.next = (.ok (some m), decoder)) :
    Hails deadline now t (greet (t.withDecoder decoder) m) := by
  have hfirst : (good t.cameUp).head? = some m := by
    obtain ⟨rest, hrest⟩ := ((leaves_all t.cameUp).next hlimit hnext).prefix_good
    rw [← hrest]
    rfl
  unfold greet
  split
  · next e herror =>
    refine .refuses decoder e fun login? hfit => ?_
    cases herror.symm.trans ((admits_iff hfirst).1 hfit)
  · next hok => exact .admits _ none rfl ((admits_iff hfirst).2 hok) rfl
  · next login hok =>
    exact .admits _ (some ⟨login, t.mailroom.nextLine⟩) rfl ((admits_iff hfirst).2 hok) rfl

/-- A session that has nothing to read but what its decoder waits with has seen no message and no
bad frame. -/
theorem good_cameUp (hlimit : t.session.decoder.limit = Frame.maxLength)
    (hnext : t.session.decoder.next = (.ok none, t.session.decoder))
    (hheld : t.link.up.held.size = 0) : good t.cameUp = [] ∧ fault? t.cameUp = none := by
  have hall : t.cameUp = t.session.decoder.buffer := by
    rw [Turn.cameUp, ByteArray.size_eq_zero_iff.1 hheld, ByteArray.append_empty]
  rw [hall]
  exact (leaves_all _).waits hlimit hnext

/-- **What a session does that waits for a handshake.** -/
theorem step_hails (hphase : t.session.phase = .greeting deadline)
    (hlimit : t.session.decoder.limit = Frame.maxLength) (branch : Branch) (now wallClock : Nat) :
    Hails deadline now t (step branch now wallClock t) := by
  have hquiet : t.session.decoder.ready = false ↔
      t.session.decoder.next = (.ok none, t.session.decoder) := Decoder.ready_eq_false_iff _
  cases hresult : t.session.decoder.next with
  | mk result decoder =>
  by_cases hready : t.session.decoder.ready = true
  · have hinput : t.session.hasInput t.link = true := by rw [hasInput, hready]; rfl
    simp only [step, hphase, hinput, if_true, Turn.read, hready, hresult]
    split
    · next e _ herror =>
      cases herror
      refine .refuses decoder _ (not_admits_of_good ?_)
      exact ((leaves_all t.cameUp).fails hlimit hresult).1
    · next hnone =>
      cases hnone
      rw [Decoder.eq_of_next_none hresult] at hresult
      rw [hquiet.2 hresult] at hready
      cases hready
    · next m _ hsome =>
      cases hsome
      exact greet_hails now hlimit hresult
  · have hready : t.session.decoder.ready = false := by simpa using hready
    have hnext := hquiet.1 hready
    by_cases hreadable : t.link.up.readable = true
    · have hinput : t.session.hasInput t.link = true := by rw [hasInput, hreadable, Bool.or_true]
      simp only [step, hphase, hinput, if_true, Turn.read, hready, Bool.false_eq_true, if_false]
      split
      · next hread => cases (Pipe.read_eq_nothing hread).1.symm.trans hreadable
      · next hread =>
        exact .refuses t.session.decoder _
          (not_admits_of_good (good_cameUp hlimit hnext (Pipe.read_eq_ended hread).1).1)
      · next b up hread =>
        rw [← hphase]
        exact .takes b up hread
    · have hboth : t.link.up.held.size = 0 ∧ t.link.up.closed = false := by
        simpa [Pipe.readable] using hreadable
      have hinput : ¬ t.session.hasInput t.link = true := by
        simp [hasInput, hready, hreadable]
      have hgood := good_cameUp hlimit hnext hboth.1
      simp only [step, hphase, if_neg hinput]
      split
      · exact .refuses t.session.decoder _ (not_admits_of_good hgood.1)
      · next hnow => exact .waits hgood hboth.2 (Nat.lt_of_not_le hnow)

/-- A step that changes nothing found nothing to read, and time left. -/
theorem Hails.eq_self {t' : Turn} {now : Nat} (h : Hails deadline now t t')
    (hphase : t.session.phase = .greeting deadline) (hsame : t' = t) :
    (good t.cameUp = [] ∧ fault? t.cameUp = none) ∧ t.link.up.closed = false ∧ now < deadline := by
  cases h with
  | waits hgood hopen hnow => exact ⟨hgood, hopen, hnow⟩
  | takes b up hread =>
    have hheld : up.held = t.link.up.held := congrArg (·.link.up.held) hsame
    have hsize := congrArg ByteArray.size (Pipe.read_eq_bytes hread).1
    have hsome := Pipe.size_of_read (by decide) hread
    rw [ByteArray.size_append, hheld] at hsize
    omega
  | refuses decoder e =>
    have hended : Phase.ended (.error e) = t.session.phase := congrArg (·.session.phase) hsame
    cases hended.trans hphase
  | admits _ signIn hserves =>
    rw [hsame, hphase] at hserves
    cases hserves

end Session

end ChatSockets
