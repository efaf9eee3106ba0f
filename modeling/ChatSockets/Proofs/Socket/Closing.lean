import ChatSockets.Proofs.Socket.Vigilance

/-!
# Why a keeper closes its socket

A keeper that has an open socket keeps it in a step, or closes it for a reason that it saw in this
very step (`step_ends`). Most reasons come from the link, the server and the application
(`Turn.Cause`). One comes from a single caller: a request that is too long for a frame
(`Turn.Oversized`). What a keeper writes of its own accord is never too long.

A keeper that waits after a failure knows how many tokens there were when it last looked
(`Connection.Weighed`, kept by every step of a keeper: `step_weighed`).
-/

namespace ChatSockets

/-- Whether a keeper waits after a failure. -/
def Keeper.Phase.isWaiting : Phase → Bool
  | .waiting _ => true
  | _ => false

/-- A keeper that waits knows how many tokens there are. -/
def Connection.Weighed (c : Connection) : Prop :=
  ∀ b, c.phase = .waiting b → b.tokens = c.policy.tokens

theorem Connection.Weighed.of_phase {c : Connection} (h : c.phase.isWaiting = false) :
    c.Weighed := by
  intro b hb
  rw [hb] at h
  cases h

namespace Keeper

open Wire

/-- Why a keeper may close its open socket in a step, whoever uses it: the socket is to be cycled,
or is found not to be wanted by the requests that were counted and the other reasons, the link is
broken or at its end, or the server sends what is no message or has left a probe unanswered. -/
inductive Turn.Cause (t : Turn) (stores : Stores) (now : Nat) : Turn.Close → Prop
  | cycled (h : t.connection.cycling = true) : Cause t stores now .cycled
  | unwanted (live : Live) (counted : Nat)
    (hphase : t.connection.phase = .looking live (.whetherWanted counted))
    (h : t.connection.wantedBy counted stores now = false) : Cause t stores now .unwanted
  | broken (purpose : Purpose) (h : t.link.up.closed = true) :
    Cause t stores now (writeFailure purpose .brokenPipe)
  | ended (h : t.link.down.closed = true) :
    Cause t stores now (.failed "server closed connection")
  | garbled (live : Live) (e : FrameError) (decoder : Decoder)
    (hphase : t.connection.phase = .draining live) (h : live.decoder.next = (.error e, decoder)) :
    Cause t stores now (.failed s!"bad frame: {e.message}")
  | unanswered (live : Live) (window : Option Nat) (id : UInt64)
    (hphase : t.connection.phase = .serving live window) (hdue : live.probeAt ≤ now)
    (h : live.awaiting = some id) :
    Cause t stores now (.failed s!"keepalive {id} went unanswered")

/-- A keeper takes a message from its outbox that is too long for a frame. -/
def Turn.Oversized (branch : Branch) (t : Turn) : Prop :=
  branch = .send ∧ ∃ live window m rest, t.connection.phase = .serving live window ∧
    t.connection.outbox = some (m :: rest) ∧ Frame.maxLength < m.length

/-- Some reasons include those that come from what an open socket is and from its link. -/
structure Turn.Grounds (P : Turn.Close → Prop) (t : Turn) : Prop where
  cycled : t.connection.cycling = true → P .cycled
  broken : ∀ purpose, t.link.up.closed = true → P (writeFailure purpose .brokenPipe)

/-- A keeper with an open socket has kept it, or has closed it for one of some reasons. -/
inductive Turn.Ends (P : Turn.Close → Prop) (stores : Stores) (now : Nat) (t' : Turn) : Prop
  | keeps (h : t'.connection.phase.shown = .open)
  | closes (u : Turn) (heard : Bool) (why : Turn.Close) (hwhy : P why)
    (h : t' = u.close stores now heard why)

section

variable {P : Turn.Close → Prop} {stores : Stores} {now : Nat} {t : Turn}

/-- What else a turn holds makes no difference. -/
theorem Turn.Grounds.of_turn {u : Turn} (h : t.Grounds P)
    (hcycling : u.connection.cycling = t.connection.cycling)
    (hclosed : u.link.up.closed = true → t.link.up.closed = true) : u.Grounds P :=
  ⟨fun hu => h.cycled (hcycling.symm.trans hu), fun purpose hu => h.broken purpose (hclosed hu)⟩

/-- A loop that begins anew goes on, if it may. -/
theorem Turn.resume_ends (h : t.Grounds P) (live : Live) :
    Ends P stores now (t.resume stores now live) := by
  unfold Turn.resume
  dsimp only
  split
  · next hcycling => exact .closes _ _ _ (h.cycled hcycling) rfl
  · exact .keeps rfl

/-- A keeper that looks goes on, or has found that its socket is not wanted. -/
theorem Turn.look_ends (t : Turn) (live : Live) (look : Look)
    (h : ∀ counted, look = .whetherWanted counted →
      t.connection.wantedBy counted stores now = false → P .unwanted) :
    Ends P stores now (t.look stores now live look) := by
  cases look with
  | whetherWanted counted =>
    unfold Turn.look
    dsimp only
    split
    · exact .keeps rfl
    · next hwanted => exact .closes _ _ _ (h counted rfl (Bool.not_eq_true _ ▸ hwanted)) rfl
  | untilWhen => exact .keeps rfl

theorem Turn.written_ends (h : t.Grounds P) (live : Live) (purpose : Purpose) :
    Ends P stores now (t.written stores now live purpose) := by
  cases purpose with
  | probe id => exact Turn.resume_ends h { live with awaiting := some id }
  | request => exact Turn.resume_ends h live
  | reply => exact .keeps rfl

theorem Turn.write_ends (h : t.Grounds P) (live : Live) (purpose : Purpose)
    (b : ByteArray) : Ends P stores now (t.write stores now live purpose b) := by
  unfold Turn.write
  split
  · next hwrite =>
    refine .closes _ _ _ (h.broken purpose ?_) rfl
    rw [← Bool.not_eq_false]
    intro hopen
    obtain ⟨rest, up, hsome⟩ := Pipe.exists_write? hopen b
    cases hsome.symm.trans hwrite
  · next rest up hwrite =>
    dsimp only
    split
    · refine Turn.written_ends (t := { t with link := { t.link with up } }) ?_ live purpose
      refine h.of_turn rfl fun hclosed => ?_
      cases (Pipe.write?_eq_some hwrite).2.1.symm.trans hclosed
    · exact .keeps rfl

/-- A message is written, if it has a frame. -/
theorem Turn.writeMessage_ends (h : t.Grounds P) (live : Live) (purpose : Purpose)
    (m : Message) (hlong : Frame.maxLength < m.length →
      P (writeFailure purpose (.codec (.tooLarge m.length Frame.maxLength)))) :
    Ends P stores now (t.writeMessage stores now live purpose m) := by
  unfold Turn.writeMessage
  by_cases hfit : m.length ≤ Frame.maxLength
  · rw [Frame.encode_of_le hfit]
    exact Turn.write_ends h live purpose _
  · rw [Frame.encode_of_lt (Nat.lt_of_not_le hfit)]
    exact .closes _ _ _ (hlong (Nat.lt_of_not_le hfit)) rfl

/-- What a keeper answers has a frame. -/
theorem Turn.length_answer_le (t : Turn) (r : Wire.Request) :
    (Message.ofResponse (t.answer r).1).length ≤ Frame.maxLength := by
  have hfits : ∀ (status : UInt32) (text : String), text.toUTF8.size ≤ 19 →
      (Message.ofResponse (.plain r.id status text)).length ≤ Frame.maxLength := by
    intro status text htext
    refine Nat.le_trans (Message.length_plainResponse_le _ _ _) ?_
    rw [show Frame.maxLength = 1048576 from rfl]
    omega
  unfold Turn.answer
  split
  · exact hfits _ _ (by decide)
  · split
    · exact hfits _ _ (by decide)
    · exact hfits _ _ (by decide)

/-- What the server sends is no reason, if it is a message. -/
theorem Turn.handle_ends (h : t.Grounds P) (live : Live) (m : Message) :
    Ends P stores now (t.handle stores now live m) := by
  unfold Turn.handle
  split
  · refine .keeps ?_
    unfold Turn.accept
    split <;> rfl
  · next r hkind hr =>
    have hgrounds : (t.answer r).2.Grounds P := by
      unfold Turn.answer
      split
      · exact h.of_turn rfl id
      · split
        · exact h.of_turn rfl id
        · exact h
    exact Turn.writeMessage_ends hgrounds live .reply _ fun hlong =>
      absurd (t.length_answer_le r) (Nat.not_le_of_lt hlong)
  · exact .keeps rfl

/-- A keeper may close its socket for a reason, or because it takes a message that is too long. -/
def Turn.MayClose (branch : Branch) (stores : Stores) (now : Nat) (t : Turn) (why : Turn.Close) :
    Prop :=
  t.Cause stores now why ∨ t.Oversized branch

theorem Turn.grounds (t : Turn) (branch : Branch) (stores : Stores) (now : Nat) :
    t.Grounds (t.MayClose branch stores now) :=
  ⟨fun h => .inl (.cycled h), fun purpose h => .inl (.broken purpose h)⟩

/-- **What an open socket is closed for** when the keeper goes on with it. -/
theorem Turn.serve_ends (t : Turn) {live : Live} {window : Option Nat}
    (hphase : t.connection.phase = .serving live window) (branch : Branch)
    (htake : canTake now t.link t.connection branch = true) :
    Ends (t.MayClose branch stores now) stores now (t.serve stores now live branch) := by
  have hgrounds := t.grounds branch stores now
  have hstays : Ends (t.MayClose branch stores now) stores now t := .keeps (by rw [hphase]; rfl)
  cases branch with
  | woken => exact Turn.resume_ends (t := t.takeWake) (hgrounds.of_turn rfl id) live
  | window => exact Turn.resume_ends hgrounds live
  | probe =>
    have hdue : live.probeAt ≤ now := by simpa [canTake, hphase] using htake
    unfold Turn.serve Turn.probe
    cases hawaiting : live.awaiting with
    | some id => exact .closes _ _ _ (.inl (.unanswered live window id hphase hdue hawaiting)) rfl
    | none =>
      have hdrawn : { t with
          connection := { t.connection with pending := t.connection.pending.draw.2 } }.Grounds
            (t.MayClose .probe stores now) := hgrounds.of_turn rfl id
      refine Turn.writeMessage_ends hdrawn _ _ _ fun hlong => ?_
      have hle := Message.length_plainRequest_le t.connection.pending.draw.1 "GET" Path.keepalive
      exact absurd (Nat.lt_of_lt_of_le hlong hle) (by decide)
  | send =>
    unfold Turn.serve Turn.sendNext
    dsimp only
    split
    · next m rest houtbox =>
      have htaken : { t with connection := { t.connection with outbox := some rest } }.Grounds
          (t.MayClose .send stores now) := hgrounds.of_turn rfl id
      exact Turn.writeMessage_ends htaken live .request m fun hlong =>
        .inr ⟨rfl, live, window, m, rest, hphase, houtbox, hlong⟩
    · exact hstays
  | receive =>
    unfold Turn.serve Turn.receive
    dsimp only
    split
    · exact hstays
    · next hread => exact .closes _ _ _ (.inl (.ended (Pipe.read_eq_ended hread).2.1)) rfl
    · exact .keeps rfl
  | timer | nudge | shutdown => exact hstays

/-- **A keeper closes its open socket for a reason** that it saw in the step. -/
theorem step_ends (branch : Branch) (stores : Stores) (now : Nat) (t : Turn)
    (hopen : t.connection.phase.shown = .open) :
    (step branch stores now t).Ends (t.MayClose branch stores now) stores now := by
  have hgrounds := t.grounds branch stores now
  cases hphase : t.connection.phase with
  | serving live window =>
    simp only [step, hphase]
    split
    · next htake => exact t.serve_ends hphase branch htake
    · exact .keeps hopen
  | draining live =>
    simp only [step, hphase]
    unfold Turn.drain
    split
    · exact Turn.resume_ends hgrounds live
    · next e decoder hnext => exact .closes _ _ _ (.inl (.garbled live e decoder hphase hnext)) rfl
    · exact Turn.handle_ends hgrounds _ _
  | writing live rest purpose =>
    simp only [step, hphase]
    exact Turn.write_ends hgrounds live purpose rest
  | looking live look =>
    simp only [step, hphase]
    refine t.look_ends live look fun counted hlook hwanted => .inl ?_
    exact .unwanted live counted (hlook ▸ hphase) hwanted
  | crashed =>
    simp only [step, hphase]
    exact .keeps hopen
  | atHead | parked | dialing | greeting | waiting | finished =>
    rw [hphase] at hopen
    cases hopen

/-- **A message that is too long closes the socket** as soon as it is taken from the outbox. -/
theorem Turn.Oversized.closes {branch : Branch} (h : t.Oversized branch) (stores : Stores)
    (now : Nat) : (step branch stores now t).connection.phase.shown = .closed := by
  obtain ⟨rfl, live, window, m, rest, hphase, houtbox, hlong⟩ := h
  have hstep : step .send stores now t =
      Turn.close { t with connection := { t.connection with outbox := some rest } } stores now
        live.heard (writeFailure .request (.codec (.tooLarge m.length Frame.maxLength))) := by
    simp only [step, hphase, canTake, houtbox, if_pos, Turn.serve, Turn.sendNext,
      Turn.writeMessage, Frame.encode_of_lt hlong]
  rw [hstep]
  exact (backOff_away _ stores now).2.1

/-! ## The tokens that a wait begins with -/

theorem backOff_weighed (c : Connection) (stores : Stores) (now : Nat) :
    (c.backOff stores now).Weighed := by
  unfold Connection.backOff
  split
  · rintro b ⟨⟩
    rfl
  · exact .of_phase rfl

theorem connectFailed_weighed (c : Connection) (stores : Stores) (now : Nat) (e : ChatError) :
    (c.connectFailed stores now e).Weighed :=
  backOff_weighed _ stores now

theorem atHead_weighed (c : Connection) (stores : Stores) (now : Nat) (attempt : Attempt) :
    (c.atHead stores now attempt).Weighed := by
  unfold Connection.atHead
  split
  · exact .of_phase rfl
  · split
    · dsimp only
      split
      · exact connectFailed_weighed _ stores now _
      · exact .of_phase rfl
    · exact .of_phase rfl

theorem Turn.close_weighed (t : Turn) (heard : Bool) (why : Close) :
    (t.close stores now heard why).connection.Weighed := by
  cases why with
  | unwanted | cycled => exact .of_phase rfl
  | failed reason => exact backOff_weighed _ stores now

theorem Turn.Ends.weighed {t' : Turn} (h : t'.Ends P stores now) : t'.connection.Weighed := by
  cases h with
  | keeps hopen =>
    intro b hb
    rw [hb] at hopen
    cases hopen
  | closes u heard why hwhy h => exact h ▸ u.close_weighed heard why

theorem Turn.opened_weighed (t : Turn) (link : Nat) :
    (t.opened stores now link).connection.Weighed := by
  have hgrounds : ∀ u : Turn, u.Grounds fun _ => True :=
    fun _ => ⟨fun _ => trivial, fun _ _ => trivial⟩
  unfold Turn.opened
  dsimp only
  split
  · exact Turn.Ends.weighed (Turn.resume_ends (hgrounds _) _)
  · exact .of_phase rfl

theorem Turn.greet_weighed (t : Turn) (link : Nat) (b : ByteArray) :
    (t.greet stores now link b).connection.Weighed := by
  unfold Turn.greet
  split
  · exact connectFailed_weighed _ stores now _
  · dsimp only
    split
    · exact Turn.opened_weighed _ link
    · exact .of_phase rfl

theorem connected_weighed (stores : Stores) (now link : Nat) (hello : Handshake) (t : Turn) :
    (connected stores now link hello t).connection.Weighed := by
  unfold connected
  split
  · exact connectFailed_weighed _ stores now _
  · exact t.greet_weighed link _

/-- **A keeper that begins a wait, or waits on, has counted the tokens**. -/
theorem step_weighed (branch : Branch) (stores : Stores) (now : Nat) (t : Turn)
    (hgoes : goesOn branch now t = true) : (step branch stores now t).connection.Weighed := by
  cases hphase : t.connection.phase with
  | atHead | dialing | finished | crashed => simp [goesOn, hphase] at hgoes
  | looking | serving | draining | writing =>
    exact (step_ends branch stores now t (by rw [hphase]; rfl)).weighed
  | parked =>
    simp only [goesOn, hphase] at hgoes
    simp only [step, hphase, if_pos hgoes]
    exact .of_phase rfl
  | greeting link rest =>
    simp only [step, hphase]
    exact t.greet_weighed link rest
  | waiting b =>
    simp only [goesOn, hphase] at hgoes
    simp only [step, hphase, if_pos hgoes]
    cases branch with
    | timer | nudge | shutdown => exact .of_phase rfl
    | woken =>
      unfold Connection.goOn
      dsimp only
      split
      · rintro b ⟨⟩
        rfl
      · exact .of_phase rfl
    | window | probe | send | receive => simp [canTake, hphase] at hgoes

end

end Keeper

end ChatSockets
