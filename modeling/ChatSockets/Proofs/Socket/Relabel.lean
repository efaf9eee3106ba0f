import ChatSockets.Proofs.Socket.Vigilance

/-!
# What a keeper does not look at

A keeper works on a link, but what it does has nothing to do with the number of the link; nor with
whether somebody waits for it to finish; and of the stores it needs only to know whether they forbid
its socket, apart from the handshake. `Connection.relabel` changes the number and the mark of those
who wait, and the step of a keeper commutes with it (`step_relabel`, `connected_relabel`,
`Connection.atHead_relabel`). So no step of a keeper sets the mark (`step_claimed`).
-/

namespace ChatSockets

open Keeper

namespace Keeper

/-- The socket, with another number for its link. -/
def Live.relabel (live : Live) (n : Nat) : Live := { live with link := n }

/-- The phase, with another number for the link. -/
def Phase.relabel (n : Nat) : Phase → Phase
  | .greeting _ rest => .greeting n rest
  | .looking live look => .looking (live.relabel n) look
  | .serving live window => .serving (live.relabel n) window
  | .draining live => .draining (live.relabel n)
  | .writing live rest purpose => .writing (live.relabel n) rest purpose
  | phase => phase

end Keeper

/-- The connection, with another number for its link, and claimed or not. -/
def Connection.relabel (c : Connection) (n : Nat) (claimed : Bool) : Connection :=
  { c with phase := c.phase.relabel n, claimed }

/-- The turn with its connection relabelled. -/
def Keeper.Turn.relabel (t : Turn) (n : Nat) (claimed : Bool) : Turn :=
  { t with connection := t.connection.relabel n claimed }

theorem Keeper.Turn.connection_relabel (t : Turn) (n : Nat) (claimed : Bool) :
    (t.relabel n claimed).connection = t.connection.relabel n claimed := rfl

theorem Keeper.Turn.link_relabel (t : Turn) (n : Nat) (claimed : Bool) :
    (t.relabel n claimed).link = t.link := rfl

theorem Keeper.Turn.claimed_relabel (t : Turn) (n : Nat) (claimed : Bool) :
    (t.relabel n claimed).connection.claimed = claimed := rfl

section

variable {stores stores' : Stores} (now n : Nat) (claimed : Bool)

namespace Connection

theorem relabel_self (c : Connection) (h : ∀ m, c.phase.link? = some m → m = n) :
    c.relabel n c.claimed = c := by
  have hphase : c.phase.relabel n = c.phase := by
    cases hp : c.phase with
    | greeting link rest =>
      obtain rfl := h link (by rw [hp]; rfl)
      rfl
    | looking live look =>
      obtain rfl := h live.link (by rw [hp]; rfl)
      rfl
    | serving live window =>
      obtain rfl := h live.link (by rw [hp]; rfl)
      rfl
    | draining live =>
      obtain rfl := h live.link (by rw [hp]; rfl)
      rfl
    | writing live rest purpose =>
      obtain rfl := h live.link (by rw [hp]; rfl)
      rfl
    | _ => rfl
  rw [relabel, hphase]

theorem relabel_relabel (c : Connection) (m : Nat) (claimed' : Bool) :
    (c.relabel m claimed').relabel n claimed = c.relabel n claimed := by
  have hphase : (c.phase.relabel m).relabel n = c.phase.relabel n := by cases c.phase <;> rfl
  show { c with phase := (c.phase.relabel m).relabel n, claimed } = _
  rw [hphase]
  rfl

theorem policy_relabel (c : Connection) : (c.relabel n claimed).policy = c.policy := rfl

theorem cycling_relabel (c : Connection) : (c.relabel n claimed).cycling = c.cycling := rfl

theorem outbox_relabel (c : Connection) : (c.relabel n claimed).outbox = c.outbox := rfl

theorem wantedBy_relabel (c : Connection) (counted : Nat)
    (h : stores'.forbids c.policy.socket = stores.forbids c.policy.socket) :
    (c.relabel n claimed).wantedBy counted stores' now = c.wantedBy counted stores now :=
  c.policy.wants_congr h now counted

theorem wanted_relabel (c : Connection)
    (h : stores'.forbids c.policy.socket = stores.forbids c.policy.socket) :
    (c.relabel n claimed).wanted stores' now = c.wanted stores now :=
  c.wantedBy_relabel now n claimed c.pending.size h

theorem backOff_relabel (c : Connection)
    (h : stores'.forbids c.policy.socket = stores.forbids c.policy.socket) :
    (c.relabel n claimed).backOff stores' now = (c.backOff stores now).relabel n claimed := by
  unfold backOff
  rw [c.wanted_relabel now n claimed h]
  split <;> rfl

theorem connectFailed_relabel (c : Connection) (e : ChatError)
    (h : stores'.forbids c.policy.socket = stores.forbids c.policy.socket) :
    (c.relabel n claimed).connectFailed stores' now e =
      (c.connectFailed stores now e).relabel n claimed :=
  backOff_relabel now n claimed ((c.transition .connectFailed).recordFailure e.message) h

/-- **The head of the loop** needs the handshake besides. -/
theorem atHead_relabel (c : Connection) (attempt : Attempt)
    (h : stores'.forbids c.policy.socket = stores.forbids c.policy.socket)
    (hhello : c.hello? stores' = c.hello? stores) :
    (c.relabel n claimed).atHead stores' now attempt =
      (c.atHead stores now attempt).relabel n claimed := by
  unfold atHead
  rw [c.wanted_relabel now n claimed h, policy_relabel]
  by_cases hshut : c.policy.shutDown = true
  · rw [if_pos hshut, if_pos hshut]
    rfl
  rw [if_neg hshut, if_neg hshut]
  by_cases hwanted : c.wanted stores now = true
  · rw [if_pos hwanted, if_pos hwanted]
    let dials := ({ c with cycling := false } : Connection).transition .connectStarted
    have hread : (dials.relabel n claimed).hello? stores' = dials.hello? stores := hhello
    dsimp only
    split
    · next hnone =>
      have hnone' : dials.hello? stores = none := hread.symm.trans hnone
      rw [show (({ c with cycling := false } : Connection).transition .connectStarted).hello? stores
        = none from hnone']
      exact dials.connectFailed_relabel now n claimed _ h
    · next hello hsome =>
      have hsome' : dials.hello? stores = some hello := hread.symm.trans hsome
      rw [show (({ c with cycling := false } : Connection).transition .connectStarted).hello? stores
        = some hello from hsome']
      rfl
  · rw [if_neg hwanted, if_neg hwanted]
    rfl

theorem goOn_relabel (c : Connection) (b : Backoff) (branch : Branch)
    (h : stores'.forbids c.policy.socket = stores.forbids c.policy.socket) :
    (c.relabel n claimed).goOn stores' now b branch =
      (c.goOn stores now b branch).relabel n claimed := by
  cases branch with
  | woken =>
    have hwanted := (c.withPolicy Policy.takeWake).wanted_relabel now n claimed h
    unfold goOn
    dsimp only
    rw [show ((c.relabel n claimed).withPolicy Policy.takeWake).wanted stores' now = _ from hwanted]
    split
    · rw [if_pos ‹_›]
      rfl
    · rw [if_neg ‹_›]
      rfl
  | _ => rfl

end Connection

namespace Keeper

theorem canTake_relabel (link : Link) (c : Connection) (branch : Branch) :
    canTake now link (c.relabel n claimed) branch = canTake now link c branch := by
  unfold canTake Connection.relabel
  cases branch with
  | window =>
    cases c.phase with
    | serving live window => cases window <;> rfl
    | _ => rfl
  | send =>
    cases c.phase with
    | serving live window => cases c.outbox with
      | none => rfl
      | some queue => cases queue <;> rfl
    | _ => rfl
  | _ => cases c.phase <;> rfl

namespace Turn

theorem close_relabel (t : Turn) (heard : Bool) (why : Close)
    (h : stores'.forbids t.connection.policy.socket = stores.forbids t.connection.policy.socket) :
    (t.relabel n claimed).close stores' now heard why =
      (t.close stores now heard why).relabel n claimed := by
  cases why with
  | failed reason =>
    cases heard with
    | true =>
      exact congrArg (fun c => ({ t with connection := c, link := t.link.close } : Turn))
        (t.connection.tearDown.resetDelay.backOff_relabel now n claimed h)
    | false =>
      exact congrArg (fun c => ({ t with connection := c, link := t.link.close } : Turn))
        ((t.connection.tearDown.recordFailure reason).backOff_relabel now n claimed h)
  | unwanted | cycled => rfl

theorem resume_relabel (t : Turn) (live : Live)
    (h : stores'.forbids t.connection.policy.socket = stores.forbids t.connection.policy.socket) :
    (t.relabel n claimed).resume stores' now (live.relabel n) =
      (t.resume stores now live).relabel n claimed := by
  unfold resume
  dsimp only
  rw [connection_relabel, Connection.cycling_relabel]
  by_cases hcycling : t.connection.cycling = true
  · rw [if_pos hcycling, if_pos hcycling]
    exact close_relabel now n claimed
      { t with connection := { t.connection with cycling := false } } live.heard .cycled h
  · rw [if_neg hcycling, if_neg hcycling]
    rfl

theorem look_relabel (t : Turn) (live : Live) (look : Look)
    (h : stores'.forbids t.connection.policy.socket = stores.forbids t.connection.policy.socket) :
    (t.relabel n claimed).look stores' now (live.relabel n) look =
      (t.look stores now live look).relabel n claimed := by
  cases look with
  | whetherWanted counted =>
    unfold Turn.look
    dsimp only
    rw [connection_relabel, t.connection.wantedBy_relabel now n claimed counted h]
    by_cases hwanted : t.connection.wantedBy counted stores now = true
    · rw [if_pos hwanted, if_pos hwanted]
      rfl
    · rw [if_neg hwanted, if_neg hwanted]
      exact t.close_relabel now n claimed live.heard .unwanted h
  | untilWhen => rfl

theorem opened_relabel (t : Turn) (link : Nat)
    (h : stores'.forbids t.connection.policy.socket = stores.forbids t.connection.policy.socket) :
    (t.relabel n claimed).opened stores' now n =
      (t.opened stores now link).relabel n claimed := by
  unfold opened
  dsimp only
  by_cases hrepeat : canRepeat now t.connection.config.keepalive = true
  · rw [if_pos (by exact hrepeat), if_pos (by exact hrepeat)]
    exact resume_relabel now n claimed
      { t with connection := { t.connection with outbox := some [] }.transition .opened }
      { link, probeAt := now + t.connection.config.keepalive } h
  · rw [if_neg (by exact hrepeat), if_neg (by exact hrepeat)]
    rfl

theorem greet_relabel (t : Turn) (link : Nat) (b : ByteArray)
    (h : stores'.forbids t.connection.policy.socket = stores.forbids t.connection.policy.socket) :
    (t.relabel n claimed).greet stores' now n b =
      (t.greet stores now link b).relabel n claimed := by
  unfold greet
  rw [link_relabel]
  cases t.link.up.write? b with
  | none =>
    exact congrArg (fun c => ({ t with connection := c, link := t.link.close } : Turn))
      (t.connection.connectFailed_relabel now n claimed .brokenPipe h)
  | some x =>
    obtain ⟨rest, up⟩ := x
    dsimp only
    by_cases hrest : rest.isEmpty = true
    · rw [if_pos hrest, if_pos hrest]
      exact opened_relabel now n claimed { t with link := { t.link with up } } link h
    · rw [if_neg hrest, if_neg hrest]
      rfl

theorem written_relabel (t : Turn) (live : Live) (purpose : Purpose)
    (h : stores'.forbids t.connection.policy.socket = stores.forbids t.connection.policy.socket) :
    (t.relabel n claimed).written stores' now (live.relabel n) purpose =
      (t.written stores now live purpose).relabel n claimed := by
  cases purpose with
  | probe id => exact t.resume_relabel now n claimed { live with awaiting := some id } h
  | request => exact t.resume_relabel now n claimed live h
  | reply => rfl

theorem write_relabel (t : Turn) (live : Live) (purpose : Purpose) (b : ByteArray)
    (h : stores'.forbids t.connection.policy.socket = stores.forbids t.connection.policy.socket) :
    (t.relabel n claimed).write stores' now (live.relabel n) purpose b =
      (t.write stores now live purpose b).relabel n claimed := by
  unfold write
  rw [link_relabel]
  cases t.link.up.write? b with
  | none => exact t.close_relabel now n claimed live.heard _ h
  | some x =>
    obtain ⟨rest, up⟩ := x
    dsimp only
    by_cases hrest : rest.isEmpty = true
    · rw [if_pos hrest, if_pos hrest]
      exact written_relabel now n claimed { t with link := { t.link with up } } live purpose h
    · rw [if_neg hrest, if_neg hrest]
      rfl

theorem writeMessage_relabel (t : Turn) (live : Live) (purpose : Purpose) (m : Wire.Message)
    (h : stores'.forbids t.connection.policy.socket = stores.forbids t.connection.policy.socket) :
    (t.relabel n claimed).writeMessage stores' now (live.relabel n) purpose m =
      (t.writeMessage stores now live purpose m).relabel n claimed := by
  unfold writeMessage
  cases Wire.Frame.encode m with
  | error e => exact t.close_relabel now n claimed live.heard _ h
  | ok frame => exact t.write_relabel now n claimed live purpose _ h

theorem answer_relabel (t : Turn) (r : Wire.Request) :
    (t.relabel n claimed).answer r = ((t.answer r).1, (t.answer r).2.relabel n claimed) := by
  unfold answer
  by_cases hmessage : r.verb = "PUT" ∧ r.path = Path.message
  · rw [if_pos hmessage, if_pos hmessage]
    rfl
  rw [if_neg hmessage, if_neg hmessage]
  by_cases hempty : r.verb = "PUT" ∧ r.path = Path.queueEmpty
  · rw [if_pos hempty, if_pos hempty]
    rfl
  · rw [if_neg hempty, if_neg hempty]

theorem accept_relabel (t : Turn) (live : Live) (r : Wire.Response) :
    (t.relabel n claimed).accept (live.relabel n) r = (t.accept live r).relabel n claimed := by
  unfold accept
  rw [show (live.relabel n).awaiting = live.awaiting from rfl]
  by_cases hawaiting : live.awaiting = some r.id
  · rw [if_pos hawaiting, if_pos hawaiting]
    rfl
  · rw [if_neg hawaiting, if_neg hawaiting]
    rfl

theorem handle_relabel (t : Turn) (live : Live) (m : Wire.Message)
    (h : stores'.forbids t.connection.policy.socket = stores.forbids t.connection.policy.socket) :
    (t.relabel n claimed).handle stores' now (live.relabel n) m =
      (t.handle stores now live m).relabel n claimed := by
  have hanswers : ∀ r, Turn.writeMessage ((t.relabel n claimed).answer r).2 stores' now
      (live.relabel n) .reply (.ofResponse ((t.relabel n claimed).answer r).1) =
        (Turn.writeMessage (t.answer r).2 stores now live .reply
          (.ofResponse (t.answer r).1)).relabel n claimed := by
    intro r
    have hsocket : (t.answer r).2.connection.policy = t.connection.policy := by
      unfold answer
      split
      · rfl
      · split <;> rfl
    rw [answer_relabel]
    exact writeMessage_relabel now n claimed _ live .reply _ (by rw [hsocket]; exact h)
  unfold handle
  cases m.kindOf with
  | response =>
    cases m.response with
    | none => rfl
    | some r => exact t.accept_relabel n claimed live r
  | request =>
    cases m.request with
    | none => rfl
    | some r => exact hanswers r
  | _ => rfl

theorem drain_relabel (t : Turn) (live : Live)
    (h : stores'.forbids t.connection.policy.socket = stores.forbids t.connection.policy.socket) :
    (t.relabel n claimed).drain stores' now (live.relabel n) =
      (t.drain stores now live).relabel n claimed := by
  unfold drain
  rw [show (live.relabel n).decoder = live.decoder from rfl]
  obtain ⟨next, decoder⟩ := live.decoder.next
  cases next with
  | error e => exact t.close_relabel now n claimed live.heard _ h
  | ok m? =>
    cases m? with
    | none => exact t.resume_relabel now n claimed live h
    | some m => exact t.handle_relabel now n claimed { live with decoder, heard := true } m h

theorem probe_relabel (t : Turn) (live : Live)
    (h : stores'.forbids t.connection.policy.socket = stores.forbids t.connection.policy.socket) :
    (t.relabel n claimed).probe stores' now (live.relabel n) =
      (t.probe stores now live).relabel n claimed := by
  unfold probe
  rw [show (live.relabel n).awaiting = live.awaiting from rfl]
  cases live.awaiting with
  | some id => exact t.close_relabel now n claimed live.heard _ h
  | none =>
    exact writeMessage_relabel now n claimed
      { t with connection := { t.connection with pending := t.connection.pending.draw.2 } }
      { live with
        probeAt := nextProbe live.probeAt now t.connection.config.keepalive
        awaiting := none } _ _ h

theorem sendNext_relabel (t : Turn) (live : Live)
    (h : stores'.forbids t.connection.policy.socket = stores.forbids t.connection.policy.socket) :
    (t.relabel n claimed).sendNext stores' now (live.relabel n) =
      (t.sendNext stores now live).relabel n claimed := by
  unfold sendNext
  rw [connection_relabel, Connection.outbox_relabel]
  cases t.connection.outbox with
  | none => rfl
  | some queue =>
    cases queue with
    | nil => rfl
    | cons m rest =>
      exact writeMessage_relabel now n claimed
        { t with connection := { t.connection with outbox := some rest } } live .request m h

theorem receive_relabel (t : Turn) (live : Live)
    (h : stores'.forbids t.connection.policy.socket = stores.forbids t.connection.policy.socket) :
    (t.relabel n claimed).receive stores' now (live.relabel n) =
      (t.receive stores now live).relabel n claimed := by
  unfold receive
  rw [link_relabel]
  obtain ⟨found, down⟩ := t.link.down.read Pipe.readSize
  cases found with
  | nothing => rfl
  | ended => exact t.close_relabel now n claimed live.heard _ h
  | bytes b => rfl

theorem serve_relabel (t : Turn) (live : Live) (branch : Branch)
    (h : stores'.forbids t.connection.policy.socket = stores.forbids t.connection.policy.socket) :
    (t.relabel n claimed).serve stores' now (live.relabel n) branch =
      (t.serve stores now live branch).relabel n claimed := by
  cases branch with
  | woken => exact t.takeWake.resume_relabel now n claimed live h
  | window => exact t.resume_relabel now n claimed live h
  | probe => exact t.probe_relabel now n claimed live h
  | send => exact t.sendNext_relabel now n claimed live h
  | receive => exact t.receive_relabel now n claimed live h
  | timer | nudge | shutdown => rfl

end Turn

/-- **A step of a keeper** has nothing to do with the number of its link, with those who wait for it
to finish, and with what the stores hold beyond whether they forbid its socket. -/
theorem step_relabel (branch : Branch) (t : Turn)
    (h : stores'.forbids t.connection.policy.socket = stores.forbids t.connection.policy.socket) :
    step branch stores' now (t.relabel n claimed) =
      (step branch stores now t).relabel n claimed := by
  have htake := canTake_relabel now n claimed t.link t.connection branch
  have hphase' : (t.relabel n claimed).connection.phase = t.connection.phase.relabel n := rfl
  cases hphase : t.connection.phase with
  | parked =>
    rw [hphase] at hphase'
    simp only [step, hphase, hphase', Phase.relabel]
    rw [show canTake now (t.relabel n claimed).link (t.relabel n claimed).connection branch =
      canTake now t.link t.connection branch from htake]
    split <;> rfl
  | greeting link rest =>
    rw [hphase] at hphase'
    simp only [step, hphase, hphase', Phase.relabel]
    exact t.greet_relabel now n claimed link rest h
  | looking live look =>
    rw [hphase] at hphase'
    simp only [step, hphase, hphase', Phase.relabel]
    exact t.look_relabel now n claimed live look h
  | serving live window =>
    rw [hphase] at hphase'
    simp only [step, hphase, hphase', Phase.relabel]
    rw [show canTake now (t.relabel n claimed).link (t.relabel n claimed).connection branch =
      canTake now t.link t.connection branch from htake]
    split
    · exact t.serve_relabel now n claimed live branch h
    · rfl
  | draining live =>
    rw [hphase] at hphase'
    simp only [step, hphase, hphase', Phase.relabel]
    exact t.drain_relabel now n claimed live h
  | writing live rest purpose =>
    rw [hphase] at hphase'
    simp only [step, hphase, hphase', Phase.relabel]
    exact t.write_relabel now n claimed live purpose rest h
  | waiting b =>
    rw [hphase] at hphase'
    simp only [step, hphase, hphase', Phase.relabel]
    rw [show canTake now (t.relabel n claimed).link (t.relabel n claimed).connection branch =
      canTake now t.link t.connection branch from htake]
    split
    · exact congrArg (fun c => ({ t with connection := c } : Turn))
        (t.connection.goOn_relabel now n claimed b branch h)
    · rfl
  | atHead | dialing | finished | crashed =>
    rw [hphase] at hphase'
    simp only [step, hphase, hphase', Phase.relabel]

/-- So has a keeper whose connection is there; its link has a new number anyway. -/
theorem connected_relabel (link : Nat) (hello : Wire.Handshake) (t : Turn)
    (h : stores'.forbids t.connection.policy.socket = stores.forbids t.connection.policy.socket) :
    connected stores' now n hello (t.relabel n claimed) =
      (connected stores now link hello t).relabel n claimed := by
  unfold connected
  split
  · next e he =>
    exact congrArg (fun c => ({ t with connection := c, link := t.link.close } : Turn))
      (t.connection.connectFailed_relabel now n claimed (.codec e) h)
  · next frame hframe => exact t.greet_relabel now n claimed link frame h

end Keeper

end

/-! ## Those who wait -/

section

variable (stores : Stores) (now : Nat)

/-- **A step of a keeper** leaves the mark of those who wait as it is. -/
theorem Keeper.step_claimed (branch : Branch) (t : Turn) :
    (step branch stores now t).connection.claimed = t.connection.claimed := by
  let n := t.connection.phase.link?.getD 0
  have hself : t.relabel n t.connection.claimed = t := by
    rw [Turn.relabel, t.connection.relabel_self n fun m hm => by
      show m = t.connection.phase.link?.getD 0
      rw [hm]
      rfl]
  have hstep : step branch stores now (t.relabel n t.connection.claimed) = _ :=
    step_relabel now n t.connection.claimed branch t rfl
  rw [hself] at hstep
  exact (congrArg (fun t' : Turn => t'.connection.claimed) hstep).trans
    (Turn.claimed_relabel _ n t.connection.claimed)

theorem Keeper.connected_claimed (link : Nat) (hello : Wire.Handshake) (t : Turn)
    (hlink : t.connection.phase.link? = none) :
    (connected stores now link hello t).connection.claimed = t.connection.claimed := by
  have hself : t.relabel link t.connection.claimed = t := by
    rw [Turn.relabel, t.connection.relabel_self link fun m hm => by rw [hlink] at hm; cases hm]
  have hstep : connected stores now link hello (t.relabel link t.connection.claimed) = _ :=
    connected_relabel now link t.connection.claimed link hello t rfl
  rw [hself] at hstep
  exact (congrArg (fun t' : Turn => t'.connection.claimed) hstep).trans
    (Turn.claimed_relabel _ link t.connection.claimed)

namespace Connection

theorem connectFailed_claimed (c : Connection) (e : ChatError) :
    (c.connectFailed stores now e).claimed = c.claimed := by
  unfold connectFailed backOff
  split <;> rfl

theorem atHead_claimed (c : Connection) (attempt : Attempt) :
    (c.atHead stores now attempt).claimed = c.claimed := by
  unfold atHead
  split
  · rfl
  · split
    · dsimp only
      split
      · exact connectFailed_claimed stores now _ _
      · rfl
    · rfl

end Connection

end

end ChatSockets
