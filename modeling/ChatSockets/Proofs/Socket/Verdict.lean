import ChatSockets.Proofs.Socket.Closing

/-!
# What a step makes of an open socket

A keeper that has an open socket closes it in a step or keeps it, and what the step finds decides
which (`Keeper.closing?`). `Turn.Fares` says what the keeper has afterwards in either case, and
`step_fares` that there is nothing else: a socket that is kept has the link that it had, and its
probe waits on unless the response to it was taken in the step; neither case changes how long the
next wait after a failure is, but for what the closing itself does to it.
-/

namespace ChatSockets

/-- Whether a message is the response to a request with an id. -/
def Wire.Message.answers (m : Wire.Message) (id : UInt64) : Bool :=
  m.kindOf = .response && m.response.any (·.id = id)

/-- A connection after a change that has nothing to do with its failures and with its next wait
after one. -/
structure Connection.SamePace (c c' : Connection) : Prop where
  config : c'.config = c.config
  delay : c'.delay = c.delay
  failures : c'.failures = c.failures
  lastFailure : c'.lastFailure = c.lastFailure

theorem Connection.SamePace.refl (c : Connection) : c.SamePace c := ⟨rfl, rfl, rfl, rfl⟩

theorem Connection.SamePace.trans {c c' c'' : Connection} (h : c.SamePace c')
    (h' : c'.SamePace c'') : c.SamePace c'' :=
  ⟨h'.config.trans h.config, h'.delay.trans h.delay, h'.failures.trans h.failures,
    h'.lastFailure.trans h.lastFailure⟩

namespace Keeper

open Wire

/-- Whether anything was heard on an open socket. -/
def Phase.heard (p : Phase) : Bool := p.live?.any Live.heard

/-! ## What decides -/

/-- Why the loop of an open socket ends as it begins anew, if it does. -/
def Turn.resumeClose? (t : Turn) : Option Close :=
  if t.connection.cycling then some .cycled else none

/-- Why an open socket is closed as its keeper looks whether it is wanted, if it is. -/
def Turn.lookClose? (t : Turn) (stores : Stores) (now : Nat) : Look → Option Close
  | .whetherWanted counted =>
    if t.connection.wantedBy counted stores now then none else some .unwanted
  | .untilWhen => none

/-- Why an open socket is closed as the rest of a frame is written, if it is. A keeper that answered
the server goes on with its decoder. -/
def Turn.writeClose? (t : Turn) (purpose : Purpose) (b : ByteArray) : Option Close :=
  match t.link.up.write? b with
  | none => some (writeFailure purpose .brokenPipe)
  | some (rest, _) =>
    if rest.isEmpty && purpose != .reply then t.resumeClose? else none

/-- Why an open socket is closed as a message is written, if it is. -/
def Turn.messageClose? (t : Turn) (purpose : Purpose) (m : Message) : Option Close :=
  match Frame.encode m with
  | .error e => some (writeFailure purpose (.codec e))
  | .ok frame => t.writeClose? purpose frame

/-- Why an open socket is closed as a keeper goes on with it, if it is. -/
def Turn.serveClose? (t : Turn) (live : Live) : Branch → Option Close
  | .woken | .window => t.resumeClose?
  | .probe =>
    match live.awaiting with
    | some id => some (.failed s!"keepalive {id} went unanswered")
    | none =>
      let id := t.connection.pending.draw.1
      t.messageClose? (.probe id) (.ofRequest (.plain id "GET" Path.keepalive))
  | .send => t.connection.queued.head?.bind (t.messageClose? .request)
  | .receive =>
    match t.link.down.read Pipe.readSize with
    | (.ended, _) => some (.failed "server closed connection")
    | _ => none
  | .timer | .nudge | .shutdown => none

/-- Why an open socket is closed as a message is taken from the decoder, if it is. -/
def Turn.drainClose? (t : Turn) (live : Live) : Option Close :=
  match live.decoder.next with
  | (.ok none, _) => t.resumeClose?
  | (.error e, _) => some (.failed s!"bad frame: {e.message}")
  | (.ok (some m), _) =>
    match m.kindOf, m.request with
    | .request, some r => t.messageClose? .reply (.ofResponse (t.answer r).1)
    | _, _ => none

/-- Why a socket is closed as soon as it is open, if it is. -/
def Turn.openClose? (t : Turn) (now : Nat) : Option Close :=
  if canRepeat now t.connection.config.keepalive then t.resumeClose? else none

/-- Why a socket is closed as soon as its handshake is written, if it is. -/
def Turn.greetClose? (t : Turn) (now : Nat) (b : ByteArray) : Option Close :=
  match t.link.up.write? b with
  | none => none
  | some (rest, _) => if rest.isEmpty then t.openClose? now else none

/-- Why a keeper closes its open socket in a step, if it does. -/
def closing? (branch : Branch) (stores : Stores) (now : Nat) (t : Turn) : Option Turn.Close :=
  match t.connection.phase with
  | .serving live _ =>
    if canTake now t.link t.connection branch then t.serveClose? live branch else none
  | .looking _ look => t.lookClose? stores now look
  | .draining live => t.drainClose? live
  | .writing _ rest purpose => t.writeClose? purpose rest
  | .greeting _ rest => t.greetClose? now rest
  | _ => none

/-- Why a socket is closed in the step in which its keeper has a new link, if it is. -/
def connectedClose? (now : Nat) (hello : Handshake) (t : Turn) : Option Turn.Close :=
  match Frame.encode (.ofHandshake hello) with
  | .error _ => none
  | .ok frame => t.greetClose? now frame

/-- Why a handshake cannot be written, if it cannot. -/
def Turn.greetError? (t : Turn) (b : ByteArray) : Option ChatError :=
  if (t.link.up.write? b).isNone then some .brokenPipe else none

/-- Why a keeper with a new link fails to open its socket, if it does. -/
def connectedError? (hello : Handshake) (t : Turn) : Option ChatError :=
  match Frame.encode (.ofHandshake hello) with
  | .error e => some (.codec e)
  | .ok frame => t.greetError? frame

/-- Why a keeper that is neither at the head of its loop nor dialing fails to open its socket in a
step, if it does. -/
def error? (t : Turn) : Option ChatError :=
  match t.connection.phase with
  | .greeting _ rest => t.greetError? rest
  | _ => none

/-! ## What is left -/

/-- What a keeper has after a step with an open socket on a link, which it closed for a reason or
kept: the probes that wait, of which there is one at most, and whether a message was ever taken. -/
inductive Turn.Fares (c : Connection) (stores : Stores) (now link : Nat) (heard : Bool)
    (probes : List UInt64) : Option Close → Turn → Prop
  | keeps (t' : Turn) (live : Live) (hlive : t'.connection.phase.live? = some live)
    (hlink : live.link = link) (hheard : live.heard = heard)
    (hprobes : probes.length ≤ 1 → t'.connection.phase.probes = probes)
    (hpace : c.SamePace t'.connection) : Fares c stores now link heard probes none t'
  | closes (u : Turn) (why : Close) (hpace : c.SamePace u.connection) :
    Fares c stores now link heard probes (some why) (u.close stores now heard why)

section

variable {stores : Stores} {now : Nat} {t : Turn}

variable {c c' : Connection} {link : Nat} {heard : Bool} {probes probes' : List UInt64}
  {error : Option ChatError} {why : Option Turn.Close} {t' : Turn}

/-- It only counts which probes wait as long as there is one at most. -/
theorem Turn.Fares.of_probes (hsame : probes'.length ≤ 1 → probes' = probes)
    (h : Fares c stores now link heard probes why t') :
    Fares c stores now link heard probes' why t' := by
  cases h with
  | keeps _ live hlive hlink hheard hprobes hpace =>
    refine .keeps _ live hlive hlink hheard (fun hone => ?_) hpace
    obtain rfl := hsame hone
    exact hprobes hone
  | closes u why hpace => exact .closes u why hpace

/-- A turn that differs from another in nothing that decides whether its socket is closed, and how
long the next wait is. -/
structure Turn.Agrees (t u : Turn) : Prop where
  pace : t.connection.SamePace u.connection
  cycling : u.connection.cycling = t.connection.cycling

theorem Turn.Agrees.refl (t : Turn) : t.Agrees t := ⟨.refl _, rfl⟩

theorem Turn.resume_fares {u : Turn} (h : t.Agrees u) (live : Live) :
    Fares t.connection stores now live.link live.heard live.awaiting.toList
      t.resumeClose? (u.resume stores now live) := by
  obtain ⟨hpace, hcycling⟩ := h
  unfold Turn.resumeClose? Turn.resume
  rw [← hcycling]
  dsimp only
  split
  · exact .closes _ _ (hpace.trans ⟨rfl, rfl, rfl, rfl⟩)
  · exact .keeps _ live rfl rfl rfl (fun _ => rfl) (hpace.trans ⟨rfl, rfl, rfl, rfl⟩)

theorem Turn.look_fares (t : Turn) (stores : Stores) (now : Nat) (live : Live) (look : Look) :
    Fares t.connection stores now live.link live.heard live.awaiting.toList
      (t.lookClose? stores now look) (t.look stores now live look) := by
  cases look with
  | whetherWanted counted =>
    unfold Turn.lookClose? Turn.look
    dsimp only
    split
    · exact .keeps _ live rfl rfl rfl (fun _ => rfl) ⟨rfl, rfl, rfl, rfl⟩
    · exact .closes _ _ (.refl _)
  | untilWhen => exact .keeps _ live rfl rfl rfl (fun _ => rfl) ⟨rfl, rfl, rfl, rfl⟩

theorem Turn.write_fares {u : Turn} (h : t.Agrees u) (hlink : u.link = t.link)
    (live : Live) (purpose : Purpose) (b : ByteArray) :
    Fares t.connection stores now live.link live.heard
      (live.awaiting.toList ++ purpose.probe?.toList) (t.writeClose? purpose b)
      (u.write stores now live purpose b) := by
  unfold Turn.writeClose? Turn.write
  rw [hlink]
  cases hwrite : t.link.up.write? b with
  | none => exact .closes _ _ h.pace
  | some x =>
    obtain ⟨rest, up⟩ := x
    dsimp only
    cases hempty : rest.isEmpty with
    | false => exact .keeps _ live rfl rfl rfl (fun _ => rfl) (h.pace.trans ⟨rfl, rfl, rfl, rfl⟩)
    | true =>
      have hwritten : t.Agrees { u with link := { t.link with up } } :=
        ⟨h.pace, h.cycling⟩
      cases purpose with
      | reply =>
        exact .keeps _ live rfl rfl rfl (fun _ => (List.append_nil _).symm)
          (h.pace.trans ⟨rfl, rfl, rfl, rfl⟩)
      | request => exact .of_probes (fun _ => List.append_nil _) (Turn.resume_fares hwritten live)
      | probe id =>
        refine .of_probes (fun hone => ?_)
          (Turn.resume_fares hwritten { live with awaiting := some id })
        -- the probe that was written is the only one, so none waited before
        have hnone : live.awaiting = none := by
          cases hawaiting : live.awaiting with
          | none => rfl
          | some id' => simp [hawaiting, Purpose.probe?] at hone
        rw [hnone]
        rfl

theorem Turn.writeMessage_fares {u : Turn} (h : t.Agrees u) (hlink : u.link = t.link)
    (live : Live) (purpose : Purpose) (m : Message) :
    Fares t.connection stores now live.link live.heard
      (live.awaiting.toList ++ purpose.probe?.toList) (t.messageClose? purpose m)
      (u.writeMessage stores now live purpose m) := by
  unfold Turn.messageClose? Turn.writeMessage
  cases Frame.encode m with
  | error e => exact .closes u _ h.pace
  | ok frame => exact Turn.write_fares h hlink live purpose frame

/-- The probes that wait after a step that may take a message and set out to write one. -/
def settled (probes : List UInt64) (uttered : Option (Purpose × Message))
    (heard : Option Message) : List UInt64 :=
  probes.filter (fun id => !heard.any (·.answers id)) ++ (uttered.bind (·.1.probe?)).toList

theorem settled_unheard (probes : List UInt64) (uttered : Option (Purpose × Message)) :
    settled probes uttered none = probes ++ (uttered.bind (·.1.probe?)).toList := by
  simp [settled]

theorem Turn.serve_fares (t : Turn) (stores : Stores) (now : Nat) {live : Live}
    {window : Option Nat} (branch : Branch) (hphase : t.connection.phase = .serving live window)
    (htake : canTake now t.link t.connection branch = true) :
    Fares t.connection stores now live.link live.heard
      (settled live.awaiting.toList (utters branch now t) none)
      (t.serveClose? live branch) (t.serve stores now live branch) := by
  have hstays : Fares t.connection stores now live.link live.heard live.awaiting.toList none t :=
    .keeps t live (by rw [hphase]; rfl) rfl rfl (fun _ => by rw [hphase]; rfl) (.refl _)
  have hsilent : ∀ {why : Option Turn.Close} {t' : Turn}, utters branch now t = none →
      Fares t.connection stores now live.link live.heard live.awaiting.toList why t' →
      Fares t.connection stores now live.link live.heard
        (settled live.awaiting.toList (utters branch now t) none) why t' := by
    intro why t' hno h
    rw [hno, settled_unheard]
    exact .of_probes (fun _ => List.append_nil _) h
  unfold Turn.serveClose? Turn.serve
  cases branch with
  | woken =>
    have hwake : t.Agrees t.takeWake := ⟨⟨rfl, rfl, rfl, rfl⟩, rfl⟩
    exact hsilent (by simp [utters, hphase]) (Turn.resume_fares hwake live)
  | window => exact hsilent (by simp [utters, hphase]) (Turn.resume_fares (.refl t) live)
  | probe =>
    dsimp only [Turn.probe]
    cases hawaiting : live.awaiting with
    | some id => exact .closes t _ (.refl _)
    | none =>
      have hutters : utters .probe now t = some (.probe t.connection.pending.draw.1,
          .ofRequest (.plain t.connection.pending.draw.1 "GET" Path.keepalive)) := by
        simp [utters, hphase, htake, hawaiting]
      have hdrawn : t.Agrees { t with
          connection := { t.connection with pending := t.connection.pending.draw.2 } } :=
        ⟨⟨rfl, rfl, rfl, rfl⟩, rfl⟩
      rw [hutters, settled_unheard]
      exact Turn.writeMessage_fares hdrawn rfl
        { live with
          probeAt := nextProbe live.probeAt now t.connection.config.keepalive
          awaiting := none }
        (.probe t.connection.pending.draw.1) _
  | send =>
    dsimp only [Turn.sendNext, Connection.queued]
    cases houtbox : t.connection.outbox with
    | none => simp [canTake, hphase, houtbox] at htake
    | some queue =>
      cases queue with
      | nil => simp [canTake, hphase, houtbox] at htake
      | cons m rest =>
        have hutters : utters .send now t = some (.request, m) := by
          simp [utters, hphase, htake, Connection.queued, houtbox]
        have htaken : t.Agrees
            { t with connection := { t.connection with outbox := some rest } } :=
          ⟨⟨rfl, rfl, rfl, rfl⟩, rfl⟩
        rw [hutters, settled_unheard]
        exact Turn.writeMessage_fares htaken rfl live .request m
  | receive =>
    refine hsilent (by simp [utters, hphase]) ?_
    dsimp only [Turn.receive]
    cases t.link.down.read Pipe.readSize with
    | mk result down =>
      cases result with
      | nothing => exact hstays
      | ended => exact .closes t _ (.refl _)
      | bytes b => exact .keeps _ _ rfl rfl rfl (fun _ => rfl) ⟨rfl, rfl, rfl, rfl⟩
  | timer | nudge | shutdown => exact hsilent (by simp [utters, hphase]) hstays

/-- The answer to the server decides nothing. -/
theorem Turn.answer_agrees (t : Turn) (r : Wire.Request) :
    t.Agrees (t.answer r).2 ∧ (t.answer r).2.link = t.link := by
  unfold Turn.answer
  split
  · exact ⟨⟨⟨rfl, rfl, rfl, rfl⟩, rfl⟩, rfl⟩
  · split
    · exact ⟨⟨⟨rfl, rfl, rfl, rfl⟩, rfl⟩, rfl⟩
    · exact ⟨.refl t, rfl⟩

/-- A response that is taken answers the probe that waits, or leaves it waiting. -/
theorem Turn.probes_accept (t : Turn) (live : Live) (r : Wire.Response) :
    (t.accept live r).connection.phase.probes =
      live.awaiting.toList.filter (fun id => r.id ≠ id) := by
  unfold Turn.accept
  split
  · next hawaiting => simp [hawaiting, Phase.probes]
  · next hawaiting =>
    cases hlive : live.awaiting with
    | none => simp [hlive, Phase.probes]
    | some id =>
      have hne : r.id ≠ id := fun h => hawaiting (by rw [hlive, h])
      simp [hlive, hne, Phase.probes]

/-- **A message that is taken** is handled, and nothing else of the socket changes. -/
theorem Turn.handle_fares (t : Turn) (stores : Stores) (now : Nat) (branch : Branch) {live : Live}
    {decoder : Decoder} {m : Message} (hphase : t.connection.phase = .draining live)
    (hnext : live.decoder.next = (.ok (some m), decoder)) :
    Fares t.connection stores now live.link true
      (settled live.awaiting.toList (utters branch now t) (some m))
      (t.drainClose? live)
      (t.handle stores now { live with decoder, heard := true } m) := by
  have hhears : hears t = some m := by simp only [hears, hphase, hnext]
  -- a message that answers nothing leaves the probe waiting
  have hnoted : utters branch now t = none → (∀ id, m.answers id = false) →
      Fares t.connection stores now live.link true
        (settled live.awaiting.toList (utters branch now t) (some m)) none
        { t with connection := { t.connection with
          phase := .draining { live with decoder, heard := true } } } := by
    intro hsilent hno
    refine .keeps _ _ rfl rfl rfl (fun _ => ?_) ⟨rfl, rfl, rfl, rfl⟩
    simp [settled, hsilent, hno, Phase.probes]
  unfold Turn.drainClose? Turn.handle
  simp only [hnext]
  cases hkind : m.kindOf with
  | response =>
    have hsilent : utters branch now t = none := by simp only [utters, hphase, hhears, hkind]
    cases hresponse : m.response with
    | none => exact hnoted hsilent (by simp [Message.answers, hresponse])
    | some r =>
      have haccept := t.probes_accept { live with decoder, heard := true } r
      have hkept : ∃ live', (t.accept { live with decoder, heard := true } r).connection.phase =
          .draining live' ∧ live'.link = live.link ∧ live'.heard = true ∧
          t.connection.SamePace (t.accept { live with decoder, heard := true } r).connection := by
        unfold Turn.accept
        split <;> exact ⟨_, rfl, rfl, rfl, rfl, rfl, rfl, rfl⟩
      obtain ⟨live', hphase', hlink, hheard, hpace⟩ := hkept
      refine .keeps _ live' (by rw [hphase']; rfl) hlink hheard (fun _ => ?_) hpace
      rw [haccept, settled, hsilent]
      simp [Message.answers, hkind, hresponse]
  | request =>
    have hno : ∀ id, m.answers id = false := by simp [Message.answers, hkind]
    cases hrequest : m.request with
    | none => exact hnoted (by simp only [utters, hphase, hhears, hkind, hrequest]) hno
    | some r =>
      have hutters : utters branch now t = some (.reply, .ofResponse (t.answer r).1) := by
        simp only [utters, hphase, hhears, hkind, hrequest]
      obtain ⟨hanswer, hlink⟩ := t.answer_agrees r
      refine .of_probes (fun _ => ?_) (Turn.writeMessage_fares hanswer hlink
        { live with decoder, heard := true } .reply (.ofResponse (t.answer r).1))
      simp [settled, hutters, hno]
  | unknown | handshake =>
    refine hnoted ?_ (by simp [Message.answers, hkind])
    simp only [utters, hphase, hhears, hkind]

/-- **A step of a keeper with an open socket** closes it for the reason that it finds, or keeps
it. -/
theorem step_fares (branch : Branch) (stores : Stores) (now : Nat) {t : Turn} {live : Live}
    (hlive : t.connection.phase.live? = some live) :
    Turn.Fares t.connection stores now live.link (live.heard || (hears t).isSome)
      (settled t.connection.phase.probes (utters branch now t) (hears t))
      (closing? branch stores now t) (step branch stores now t) := by
  cases hphase : t.connection.phase with
  | serving live' window =>
    obtain rfl : live' = live := by rw [hphase] at hlive; exact Option.some.inj hlive
    have hhears : hears t = none := by simp only [hears, hphase]
    rw [hhears, Option.isSome_none, Bool.or_false]
    simp only [closing?, step, hphase]
    cases htake : canTake now t.link t.connection branch with
    | true => exact t.serve_fares stores now branch hphase htake
    | false =>
      have hsilent : utters branch now t = none := by simp [utters, hphase, htake]
      refine .keeps t live' (by rw [hphase]; rfl) rfl rfl (fun _ => ?_) (.refl _)
      rw [hsilent, settled_unheard, hphase]
      exact (List.append_nil _).symm
  | draining live' =>
    obtain rfl : live' = live := by rw [hphase] at hlive; exact Option.some.inj hlive
    have hsilent : hears t = none → utters branch now t = none := fun hno => by
      simp only [utters, hphase, hno]
    cases hnext : live'.decoder.next with
    | mk found decoder =>
      cases found with
      | error e =>
        have hhears : hears t = none := by simp only [hears, hphase, hnext]
        rw [hhears, hsilent hhears, Option.isSome_none, Bool.or_false]
        simp only [closing?, step, hphase, Turn.drainClose?, Turn.drain, hnext]
        exact .closes t _ (.refl _)
      | ok m =>
        have hhears : hears t = m := by simp only [hears, hphase, hnext]
        rw [hhears]
        cases m with
        | none =>
          rw [hsilent hhears, Option.isSome_none, Bool.or_false, settled_unheard]
          simp only [closing?, step, hphase, Turn.drainClose?, Turn.drain, hnext]
          refine .of_probes (fun _ => List.append_nil _) ?_
          exact Turn.resume_fares (.refl t) live'
        | some m =>
          have hhandle := t.handle_fares stores now branch hphase hnext
          rw [Option.isSome_some, Bool.or_true]
          simp only [closing?, step, hphase, Turn.drain, hnext]
          exact hhandle
  | looking live' look =>
    obtain rfl : live' = live := by rw [hphase] at hlive; exact Option.some.inj hlive
    have hhears : hears t = none := by simp only [hears, hphase]
    have hsilent : utters branch now t = none := by simp only [utters, hphase]
    rw [hhears, hsilent, Option.isSome_none, Bool.or_false, settled_unheard]
    simp only [closing?, step, hphase]
    exact .of_probes (fun _ => List.append_nil _) (t.look_fares stores now live' look)
  | writing live' rest purpose =>
    obtain rfl : live' = live := by rw [hphase] at hlive; exact Option.some.inj hlive
    have hhears : hears t = none := by simp only [hears, hphase]
    have hsilent : utters branch now t = none := by simp only [utters, hphase]
    rw [hhears, hsilent, Option.isSome_none, Bool.or_false, settled_unheard]
    simp only [closing?, step, hphase]
    refine .of_probes (fun _ => List.append_nil _) ?_
    exact Turn.write_fares (.refl t) rfl live' purpose rest
  | _ => rw [hphase] at hlive; cases hlive

/-! ## The handshake -/

/-- What a keeper has after a step in which it failed to write its handshake on a link, or wrote it
or a part of it, and perhaps crashed. -/
inductive Turn.Opens (c : Connection) (stores : Stores) (now link : Nat) :
    Option ChatError → Option Close → Turn → Prop
  | fails (t' : Turn) (e : ChatError) (h : t'.connection = c.connectFailed stores now e) :
    Opens c stores now link (some e) none t'
  | waits (t' : Turn) (rest : ByteArray) (hphase : t'.connection.phase = .greeting link rest)
    (hpace : c.SamePace t'.connection) : Opens c stores now link none none t'
  | crashes (t' : Turn) (hphase : t'.connection.phase = .crashed)
    (hpace : c.SamePace t'.connection) (htimer : canRepeat now c.config.keepalive = false) :
    Opens c stores now link none none t'
  | opened (why : Option Close) (t' : Turn) (h : Fares c stores now link false [] why t')
    (htimer : canRepeat now c.config.keepalive = true) : Opens c stores now link none why t'

theorem Turn.opened_opens (t : Turn) (stores : Stores) (now link : Nat) :
    Opens t.connection stores now link none (t.openClose? now) (t.opened stores now link) := by
  let u : Turn :=
    { t with connection := { t.connection with outbox := some [] }.transition .opened }
  have hagrees : t.Agrees u := ⟨⟨rfl, rfl, rfl, rfl⟩, rfl⟩
  have hconfig : u.connection.config = t.connection.config := rfl
  unfold Turn.openClose? Turn.opened
  show Opens _ _ _ _ _ _ (if canRepeat now u.connection.config.keepalive then _ else _)
  rw [hconfig]
  split
  · next htimer =>
    exact .opened _ _ (Turn.resume_fares hagrees
      { link, probeAt := now + t.connection.config.keepalive }) htimer
  · next hno => exact .crashes _ rfl ⟨rfl, rfl, rfl, rfl⟩ (by simpa using hno)

theorem Turn.greet_opens (t : Turn) (stores : Stores) (now link : Nat) (b : ByteArray) :
    Opens t.connection stores now link (t.greetError? b) (t.greetClose? now b)
      (t.greet stores now link b) := by
  unfold Turn.greetError? Turn.greetClose? Turn.greet
  cases hwrite : t.link.up.write? b with
  | none => exact .fails _ .brokenPipe rfl
  | some x =>
    obtain ⟨rest, up⟩ := x
    dsimp only
    cases hempty : rest.isEmpty with
    | false => exact .waits _ rest rfl ⟨rfl, rfl, rfl, rfl⟩
    | true => exact Turn.opened_opens { t with link := { t.link with up } } stores now link

theorem connected_opens (stores : Stores) (now link : Nat) (hello : Handshake) (t : Turn) :
    Turn.Opens t.connection stores now link (connectedError? hello t)
      (connectedClose? now hello t) (connected stores now link hello t) := by
  unfold connectedError? connectedClose? connected
  cases Frame.encode (.ofHandshake hello) with
  | error e => exact .fails _ (.codec e) rfl
  | ok frame => exact t.greet_opens stores now link frame

/-- **A step of a keeper that writes its handshake** fails, goes on with it, or opens the socket. -/
theorem step_opens (branch : Branch) (stores : Stores) (now : Nat) {t : Turn} {link : Nat}
    {rest : ByteArray} (hphase : t.connection.phase = .greeting link rest) :
    Turn.Opens t.connection stores now link (error? t) (closing? branch stores now t)
      (step branch stores now t) := by
  simp only [error?, closing?, step, hphase]
  exact t.greet_opens stores now link rest

/-! ## A link that is kept -/

/-- A keeper with a link greets on it or has an open socket. -/
theorem Phase.link?_cases {p : Phase} {n : Nat} (h : p.link? = some n) :
    (∃ rest, p = .greeting n rest) ∨ ∃ live, p.live? = some live ∧ live.link = n := by
  cases p with
  | greeting link rest => exact .inl ⟨rest, by rw [Option.some.inj h]⟩
  | looking live | serving live | draining live | writing live =>
    exact .inr ⟨live, rfl, Option.some.inj h⟩
  | _ => cases h

/-- A keeper that has a link after such a step has the same one, knows what was heard on it, and has
the probes that wait. -/
theorem Turn.Fares.of_link? (h : Fares c stores now link heard probes why t') {n : Nat}
    (hn : t'.connection.phase.link? = some n) : n = link ∧ t'.connection.phase.heard = heard ∧
      (probes.length ≤ 1 → t'.connection.phase.probes = probes) := by
  cases h with
  | keeps _ live hlive hlink hheard hprobes =>
    have hopen : t'.connection.phase.openLink? = some live.link := congrArg (·.map Live.link) hlive
    rw [Phase.link?_of_openLink? hopen] at hn
    refine ⟨(Option.some.inj hn).symm.trans hlink, ?_, hprobes⟩
    rw [Phase.heard, hlive]
    exact hheard
  | closes u why =>
    have hnone := (u.close_spec stores now heard why).2.2.1
    rw [linkOf?_eq, hn] at hnone
    cases hnone

/-- A keeper that opened its socket, or still writes its handshake, heard nothing yet, and no probe
waits. -/
theorem Turn.Opens.of_link? (h : Opens c stores now link error why t') {n : Nat}
    (hn : t'.connection.phase.link? = some n) : n = link ∧ t'.connection.phase.heard = false ∧
      t'.connection.phase.probes = [] := by
  cases h with
  | fails _ e heq =>
    have hnone := (connectFailed_spec c stores now e).1
    rw [← heq, linkOf?_eq, hn] at hnone
    cases hnone
  | waits _ rest hphase =>
    rw [hphase] at hn ⊢
    exact ⟨(Option.some.inj hn).symm, rfl, rfl⟩
  | crashes _ hphase =>
    rw [hphase] at hn
    cases hn
  | opened _ _ h =>
    obtain ⟨hlink, hheard, hprobes⟩ := h.of_link? hn
    exact ⟨hlink, hheard, hprobes (Nat.zero_le 1)⟩

end

end Keeper

end ChatSockets
