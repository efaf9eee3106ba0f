import ChatSockets.Proofs.Socket.Ledger

/-!
# All that a step of a keeper can do

In a step a keeper may set out to write one message (`utters`) or take one (`hears`). `Acts` lists
what a step does to the ledger and to the link at once, and `step_acts` says that there is nothing
else. From there all else is read off. What is written goes up behind what was written before
(`Acts.puts`), what is read and taken is the next on the way down (`Acts.reads`, `Acts.expects`),
and no step gets a link of its own accord (`Acts.of_unlinked`, `Acts.keeps`).
-/

namespace ChatSockets.Keeper

open Wire

/-- The message that a keeper takes from its decoder in a step. -/
def hears (t : Turn) : Option Message :=
  match t.connection.phase with
  | .draining live =>
    match live.decoder.next with
    | (.ok m, _) => m
    | _ => none
  | _ => none

/-- The message that a keeper sets out to write in a step, and what it goes on with afterwards. -/
def utters (branch : Branch) (now : Nat) (t : Turn) : Option (Purpose × Message) :=
  match t.connection.phase with
  | .serving live _ =>
    if canTake now t.link t.connection branch then
      match branch with
      | .send => t.connection.queued.head?.map fun m => (.request, m)
      | .probe =>
        if live.awaiting.isSome then none
        else
          let id := t.connection.pending.draw.1
          some (.probe id, .ofRequest (.plain id "GET" Path.keepalive))
      | _ => none
    else none
  | .draining _ =>
    match hears t with
    | some m =>
      match m.kindOf, m.request with
      | .request, some r => some (.reply, .ofResponse (t.answer r).1)
      | _, _ => none
    | none => none
  | _ => none

/-- What a step does, with the message that it sets out to write and the one that it takes. -/
inductive Acts (t : Turn) : Option (Purpose × Message) → Option Message → Turn → Prop
  | nothing : Acts t none none t
  /-- a keeper without a socket goes on without one -/
  | apart (t' : Turn) (hclosed : t.connection.phase.shown = .closed)
    (hledger : t'.connection.ledger = t.connection.ledger) (hlink : t'.link = t.link)
    (hincoming : t'.incoming = t.incoming) : Acts t none none t'
  /-- the handshake is written -/
  | greets (link : Nat) (rest : ByteArray) (t' : Turn)
    (hphase : t.connection.phase = .greeting link rest) (hleaves : t.Leaves link .new rest t')
    (h : Greets t.connection.ledger link t'.connection.ledger) : Acts t none none t'
  /-- an open socket is gone on with -/
  | goes (live : Live) (t' : Turn) (hlive : t.connection.phase.live? = some live)
    (h : t.GoesOn live.link live.decoder t.connection.phase.probes t.connection.phase.unwritten
      t') : Acts t none none t'
  /-- a piece of the stream is taken -/
  | receives (live : Live) (window : Option Nat) (b : ByteArray) (down : Pipe)
    (hphase : t.connection.phase = .serving live window)
    (hread : t.link.down.read Pipe.readSize = (.bytes b, down)) :
    Acts t none none { t with
      connection := { t.connection with
        phase := .draining { live with decoder := live.decoder.extend b } }
      link := { t.link with down } }
  /-- the first message of the outbox is written -/
  | sends (live : Live) (window : Option Nat) (m : Message) (rest : List Message) (t' : Turn)
    (hphase : t.connection.phase = .serving live window)
    (houtbox : t.connection.outbox = some (m :: rest))
    (h : { t with connection := { t.connection with outbox := some rest } }.GoesOn live.link
      live.decoder live.awaiting.toList (offer m) t') : Acts t (some (.request, m)) none t'
  /-- a probe is written under a new id -/
  | probes (live : Live) (window : Option Nat) (t' : Turn)
    (hphase : t.connection.phase = .serving live window)
    (h : { t with
        connection := { t.connection with pending := t.connection.pending.draw.2 } }.GoesOn
      live.link live.decoder [t.connection.pending.draw.1]
      (offer (.ofRequest (.plain t.connection.pending.draw.1 "GET" Path.keepalive))) t') :
    Acts t (some (.probe t.connection.pending.draw.1,
      .ofRequest (.plain t.connection.pending.draw.1 "GET" Path.keepalive))) none t'
  /-- a response is taken -/
  | accepts (live : Live) (decoder : Decoder) (m : Message) (r : Wire.Response)
    (hphase : t.connection.phase = .draining live)
    (hnext : live.decoder.next = (.ok (some m), decoder)) (hkind : m.kindOf = .response)
    (hr : m.response = some r) :
    Acts t none (some m) (t.accept { live with decoder, heard := true } r)
  /-- a request is taken, and its answer is written -/
  | answers (live : Live) (decoder : Decoder) (m : Message) (r : Wire.Request) (t' : Turn)
    (hphase : t.connection.phase = .draining live)
    (hnext : live.decoder.next = (.ok (some m), decoder)) (hkind : m.kindOf = .request)
    (hr : m.request = some r)
    (h : (t.answer r).2.GoesOn live.link decoder live.awaiting.toList
      (offer (.ofResponse (t.answer r).1)) t') :
    Acts t (some (.reply, .ofResponse (t.answer r).1)) (some m) t'
  /-- a message is taken that is neither -/
  | ignores (live : Live) (decoder : Decoder) (m : Message)
    (hphase : t.connection.phase = .draining live)
    (hnext : live.decoder.next = (.ok (some m), decoder))
    (hno : m.kindOf = .response → m.response = none)
    (hrequest : m.kindOf = .request → m.request = none) :
    Acts t none (some m) { t with
      connection := { t.connection with
        phase := .draining { live with decoder, heard := true } } }

/-- A keeper that takes a message notes it, or answers it. -/
theorem Turn.handle_acts (t : Turn) (stores : Stores) (now : Nat) (branch : Branch) {live : Live}
    {decoder : Decoder} {m : Message} (hphase : t.connection.phase = .draining live)
    (hnext : live.decoder.next = (.ok (some m), decoder)) :
    Acts t (utters branch now t) (some m)
      (t.handle stores now { live with decoder, heard := true } m) := by
  have hhears : hears t = some m := by simp only [hears, hphase, hnext]
  have hutters : utters branch now t = match m.kindOf, m.request with
      | .request, some r => some (.reply, .ofResponse (t.answer r).1)
      | _, _ => none := by
    simp only [utters, hphase, hhears]
  unfold Turn.handle
  split
  · next r hkind hresponse =>
    rw [hutters, hkind]
    exact .accepts live decoder m r hphase hnext hkind hresponse
  · next r hkind hrequest =>
    rw [hutters, hkind, hrequest]
    dsimp only
    refine .answers live decoder m r _ hphase hnext hkind hrequest ?_
    exact Turn.writeMessage_goesOn _ stores now { live with decoder, heard := true } .reply _
      fun id hid => by simpa [Purpose.probe?] using hid
  · next hrequest hresponse =>
    have hnone : (match m.kindOf, m.request with
        | .request, some r => some (Purpose.reply, Message.ofResponse (t.answer r).1)
        | _, _ => none) = none := by
      split
      · next r hkind hr => exact absurd hr (hrequest r hkind)
      · rfl
    rw [hutters, hnone]
    refine .ignores live decoder m hphase hnext (fun hkind => ?_) fun hkind => ?_
    · rw [Option.eq_none_iff_forall_ne_some]
      exact fun r hr => hresponse r hkind hr
    · rw [Option.eq_none_iff_forall_ne_some]
      exact fun r hr => hrequest r hkind hr

/-- What a keeper of an open socket does next. -/
theorem Turn.serve_acts (t : Turn) (stores : Stores) (now : Nat) (branch : Branch) {live : Live}
    {window : Option Nat} (hphase : t.connection.phase = .serving live window)
    (htake : canTake now t.link t.connection branch = true) :
    Acts t (utters branch now t) none (t.serve stores now live branch) := by
  have hlive : t.connection.phase.live? = some live := by rw [hphase]; rfl
  have hprobes : t.connection.phase.probes = live.awaiting.toList := by rw [hphase]; rfl
  have hunwritten : t.connection.phase.unwritten = .empty := by rw [hphase]; rfl
  have hgoes : ∀ t', t.GoesOn live.link live.decoder live.awaiting.toList .empty t' →
      Acts t none none t' := by
    intro t' h
    refine .goes live t' hlive ?_
    rw [hprobes, hunwritten]
    exact h
  simp only [utters, hphase, htake, if_true]
  cases branch with
  | woken =>
    exact hgoes _ (.of_connection (c := t.connection.withPolicy Policy.takeWake) rfl
      (Turn.resume_goesOn _ stores now live fun id hid => hid))
  | window => exact hgoes _ (t.resume_goesOn stores now live fun id hid => hid)
  | probe =>
    unfold Turn.serve Turn.probe
    cases hawaiting : live.awaiting with
    | some id => exact hgoes _ (t.close_goesOn stores now live.heard _ _ _ _ _)
    | none =>
      refine .probes live window _ hphase ?_
      refine Turn.writeMessage_goesOn _ stores now
        { live with
          probeAt := nextProbe live.probeAt now t.connection.config.keepalive
          awaiting := none }
        (.probe _) _ fun id hid => hid
  | send =>
    unfold Turn.serve Turn.sendNext
    dsimp only
    cases houtbox : t.connection.outbox with
    | none => simp [canTake, hphase, houtbox] at htake
    | some queue =>
      cases queue with
      | nil => simp [canTake, hphase, houtbox] at htake
      | cons m rest =>
        simp only [Connection.queued, houtbox, Option.getD_some, List.head?_cons, Option.map_some]
        refine .sends live window m rest _ hphase houtbox ?_
        exact Turn.writeMessage_goesOn _ stores now live .request m
          fun id hid => by simpa [Purpose.probe?] using hid
  | receive =>
    unfold Turn.serve Turn.receive
    dsimp only
    split
    · exact .nothing
    · exact hgoes _ (t.close_goesOn stores now live.heard _ _ _ _ _)
    · next b down hread => exact .receives live window b down hphase hread
  | timer => exact .nothing
  | nudge => exact .nothing
  | shutdown => exact .nothing

/-- **A step of a keeper does one of these things.** -/
theorem step_acts (branch : Branch) (stores : Stores) (now : Nat) (t : Turn) :
    Acts t (utters branch now t) (hears t) (step branch stores now t) := by
  cases hphase : t.connection.phase with
  | atHead => simp only [step, utters, hears, hphase]; exact .nothing
  | finished => simp only [step, utters, hears, hphase]; exact .nothing
  | crashed => simp only [step, utters, hears, hphase]; exact .nothing
  | dialing => simp only [step, utters, hears, hphase]; exact .nothing
  | parked =>
    simp only [step, utters, hears, hphase]
    split
    · have hclosed : t.connection.phase.shown = .closed := by rw [hphase]; rfl
      exact .apart _ hclosed (t.takeWake.connection.ledger_apart .atHead hclosed rfl) rfl rfl
    · exact .nothing
  | greeting link rest =>
    simp only [step, utters, hears, hphase]
    exact .greets link rest _ hphase (t.greet_leaves stores now link rest)
      (t.greet_greets stores now link rest)
  | looking live look =>
    simp only [step, utters, hears, hphase]
    refine .goes live _ (by rw [hphase]; rfl) ?_
    rw [hphase]
    exact t.look_goesOn stores now live look fun id hid => hid
  | serving live window =>
    have hhears : hears t = none := by simp only [hears, hphase]
    rw [hhears]
    by_cases htake : canTake now t.link t.connection branch = true
    · simp only [step, hphase, if_pos htake]
      exact t.serve_acts stores now branch hphase htake
    · simp only [step, utters, hphase, if_neg htake]
      exact .nothing
  | draining live =>
    have hlive : t.connection.phase.live? = some live := by rw [hphase]; rfl
    have hgoes : ∀ t', t.GoesOn live.link live.decoder live.awaiting.toList .empty t' →
        Acts t none none t' := fun t' h => .goes live t' hlive (by rw [hphase]; exact h)
    simp only [step, hphase, Turn.drain]
    split
    · next hnext =>
      simp only [utters, hears, hphase, hnext]
      exact hgoes _ (t.resume_goesOn stores now live fun id hid => hid)
    · next hnext =>
      simp only [utters, hears, hphase, hnext]
      exact hgoes _ (t.close_goesOn stores now live.heard _ _ _ _ _)
    · next m decoder hnext =>
      have hhears : hears t = some m := by simp only [hears, hphase, hnext]
      rw [hhears]
      exact t.handle_acts stores now branch hphase hnext
  | writing live rest purpose =>
    simp only [step, utters, hears, hphase]
    refine .goes live _ (by rw [hphase]; rfl) ?_
    rw [hphase]
    exact t.write_goesOn stores now live purpose rest fun id hid => hid
  | waiting b =>
    simp only [step, utters, hears, hphase]
    split
    · have hclosed : t.connection.phase.shown = .closed := by rw [hphase]; rfl
      exact .apart _ hclosed (t.connection.ledger_goOn stores now b branch hclosed) rfl rfl
    · exact .nothing

/-! ## The bytes of a step -/

section

variable {t t' : Turn} {uttered : Option (Purpose × Message)} {heard : Option Message}

theorem linkOf?_of_live? {c : Connection} {live : Live} (h : c.phase.live? = some live) :
    linkOf? c = some live.link :=
  Phase.link?_of_openLink? (congrArg (·.map Live.link) h)

theorem decoder_of_live? {p : Phase} {live : Live} (h : p.live? = some live) :
    p.decoder = live.decoder := by
  rw [Phase.decoder, h]

theorem unwritten_of_closed {p : Phase} (h : p.shown = .closed) : p.unwritten = .empty := by
  cases p <;> first | rfl | cases h

/-- The bytes that a message brings, if there is one. -/
def offered (uttered : Option (Purpose × Message)) : ByteArray :=
  stream (fitting (uttered.toList.map Prod.snd))

/-- **What a step writes** goes up behind what was written before; what there is no room for is
still to be written, while the link is kept. -/
theorem Acts.puts (h : Acts t uttered heard t') :
    ∃ put more, put ++ more = t.connection.phase.unwritten ++ offered uttered ∧
      t'.link.up.held = t.link.up.held ++ put ∧
      (linkOf? t'.connection ≠ none → more = t'.connection.phase.unwritten) := by
  have hsilent : ∀ b : ByteArray, b = b ++ offered none := fun _ => ByteArray.append_empty.symm
  have hnothing : ∀ u : Turn, u.link.up = t.link.up → t.connection.phase.unwritten = .empty →
      u.connection.phase.unwritten = .empty →
      ∃ put more, put ++ more = t.connection.phase.unwritten ++ offered none ∧
        u.link.up.held = t.link.up.held ++ put ∧
        (linkOf? u.connection ≠ none → more = u.connection.phase.unwritten) := by
    intro u hup hbefore hafter
    refine ⟨.empty, .empty, ?_, ?_, fun _ => hafter.symm⟩
    · rw [hbefore, ← hsilent]
      rfl
    · rw [hup, ByteArray.append_empty]
  have hspeaks : ∀ {u : Turn} {link : Nat} {decoder : Decoder} {x : Purpose × Message},
      u.Leaves link decoder (offer x.2) t' → u.link = t.link →
      t.connection.phase.unwritten = .empty →
      ∃ put more, put ++ more = t.connection.phase.unwritten ++ offered (some x) ∧
        t'.link.up.held = t.link.up.held ++ put ∧
        (linkOf? t'.connection ≠ none → more = t'.connection.phase.unwritten) := by
    intro u link decoder x hleaves hlink hwritten
    rw [hwritten, ByteArray.empty_append, ← hlink]
    exact hleaves.puts
  cases h with
  | nothing =>
    exact ⟨.empty, t.connection.phase.unwritten,
      ByteArray.empty_append.trans (hsilent _), ByteArray.append_empty.symm, fun _ => rfl⟩
  | apart _ hclosed hledger hlink =>
    have hclosed' : t'.connection.phase.shown = .closed :=
      (congrArg Ledger.shown hledger).trans hclosed
    exact hnothing t' (by rw [hlink]) (unwritten_of_closed hclosed) (unwritten_of_closed hclosed')
  | greets link rest _ hphase hleaves =>
    rw [← hsilent, hphase]
    exact hleaves.puts
  | goes live _ hlive h =>
    rw [← hsilent]
    exact h.leaves.puts
  | receives live window b down hphase hread => exact hnothing _ rfl (by rw [hphase]; rfl) rfl
  | sends live window m rest _ hphase houtbox h =>
    exact hspeaks (x := (.request, m)) h.leaves rfl (by rw [hphase]; rfl)
  | probes live window _ hphase h => exact hspeaks (x := (_, _)) h.leaves rfl (by rw [hphase]; rfl)
  | accepts live decoder m r hphase =>
    refine hnothing _ ?_ (by rw [hphase]; rfl) ?_
    · unfold Turn.accept
      split <;> rfl
    · unfold Turn.accept
      split <;> rfl
  | answers live decoder m r _ hphase hnext hkind hr h =>
    exact hspeaks (x := (.reply, _)) h.leaves (t.answer_spec r).2.1 (by rw [hphase]; rfl)
  | ignores live decoder m hphase => exact hnothing _ rfl (by rw [hphase]; rfl) rfl

/-- **What a step reads** is the front of what is on the way down. If it is the next piece of a
stream of messages, the step takes the first of them or none, and the others are before a decoder,
which is the keeper's own while it keeps the link. -/
theorem Acts.reads (h : Acts t uttered heard t') :
    ∃ piece, t.link.down.held = piece ++ t'.link.down.held ∧
      ∀ (more : ByteArray) (ms : List Message),
        t.connection.phase.decoder.Expects (piece ++ more) ms →
        ∃ rest decoder, ms = heard.toList ++ rest ∧ decoder.Expects more rest ∧
          (linkOf? t'.connection ≠ none → t'.connection.phase.decoder = decoder) := by
  -- a step that reads nothing leaves the decoder with what it has not taken
  have hkept : ∀ {u : Turn} {link : Nat} {decoder : Decoder} {b : ByteArray},
      u.Leaves link decoder b t' → u.link = t.link →
      (∀ more ms, t.connection.phase.decoder.Expects more ms →
        ∃ rest, ms = heard.toList ++ rest ∧ decoder.Expects more rest) →
      ∃ piece, t.link.down.held = piece ++ t'.link.down.held ∧ ∀ more ms,
        t.connection.phase.decoder.Expects (piece ++ more) ms →
        ∃ rest decoder, ms = heard.toList ++ rest ∧ decoder.Expects more rest ∧
          (linkOf? t'.connection ≠ none → t'.connection.phase.decoder = decoder) := by
    intro u link decoder b hleaves hlink hnext
    refine ⟨.empty, ?_, fun more ms hms => ?_⟩
    · rw [hleaves.down, hlink, ByteArray.empty_append]
    · rw [ByteArray.empty_append] at hms
      obtain ⟨rest, hrest, hexpects⟩ := hnext more ms hms
      exact ⟨rest, decoder, hrest, hexpects, fun hstill =>
        (hleaves.stays.resolve_left fun hnone => hstill hnone.1).2⟩
  cases h with
  | nothing =>
    refine ⟨.empty, ByteArray.empty_append.symm, fun more ms hms => ?_⟩
    rw [ByteArray.empty_append] at hms
    exact ⟨ms, _, rfl, hms, fun _ => rfl⟩
  | apart _ hclosed hledger hlink =>
    have hclosed' : t'.connection.phase.shown = .closed :=
      (congrArg Ledger.shown hledger).trans hclosed
    refine ⟨.empty, by rw [hlink, ByteArray.empty_append], fun more ms hms => ?_⟩
    rw [ByteArray.empty_append] at hms
    exact ⟨ms, _, rfl, hms, fun hstill => absurd (Phase.link?_of_closed hclosed') hstill⟩
  | greets link rest _ hphase hleaves =>
    exact hkept hleaves rfl fun more ms hms => ⟨ms, rfl, by rw [hphase] at hms; exact hms⟩
  | goes live _ hlive h =>
    exact hkept h.leaves rfl fun more ms hms =>
      ⟨ms, rfl, by rw [decoder_of_live? hlive] at hms; exact hms⟩
  | receives live window b down hphase hread =>
    refine ⟨b, (Pipe.read_eq_bytes hread).1, fun more ms hms => ?_⟩
    rw [hphase] at hms
    exact ⟨ms, _, rfl, hms.extend, fun _ => rfl⟩
  | sends live window m rest _ hphase houtbox h =>
    exact hkept h.leaves rfl fun more ms hms => ⟨ms, rfl, by rw [hphase] at hms; exact hms⟩
  | probes live window _ hphase h =>
    exact hkept h.leaves rfl fun more ms hms => ⟨ms, rfl, by rw [hphase] at hms; exact hms⟩
  | accepts live decoder m r hphase hnext =>
    refine hkept (t.accept_leaves { live with decoder, heard := true } r) rfl fun more ms hms => ?_
    rw [hphase] at hms
    exact hms.next hnext
  | answers live decoder m r _ hphase hnext hkind hr h =>
    refine hkept h.leaves (t.answer_spec r).2.1 fun more ms hms => ?_
    rw [hphase] at hms
    exact hms.next hnext
  | ignores live decoder m hphase hnext =>
    refine ⟨.empty, ByteArray.empty_append.symm, fun more ms hms => ?_⟩
    rw [hphase, ByteArray.empty_append] at hms
    obtain ⟨rest, hrest, hexpects⟩ := hms.next hnext
    exact ⟨rest, decoder, hrest, hexpects, fun _ => rfl⟩

/-- **What a step takes** is the first of the messages on the way down, and while the link is kept
the others stay before the decoder. -/
theorem Acts.expects (h : Acts t uttered heard t') {more : ByteArray} {ms : List Message}
    (hms : t.connection.phase.decoder.Expects (t.link.down.held ++ more) ms) :
    ∃ rest, ms = heard.toList ++ rest ∧ (linkOf? t'.connection ≠ none →
      t'.connection.phase.decoder.Expects (t'.link.down.held ++ more) rest) := by
  obtain ⟨piece, hpiece, hreads⟩ := h.reads
  rw [hpiece, ByteArray.append_assoc] at hms
  obtain ⟨rest, decoder, hrest, hexpects, hdecoder⟩ := hreads _ _ hms
  exact ⟨rest, hrest, fun hstill => hdecoder hstill ▸ hexpects⟩

/-! ## The link of a step -/

/-- A keeper without a link goes on without one. It leaves its ledger and the pipes as they are, and
writes and hears nothing. -/
theorem Acts.of_unlinked (h : Acts t uttered heard t') (hlink : linkOf? t.connection = none) :
    linkOf? t'.connection = none ∧ t'.connection.ledger = t.connection.ledger ∧ uttered = none ∧
      heard = none ∧ t'.link = t.link := by
  have hlive : ∀ {live : Live}, t.connection.phase.live? ≠ some live := by
    intro live hlive
    rw [linkOf?_of_live? hlive] at hlink
    cases hlink
  cases h with
  | nothing => exact ⟨hlink, rfl, rfl, rfl, rfl⟩
  | apart _ hclosed hledger hsame =>
    exact ⟨Phase.link?_of_closed ((congrArg Ledger.shown hledger).trans hclosed), hledger, rfl, rfl,
      hsame⟩
  | greets link rest _ hphase => rw [linkOf?, hphase] at hlink; cases hlink
  | goes live _ hlive' => exact absurd hlive' hlive
  | receives live window b down hphase => rw [linkOf?, hphase] at hlink; cases hlink
  | sends live window m rest _ hphase => rw [linkOf?, hphase] at hlink; cases hlink
  | probes live window _ hphase => rw [linkOf?, hphase] at hlink; cases hlink
  | accepts live decoder m w hphase => rw [linkOf?, hphase] at hlink; cases hlink
  | answers live decoder m q _ hphase => rw [linkOf?, hphase] at hlink; cases hlink
  | ignores live decoder m hphase => rw [linkOf?, hphase] at hlink; cases hlink

/-- A keeper with a link goes on with it or without one. It puts nothing into its outbox, only takes
from the pipe that comes down, and fills the other one up to its capacity. -/
structure Turn.Keeps (t : Turn) (n : Nat) (t' : Turn) : Prop where
  link : linkOf? t'.connection = none ∨ linkOf? t'.connection = some n
  queued : ∀ m ∈ t'.connection.queued, m ∈ t.connection.queued
  down : t'.link.down.held.size ≤ t.link.down.held.size
  room : t.link.up.held.size ≤ Pipe.capacity → t'.link.up.held.size ≤ Pipe.capacity

theorem Turn.Leaves.keeps {n : Nat} {decoder : Decoder} {b : ByteArray}
    (h : t.Leaves n decoder b t') : t.Keeps n t' :=
  ⟨h.stays.imp And.left And.left, h.queued, Nat.le_of_eq (congrArg ByteArray.size h.down), h.room⟩

theorem Acts.keeps (h : Acts t uttered heard t') {n : Nat} (hlink : linkOf? t.connection = some n) :
    t.Keeps n t' := by
  cases h with
  | nothing => exact ⟨.inr hlink, fun _ => id, Nat.le_refl _, id⟩
  | apart _ hclosed =>
    rw [linkOf?_eq, Phase.link?_of_closed hclosed] at hlink
    cases hlink
  | greets link rest _ hphase hleaves =>
    obtain rfl : link = n := by rw [linkOf?, hphase] at hlink; exact Option.some.inj hlink
    exact hleaves.keeps
  | goes live _ hlive h =>
    obtain rfl : live.link = n := Option.some.inj ((linkOf?_of_live? hlive).symm.trans hlink)
    exact h.leaves.keeps
  | receives live window b down hphase hread =>
    rw [linkOf?, hphase] at hlink
    refine ⟨.inr hlink, fun _ => id, ?_, id⟩
    rw [(Pipe.read_eq_bytes hread).1, ByteArray.size_append]
    exact Nat.le_add_left _ _
  | sends live window m rest _ hphase houtbox h =>
    obtain rfl : live.link = n := by rw [linkOf?, hphase] at hlink; exact Option.some.inj hlink
    have hqueued : t.connection.queued = m :: rest := by rw [Connection.queued, houtbox]; rfl
    refine ⟨h.leaves.keeps.link, fun m' hm' => ?_, h.leaves.keeps.down, h.leaves.room⟩
    rw [hqueued]
    exact List.mem_cons_of_mem m (h.leaves.queued m' hm')
  | probes live window _ hphase h =>
    obtain rfl : live.link = n := by rw [linkOf?, hphase] at hlink; exact Option.some.inj hlink
    exact ⟨h.leaves.keeps.link, h.leaves.queued, h.leaves.keeps.down, h.leaves.room⟩
  | accepts live decoder m r hphase =>
    obtain rfl : live.link = n := by rw [linkOf?, hphase] at hlink; exact Option.some.inj hlink
    exact (t.accept_leaves { live with decoder, heard := true } r).keeps
  | answers live decoder m r _ hphase hnext hkind hr h =>
    obtain rfl : live.link = n := by rw [linkOf?, hphase] at hlink; exact Option.some.inj hlink
    obtain ⟨-, hsame, -, hqueued, -⟩ := t.answer_spec r
    refine ⟨h.leaves.keeps.link, fun m' hm' => hqueued ▸ h.leaves.queued m' hm', ?_, ?_⟩
    · exact hsame ▸ h.leaves.keeps.down
    · exact hsame ▸ h.leaves.room
  | ignores live decoder m hphase =>
    rw [linkOf?, hphase] at hlink
    exact ⟨.inr hlink, fun _ => id, Nat.le_refl _, id⟩

end

end ChatSockets.Keeper
