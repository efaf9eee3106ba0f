import ChatSockets.Proofs.Entries
import ChatSockets.Proofs.Socket.Step
import Mathlib.Logic.Function.Basic

/-!
# What happened on a connection

A `Record` is the history of a connection: the requests that ids were drawn for, the messages that
were written and heard, and the bytes that were put on each link. A step of a keeper changes its
ledger and the record by a few small changes (`Keeper.Shift`), which are listed once here
(`Keeper.Acts.shifts`); what is to be shown of all steps is then shown of each of these changes.
-/

namespace ChatSockets

open Wire

/-- A request that an id was drawn for. -/
structure Issue where
  request : Wire.Request
  /-- the link of the socket that was open then -/
  link? : Option Nat
  /-- the call that submitted the request; a probe has none -/
  caller? : Option Nat
  /-- how many messages had been heard then -/
  since : Nat

/-- A message that was written, at least its first byte. -/
structure Said where
  link : Nat
  /-- what the keeper went on with afterwards; a handshake opens the socket instead -/
  purpose? : Option Keeper.Purpose
  message : Message

/-- A message that was taken from the decoder. -/
structure Heard where
  link : Nat
  message : Message

/-- The history of a connection. -/
structure Record where
  issued : List Issue := []
  said : List Said := []
  heard : List Heard := []
  /-- the bytes that were put on each link -/
  wire : Nat → ByteArray := fun _ => .empty

/-- The id of an issue. -/
def Issue.id (i : Issue) : UInt64 := i.request.id

/-- The probe that gets the next id, on an open socket. -/
def Issue.probe (id : UInt64) (link since : Nat) : Issue where
  request := .plain id "GET" Path.keepalive
  link? := some link
  caller? := none
  since

namespace Record

/-- An id was drawn. -/
def issue (r : Record) (i : Issue) : Record := { r with issued := r.issued ++ [i] }

/-- A message was to be written; only one that has a frame is. -/
def say (r : Record) (s : Said) : Record :=
  { r with said := r.said ++ [s].filter (·.message.length ≤ Frame.maxLength) }

/-- A message was heard. -/
def hear (r : Record) (h : Heard) : Record := { r with heard := r.heard ++ [h] }

/-- Bytes were put on a link. -/
def put (r : Record) (n : Nat) (b : ByteArray) : Record :=
  { r with wire := Function.update r.wire n (r.wire n ++ b) }

/-- The record after a step of a keeper with a link. -/
def after (r : Record) (n : Nat) (uttered : Option (Keeper.Purpose × Message))
    (heard : Option Message) : Record :=
  let r := match heard with
    | none => r
    | some m => r.hear ⟨n, m⟩
  match uttered with
  | none => r
  | some (.probe id, m) => (r.issue (.probe id n r.heard.length)).say ⟨n, some (.probe id), m⟩
  | some (purpose, m) => r.say ⟨n, some purpose, m⟩

/-- The requests of calls that were submitted while a socket was open, each with its link. -/
def submitted (r : Record) : List (Nat × Message) :=
  r.issued.filterMap fun i =>
    match i.caller?, i.link? with
    | some _, some n => some (n, .ofRequest i.request)
    | _, _ => none

/-- The requests of calls that were written, each with the link that they were written on. -/
def spoken (r : Record) : List (Nat × Message) :=
  r.said.filterMap fun s =>
    if s.purpose? = some .request then some (s.link, s.message) else none

/-- The messages that were written on a link. -/
def saidOn (r : Record) (n : Nat) : List Message :=
  (r.said.filter (·.link = n)).map Said.message

/-- A message that has a frame is said on its link, and on no other. -/
theorem saidOn_say (r : Record) (s : Said) (n : Nat) :
    (r.say s).saidOn n = r.saidOn n ++ if n = s.link then fitting [s.message] else [] := by
  rw [saidOn, saidOn, say, List.filter_append, List.map_append]
  congr 1
  by_cases hlink : n = s.link
  · by_cases hfit : s.message.length ≤ Frame.maxLength
    · simp [hlink, hfit, fitting]
    · simp [hlink, hfit, fitting]
  · simp [hlink, Ne.symm hlink]

/-- What is said on a link after a step of a keeper. -/
theorem saidOn_after (r : Record) (n : Nat) (uttered : Option (Keeper.Purpose × Message))
    (heard : Option Message) (n' : Nat) :
    (r.after n uttered heard).saidOn n' =
      r.saidOn n' ++ if n' = n then fitting (uttered.toList.map Prod.snd) else [] := by
  have hsay : ∀ (r' : Record) (purpose : Keeper.Purpose) (m : Message), r'.said = r.said →
      (r'.say ⟨n, some purpose, m⟩).saidOn n' =
        r.saidOn n' ++ if n' = n then fitting [m] else [] := by
    intro r' purpose m hsaid
    rw [saidOn_say, saidOn, hsaid]
    rfl
  have hsilent : r.saidOn n' = r.saidOn n' ++ if n' = n then fitting [] else [] := by
    rw [fitting, List.filter_nil, ite_self, List.append_nil]
  cases uttered with
  | none => cases heard <;> exact hsilent
  | some x =>
    obtain ⟨purpose, m⟩ := x
    cases heard <;> cases purpose <;> exact hsay _ _ m rfl

theorem wire_after (r : Record) (n : Nat) (uttered : Option (Keeper.Purpose × Message))
    (heard : Option Message) : (r.after n uttered heard).wire = r.wire := by
  cases uttered with
  | none => cases heard <;> rfl
  | some x =>
    obtain ⟨purpose, m⟩ := x
    cases heard <;> cases purpose <;> rfl

theorem heard_after (r : Record) (n : Nat) (uttered : Option (Keeper.Purpose × Message))
    (heard : Option Message) :
    (r.after n uttered heard).heard = r.heard ++ heard.toList.map (Heard.mk n) := by
  cases uttered with
  | none => cases heard <;> simp [after, hear]
  | some x =>
    obtain ⟨purpose, m⟩ := x
    cases heard <;> cases purpose <;> simp [after, hear, say, issue]

/-- A step of a keeper issues nothing but a probe on its link. -/
theorem mem_issued_after {r : Record} {n : Nat} {uttered : Option (Keeper.Purpose × Message)}
    {heard : Option Message} {i : Issue} (h : i ∈ (r.after n uttered heard).issued) :
    i ∈ r.issued ∨ i.link? = some n := by
  cases uttered with
  | none => cases heard <;> exact .inl h
  | some x =>
    obtain ⟨purpose, m⟩ := x
    cases purpose with
    | probe id =>
      have hprobe : i ∈ r.issued ++
          [.probe id n (r.heard ++ heard.toList.map (Heard.mk n)).length] := by
        cases heard <;> simpa [after, issue, say, hear] using h
      exact (List.mem_append.1 hprobe).imp_right fun hi => by rw [List.mem_singleton.1 hi]; rfl
    | request => cases heard <;> exact .inl h
    | reply => cases heard <;> exact .inl h

end Record

/-- The messages that wait in the outbox of an open socket, each with its link. -/
def Ledger.waiting (l : Ledger) : List (Nat × Message) :=
  match l.link? with
  | some n => (l.outbox.getD []).map (n, ·)
  | none => []

namespace Keeper

/-- One thing that a keeper does, as its ledger and its record show it. -/
inductive Shift (l : Ledger) (r : Record) : Ledger → Record → Prop
  | settles (n : Nat) (l' : Ledger) (hlink : l.link? = some n) (h : Settles l n l.probes l') :
    Shift l r l' r
  | dials (hclosed : l.shown = .closed) : Shift l r (l.event .connectStarted .connecting) r
  | parks (hclosed : l.shown = .closed) : Shift l r (l.event .closed .closed) r
  | finishes (hclosed : l.shown = .closed) : Shift l r l.tornDown r
  | fails (hconnecting : l.shown = .connecting) : Shift l r (l.event .connectFailed .closed) r
  | opens (n : Nat) (hconnecting : l.shown = .connecting) : Shift l r (l.opens n) r
  | crashes (hconnecting : l.shown = .connecting) : Shift l r l.crashes r
  | sends (n : Nat) (m : Message) (rest : List Message) (hlink : l.link? = some n)
    (houtbox : l.outbox = some (m :: rest)) :
    Shift l r { l with outbox := some rest } (r.say ⟨n, some .request, m⟩)
  | probes (n : Nat) (hlink : l.link? = some n) :
    Shift l r { l with pending := l.pending.draw.2, probes := [l.pending.draw.1] }
      ((r.issue (.probe l.pending.draw.1 n r.heard.length)).say
        ⟨n, some (.probe l.pending.draw.1),
          .ofRequest (.plain l.pending.draw.1 "GET" Path.keepalive)⟩)
  | tells (n : Nat) (purpose? : Option Purpose) (m : Message) (hpurpose : purpose? ≠ some .request)
    (hm : m.request = none) : Shift l r l (r.say ⟨n, purpose?, m⟩)
  | puts (n : Nat) (b : ByteArray) : Shift l r l (r.put n b)
  /-- no response -/
  | hears (n : Nat) (m : Message) (queueEmptied : Bool) (hlink : l.link? = some n)
    (hm : m.kindOf = .response → m.response = none) :
    Shift l r { l with queueEmptied } (r.hear ⟨n, m⟩)
  /-- the response to the probe -/
  | hearsProbe (n : Nat) (m : Message) (w : Wire.Response) (hlink : l.link? = some n)
    (hkind : m.kindOf = .response) (hw : m.response = some w) (hprobe : l.probes = [w.id]) :
    Shift l r { l with probes := [] } (r.hear ⟨n, m⟩)
  | accepts (n : Nat) (m : Message) (w : Wire.Response) (hlink : l.link? = some n)
    (hkind : m.kindOf = .response) (hw : m.response = some w) (hprobe : w.id ∉ l.probes) :
    Shift l r (l.accept w) (r.hear ⟨n, m⟩)

/-- Some of these things, one after the other. -/
inductive Shifts (l : Ledger) (r : Record) : Ledger → Record → Prop
  | refl : Shifts l r l r
  | tail {l' l'' : Ledger} {r' r'' : Record} (before : Shifts l r l' r')
    (h : Shift l' r' l'' r'') : Shifts l r l'' r''

theorem Shift.shifts {l l' : Ledger} {r r' : Record} (h : Shift l r l' r') : Shifts l r l' r' :=
  Shifts.refl.tail h

theorem Shifts.trans {l l' l'' : Ledger} {r r' r'' : Record} (h : Shifts l r l' r')
    (h' : Shifts l' r' l'' r'') : Shifts l r l'' r'' := by
  induction h' with
  | refl => exact h
  | tail _ h' ih => exact ih.tail h'

/-- What each thing keeps, all keep. -/
theorem Shifts.induct {P : Ledger → Record → Prop} {l l' : Ledger} {r r' : Record}
    (h : Shifts l r l' r') (hP : P l r)
    (hstep : ∀ {l l' : Ledger} {r r' : Record}, Shift l r l' r' → P l r → P l' r') : P l' r' := by
  induction h with
  | refl => exact hP
  | tail _ h ih => exact hstep h ih

/-- A socket that opens, or fails to, does one of these things or two. -/
theorem Greets.shifts {l l' : Ledger} {n : Nat} (h : Greets l n l') (r : Record)
    (hconnecting : l.shown = .connecting) (hlink : l.link? = none) (hprobes : l.probes = []) :
    Shifts l r l' r := by
  cases h with
  | fails h =>
    have heq : l' = l.event .connectFailed .closed := by
      rw [h, Ledger.event, hlink, hprobes]
    rw [heq]
    exact (Shift.fails hconnecting).shifts
  | waits h =>
    have heq : l' = l := by
      rw [h, ← hconnecting, ← hlink, ← hprobes]
    rw [heq]
    exact .refl
  | opens h => exact (Shift.opens n hconnecting).shifts.tail (.settles n l' rfl h)
  | crashes h => exact h ▸ (Shift.crashes hconnecting).shifts

/-- An answer to the server only changes what is known of its mailbox. -/
theorem Turn.ledger_answer (t : Turn) (q : Wire.Request) :
    ∃ queueEmptied, (t.answer q).2.connection.ledger =
      { t.connection.ledger with queueEmptied } := by
  unfold Turn.answer
  split
  · exact ⟨t.connection.queueEmptied, rfl⟩
  · split
    · exact ⟨true, rfl⟩
    · exact ⟨t.connection.queueEmptied, rfl⟩

/-- A response is for the probe, or it is taken by the ledger. -/
theorem Turn.ledger_accept (t : Turn) (live : Live) (w : Wire.Response) :
    live.awaiting = some w.id ∧
        (t.accept live w).connection.ledger =
          { t.connection.ledger with shown := .open, link? := some live.link, probes := [] } ∨
      live.awaiting ≠ some w.id ∧
        (t.accept live w).connection.ledger =
          { t.connection.ledger.accept w with
            shown := .open, link? := some live.link, probes := live.awaiting.toList } := by
  unfold Turn.accept
  split
  · next hawaiting => exact .inl ⟨hawaiting, rfl⟩
  · next hawaiting => exact .inr ⟨hawaiting, rfl⟩

/-- **A step of a keeper with a link does some of these things**, and the record tells which
messages it wrote and heard. -/
theorem Acts.shifts {t t' : Turn} {uttered : Option (Purpose × Message)} {heard : Option Message}
    (h : Acts t uttered heard t') {n : Nat} (hlink : linkOf? t.connection = some n) (r : Record) :
    Shifts t.connection.ledger r t'.connection.ledger (r.after n uttered heard) := by
  rw [linkOf?_eq] at hlink
  cases h with
  | nothing => exact .refl
  | apart _ hclosed => rw [Phase.link?_of_closed hclosed] at hlink; cases hlink
  | greets link rest _ hphase _ h =>
    obtain rfl : link = n := by rw [hphase] at hlink; exact Option.some.inj hlink
    exact h.shifts r (congrArg Phase.shown hphase) (congrArg Phase.openLink? hphase)
      (congrArg Phase.probes hphase)
  | goes live _ hlive h =>
    have hopen : t.connection.phase.openLink? = some live.link := congrArg (·.map Live.link) hlive
    exact (Shift.settles live.link _ hopen h.settles).shifts
  | receives live window b down hphase hread =>
    have hsame : ({ t.connection with
        phase := .draining { live with decoder := live.decoder.extend b } } : Connection).ledger =
        t.connection.ledger := by
      simp only [Connection.ledger, hphase]
      rfl
    rw [hsame]
    exact .refl
  | sends live window m rest _ hphase houtbox h =>
    obtain rfl : live.link = n := by rw [hphase] at hlink; exact Option.some.inj hlink
    have hopen : t.connection.phase.openLink? = some live.link := congrArg Phase.openLink? hphase
    have hprobes : t.connection.phase.probes = live.awaiting.toList :=
      congrArg Phase.probes hphase
    have hsettles := h.settles
    rw [← hprobes] at hsettles
    exact (Shift.sends live.link m rest hopen houtbox).shifts.tail
      (.settles live.link _ hopen hsettles)
  | probes live window _ hphase h =>
    obtain rfl : live.link = n := by rw [hphase] at hlink; exact Option.some.inj hlink
    have hopen : t.connection.phase.openLink? = some live.link := congrArg Phase.openLink? hphase
    refine (Shift.probes live.link hopen).shifts.tail (.settles live.link _ hopen ?_)
    cases h.settles with
    | stays rest hprobes heq => exact .stays rest hprobes heq
    | falls heq => exact .falls heq
  | accepts live decoder m w hphase hnext hkind hw =>
    obtain rfl : live.link = n := by rw [hphase] at hlink; exact Option.some.inj hlink
    have hopen : t.connection.phase.openLink? = some live.link := congrArg Phase.openLink? hphase
    have hshown : t.connection.phase.shown = .open := congrArg Phase.shown hphase
    have hprobes : t.connection.phase.probes = live.awaiting.toList :=
      congrArg Phase.probes hphase
    rcases t.ledger_accept { live with decoder, heard := true } w with
      ⟨hawaiting, heq⟩ | ⟨hawaiting, heq⟩
    · rw [heq, ← hshown, ← hopen]
      refine (Shift.hearsProbe live.link m w hopen hkind hw ?_).shifts
      rw [show t.connection.ledger.probes = live.awaiting.toList from hprobes, hawaiting]
      rfl
    · rw [heq, ← hshown, ← hopen, ← hprobes]
      refine (Shift.accepts live.link m w hopen hkind hw ?_).shifts
      rw [show t.connection.ledger.probes = live.awaiting.toList from hprobes]
      simpa using hawaiting
  | answers live decoder m q _ hphase hnext hkind hq h =>
    obtain rfl : live.link = n := by rw [hphase] at hlink; exact Option.some.inj hlink
    have hopen : t.connection.phase.openLink? = some live.link := congrArg Phase.openLink? hphase
    have hprobes : t.connection.phase.probes = live.awaiting.toList :=
      congrArg Phase.probes hphase
    obtain ⟨queueEmptied, hledger⟩ := t.ledger_answer q
    have hsettles := h.settles
    rw [hledger, ← hprobes] at hsettles
    refine ((Shift.hears live.link m queueEmptied hopen fun hresponse => ?_).shifts.tail
      (.tells live.link (some .reply) (.ofResponse (t.answer q).1) (by simp) rfl)).tail
      (.settles live.link _ hopen hsettles)
    rw [hkind] at hresponse
    cases hresponse
  | ignores live decoder m hphase hnext hno =>
    obtain rfl : live.link = n := by rw [hphase] at hlink; exact Option.some.inj hlink
    have hopen : t.connection.phase.openLink? = some live.link := congrArg Phase.openLink? hphase
    have hsame : ({ t.connection with
        phase := .draining { live with decoder, heard := true } } : Connection).ledger =
        { t.connection.ledger with queueEmptied := t.connection.ledger.queueEmptied } := by
      simp only [Connection.ledger, hphase]
      rfl
    rw [hsame]
    exact (Shift.hears live.link m _ hopen hno).shifts

/-- An event that leaves the keeper without an open socket, as the ledger shows it. -/
theorem ledger_transition (c : Connection) (e : SocketEvent) (phase : Phase)
    (hbefore : c.phase.shown ≠ .open) (hafter : phase.shown ≠ .open) :
    ({ c.transition e with phase } : Connection).ledger = c.ledger.event e phase.shown := by
  simp only [Connection.ledger, Ledger.event, Connection.transition,
    Phase.openLink?_of_shown hafter, Phase.probes_of_shown hafter,
    Phase.openLink?_of_shown hbefore, Phase.probes_of_shown hbefore]

/-- An attempt to connect that failed, as the ledger shows it. -/
theorem ledger_connectFailed (c : Connection) (stores : Stores) (now : Nat) (e : ChatError)
    (hbefore : c.phase.shown ≠ .open) :
    (c.connectFailed stores now e).ledger = c.ledger.event .connectFailed .closed := by
  rw [Connection.ledger_connectFailed, Ledger.event,
    show c.ledger.link? = none from Phase.openLink?_of_shown hbefore,
    show c.ledger.probes = [] from Phase.probes_of_shown hbefore]

/-- The head of the loop does some of these things. -/
theorem atHead_shifts (c : Connection) (stores : Stores) (now : Nat) (attempt : Attempt)
    (hclosed : c.phase.shown = .closed) (r : Record) :
    Shifts c.ledger r (c.atHead stores now attempt).ledger r := by
  have hbefore : c.phase.shown ≠ .open := by simp [hclosed]
  unfold Connection.atHead
  split
  · rw [c.ledger_tearDown .finished rfl]
    exact (Shift.finishes hclosed).shifts
  · split
    · dsimp only
      split
      · have hdials : (({ c with cycling := false } : Connection).transition
            .connectStarted).ledger = c.ledger.event .connectStarted .closed := by
          rw [← hclosed]
          exact ledger_transition { c with cycling := false } .connectStarted c.phase hbefore
            hbefore
        rw [ledger_connectFailed, hdials]
        · exact (Shift.dials hclosed).shifts.tail (.fails rfl)
        · exact hbefore
      · rw [ledger_transition { c with cycling := false } .connectStarted _ hbefore
          (by simp [Phase.shown])]
        exact (Shift.dials hclosed).shifts
    · rw [ledger_transition c .closed .parked hbefore (by simp [Phase.shown])]
      exact (Shift.parks hclosed).shifts

/-- So does an attempt that failed. -/
theorem connectFailed_shifts (c : Connection) (stores : Stores) (now : Nat) (e : ChatError)
    (hconnecting : c.phase.shown = .connecting) (r : Record) :
    Shifts c.ledger r (c.connectFailed stores now e).ledger r := by
  rw [ledger_connectFailed c stores now e (by simp [hconnecting])]
  exact (Shift.fails hconnecting).shifts

end Keeper

end ChatSockets
