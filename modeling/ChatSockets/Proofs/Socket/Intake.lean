import ChatSockets.Proofs.Application.Written
import ChatSockets.Proofs.Socket.Signal

/-!
# What a keeper takes in

A keeper reads the bytes of its link in pieces, takes messages from its decoder, puts those that are
brought to the application on the channel, and answers all requests. What it puts and what it
answers depends on the messages alone (`deliveries`, `repliesTo`). If the bytes that came on a link
are the front of a stream, then what was taken is the front of its messages, and the others are
still before the decoder (`Record.Intake`). A keeper that waits on its socket has taken all that it
could (`Phase.Drained`).
-/

namespace ChatSockets

open Wire

namespace Keeper

/-! ## What is done for the messages of a server -/

/-- The answer to a request of the server. -/
def answerTo (r : Wire.Request) : Wire.Response :=
  if r.verb = "PUT" ∧ (r.path = Path.message ∨ r.path = Path.queueEmpty) then .plain r.id 200 "OK"
  else .plain r.id 400 "Unsupported request"

/-- What is put on the channel of incoming messages for messages of the server. -/
def deliveries (socket : SocketKind) (ms : List Message) : List Incoming :=
  (ms.filterMap Message.asked?).filterMap (delivered? socket)

/-- The answers to messages of the server. -/
def repliesTo (ms : List Message) : List Message :=
  (ms.filterMap Message.asked?).map fun r => .ofResponse (answerTo r)

theorem deliveries_append (socket : SocketKind) (ms more : List Message) :
    deliveries socket (ms ++ more) = deliveries socket ms ++ deliveries socket more := by
  simp only [deliveries, List.filterMap_append]

theorem repliesTo_append (ms more : List Message) :
    repliesTo (ms ++ more) = repliesTo ms ++ repliesTo more := by
  simp only [repliesTo, List.filterMap_append, List.map_append]

theorem deliveries_toList (socket : SocketKind) (heard : Option Message) :
    deliveries socket heard.toList =
      ((heard.bind Message.asked?).bind (delivered? socket)).toList := by
  cases heard with
  | none => rfl
  | some m =>
    cases hasked : m.asked? with
    | none => simp [deliveries, hasked]
    | some r => cases hdelivered : delivered? socket r <;> simp [deliveries, hasked, hdelivered]

theorem repliesTo_toList (heard : Option Message) :
    repliesTo heard.toList =
      ((heard.bind Message.asked?).map fun r => Message.ofResponse (answerTo r)).toList := by
  cases heard with
  | none => rfl
  | some m => cases hasked : m.asked? <;> simp [repliesTo, hasked]

theorem Turn.answer_eq (t : Turn) (r : Wire.Request) : (t.answer r).1 = answerTo r := by
  have hne : Path.queueEmpty ≠ Path.message := by decide
  unfold Turn.answer answerTo
  by_cases hverb : r.verb = "PUT"
  · by_cases hmessage : r.path = Path.message
    · simp [hverb, hmessage]
    · by_cases hempty : r.path = Path.queueEmpty <;> simp [hverb, hmessage, hempty, hne]
  · simp [hverb]

/-- Every answer has a frame. -/
theorem fitting_repliesTo (ms : List Message) : fitting (repliesTo ms) = repliesTo ms := by
  refine List.filter_eq_self.2 fun m hm => ?_
  obtain ⟨r, -, rfl⟩ := List.mem_map.1 hm
  have hlength : ∀ (status : UInt32) (message : String), message.toUTF8.size ≤ 19 →
      (Message.ofResponse (.plain r.id status message)).length ≤ Frame.maxLength := by
    intro status message hsize
    exact Nat.le_trans (Message.length_plainResponse_le r.id status message)
      (Nat.le_trans (Nat.add_le_add_right hsize 46) (by decide))
  rw [decide_eq_true_iff, answerTo]
  split
  · exact hlength 200 "OK" (by decide)
  · exact hlength 400 "Unsupported request" (by decide)

/-- The answer that is set out to be written, if one is. -/
def reply? : Option (Purpose × Message) → Option Message
  | some (.reply, m) => some m
  | _ => none

/-- **What a step answers** is the request that is taken in it. -/
theorem Acts.reply {t t' : Turn} {uttered : Option (Purpose × Message)} {heard : Option Message}
    (h : Acts t uttered heard t') : (reply? uttered).toList = repliesTo heard.toList := by
  rw [repliesTo_toList]
  cases h with
  | accepts live decoder m w hphase hnext hkind hw =>
    rw [Option.bind_some,
      Message.asked?_of_ne fun hrequest => by cases hkind.symm.trans hrequest]
    rfl
  | answers live decoder m r _ hphase hnext hkind hr h =>
    rw [Option.bind_some, Message.asked?_of_request hkind, hr, t.answer_eq r]
    rfl
  | ignores live decoder m hphase hnext hno hrequest =>
    rw [Option.bind_some, Message.asked?_of_ne hrequest]
    rfl
  | _ => rfl

/-! ## When all is taken -/

/-- A keeper that is not about to look into its decoder would find no message there. -/
structure Phase.Drained (p : Phase) : Prop where
  looking : ∀ live look, p = .looking live look → live.decoder.message? = none
  serving : ∀ live window, p = .serving live window → live.decoder.message? = none
  writing : ∀ live rest purpose, p = .writing live rest purpose → purpose ≠ .reply →
    live.decoder.message? = none

theorem Phase.drained_of_unlinked {p : Phase} (h : p.link? = none) : p.Drained := by
  constructor
  · rintro live look rfl
    cases h
  · rintro live window rfl
    cases h
  · rintro live rest purpose rfl
    cases h

/-- The link that a keeper waits on while the socket is open, if it is not at work there. -/
def Phase.waitsOn? : Phase → Option Nat
  | .serving live _ => some live.link
  | .looking .. | .draining _ | .writing .. => none
  | _ => none

theorem Phase.waitsOn?_eq_some {p : Phase} {n : Nat} :
    p.waitsOn? = some n ↔ ∃ live window, p = .serving live window ∧ live.link = n := by
  cases p <;> simp [waitsOn?]

theorem Phase.drained_draining (live : Live) : (Phase.draining live).Drained :=
  ⟨nofun, nofun, nofun⟩

theorem Phase.drained_looking {live : Live} (h : live.decoder.message? = none) (look : Look) :
    (Phase.looking live look).Drained := by
  refine ⟨fun live' look' heq => ?_, nofun, nofun⟩
  cases heq
  exact h

section

variable {stores : Stores} {now : Nat} {live : Live}

theorem Turn.close_drained (t : Turn) (heard : Bool) (why : Close) :
    (t.close stores now heard why).connection.phase.Drained :=
  Phase.drained_of_unlinked (t.close_spec stores now heard why).2.2.1

theorem Turn.resume_drained (t : Turn) (live : Live) (h : live.decoder.message? = none) :
    (t.resume stores now live).connection.phase.Drained := by
  unfold Turn.resume
  dsimp only
  split
  · exact Turn.close_drained _ _ _
  · exact Phase.drained_looking h _

theorem Turn.look_drained (t : Turn) (h : live.decoder.message? = none) (look : Look) :
    (t.look stores now live look).connection.phase.Drained := by
  cases look with
  | whetherWanted counted =>
    unfold Turn.look
    dsimp only
    split
    · exact Phase.drained_looking h _
    · exact t.close_drained _ _
  | untilWhen => exact ⟨nofun, fun _ _ heq => by cases heq; exact h, nofun⟩

theorem Turn.write_drained (t : Turn) (live : Live) (purpose : Purpose)
    (h : purpose ≠ .reply → live.decoder.message? = none) (b : ByteArray) :
    (t.write stores now live purpose b).connection.phase.Drained := by
  unfold Turn.write
  split
  · exact t.close_drained _ _
  · dsimp only
    split
    · unfold Turn.written
      cases purpose with
      | probe id => exact Turn.resume_drained _ { live with awaiting := some id } (h nofun)
      | request => exact Turn.resume_drained _ live (h nofun)
      | reply => exact Phase.drained_draining live
    · exact ⟨nofun, nofun, fun _ _ _ heq => by cases heq; exact h⟩

theorem Turn.writeMessage_drained (t : Turn) (live : Live) (purpose : Purpose)
    (h : purpose ≠ .reply → live.decoder.message? = none) (m : Message) :
    (t.writeMessage stores now live purpose m).connection.phase.Drained := by
  unfold Turn.writeMessage
  split
  · exact t.close_drained _ _
  · exact t.write_drained live purpose h _

theorem Turn.opened_drained (t : Turn) (link : Nat) :
    (t.opened stores now link).connection.phase.Drained := by
  unfold Turn.opened
  dsimp only
  split
  · exact Turn.resume_drained _ { link, probeAt := now + t.connection.config.keepalive } rfl
  · exact Phase.drained_of_unlinked rfl

theorem Turn.greet_drained (t : Turn) (link : Nat) (b : ByteArray) :
    (t.greet stores now link b).connection.phase.Drained := by
  unfold Turn.greet
  split
  · exact Phase.drained_of_unlinked (connectFailed_spec t.connection stores now _).1
  · dsimp only
    split
    · exact Turn.opened_drained _ link
    · exact ⟨nofun, nofun, nofun⟩

/-- A new link begins with nothing in the decoder. -/
theorem connected_drained (t : Turn) (link : Nat) (hello : Handshake) :
    (connected stores now link hello t).connection.phase.Drained := by
  unfold connected
  split
  · exact Phase.drained_of_unlinked (connectFailed_spec t.connection stores now _).1
  · exact t.greet_drained link _

theorem Turn.serve_drained (t : Turn) (hstays : t.connection.phase.Drained)
    (h : live.decoder.message? = none) (branch : Branch) :
    (t.serve stores now live branch).connection.phase.Drained := by
  cases branch with
  | woken => exact Turn.resume_drained _ live h
  | window => exact t.resume_drained live h
  | probe =>
    dsimp only [Turn.serve, Turn.probe]
    split
    · exact t.close_drained _ _
    · exact Turn.writeMessage_drained _
        { live with probeAt := nextProbe live.probeAt now t.connection.config.keepalive }
        (.probe t.connection.pending.draw.1) (fun _ => h) _
  | send =>
    dsimp only [Turn.serve, Turn.sendNext]
    split
    · exact Turn.writeMessage_drained _ live .request (fun _ => h) _
    · exact hstays
  | receive =>
    dsimp only [Turn.serve, Turn.receive]
    split
    · exact hstays
    · exact t.close_drained _ _
    · exact Phase.drained_draining _
  | timer | nudge | shutdown => exact hstays

theorem Turn.handle_drained (t : Turn) (m : Message) :
    (t.handle stores now live m).connection.phase.Drained := by
  unfold Turn.handle
  split
  · unfold Turn.accept
    split <;> exact Phase.drained_draining _
  · dsimp only
    exact Turn.writeMessage_drained _ live .reply (fun hreply => absurd rfl hreply) _
  · exact Phase.drained_draining _

/-- **A keeper that waits on its socket has taken all that it could**, after any step. -/
theorem step_drained (branch : Branch) (t : Turn) (h : t.connection.phase.Drained) :
    (step branch stores now t).connection.phase.Drained := by
  cases hphase : t.connection.phase with
  | atHead | finished | crashed | dialing => simpa only [step, hphase] using h
  | parked =>
    simp only [step, hphase]
    split
    · exact Phase.drained_of_unlinked rfl
    · exact h
  | greeting link rest =>
    simp only [step, hphase]
    exact t.greet_drained link rest
  | looking live look =>
    simp only [step, hphase]
    exact t.look_drained (h.looking live look hphase) look
  | serving live window =>
    simp only [step, hphase]
    split
    · exact t.serve_drained h (h.serving live window hphase) branch
    · exact h
  | draining live =>
    simp only [step, hphase, Turn.drain]
    split
    · next hnext => exact t.resume_drained live (Decoder.message?_of_ok hnext)
    · exact t.close_drained _ _
    · exact t.handle_drained _
  | writing live rest purpose =>
    simp only [step, hphase]
    exact t.write_drained live purpose (h.writing live rest purpose hphase) rest
  | waiting b =>
    simp only [step, hphase]
    have hclosed : t.connection.phase.shown = .closed := by rw [hphase]; rfl
    split
    · have hledger := t.connection.ledger_goOn stores now b branch hclosed
      exact Phase.drained_of_unlinked
        (Phase.link?_of_closed ((congrArg Ledger.shown hledger).trans hclosed))
    · exact h

end

end Keeper

/-! ## What is read from a link -/

/-- The bytes that were taken from a pipe. -/
def Pipe.taken (before after : Pipe) : ByteArray :=
  before.held.extract 0 (before.held.size - after.held.size)

theorem Pipe.taken_eq {before after : Pipe} {b : ByteArray} (h : before.held = b ++ after.held) :
    before.taken after = b := by
  have hsize : before.held.size - after.held.size = b.size := by
    rw [h, ByteArray.size_append, Nat.add_sub_cancel]
  rw [taken, hsize, h]
  exact ByteArray.extract_append_eq_left rfl

namespace Record

/-- The messages that were heard on a link. -/
def heardOn (r : Record) (n : Nat) : List Message :=
  (r.heard.filter (·.link = n)).map Heard.message

/-- The answers to the server that were written on a link. -/
def repliesOn (r : Record) (n : Nat) : List Message :=
  (r.said.filter fun s => s.link = n ∧ s.purpose? = some .reply).map Said.message

theorem heardOn_after (r : Record) (n : Nat) (uttered : Option (Keeper.Purpose × Message))
    (heard : Option Message) (n' : Nat) :
    (r.after n uttered heard).heardOn n' =
      r.heardOn n' ++ if n' = n then heard.toList else [] := by
  rw [heardOn, heard_after, List.filter_append, List.map_append]
  congr 1
  by_cases hn : n' = n
  · cases heard <;> simp [hn]
  · cases heard <;> simp [hn, Ne.symm hn]

theorem repliesOn_say (r : Record) (s : Said) (n : Nat) :
    (r.say s).repliesOn n = r.repliesOn n ++
      if n = s.link ∧ s.purpose? = some .reply then fitting [s.message] else [] := by
  rw [repliesOn, repliesOn, say, List.filter_append, List.map_append]
  congr 1
  by_cases hfit : s.message.length ≤ Frame.maxLength
  · simp only [hfit, fitting, decide_true, List.filter_cons_of_pos, List.filter_nil,
      List.filter_cons, decide_eq_true_eq, eq_comm (a := n)]
    split <;> rfl
  · simp [hfit, fitting]

theorem repliesOn_after (r : Record) (n : Nat) (uttered : Option (Keeper.Purpose × Message))
    (heard : Option Message) (n' : Nat) :
    (r.after n uttered heard).repliesOn n' =
      r.repliesOn n' ++ if n' = n then fitting (Keeper.reply? uttered).toList else [] := by
  have hsay : ∀ (r' : Record) (purpose : Keeper.Purpose) (m : Message), r'.said = r.said →
      (r'.say ⟨n, some purpose, m⟩).repliesOn n' =
        r.repliesOn n' ++ if n' = n ∧ some purpose = some .reply then fitting [m] else [] := by
    intro r' purpose m hsaid
    rw [repliesOn_say, repliesOn, hsaid]
    rfl
  have hsilent : r.repliesOn n' = r.repliesOn n' ++ if n' = n then fitting [] else [] := by
    rw [fitting, List.filter_nil, ite_self, List.append_nil]
  cases uttered with
  | none => cases heard <;> exact hsilent
  | some x =>
    obtain ⟨purpose, m⟩ := x
    cases heard <;> cases purpose <;> refine (hsay _ _ m rfl).trans ?_ <;>
      simp [Keeper.reply?, fitting]

/-- What a record tells of the bytes that were read on each link of a socket and of what was put on
the channel meanwhile: all that was heard was handled, and if the bytes are the front of a stream,
it is the front of its messages. -/
structure Intake (r : Record) (p : Keeper.Phase) (opened : Nat) (socket : SocketKind)
    (read : Nat → ByteArray) (put : Nat → List Incoming) : Prop where
  drained : p.Drained
  fresh : ∀ n, opened ≤ n → read n = .empty ∧ r.heardOn n = []
  put : ∀ n, put n = Keeper.deliveries socket (r.heardOn n)
  replies : ∀ n, r.repliesOn n = Keeper.repliesTo (r.heardOn n)
  stream : ∀ n more ms, Framed ms → read n ++ more = stream ms →
    ∃ rest, ms = r.heardOn n ++ rest ∧ more.size ≤ (Wire.stream rest).size ∧
      (p.link? = some n → p.decoder.Expects more rest)

namespace Intake

variable {r r' : Record} {p p' : Keeper.Phase} {opened n : Nat} {socket : SocketKind}
  {read read' : Nat → ByteArray} {put put' : Nat → List Incoming} {t t' : Keeper.Turn}

/-- Nothing was written or heard, and the keeper stayed where it was or has no link. -/
theorem quiet {opened' : Nat} (h : r.Intake p opened socket read put) (hopened : opened ≤ opened')
    (hsaid : r'.said = r.said) (hheard : r'.heard = r.heard) (hphase : p' = p ∨ p'.link? = none) :
    r'.Intake p' opened' socket read put := by
  have hheardOn : ∀ n, r'.heardOn n = r.heardOn n := fun n => by rw [heardOn, heardOn, hheard]
  refine ⟨?_, fun n hn => ?_, fun n => ?_, fun n => ?_, fun n more ms hframed hread => ?_⟩
  · rcases hphase with rfl | hnone
    · exact h.drained
    · exact Keeper.Phase.drained_of_unlinked hnone
  · rw [hheardOn]
    exact h.fresh n (Nat.le_trans hopened hn)
  · rw [hheardOn]
    exact h.put n
  · rw [hheardOn, repliesOn, hsaid]
    exact h.replies n
  · obtain ⟨rest, hms, hsize, hexpects⟩ := h.stream n more ms hframed hread
    refine ⟨rest, by rw [hheardOn]; exact hms, hsize, fun hlink => ?_⟩
    rcases hphase with rfl | hnone
    · exact hexpects hlink
    · rw [hnone] at hlink
      cases hlink

/-- The keeper has a new link. -/
theorem connected {hello : Handshake} (h : r.Intake p opened socket read put) (hn : opened ≤ n)
    (hleaves : t.Leaves n .new (offer (.ofHandshake hello)) t')
    (hdrained : t'.connection.phase.Drained) (b : ByteArray) :
    ((r.say ⟨n, none, .ofHandshake hello⟩).put n b).Intake t'.connection.phase (n + 1) socket
      read put := by
  have hreplies : ∀ n', ((r.say ⟨n, none, .ofHandshake hello⟩).put n b).repliesOn n' =
      r.repliesOn n' := fun n' =>
    (r.repliesOn_say ⟨n, none, .ofHandshake hello⟩ n').trans (by simp)
  refine ⟨hdrained, fun n' hn' => h.fresh n' (Nat.le_trans (Nat.le_succ_of_le hn) hn'), h.put,
    fun n' => (hreplies n').trans (h.replies n'), fun n' more ms hframed hread => ?_⟩
  obtain ⟨rest, hms, hsize, -⟩ := h.stream n' more ms hframed hread
  refine ⟨rest, hms, hsize, fun hlink => ?_⟩
  rcases hleaves.stays with ⟨hnone, -⟩ | ⟨hsame, hdecoder⟩
  · rw [Keeper.linkOf?_eq, hlink] at hnone
    cases hnone
  · -- nothing was read on the new link yet
    rw [Keeper.linkOf?_eq, hlink] at hsame
    obtain rfl := Option.some.inj hsame
    obtain ⟨hempty, hnothing⟩ := h.fresh n' hn
    rw [hnothing, List.nil_append] at hms
    rw [hempty] at hread
    rw [hdecoder, ← hms]
    exact ⟨rfl, hframed, hread⟩

/-- **The keeper makes a step on its link.** -/
theorem acts {uttered : Option (Keeper.Purpose × Message)} {heard : Option Message}
    (h : r.Intake t.connection.phase opened socket read put) (hn : n < opened)
    (hlink : Keeper.linkOf? t.connection = some n) (hsocket : t.connection.socket = socket)
    (hincoming : t.incoming = none) (hacts : Keeper.Acts t uttered heard t')
    (hdrained : t'.connection.phase.Drained) (b : ByteArray)
    (hread : ∀ n', read' n' =
      read n' ++ if n' = n then t.link.down.taken t'.link.down else .empty)
    (hput : ∀ n', put' n' = put n' ++ if n' = n then t'.incoming.toList else []) :
    ((r.after n uttered heard).put n b).Intake t'.connection.phase opened socket read' put' := by
  have hheard : ∀ n', ((r.after n uttered heard).put n b).heardOn n' =
      r.heardOn n' ++ if n' = n then heard.toList else [] := r.heardOn_after n uttered heard
  have hreplies : ∀ n', ((r.after n uttered heard).put n b).repliesOn n' =
      r.repliesOn n' ++ if n' = n then fitting (Keeper.reply? uttered).toList else [] :=
    r.repliesOn_after n uttered heard
  have hother : ∀ n', n' ≠ n → read' n' = read n' ∧ put' n' = put n' := fun n' hne => by
    rw [hread, hput, if_neg hne, if_neg hne, ByteArray.append_empty, List.append_nil]
    exact ⟨rfl, rfl⟩
  obtain ⟨piece, hpiece, hreads⟩ := hacts.reads
  refine ⟨hdrained, fun n' hn' => ?_, fun n' => ?_, fun n' => ?_,
    fun n' more ms hframed hstream => ?_⟩
  · have hne : n' ≠ n := Nat.ne_of_gt (Nat.lt_of_lt_of_le hn hn')
    rw [(hother n' hne).1, hheard, if_neg hne, List.append_nil]
    exact h.fresh n' hn'
  · rw [hput, hheard, h.put, Keeper.deliveries_append]
    congr 1
    split
    · rw [Keeper.deliveries_toList, hacts.incoming, hincoming, hsocket, Option.or_none]
    · rfl
  · rw [hreplies, hheard, h.replies, Keeper.repliesTo_append]
    congr 1
    split
    · rw [hacts.reply, Keeper.fitting_repliesTo]
    · rfl
  · by_cases heq : n' = n
    · subst heq
      rw [hread, if_pos rfl, Pipe.taken_eq hpiece, ByteArray.append_assoc] at hstream
      obtain ⟨rest, rfl, -, hexpects⟩ := h.stream n' (piece ++ more) ms hframed hstream
      obtain ⟨rest', decoder, rfl, hexpects', hdecoder⟩ := hreads more rest (hexpects hlink)
      refine ⟨rest', ?_, hexpects'.size_le, fun hlink' => ?_⟩
      · rw [hheard, if_pos rfl, List.append_assoc]
      · rw [hdecoder (by rw [Keeper.linkOf?_eq, hlink']; nofun)]
        exact hexpects'
    · rw [(hother n' heq).1] at hstream
      obtain ⟨rest, hms, hsize, -⟩ := h.stream n' more ms hframed hstream
      refine ⟨rest, by rw [hheard, if_neg heq, List.append_nil]; exact hms, hsize, fun hn' => ?_⟩
      rcases (hacts.keeps hlink).link with hnone | hsame
      · rw [Keeper.linkOf?_eq, hn'] at hnone
        cases hnone
      · rw [Keeper.linkOf?_eq, hn'] at hsame
        exact absurd (Option.some.inj hsame) heq

end Intake

end Record

end ChatSockets
