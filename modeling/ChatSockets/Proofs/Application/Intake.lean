import ChatSockets.Proofs.Device.Dialing
import ChatSockets.Proofs.Socket.Intake

/-!
# What a client takes in

`readOn` and `putOn` tell from the moves what a client read from a link and what it put on the
channel of incoming messages meanwhile. Every move keeps what the record of the socket tells of both
(`Intakes.make`). So at any time, if what was read from a link is the front of a stream, then the
first of its messages were taken, those that bring something to the application were put on the
channel once each and in their order, every request was answered in its turn, and the answers are
among the messages whose frames were written (`takes_stream`). A keeper that waits on its socket has
taken each message whose frame it has read.
-/

namespace ChatSockets.Application

open Wire Keeper

variable {a : Application} {k : SocketKind} {n : Nat}

/-- The bytes that a move reads from a link of a socket. -/
def readIn (a : Application) (k : SocketKind) (n : Nat) : Move → ByteArray
  | .keeper j branch stores now link =>
    if j = k ∧ linkOf? (a.connection k) = some n then
      link.down.taken (step branch stores now ⟨a.connection k, link, none⟩).link.down
    else .empty
  | _ => .empty

/-- The bytes that some moves read from a link of a socket. -/
def readOn (a : Application) (k : SocketKind) (n : Nat) : List Move → ByteArray
  | [] => .empty
  | move :: moves => a.readIn k n move ++ (a.make move).readOn k n moves

/-- What a move puts on the channel of incoming messages while a socket works on a link. -/
def putIn (a : Application) (k : SocketKind) (n : Nat) : Move → List Incoming
  | .keeper j branch stores now link =>
    if j = k ∧ linkOf? (a.connection k) = some n then
      (step branch stores now ⟨a.connection k, link, none⟩).incoming.toList
    else []
  | _ => []

/-- What some moves put on the channel of incoming messages while a socket works on a link. -/
def putOn (a : Application) (k : SocketKind) (n : Nat) : List Move → List Incoming
  | [] => []
  | move :: moves => a.putIn k n move ++ (a.make move).putOn k n moves

/-- A move that is no step of the keeper on a link reads nothing and puts nothing. -/
theorem readIn_eq_empty {move : Move} (h : ∀ branch stores now link,
    move = .keeper k branch stores now link → linkOf? (a.connection k) = none) (n : Nat) :
    a.readIn k n move = .empty ∧ a.putIn k n move = [] := by
  cases move with
  | keeper j branch stores now link =>
    have hno : ¬ (j = k ∧ linkOf? (a.connection k) = some n) := by
      rintro ⟨rfl, hlink⟩
      rw [h branch stores now link rfl] at hlink
      cases hlink
    exact ⟨if_neg hno, if_neg hno⟩
  | _ => exact ⟨rfl, rfl⟩

/-- The record of a socket tells what has come of the bytes that were read from its links. -/
def Intakes (a : Application) (k : SocketKind) (read : Nat → ByteArray)
    (put : Nat → List Incoming) : Prop :=
  (a.records k).Intake (a.connection k).phase a.opened k read put

/-- A socket of which nothing has happened has read nothing. -/
theorem intakes_start (config : ClientConfig) (k : SocketKind) :
    (start config).Intakes k (fun _ => .empty) fun _ => [] := by
  have hphase : ((start config).connection k).phase = .atHead := by cases k <;> rfl
  rw [Intakes, hphase]
  refine ⟨⟨nofun, nofun, nofun⟩, fun _ _ => ⟨rfl, rfl⟩, fun _ => rfl, fun _ => rfl,
    fun n more ms hframed hstream => ?_⟩
  rw [ByteArray.empty_append] at hstream
  exact ⟨ms, rfl, Nat.le_of_eq (congrArg ByteArray.size hstream), nofun⟩

namespace Intakes

variable {a' : Application} {read : Nat → ByteArray} {put : Nat → List Incoming}

theorem quiet (h : a.Intakes k read put) (hsame : a.Quiet a') : a'.Intakes k read put :=
  Record.Intake.quiet h (Nat.le_of_eq hsame.opened.symm) (hsame.said k) (hsame.heard k)
    (hsame.phase k)

theorem connected (h : a.Intakes k read put) (j : SocketKind) (stores : Stores)
    (now others : Nat) (link : Link) :
    (a.make (.connected j stores now others link)).Intakes k read put := by
  cases hphase : (a.connection j).phase with
  | dialing hello deadline attempt =>
    by_cases hk : k = j
    · subst hk
      rw [Intakes, connection_connected stores now others link hphase,
        records_connected hphase stores now others link]
      simp only [make, hphase, connect]
      exact Record.Intake.connected h (Nat.le_add_right _ _)
        (connected_leaves stores now _ hello _) (connected_drained _ _ hello) _
    · refine Record.Intake.quiet h ?_ ?_ ?_ (.inl ?_)
      · simp only [make, hphase, connect]
        exact Nat.le_succ_of_le (Nat.le_add_right _ _)
      · simp only [make, hphase, connect, Function.update_of_ne hk]
      · simp only [make, hphase, connect, Function.update_of_ne hk]
      · simp only [make, hphase]
        exact congrArg Connection.phase ((Sockets.get_set ..).trans (if_neg hk))
  | _ =>
    simp only [make, hphase]
    exact h

/-- What was read stays the same in a move that is no step of the keeper on a link. -/
theorem still {move : Move} (h : a'.Intakes k read put) (hno : ∀ branch stores now link,
    move = .keeper k branch stores now link → linkOf? (a.connection k) = none) :
    a'.Intakes k (fun n => read n ++ a.readIn k n move) fun n => put n ++ a.putIn k n move := by
  simpa only [(readIn_eq_empty hno _).1, (readIn_eq_empty hno _).2, ByteArray.append_empty,
    List.append_nil] using h

theorem keeper (h : a.Intakes k read put) (hwired : a.Wired)
    (hsocket : (a.connection k).socket = k) (j : SocketKind) (branch : Branch) (stores : Stores)
    (now : Nat) (link : Link) :
    (a.make (.keeper j branch stores now link)).Intakes k
      (fun n => read n ++ a.readIn k n (.keeper j branch stores now link))
      fun n => put n ++ a.putIn k n (.keeper j branch stores now link) := by
  by_cases hk : k = j
  · subst hk
    cases hlink : linkOf? (a.connection k) with
    | none =>
      exact (h.quiet (a.quiet_keeper hlink branch stores now link)).still fun _ _ _ _ _ => hlink
    | some m =>
      unfold Intakes at h ⊢
      rw [connection_keeper, records_keeper hlink branch stores now link]
      refine h.acts ((hwired k).linked m hlink) hlink hsocket rfl
        (step_acts branch stores now ⟨a.connection k, link, none⟩)
        (step_drained branch _ h.drained) _ (fun n => ?_) fun n => ?_
      · simp only [readIn, hlink, true_and, Option.some.injEq, eq_comm (a := m)]
      · simp only [putIn, hlink, true_and, Option.some.injEq, eq_comm (a := m)]
  · have hrecords : (a.make (.keeper j branch stores now link)).records k = a.records k :=
      a.records_turn_of_ne _ _ _ _ _ hk
    have hconnection : (a.make (.keeper j branch stores now link)).connection k =
        a.connection k := (Sockets.get_set ..).trans (if_neg hk)
    refine still ?_ fun _ _ _ _ heq => by cases heq; exact absurd rfl hk
    rw [Intakes, hrecords, hconnection]
    exact h

/-- **Every move keeps** what the record of a socket tells of the bytes that were read. -/
theorem make (h : a.Intakes k read put) (hwired : a.Wired)
    (hsocket : (a.connection k).socket = k) (move : Move) :
    (a.make move).Intakes k (fun n => read n ++ a.readIn k n move)
      fun n => put n ++ a.putIn k n move := by
  by_cases hquiet : move.isQuiet = true
  · refine (h.quiet (a.make_quiet hquiet)).still fun _ _ _ _ heq => ?_
    rw [heq] at hquiet
    cases hquiet
  cases move with
  | connected j stores now others link => exact (h.connected j stores now others link).still nofun
  | keeper j branch stores now link => exact h.keeper hwired hsocket j branch stores now link
  | _ => exact absurd rfl hquiet

theorem makeAll (h : a.Intakes k read put) (hwired : a.Wired)
    (hsocket : (a.connection k).socket = k) (moves : List Move) :
    (a.makeAll moves).Intakes k (fun n => read n ++ a.readOn k n moves)
      fun n => put n ++ a.putOn k n moves := by
  induction moves generalizing a read put with
  | nil =>
    simp only [readOn, putOn, ByteArray.append_empty, List.append_nil]
    exact h
  | cons move moves ih =>
    have hnext := ih (h.make hwired hsocket move) (hwired.make move)
      (((make_does a move).socket k).trans hsocket)
    simp only [ByteArray.append_assoc, List.append_assoc] at hnext
    exact hnext

end Intakes

/-! ## What has come of a stream -/

/-- What a client has to show for the messages that it took from a link of a socket: what they bring
is on the channel, they are answered, and the answers are among the messages whose frames are on the
link, but for the bytes that are still to be written. -/
structure Took (a : Application) (k : SocketKind) (n : Nat) (put : List Incoming)
    (ms : List Message) : Prop where
  heard : (a.records k).heardOn n = ms
  put : put = deliveries k ms
  replies : (a.records k).repliesOn n = repliesTo ms
  said : (repliesTo ms).Sublist ((a.records k).saidOn n)
  wire : ∃ more, (a.records k).wire n ++ more = stream ((a.records k).saidOn n) ∧
    (linkOf? (a.connection k) = some n → more = (a.connection k).phase.unwritten)

/-- A keeper waits on the open socket with a link until something happens. -/
def Waits (a : Application) (k : SocketKind) (n : Nat) : Prop :=
  ∃ live window, (a.connection k).phase = .serving live window ∧ live.link = n

instance (a : Application) (k : SocketKind) (n : Nat) : Decidable (a.Waits k n) :=
  decidable_of_iff _ Phase.waitsOn?_eq_some

/-- **What has come of a stream.** If the bytes that a client read from a link are the front of the
stream of some messages, the first of these were taken and no others, and the bytes that are still
to come are bytes of the others. A keeper that waits has not got the whole frame of the next one. -/
theorem takes_stream (config : ClientConfig) (moves : List Move) (k : SocketKind) (n : Nat)
    {more : ByteArray} {ms : List Message} (hframed : Framed ms)
    (hread : (start config).readOn k n moves ++ more = stream ms) :
    let a := (start config).makeAll moves
    ∃ taken rest, ms = taken ++ rest ∧ a.Took k n ((start config).putOn k n moves) taken ∧
      more.size ≤ (stream rest).size ∧
      (a.Waits k n → ∀ m later, rest = m :: later → (stream later).size < more.size) := by
  intro a
  have hsocket : ((start config).connection k).socket = k := by cases k <;> rfl
  have hintake := (intakes_start config k).makeAll (wired_start config) hsocket moves
  simp only [ByteArray.empty_append, List.nil_append] at hintake
  obtain ⟨rest, hms, hsize, hexpects⟩ := hintake.stream n more ms hframed hread
  refine ⟨_, rest, hms, ⟨rfl, hintake.put n, hintake.replies n, ?_,
    (wired_makeAll (wired_start config) moves k).bytes n⟩, hsize, ?_⟩
  · rw [← hintake.replies n]
    refine List.Sublist.map _ (List.monotone_filter_right _ fun s hs => ?_)
    simp only [decide_eq_true_eq] at hs ⊢
    exact hs.1
  · rintro ⟨live, window, hphase, hlink⟩ m later rfl
    have hdecoder := hexpects (by rw [hphase, ← hlink]; rfl)
    rw [hphase] at hdecoder
    exact hdecoder.size_lt (hintake.drained.serving live window hphase)

end ChatSockets.Application
