import ChatSockets.Proofs.Socket.Verdict

/-!
# How long a keeper waits after a failure

Two things change how long the next wait is: an open socket is closed, or a wait ends. They are the
values of `Keeper.Event`, and what a step finds says which of them happens in it (`Keeper.event?`).
`Connection.Paced` is what every step does to the waits of a connection (`step_paced`): the length
of the next one changes as the event has it, a wait that begins is as long as that, and one that
goes on ends when it would have ended before.
-/

namespace ChatSockets

namespace Keeper

/-- Something that ends, after which the next wait may have another length. -/
inductive Event
  /-- an open socket on a link was closed for a reason; whether a message was ever taken from its
  decoder -/
  | closed (link : Nat) (heard : Bool) (why : Turn.Close)
  /-- a wait after a failure ended for a reason -/
  | ended (branch : Branch)

namespace Event

/-- Whether the next wait is the shortest one again: the socket was closed without a failure, or it
failed after the server said something, or the wait was ended by a request to reconnect. -/
def resets : Event → Bool
  | .closed _ _ .unwanted | .closed _ _ .cycled | .closed _ true (.failed _) | .ended .nudge => true
  | _ => false

/-- Whether the next wait is longer: this one was waited to its end. -/
def lengthens : Event → Bool
  | .ended .timer => true
  | _ => false

/-- How long the next wait is after an event. -/
def delay (config : ClientConfig) (before : Nat) (e : Event) : Nat :=
  if e.resets then config.reconnect
  else if e.lengthens then min (2 * before) config.maxReconnect
  else before

end Event

/-- What ends in a step of a keeper that is not at the head of its loop and not dialing. -/
def event? (branch : Branch) (stores : Stores) (now : Nat) (t : Turn) : Option Event :=
  match t.connection.phase with
  | .looking live _ | .serving live _ | .draining live | .writing live _ _ =>
    (closing? branch stores now t).map (.closed live.link (live.heard || (hears t).isSome))
  | .greeting link _ => (closing? branch stores now t).map (.closed link false)
  | .waiting b =>
    if canTake now t.link t.connection branch &&
        !(t.connection.goOn stores now b branch).phase.isWaiting then some (.ended branch)
    else none
  | _ => none

end Keeper

open Keeper

namespace Connection

/-- A keeper that waits has just begun to: it saw that its socket is wanted, the wait is as long as
it has to be, and the requests to reconnect count that come from now on. -/
def Begins (c : Connection) (stores : Stores) (now : Nat) : Prop :=
  ∀ b, c.phase = .waiting b →
    c.wanted stores now = true ∧ b.due = now + c.delay ∧ b.joined = c.policy.reconnects

/-- A keeper that waits counts only requests to reconnect that there are. -/
def Joined (c : Connection) : Prop :=
  ∀ b, c.phase = .waiting b → b.joined ≤ c.policy.reconnects

/-- What a step with an event does to the waits of a connection. -/
structure Paced (c : Connection) (stores : Stores) (now : Nat) (e : Option Event)
    (c' : Connection) : Prop where
  config : c'.config = c.config
  delay : c'.delay = e.elim c.delay (Event.delay c.config c.delay)
  /-- a keeper that did not wait before begins to wait, if it does -/
  begins : c.phase.isWaiting = false → c'.Begins stores now
  /-- a wait that goes on ends when it would have ended before -/
  waits : ∀ b b', c.phase = .waiting b → c'.phase = .waiting b' → b'.due = b.due ∧ e = none
  ends : c.phase.isWaiting = true → c'.phase.isWaiting = false → ∃ branch, e = some (.ended branch)
  closes : c.phase.shown = .open → (e = none ↔ c'.phase.shown = .open)
  joined : c.Joined → c'.Joined

section

variable {c c' : Connection} {stores : Stores} {now : Nat} {e : Option Event}

theorem Begins.of_phase (h : c.phase.isWaiting = false) : c.Begins stores now := by
  intro b hb
  rw [hb] at h
  cases h

theorem Joined.of_phase (h : c.phase.isWaiting = false) : c.Joined := by
  intro b hb
  rw [hb] at h
  cases h

theorem Begins.joined (h : c.Begins stores now) : c.Joined := fun b hb =>
  Nat.le_of_eq (h b hb).2.2

/-- A step of a keeper that does not wait. -/
theorem Paced.of_begins (hphase : c.phase.isWaiting = false)
    (hcloses : c.phase.shown = .open → (e = none ↔ c'.phase.shown = .open))
    (hconfig : c'.config = c.config)
    (hdelay : c'.delay = e.elim c.delay (Event.delay c.config c.delay))
    (h : c'.Begins stores now) : c.Paced stores now e c' := by
  refine ⟨hconfig, hdelay, fun _ => h, fun b b' hb => ?_, fun hwaits => ?_, hcloses,
    fun _ => h.joined⟩
  · rw [hb] at hphase
    cases hphase
  · rw [hphase] at hwaits
    cases hwaits

/-- A step in which the keeper stays where it is. -/
theorem Paced.of_phase (hphase : c'.phase = c.phase) (hpace : c.SamePace c')
    (hle : c.policy.reconnects ≤ c'.policy.reconnects) : c.Paced stores now none c' := by
  refine ⟨hpace.config, hpace.delay, fun hno => .of_phase (hphase ▸ hno), fun b b' hb hb' => ?_,
    fun hwaits hno => ?_, fun hopen => ?_, fun hjoined b hb => ?_⟩
  · rw [hphase, hb] at hb'
    cases hb'
    exact ⟨rfl, rfl⟩
  · rw [hphase, hwaits] at hno
    cases hno
  · rw [hphase]
    exact ⟨fun _ => hopen, fun _ => rfl⟩
  · rw [hphase] at hb
    exact Nat.le_trans (hjoined b hb) hle

theorem backOff_begins (c : Connection) (stores : Stores) (now : Nat) :
    c.SamePace (c.backOff stores now) ∧ (c.backOff stores now).Begins stores now := by
  unfold backOff
  split
  · next hwanted =>
    refine ⟨⟨rfl, rfl, rfl, rfl⟩, ?_⟩
    rintro b ⟨⟩
    exact ⟨hwanted, rfl, rfl⟩
  · exact ⟨⟨rfl, rfl, rfl, rfl⟩, .of_phase rfl⟩

theorem connectFailed_paced (c : Connection) (stores : Stores) (now : Nat) (e : ChatError)
    (hphase : c.phase.isWaiting = false) (hshown : c.phase.shown ≠ .open) :
    c.Paced stores now none (c.connectFailed stores now e) := by
  obtain ⟨hpace, hbegins⟩ :=
    backOff_begins ((c.transition .connectFailed).recordFailure e.message) stores now
  exact .of_begins hphase (absurd · hshown) hpace.config hpace.delay hbegins

/-- The head of the loop leaves the next wait as long as it was. -/
theorem atHead_paced (c : Connection) (stores : Stores) (now : Nat) (attempt : Attempt)
    (hphase : c.phase = .atHead) : c.Paced stores now none (c.atHead stores now attempt) := by
  have hno : c.phase.isWaiting = false := by rw [hphase]; rfl
  have hshown : c.phase.shown ≠ .open := by rw [hphase]; nofun
  unfold atHead
  split
  · exact .of_begins hno (absurd · hshown) rfl rfl (.of_phase rfl)
  · split
    · dsimp only
      split
      · have hfails := connectFailed_paced
          ({ c with cycling := false }.transition .connectStarted) stores now
          (.transport "no credentials for the identified socket") hno hshown
        exact .of_begins hno (absurd · hshown) hfails.config hfails.delay (hfails.begins hno)
      · exact .of_begins hno (absurd · hshown) rfl rfl (.of_phase rfl)
    · exact .of_begins hno (absurd · hshown) rfl rfl (.of_phase rfl)

/-- A keeper that goes on after a failure ends the wait, or waits on. -/
theorem goOn_paced (c : Connection) (stores : Stores) (now : Nat) {b : Backoff} {branch : Branch}
    {link : Link} (hphase : c.phase = .waiting b) (htake : canTake now link c branch = true) :
    c.Paced stores now
      (if (c.goOn stores now b branch).phase.isWaiting then none else some (.ended branch))
      (c.goOn stores now b branch) := by
  have hshown : c.phase.shown ≠ .open := by rw [hphase]; nofun
  -- a wait that ends
  have hends : ∀ {c' : Connection}, c'.config = c.config →
      c'.delay = Event.delay c.config c.delay (.ended branch) → c'.phase = .atHead →
      c.Paced stores now (if c'.phase.isWaiting then none else some (.ended branch)) c' := by
    intro c' hconfig hdelay hphase'
    have hno : c'.phase.isWaiting = false := by rw [hphase']; rfl
    rw [hno]
    refine ⟨hconfig, hdelay, fun _ => .of_phase hno, fun b b' _ hb' => ?_,
      fun _ _ => ⟨branch, rfl⟩, (absurd · hshown), fun _ => ?_⟩
    · rw [hphase'] at hb'
      cases hb'
    · exact .of_phase hno
  cases branch with
  | timer => exact hends rfl rfl rfl
  | nudge => exact hends rfl rfl rfl
  | shutdown => exact hends rfl rfl rfl
  | woken =>
    unfold goOn
    dsimp only
    split
    · refine ⟨rfl, rfl, fun hno => ?_, fun b₁ b' hb₁ hb' => ?_, nofun, (absurd · hshown),
        fun _ b' hb' => ?_⟩
      · rw [hphase] at hno
        cases hno
      · rw [hphase] at hb₁
        cases hb₁
        cases hb'
        exact ⟨rfl, rfl⟩
      · cases hb'
        exact Nat.le_refl _
    · exact hends rfl rfl rfl
  | window | probe | send | receive => simp [canTake, hphase] at htake

/-- **How a keeper goes on that waits.** The wait is over, unless it goes on for a wake-up, finds
its socket wanted and no token more; then neither a wake-up nor a request to reconnect is left. -/
theorem goOn_ends_iff (c : Connection) (stores : Stores) (now : Nat) {b : Backoff}
    {branch : Branch} {link : Link} (hphase : c.phase = .waiting b)
    (htake : canTake now link c branch = true) :
    let c' := c.goOn stores now b branch
    (c'.phase = .atHead ↔
      branch ≠ .woken ∨ c.wanted stores now = false ∨ b.tokens < c.policy.tokens) ∧
    c'.delay = (if branch = .nudge then c.config.reconnect
      else if branch = .timer then min (2 * c.delay) c.config.maxReconnect else c.delay) ∧
    (c'.phase ≠ .atHead →
      c'.phase = .waiting ⟨b.due, c.policy.tokens, c.policy.reconnects⟩ ∧
      ∀ now link, canTake now link c' .nudge = false ∧
        canTake now link c' .woken = false) := by
  cases branch with
  | timer | nudge | shutdown =>
    exact ⟨⟨fun _ => .inl (by decide), fun _ => rfl⟩, rfl, fun hno => absurd rfl hno⟩
  | window | probe | send | receive => simp [canTake, hphase] at htake
  | woken =>
    have hwanted : (c.withPolicy Policy.takeWake).wanted stores now = c.wanted stores now := rfl
    unfold goOn
    dsimp only
    rw [hwanted]
    split
    · next hboth =>
      obtain ⟨hwants, hle : c.policy.tokens ≤ b.tokens⟩ := hboth
      refine ⟨⟨fun hhead => ?_, ?_⟩, rfl, fun _ => ⟨rfl, fun now link => ⟨?_, rfl⟩⟩⟩
      · cases hhead
      · rintro (hbranch | hunwanted | hmore)
        · exact absurd rfl hbranch
        · cases hunwanted.symm.trans hwants
        · exact absurd hle (Nat.not_le.2 hmore)
      · exact decide_eq_false (Nat.lt_irrefl c.policy.reconnects)
    · next hnot =>
      refine ⟨⟨fun _ => .inr ?_, fun _ => rfl⟩, rfl, fun hno => absurd rfl hno⟩
      rw [not_and_or, Bool.not_eq_true, Nat.not_le] at hnot
      exact hnot

end

end Connection

namespace Keeper

section

variable {c : Connection} {stores : Stores} {now link : Nat} {heard : Bool} {probes : List UInt64}
  {error : Option ChatError} {why : Option Turn.Close} {t' : Turn}

theorem Turn.close_shown (u : Turn) (stores : Stores) (now : Nat) (heard : Bool) (why : Close) :
    (u.close stores now heard why).connection.phase.shown = .closed := by
  cases why with
  | unwanted | cycled => rfl
  | failed reason => exact (backOff_away _ stores now).2.1

/-- **A socket that is closed** changes the length of the next wait, and a failure begins it. -/
theorem Turn.close_paced (u : Turn) (stores : Stores) (now link : Nat) (heard : Bool) (why : Close)
    (hphase : c.phase.isWaiting = false) (hpace : c.SamePace u.connection) :
    c.Paced stores now (some (.closed link heard why))
      (u.close stores now heard why).connection := by
  obtain ⟨hconfig, hdelay, -, -⟩ := hpace
  have hcloses : c.phase.shown = .open → (some (Event.closed link heard why) = none ↔
      (u.close stores now heard why).connection.phase.shown = .open) := by
    intro _
    rw [u.close_shown stores now heard why]
    exact ⟨nofun, nofun⟩
  have hreset : u.connection.tearDown.resetDelay.delay = c.config.reconnect :=
    congrArg ClientConfig.reconnect hconfig
  cases why with
  | unwanted | cycled => exact .of_begins hphase hcloses hconfig hreset (.of_phase rfl)
  | failed reason =>
    cases heard with
    | true =>
      obtain ⟨hpace, hbegins⟩ :=
        Connection.backOff_begins u.connection.tearDown.resetDelay stores now
      exact .of_begins hphase hcloses (hpace.config.trans hconfig) (hpace.delay.trans hreset)
        hbegins
    | false =>
      obtain ⟨hpace, hbegins⟩ :=
        Connection.backOff_begins (u.connection.tearDown.recordFailure reason) stores now
      exact .of_begins hphase hcloses (hpace.config.trans hconfig) (hpace.delay.trans hdelay)
        hbegins

theorem Turn.Fares.paced (h : Turn.Fares c stores now link heard probes why t')
    (hphase : c.phase.isWaiting = false) :
    c.Paced stores now (why.map (.closed link heard)) t'.connection := by
  cases h with
  | keeps _ live hlive _ _ _ hpace =>
    have hopen : t'.connection.phase.shown = .open := by
      refine Phase.shown_of_openLink? ?_
      rw [Phase.openLink?, hlive]
      rfl
    refine .of_begins hphase (fun _ => ⟨fun _ => hopen, fun _ => rfl⟩) hpace.config hpace.delay ?_
    intro b hb
    rw [hb] at hopen
    cases hopen
  | closes u why hpace => exact u.close_paced stores now link heard why hphase hpace

theorem Turn.Opens.paced (h : Turn.Opens c stores now link error why t')
    (hshown : c.phase.shown = .connecting) :
    c.Paced stores now (why.map (.closed link false)) t'.connection := by
  have hopen : c.phase.shown ≠ .open := by rw [hshown]; nofun
  have hphase : c.phase.isWaiting = false := by
    cases hwaits : c.phase <;> first | rfl | (rw [hwaits] at hshown; cases hshown)
  cases h with
  | fails _ e heq =>
    rw [heq]
    exact c.connectFailed_paced stores now e hphase hopen
  | waits _ rest hphase' hpace =>
    exact .of_begins hphase (absurd · hopen) hpace.config hpace.delay
      (.of_phase (by rw [hphase']; rfl))
  | crashes _ hphase' hpace =>
    exact .of_begins hphase (absurd · hopen) hpace.config hpace.delay
      (.of_phase (by rw [hphase']; rfl))
  | opened _ _ h => exact h.paced hphase

/-- A keeper that does not go on ends nothing. -/
theorem event?_of_not_goesOn {branch : Branch} {t : Turn} (h : goesOn branch now t = false) :
    event? branch stores now t = none := by
  cases hphase : t.connection.phase with
  | serving live window =>
    simp only [goesOn, hphase] at h
    simp [event?, closing?, hphase, h]
  | waiting b =>
    simp only [goesOn, hphase] at h
    simp [event?, hphase, h]
  | greeting | looking | draining | writing => simp [goesOn, hphase] at h
  | atHead | parked | dialing | finished | crashed => simp only [event?, hphase]

/-- A socket is closed by the keeper of its link, which knows whether anything was heard. -/
theorem closed_of_event? {branch : Branch} {t : Turn} {n : Nat} {why : Turn.Close}
    (h : event? branch stores now t = some (.closed n heard why)) :
    closing? branch stores now t = some why ∧ linkOf? t.connection = some n ∧
      heard = (t.connection.phase.heard || (hears t).isSome) := by
  cases hphase : t.connection.phase with
  | looking live | serving live | draining live | writing live =>
    simp only [event?, hphase] at h
    obtain ⟨why', hclosing, heq⟩ := Option.map_eq_some_iff.1 h
    cases heq
    exact ⟨hclosing, by rw [linkOf?, hphase], rfl⟩
  | greeting link rest =>
    simp only [event?, hphase] at h
    obtain ⟨why', hclosing, heq⟩ := Option.map_eq_some_iff.1 h
    cases heq
    exact ⟨hclosing, by rw [linkOf?, hphase], by simp [hears, hphase, Phase.heard, Phase.live?]⟩
  | waiting b =>
    simp only [event?, hphase] at h
    split at h <;> cases h
  | atHead | parked | dialing | finished | crashed =>
    simp only [event?, hphase] at h
    cases h

/-- **A wait ends for what the keeper goes on for**; a wake-up is not enough. -/
theorem ended_of_event? {branch branch' : Branch} {t : Turn}
    (h : event? branch stores now t = some (.ended branch')) :
    branch' = branch ∧ ∃ b, t.connection.phase = .waiting b ∧
      canTake now t.link t.connection branch = true ∧
      (branch = .woken →
        t.connection.wanted stores now = false ∨ b.tokens < t.connection.policy.tokens) := by
  cases hphase : t.connection.phase with
  | waiting b =>
    simp only [event?, hphase] at h
    split at h
    · next hends =>
      cases h
      simp only [Bool.and_eq_true, Bool.not_eq_true'] at hends
      refine ⟨rfl, b, rfl, hends.1, ?_⟩
      rintro rfl
      obtain ⟨hover, -, hwaits⟩ := t.connection.goOn_ends_iff stores now hphase hends.1
      have hhead : (t.connection.goOn stores now b .woken).phase = .atHead := by
        by_contra hno
        rw [(hwaits hno).1] at hends
        cases hends.2
      exact (hover.1 hhead).resolve_left fun h => h rfl
    · cases h
  | looking | serving | draining | writing | greeting =>
    simp only [event?, hphase] at h
    obtain ⟨why, -, heq⟩ := Option.map_eq_some_iff.1 h
    cases heq
  | atHead | parked | dialing | finished | crashed =>
    simp only [event?, hphase] at h
    cases h

/-- **A step of a keeper** changes the length of the next wait as the event of the step has it. -/
theorem step_paced (branch : Branch) (stores : Stores) (now : Nat) (t : Turn) :
    t.connection.Paced stores now (event? branch stores now t)
      (step branch stores now t).connection := by
  have hsame : t.connection.Paced stores now none t.connection :=
    .of_phase rfl (.refl _) (Nat.le_refl _)
  cases hphase : t.connection.phase with
  | atHead | dialing | finished | crashed =>
    simp only [event?, step, hphase]
    exact hsame
  | parked =>
    simp only [event?, step, hphase]
    split
    · have hshown : t.connection.phase.shown ≠ .open := by rw [hphase]; decide
      exact .of_begins (by rw [hphase]; rfl) (absurd · hshown) rfl rfl (.of_phase rfl)
    · exact hsame
  | greeting link rest =>
    simp only [event?, hphase]
    exact (step_opens branch stores now hphase).paced (by rw [hphase]; rfl)
  | looking live look =>
    simp only [event?, hphase]
    exact (step_fares branch stores now (by rw [hphase]; rfl)).paced (by rw [hphase]; rfl)
  | serving live window =>
    simp only [event?, hphase]
    exact (step_fares branch stores now (by rw [hphase]; rfl)).paced (by rw [hphase]; rfl)
  | draining live =>
    simp only [event?, hphase]
    exact (step_fares branch stores now (by rw [hphase]; rfl)).paced (by rw [hphase]; rfl)
  | writing live rest purpose =>
    simp only [event?, hphase]
    exact (step_fares branch stores now (by rw [hphase]; rfl)).paced (by rw [hphase]; rfl)
  | waiting b =>
    simp only [event?, step, hphase]
    cases htake : canTake now t.link t.connection branch with
    | false => exact hsame
    | true =>
      have hgoes := t.connection.goOn_paced stores now hphase htake
      cases hwaits : (t.connection.goOn stores now b branch).phase.isWaiting with
      | true => simpa [hwaits] using hgoes
      | false => simpa [hwaits] using hgoes

end

end Keeper

end ChatSockets
