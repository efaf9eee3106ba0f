import ChatSockets.Proofs.Socket.Calls
import ChatSockets.Proofs.Socket.Step

/-!
# What a keeper saw before it was suspended

A keeper parks because its socket is not wanted, and serves an open socket because it is. Between
two looks it relies on being told: `Connection.Saw` says what it saw at its last look, and
`Connection.Vigilant` that this still holds as long as no wake-up is left. A step of a keeper ends
in such a look or goes on without one (`Keeper.step_looks`), or it is a step of the look at an open
socket, which takes three: the requests that wait are counted, the other reasons are looked at, and
then for how long a push counts (`Turn.look_vigilant`). What an application and its calls do keeps
it, because it leaves a wake-up or makes the socket wanted more (`Touched.vigilant`). Time alone
only ends what a keeper has set a timer for, if there still was something to set it for when it came
to that. Whether the stores have changed since is nothing a keeper is told of.
-/

namespace ChatSockets

open Keeper

/-- Whether the stores alone keep a socket from being open. -/
def Stores.forbids (s : Stores) (socket : SocketKind) : Bool :=
  s.expired || (socket = .identified && s.credentials.isNone)

namespace Policy

/-- **When a socket is wanted**: nothing forbids it, and there is a reason for it. -/
theorem wants_iff (p : Policy) (stores : Stores) (now pending : Nat) :
    p.wants stores now pending = true ↔
      p.shutDown = false ∧ stores.forbids p.socket = false ∧
        (p.appActive = true ∨ 0 < p.tokens ∨ 0 < pending ∨ ∃ t, p.pushDeadline? now = some t) := by
  unfold wants Stores.forbids
  cases p.shutDown <;> cases stores.expired <;> cases p.socket <;> cases stores.credentials <;>
    simp [Option.isSome_iff_exists, or_assoc]

/-- A push that still counts counted before. -/
theorem pushDeadline?_eq_some_iff (p : Policy) (now t : Nat) :
    p.pushDeadline? now = some t ↔ p.pushUntil = some t ∧ now < t := by
  simp [pushDeadline?, Option.filter_eq_some_iff]

/-- A reason that is none yet does not become one as time goes by. -/
theorem wants_of_later {p : Policy} {stores : Stores} {since now pending : Nat}
    (hle : since ≤ now) (h : p.wants stores now pending = true) :
    p.wants stores since pending = true := by
  obtain ⟨hshut, hforbids, hreason⟩ := (p.wants_iff stores now pending).1 h
  refine (p.wants_iff stores since pending).2 ⟨hshut, hforbids, ?_⟩
  rcases hreason with hactive | htokens | hpending | ⟨t, ht⟩
  · exact .inl hactive
  · exact .inr (.inl htokens)
  · exact .inr (.inr (.inl hpending))
  · obtain ⟨huntil, hlt⟩ := (p.pushDeadline?_eq_some_iff now t).1 ht
    exact .inr (.inr (.inr
      ⟨t, (p.pushDeadline?_eq_some_iff since t).2 ⟨huntil, Nat.lt_of_le_of_lt hle hlt⟩⟩))

/-- More requests that wait do not make a socket wanted less. -/
theorem wants_of_pending {p : Policy} {stores : Stores} {now pending pending' : Nat}
    (hle : 0 < pending → 0 < pending') (h : p.wants stores now pending = true) :
    p.wants stores now pending' = true := by
  obtain ⟨hshut, hforbids, hreason⟩ := (p.wants_iff stores now pending).1 h
  exact (p.wants_iff stores now pending').2
    ⟨hshut, hforbids, hreason.imp_right (Or.imp_right (Or.imp_left hle))⟩

/-- Stores that forbid the same sockets are the same to a policy. -/
theorem wants_congr {stores stores' : Stores} (p : Policy)
    (h : stores.forbids p.socket = stores'.forbids p.socket) (now pending : Nat) :
    p.wants stores now pending = p.wants stores' now pending := by
  rw [Bool.eq_iff_iff, wants_iff, wants_iff, h]

end Policy

/-- Whether a keeper has looked whether its socket is wanted, and waits for a change. -/
def Keeper.Phase.watches : Phase → Bool
  | .parked | .serving .. => true
  | _ => false

/-- Whether a keeper is in the middle of a look at an open socket. -/
def Keeper.Phase.looks : Phase → Bool
  | .looking .. => true
  | _ => false

/-- Whether a keeper neither dials nor has a link. -/
def Keeper.Phase.away : Phase → Bool
  | .atHead | .parked | .waiting _ | .finished | .crashed => true
  | _ => false

/-- What is left of the look at an open socket is only for how long a push counts. -/
def Keeper.Phase.found : Phase → Bool
  | .looking _ .untilWhen => true
  | _ => false

/-- What a keeper had before its eyes when it last looked. -/
structure Keeper.Glance where
  /-- what the stores held when it looked whether its socket is wanted -/
  stores : Stores
  /-- when that was -/
  looked : Nat
  /-- when it last went on -/
  went : Nat

/-- What a keeper has before its eyes when it goes on. One that has found its socket wanted does not
look at the stores again. -/
def Keeper.Glance.next (glance : Glance) (p : Phase) (stores : Stores) (now : Nat) : Glance :=
  if p.found then { glance with went := now } else ⟨stores, now, now⟩

/-- A keeper that is not in the middle of a look looks afresh. -/
theorem Keeper.Glance.next_of_not_looks {glance : Glance} {p : Phase} {stores : Stores} {now : Nat}
    (h : p.looks = false) : glance.next p stores now = ⟨stores, now, now⟩ := by
  cases p with
  | looking => cases h
  | _ => rfl

/-- The end of a push for which a keeper that serves has set a timer. -/
def Keeper.Phase.window? : Phase → Option Nat
  | .serving _ window => window
  | _ => none

theorem Keeper.Phase.serving_of_watches {p : Phase} (h : p.watches = true)
    (hopen : p.shown = .open) : ∃ live window, p = .serving live window := by
  cases p with
  | serving live window => exact ⟨live, window, rfl⟩
  | parked => cases hopen
  | _ => cases h

theorem Keeper.Phase.away_of_closed {p : Phase} (h : p.shown = .closed) : p.away = true := by
  cases p <;> first | rfl | cases h

theorem Keeper.Phase.link?_of_away {p : Phase} (h : p.away = true) : p.link? = none := by
  cases p <;> first | rfl | cases h

theorem Keeper.Phase.looks_of_closed {p : Phase} (h : p.shown = .closed) : p.looks = false := by
  cases p with
  | looking => cases h
  | _ => rfl

theorem Keeper.Phase.looks_of_unlinked {p : Phase} (h : p.link? = none) : p.looks = false := by
  cases p with
  | looking => cases h
  | _ => rfl

theorem Keeper.Phase.looking_of_looks {p : Phase} (h : p.looks = true) :
    ∃ live look, p = .looking live look := by
  cases p with
  | looking live look => exact ⟨live, look, rfl⟩
  | _ => cases h

theorem Keeper.Phase.parked_of_watches {p : Phase} (h : p.watches = true)
    (hclosed : p.shown = .closed) : p = .parked := by
  cases p with
  | parked => rfl
  | serving => cases hclosed
  | _ => cases h

namespace Connection

/-! ## The last look -/

/-- What a keeper saw when it last looked. The one that parks saw that its socket is neither wanted
nor shut down; the one that serves, that it is wanted and not to be cycled, and then for how long a
push counts; and one in between saw what comes before that. -/
def Saw (c : Connection) (glance : Glance) : Prop :=
  match c.phase with
  | .parked => c.policy.shutDown = false ∧ c.wanted glance.stores glance.looked = false
  | .looking _ (.whetherWanted counted) => c.cycling = false ∧ (0 < counted → 0 < c.pending.size)
  | .looking _ .untilWhen => c.cycling = false ∧ c.wanted glance.stores glance.looked = true
  | .serving _ window =>
    c.cycling = false ∧ c.wanted glance.stores glance.looked = true ∧
      window = c.policy.pushDeadline? glance.went
  | _ => True

/-- What the keeper saw when it last looked still holds, or a wake-up is left for it. -/
structure Vigilant (c : Connection) (glance : Glance) (now : Nat) : Prop where
  looked : glance.looked ≤ glance.went
  went : glance.went ≤ now
  saw : c.policy.woken = false → c.Saw glance

/-- **A push ceased to count between two looks** of the keeper of an open socket: it counted when
the keeper found its socket wanted and not any more when the keeper was to set a timer for it, and
there is no other reason for the socket. -/
structure Lapsed (c : Connection) (glance : Glance) : Prop where
  push : ∃ t, c.policy.pushUntil = some t ∧ glance.looked < t ∧ t ≤ glance.went
  inactive : c.policy.appActive = false
  tokens : c.policy.tokens = 0
  pending : c.pending.size = 0

/-- A keeper that has just counted the requests that wait has counted all of them. -/
def Counted (c : Connection) : Prop :=
  ∀ live counted, c.phase = .looking live (.whetherWanted counted) → counted = c.pending.size

variable {c c' : Connection} {stores stores' : Stores} {glance : Glance} {now : Nat}

theorem Counted.of_phase (h : c.phase.looks = false) : c.Counted := by
  intro live counted hphase
  rw [hphase] at h
  cases h

/-- A keeper that is neither suspended for a change nor about to be relies on nothing. -/
theorem Saw.of_phase (h : c.phase.watches = false) (hlooks : c.phase.looks = false) :
    c.Saw glance := by
  unfold Saw
  split
  · next hphase => rw [hphase] at h; cases h
  · next hphase => rw [hphase] at hlooks; cases hlooks
  · next hphase => rw [hphase] at hlooks; cases hlooks
  · next hphase => rw [hphase] at h; cases h
  · trivial

theorem Saw.vigilant (h : c.Saw ⟨stores, now, now⟩) : c.Vigilant ⟨stores, now, now⟩ now :=
  ⟨Nat.le_refl now, Nat.le_refl now, fun _ => h⟩

/-- Time alone changes nothing of what a keeper saw. -/
theorem Vigilant.later {now' : Nat} (h : c.Vigilant glance now) (hle : now ≤ now') :
    c.Vigilant glance now' :=
  ⟨h.looked, Nat.le_trans h.went hle, h.saw⟩

/-- Stores that forbid the same sockets look the same. -/
theorem Vigilant.congr (h : c.Vigilant glance now)
    (hforbids : glance.stores.forbids c.policy.socket = stores.forbids c.policy.socket) :
    c.Vigilant { glance with stores } now := by
  refine ⟨h.looked, h.went, fun hwoken => ?_⟩
  simpa only [Saw, wanted, wantedBy, c.policy.wants_congr hforbids] using h.saw hwoken

/-- **A keeper that parks without a wake-up** has nothing to do. -/
theorem Vigilant.parked (h : c.Vigilant glance now) (hphase : c.phase = .parked)
    (hwoken : c.policy.woken = false) :
    c.policy.shutDown = false ∧ c.wanted glance.stores now = false := by
  have hsaw := h.saw hwoken
  simp only [Saw, hphase] at hsaw
  refine ⟨hsaw.1, ?_⟩
  rw [← Bool.not_eq_true]
  intro hwanted
  have hbefore : c.wanted glance.stores glance.looked = true :=
    Policy.wants_of_later (Nat.le_trans h.looked h.went) hwanted
  cases hbefore.symm.trans hsaw.2

/-- A keeper that serves without a wake-up saw that the stores do not forbid its socket. -/
theorem Vigilant.forbids (h : c.Vigilant glance now) {live : Live} {window : Option Nat}
    (hphase : c.phase = .serving live window) (hwoken : c.policy.woken = false) :
    glance.stores.forbids c.policy.socket = false := by
  have hsaw := h.saw hwoken
  simp only [Saw, hphase] at hsaw
  exact ((c.policy.wants_iff _ _ _).1 hsaw.2.1).2.1

/-- **A keeper that serves without a wake-up** has a socket that is not to be cycled, and that is
wanted until the push ceases to count, unless it ceased to before a timer was set. -/
theorem Vigilant.serving (h : c.Vigilant glance now) {live : Live} {window : Option Nat}
    (hphase : c.phase = .serving live window) (hwoken : c.policy.woken = false)
    (hwindow : ∀ t, window = some t → now < t) :
    c.cycling = false ∧ (c.wanted glance.stores now = true ↔ ¬ c.Lapsed glance) := by
  have hsaw := h.saw hwoken
  simp only [Saw, hphase] at hsaw
  obtain ⟨hcycling, hbefore, hset⟩ := hsaw
  refine ⟨hcycling, fun hwanted hlapsed => ?_, fun hno => ?_⟩
  · obtain ⟨t, huntil, -, hended⟩ := hlapsed.push
    obtain ⟨-, -, hreason⟩ := (c.policy.wants_iff _ _ _).1 hwanted
    have hnone : c.policy.pushDeadline? now = none := by
      rw [Policy.pushDeadline?, huntil, Option.filter_some, if_neg]
      simpa using Nat.le_trans hended h.went
    rw [hlapsed.inactive, hlapsed.tokens, hlapsed.pending, hnone] at hreason
    simp at hreason
  · obtain ⟨hshut, hforbids, hreason⟩ := (c.policy.wants_iff _ _ _).1 hbefore
    refine (c.policy.wants_iff _ _ _).2 ⟨hshut, hforbids, ?_⟩
    by_contra hother
    simp only [not_or, Bool.not_eq_true, Nat.not_lt, Nat.le_zero, not_exists] at hother
    obtain ⟨hinactive, htokens, hpending, hover⟩ := hother
    -- The push was the reason, and no timer was set for it: it would not be due.
    simp only [hinactive, htokens, hpending, Nat.lt_irrefl, Bool.false_eq_true, false_or] at hreason
    obtain ⟨t, ht⟩ := hreason
    obtain ⟨huntil, hcounted⟩ := (c.policy.pushDeadline?_eq_some_iff _ t).1 ht
    refine hno ⟨⟨t, huntil, hcounted, ?_⟩, hinactive, htokens, hpending⟩
    rw [← Nat.not_lt]
    intro hahead
    have hdue : window = some t :=
      hset.trans ((c.policy.pushDeadline?_eq_some_iff _ t).2 ⟨huntil, hahead⟩)
    exact hover t ((c.policy.pushDeadline?_eq_some_iff now t).2 ⟨huntil, hwindow t hdue⟩)

end Connection

namespace Keeper

/-! ## What a keeper looks at -/

/-- Whether a keeper that is not at the head of its loop and not dialing goes on in a step. -/
def goesOn (branch : Branch) (now : Nat) (t : Turn) : Bool :=
  match t.connection.phase with
  | .parked | .serving .. | .waiting _ => canTake now t.link t.connection branch
  | .greeting .. | .looking .. | .draining _ | .writing .. => true
  | _ => false

/-- What all steps of a keeper that goes on have in common. It takes the wake-up and changes no
other reason; and as long as it has a link it does not forget that the socket is to be cycled, while
without one it does not dial either. -/
structure Turn.Heeds (t t' : Turn) : Prop where
  policy : t'.connection.policy = t.connection.policy ∨
    t'.connection.policy = t.connection.policy.takeWake
  cycling : linkOf? t'.connection ≠ none → t'.connection.cycling = t.connection.cycling
  away : linkOf? t'.connection = none → t'.connection.phase.away = true

/-- A step of a keeper that looks afresh before it waits for a change. -/
structure Turn.Looks (t : Turn) (stores : Stores) (now : Nat) (t' : Turn) : Prop
    extends t.Heeds t' where
  saw : t'.connection.Saw ⟨stores, now, now⟩
  counted : t'.connection.Counted

section

variable {t t' : Turn} {stores : Stores} {now : Nat}

/-- The rest of a turn makes no difference, if the policy and the flag are the same. -/
theorem Turn.Looks.of_turn {u : Turn} (h : u.Looks stores now t')
    (hpolicy : u.connection.policy = t.connection.policy)
    (hcycling : u.connection.cycling = t.connection.cycling) : t.Looks stores now t' :=
  ⟨⟨hpolicy ▸ h.policy, fun hlink => (h.cycling hlink).trans hcycling, h.away⟩, h.saw,
    h.counted⟩

/-- A turn in which the keeper keeps its link. -/
theorem Turn.heeds_phase (t : Turn) {phase : Phase} (hlink : phase.link?.isSome = true) :
    t.Heeds { t with connection := { t.connection with phase } } :=
  ⟨.inl rfl, fun _ => rfl, fun hnone => absurd hnone (Option.isSome_iff_ne_none.1 hlink)⟩

/-- A turn in which the keeper keeps its link and waits for no change. -/
theorem Turn.looks_phase (t : Turn) (stores : Stores) (now : Nat) {phase : Phase}
    (hwatches : phase.watches = false) (hlooks : phase.looks = false)
    (hlink : phase.link?.isSome = true) :
    t.Looks stores now { t with connection := { t.connection with phase } } :=
  ⟨t.heeds_phase hlink, .of_phase hwatches hlooks, .of_phase hlooks⟩

/-- A turn in which the keeper lets go of its link, or has none. -/
theorem Turn.looks_away {t t' : Turn} {stores : Stores} {now : Nat}
    (hwatches : t'.connection.phase.watches = false)
    (hclosed : t'.connection.phase.shown = .closed)
    (hpolicy : t'.connection.policy = t.connection.policy ∨
      t'.connection.policy = t.connection.policy.takeWake) : t.Looks stores now t' :=
  ⟨⟨hpolicy, fun hlink => absurd (Phase.link?_of_closed hclosed) hlink,
    fun _ => Phase.away_of_closed hclosed⟩, .of_phase hwatches (Phase.looks_of_closed hclosed),
    .of_phase (Phase.looks_of_closed hclosed)⟩

theorem backOff_away (c : Connection) (stores : Stores) (now : Nat) :
    (c.backOff stores now).phase.watches = false ∧ (c.backOff stores now).phase.shown = .closed ∧
      (c.backOff stores now).policy = c.policy := by
  unfold Connection.backOff
  split <;> exact ⟨rfl, rfl, rfl⟩

theorem connectFailed_away (c : Connection) (stores : Stores) (now : Nat) (e : ChatError) :
    (c.connectFailed stores now e).phase.watches = false ∧
      (c.connectFailed stores now e).phase.shown = .closed ∧
      (c.connectFailed stores now e).policy = c.policy :=
  backOff_away _ stores now

/-- A socket that is closed leaves nothing to rely on. -/
theorem Turn.close_looks (t : Turn) (stores : Stores) (now : Nat) (heard : Bool) (why : Close) :
    t.Looks stores now (t.close stores now heard why) := by
  cases why with
  | unwanted | cycled => exact Turn.looks_away rfl rfl (.inl rfl)
  | failed reason =>
    obtain ⟨hwatches, hclosed, hpolicy⟩ := backOff_away (if heard
      then t.connection.tearDown.resetDelay else t.connection.tearDown.recordFailure reason) stores
      now
    refine Turn.looks_away hwatches hclosed (.inl (hpolicy.trans ?_))
    split <;> rfl

/-- **A loop that begins anew** is where a keeper begins to look. -/
theorem Turn.resume_looks (t : Turn) (stores : Stores) (now : Nat) (live : Live) :
    t.Looks stores now (t.resume stores now live) := by
  unfold Turn.resume
  dsimp only
  split
  · obtain ⟨⟨hpolicy, -, haway⟩, hsaw, hcounted⟩ := Turn.close_looks
      { t with connection := { t.connection with cycling := false } } stores now live.heard .cycled
    exact ⟨⟨hpolicy, fun hstill => absurd (Turn.close_spec _ stores now _ _).2.2.1 hstill, haway⟩,
      hsaw, hcounted⟩
  · next hcycling =>
    refine ⟨t.heeds_phase rfl, ⟨Bool.not_eq_true _ ▸ hcycling, id⟩, fun live counted hphase => ?_⟩
    cases hphase
    rfl

/-- A keeper that looks on goes on like all others. -/
theorem Turn.look_heeds (t : Turn) (stores : Stores) (now : Nat) (live : Live) (look : Look) :
    t.Heeds (t.look stores now live look) := by
  cases look with
  | whetherWanted counted =>
    unfold Turn.look
    dsimp only
    split
    · exact t.heeds_phase rfl
    · exact (t.close_looks stores now live.heard .unwanted).toHeeds
  | untilWhen => exact t.heeds_phase rfl

/-- **A keeper that looks on** knows what it saw before: as long as no wake-up is left a request
that was counted still waits, and a socket that was found wanted is not wanted less. -/
theorem Turn.look_vigilant {t : Turn} {glance : Glance} {now : Nat}
    (h : t.connection.Vigilant glance now) {live : Live} {look : Look}
    (hphase : t.connection.phase = .looking live look) (stores : Stores) :
    (t.look stores now live look).connection.Vigilant
      (glance.next t.connection.phase stores now) now := by
  rw [hphase]
  cases look with
  | whetherWanted counted =>
    unfold Turn.look
    dsimp only
    split
    · next hwanted =>
      refine ⟨Nat.le_refl now, Nat.le_refl now, fun hwoken => ?_⟩
      have hsaw := h.saw hwoken
      simp only [Connection.Saw, hphase] at hsaw
      exact ⟨hsaw.1, Policy.wants_of_pending hsaw.2 hwanted⟩
    · exact (t.close_looks stores now live.heard .unwanted).saw.vigilant
  | untilWhen =>
    refine ⟨Nat.le_trans h.looked h.went, Nat.le_refl now, fun hwoken => ?_⟩
    have hsaw := h.saw hwoken
    simp only [Connection.Saw, hphase] at hsaw
    exact ⟨hsaw.1, hsaw.2, rfl⟩

theorem Turn.written_looks (t : Turn) (stores : Stores) (now : Nat) (live : Live)
    (purpose : Purpose) : t.Looks stores now (t.written stores now live purpose) := by
  cases purpose with
  | probe id => exact t.resume_looks stores now { live with awaiting := some id }
  | request => exact t.resume_looks stores now live
  | reply => exact t.looks_phase stores now rfl rfl rfl

theorem Turn.write_looks (t : Turn) (stores : Stores) (now : Nat) (live : Live)
    (purpose : Purpose) (b : ByteArray) :
    t.Looks stores now (t.write stores now live purpose b) := by
  unfold Turn.write
  split
  · exact t.close_looks stores now live.heard _
  · next rest up hwrite =>
    dsimp only
    split
    · exact .of_turn (Turn.written_looks _ stores now live purpose) rfl rfl
    · exact .of_turn
        (Turn.looks_phase { t with link := { t.link with up } } stores now rfl rfl rfl) rfl rfl

theorem Turn.writeMessage_looks (t : Turn) (stores : Stores) (now : Nat) (live : Live)
    (purpose : Purpose) (m : Wire.Message) :
    t.Looks stores now (t.writeMessage stores now live purpose m) := by
  unfold Turn.writeMessage
  split
  · exact t.close_looks stores now live.heard _
  · exact t.write_looks stores now live purpose _

/-- An open socket begins its loop, unless its keeper crashes. -/
theorem Turn.opened_looks (t : Turn) (stores : Stores) (now link : Nat) :
    t.Looks stores now (t.opened stores now link) := by
  unfold Turn.opened
  dsimp only
  split
  · exact .of_turn (Turn.resume_looks _ stores now _) rfl rfl
  · exact ⟨⟨.inl rfl, fun hlink => absurd rfl hlink, fun _ => rfl⟩, .of_phase rfl rfl,
      .of_phase rfl⟩

/-- A handshake is written, and then the socket is open. -/
theorem Turn.greet_looks (t : Turn) (stores : Stores) (now link : Nat) (b : ByteArray) :
    t.Looks stores now (t.greet stores now link b) := by
  unfold Turn.greet
  split
  · obtain ⟨hwatches, hclosed, hpolicy⟩ := connectFailed_away t.connection stores now .brokenPipe
    exact Turn.looks_away hwatches hclosed (.inl hpolicy)
  · next rest up hwrite =>
    dsimp only
    split
    · exact .of_turn (Turn.opened_looks _ stores now link) rfl rfl
    · exact .of_turn
        (Turn.looks_phase { t with link := { t.link with up } } stores now rfl rfl rfl) rfl rfl

/-- A new link is greeted, unless the handshake has no frame. -/
theorem connected_looks (stores : Stores) (now link : Nat) (hello : Wire.Handshake) (t : Turn) :
    t.Looks stores now (connected stores now link hello t) := by
  unfold connected
  split
  · next e he =>
    obtain ⟨hwatches, hclosed, hpolicy⟩ := connectFailed_away t.connection stores now (.codec e)
    exact Turn.looks_away hwatches hclosed (.inl hpolicy)
  · exact t.greet_looks stores now link _

/-- A message of the server is noted, or answered. -/
theorem Turn.handle_looks (t : Turn) (stores : Stores) (now : Nat) (live : Live)
    (m : Wire.Message) : t.Looks stores now (t.handle stores now live m) := by
  have hanswer : ∀ r, (t.answer r).2.connection.policy = t.connection.policy ∧
      (t.answer r).2.connection.cycling = t.connection.cycling := by
    intro r
    unfold Turn.answer
    split
    · exact ⟨rfl, rfl⟩
    · split <;> exact ⟨rfl, rfl⟩
  unfold Turn.handle
  split
  · next r hkind hr =>
    unfold Turn.accept
    split
    · exact t.looks_phase stores now rfl rfl rfl
    · exact ⟨⟨.inl rfl, fun _ => rfl, nofun⟩, .of_phase rfl rfl, .of_phase rfl⟩
  · next r hkind hr =>
    exact .of_turn (Turn.writeMessage_looks _ stores now live .reply _) (hanswer r).1 (hanswer r).2
  · exact t.looks_phase stores now rfl rfl rfl

theorem Turn.drain_looks (t : Turn) (stores : Stores) (now : Nat) (live : Live) :
    t.Looks stores now (t.drain stores now live) := by
  unfold Turn.drain
  split
  · exact t.resume_looks stores now live
  · exact t.close_looks stores now live.heard _
  · exact t.handle_looks stores now _ _

/-- A wake-up that is taken is not lost: the keeper looks after it. -/
theorem Turn.serve_looks (t : Turn) (stores : Stores) (now : Nat) {live : Live}
    {window : Option Nat} (hphase : t.connection.phase = .serving live window) (branch : Branch)
    (htake : canTake now t.link t.connection branch = true) :
    t.Looks stores now (t.serve stores now live branch) := by
  cases branch with
  | woken =>
    obtain ⟨⟨hpolicy, hcycling, haway⟩, hsaw, hcounted⟩ := t.takeWake.resume_looks stores now live
    exact ⟨⟨.inr (hpolicy.elim id id), hcycling, haway⟩, hsaw, hcounted⟩
  | window => exact t.resume_looks stores now live
  | probe =>
    unfold Turn.serve Turn.probe
    cases live.awaiting with
    | some id => exact t.close_looks stores now live.heard _
    | none => exact .of_turn (Turn.writeMessage_looks _ stores now _ _ _) rfl rfl
  | send =>
    unfold Turn.serve Turn.sendNext
    dsimp only
    split
    · exact .of_turn (Turn.writeMessage_looks _ stores now live .request _) rfl rfl
    · next hno =>
      unfold canTake at htake
      dsimp only at htake
      split at htake
      · next m rest _ houtbox => exact absurd houtbox (hno m rest)
      · cases htake
  | receive =>
    unfold Turn.serve Turn.receive
    dsimp only
    split
    · next down hread =>
      have hreadable : t.link.down.readable = true := by simpa [canTake, hphase] using htake
      rw [(Pipe.read_eq_nothing hread).1] at hreadable
      cases hreadable
    · exact t.close_looks stores now live.heard _
    · next b down hread =>
      exact .of_turn
        (Turn.looks_phase { t with link := { t.link with down } } stores now rfl rfl rfl) rfl rfl
  | timer | nudge | shutdown => simp [canTake, hphase] at htake

/-- A keeper that waits after a failure goes to the head of its loop, or waits on. -/
theorem Turn.goOn_looks (t : Turn) (stores : Stores) (now : Nat) (b : Backoff) (branch : Branch)
    (hphase : t.connection.phase = .waiting b)
    (htake : canTake now t.link t.connection branch = true) :
    t.Looks stores now { t with connection := t.connection.goOn stores now b branch } := by
  cases branch with
  | timer | nudge | shutdown => exact Turn.looks_away rfl rfl (.inl rfl)
  | woken =>
    unfold Connection.goOn
    dsimp only
    split
    · exact Turn.looks_away rfl rfl (.inr rfl)
    · exact Turn.looks_away rfl rfl (.inr rfl)
  | window | probe | send | receive => simp [canTake, hphase] at htake

/-- **A step of a keeper that goes on**, and that is not in the middle of a look, ends in a look or
without a need for one. -/
theorem step_looks (branch : Branch) (stores : Stores) (now : Nat) (t : Turn)
    (h : goesOn branch now t = true) (hlooks : t.connection.phase.looks = false) :
    t.Looks stores now (step branch stores now t) := by
  cases hphase : t.connection.phase with
  | atHead | dialing | finished | crashed => simp [goesOn, hphase] at h
  | looking => simp [Phase.looks, hphase] at hlooks
  | parked =>
    simp only [goesOn, hphase] at h
    simp only [step, hphase, if_pos h]
    exact Turn.looks_away rfl rfl (.inr rfl)
  | greeting link rest =>
    simp only [step, hphase]
    exact t.greet_looks stores now link rest
  | serving live window =>
    simp only [goesOn, hphase] at h
    simp only [step, hphase, if_pos h]
    exact t.serve_looks stores now hphase branch h
  | draining live =>
    simp only [step, hphase]
    exact t.drain_looks stores now live
  | writing live rest purpose =>
    simp only [step, hphase]
    exact t.write_looks stores now live purpose rest
  | waiting b =>
    simp only [goesOn, hphase] at h
    simp only [step, hphase, if_pos h]
    exact t.goOn_looks stores now b branch hphase h

/-- Every step of a keeper that goes on is of this kind. -/
theorem step_heeds (branch : Branch) (stores : Stores) (now : Nat) (t : Turn)
    (h : goesOn branch now t = true) : t.Heeds (step branch stores now t) := by
  cases hlooks : t.connection.phase.looks with
  | false => exact (step_looks branch stores now t h hlooks).toHeeds
  | true =>
    obtain ⟨live, look, hphase⟩ := Phase.looking_of_looks hlooks
    simp only [step, hphase]
    exact t.look_heeds stores now live look

/-- A wake-up that is left is not taken in the middle of a look. -/
theorem policy_step_of_found (branch : Branch) (stores : Stores) (now : Nat) (t : Turn)
    (h : t.connection.phase.found = true) :
    (step branch stores now t).connection.policy = t.connection.policy := by
  unfold Phase.found at h
  split at h
  · next live hphase => simp only [step, hphase, Turn.look]
  · cases h

/-- **Every step of a keeper that goes on** leaves it right about what it saw. -/
theorem step_vigilant (branch : Branch) (stores : Stores) {t : Turn} {glance : Glance}
    (hgoes : goesOn branch now t = true) (h : t.connection.Vigilant glance now) :
    (step branch stores now t).connection.Vigilant
      (glance.next t.connection.phase stores now) now := by
  cases hlooks : t.connection.phase.looks with
  | false =>
    rw [Glance.next_of_not_looks hlooks]
    exact (step_looks branch stores now t hgoes hlooks).saw.vigilant
  | true =>
    obtain ⟨live, look, hphase⟩ := Phase.looking_of_looks hlooks
    rw [show step branch stores now t = t.look stores now live look by simp only [step, hphase]]
    exact Turn.look_vigilant h hphase stores

/-- A look goes on with what was counted at its beginning. -/
theorem Turn.look_counted (t : Turn) (stores : Stores) (now : Nat) (live : Live) (look : Look) :
    (t.look stores now live look).connection.Counted := by
  cases look with
  | whetherWanted counted =>
    unfold Turn.look
    dsimp only
    split
    · exact fun _ _ hphase => by cases hphase
    · exact (t.close_looks stores now live.heard .unwanted).counted
  | untilWhen => exact .of_phase rfl

/-- **A keeper that begins to look** has just counted the requests that wait. -/
theorem step_counted (branch : Branch) (stores : Stores) (now : Nat) {t : Turn}
    (h : goesOn branch now t = true) : (step branch stores now t).connection.Counted := by
  cases hlooks : t.connection.phase.looks with
  | false => exact (step_looks branch stores now t h hlooks).counted
  | true =>
    obtain ⟨live, look, hphase⟩ := Phase.looking_of_looks hlooks
    simp only [step, hphase]
    exact t.look_counted stores now live look

/-- A keeper that does not go on leaves everything as it is. -/
theorem step_of_not_goesOn (branch : Branch) (stores : Stores) (now : Nat) (t : Turn)
    (h : goesOn branch now t = false) : step branch stores now t = t := by
  cases hphase : t.connection.phase with
  | greeting | looking | draining | writing => simp [goesOn, hphase] at h
  | atHead | dialing | finished | crashed => simp only [step, hphase]
  | parked | serving | waiting =>
    simp only [goesOn, hphase] at h
    simp only [step, hphase, h, Bool.false_eq_true, if_false]

end

end Keeper

namespace Connection

variable {c c' : Connection} {stores : Stores} {now : Nat}

/-- **The head of the loop** is where a keeper looks before it parks. -/
theorem atHead_saw (c : Connection) (stores : Stores) (now : Nat) (attempt : Attempt) :
    (c.atHead stores now attempt).Saw ⟨stores, now, now⟩ ∧
      (c.atHead stores now attempt).policy = c.policy := by
  unfold atHead
  split
  · exact ⟨.of_phase rfl rfl, rfl⟩
  · next hshut =>
    split
    · dsimp only
      split
      · obtain ⟨hwatches, hclosed, hpolicy⟩ := connectFailed_away
          ({ c with cycling := false }.transition .connectStarted) stores now
          (.transport "no credentials for the identified socket")
        exact ⟨.of_phase hwatches (Phase.looks_of_closed hclosed), hpolicy⟩
      · exact ⟨.of_phase rfl rfl, rfl⟩
    · next hwanted => exact ⟨⟨Bool.not_eq_true _ ▸ hshut, Bool.not_eq_true _ ▸ hwanted⟩, rfl⟩

/-! ## What an application and its calls do -/

/-- What an application and its calls have in common in what they do to a connection. A reason to
look again leaves a wake-up, unless it only makes an open socket wanted more. -/
structure Touched (c c' : Connection) : Prop where
  phase : c'.phase = c.phase
  socket : c'.socket = c.socket ∧ c'.policy.socket = c.policy.socket
  outbox : c'.outbox.isSome = c.outbox.isSome
  cycling : c'.cycling = false → c.cycling = false
  woken : c'.policy.woken = false → c.policy.woken = false
  told : c'.policy.woken = false → c'.policy = c.policy ∧ c'.cycling = c.cycling ∧
    (c'.pending.size = c.pending.size ∨ c.outbox.isSome = true ∧ 0 < c'.pending.size)

theorem Touched.refl (c : Connection) : c.Touched c :=
  ⟨rfl, ⟨rfl, rfl⟩, rfl, id, id, fun _ => ⟨rfl, rfl, .inl rfl⟩⟩

theorem Touched.trans {c'' : Connection} (h : c.Touched c') (h' : c'.Touched c'') :
    c.Touched c'' := by
  refine ⟨h'.phase.trans h.phase, ⟨h'.socket.1.trans h.socket.1, h'.socket.2.trans h.socket.2⟩,
    h'.outbox.trans h.outbox, h.cycling ∘ h'.cycling, h.woken ∘ h'.woken, fun hwoken => ?_⟩
  obtain ⟨hpolicy', hcycling', hpending'⟩ := h'.told hwoken
  obtain ⟨hpolicy, hcycling, hpending⟩ := h.told (h'.woken hwoken)
  refine ⟨hpolicy'.trans hpolicy, hcycling'.trans hcycling, ?_⟩
  rcases hpending' with hsame | ⟨hopen, hpos⟩
  · rw [hsame]
    exact hpending
  · exact .inr ⟨h.outbox.symm.trans hopen, hpos⟩

/-- A change that leaves a wake-up. -/
theorem Touched.of_woken (hphase : c'.phase = c.phase)
    (hsocket : c'.socket = c.socket ∧ c'.policy.socket = c.policy.socket)
    (houtbox : c'.outbox.isSome = c.outbox.isSome)
    (hcycling : c'.cycling = false → c.cycling = false) (hwoken : c'.policy.woken = true) :
    c.Touched c' := by
  have hno : c'.policy.woken ≠ false := by simp [hwoken]
  exact ⟨hphase, hsocket, houtbox, hcycling, fun h => absurd h hno, fun h => absurd h hno⟩

theorem setActive_touched (c : Connection) (active : Bool) : c.Touched (c.setActive active) := by
  unfold setActive withPolicy Policy.setActive
  dsimp only
  split
  · exact .refl c
  · exact .of_woken rfl ⟨rfl, rfl⟩ rfl id rfl

theorem push_touched (c : Connection) (now : Nat) : c.Touched (c.push now) := by
  refine .of_woken rfl ⟨rfl, ?_⟩ rfl id rfl
  show (c.policy.extendPush now c.config.push).socket = c.policy.socket
  rw [Policy.extendPush, Policy.wake]
  dsimp only
  rw [apply_ite Policy.socket, ite_self]

/-- A request that waited and is withdrawn is a reason to look again. -/
theorem woken_withdraw {id r : UInt64} (h : c.pending.receivers.get? id = some r) :
    (c.withdraw id).policy.woken = true := by
  have hremove : c.pending.remove id = (some r, (c.pending.remove id).2) := Prod.ext h rfl
  rw [withdraw, hremove]
  rfl

theorem withdraw_touched (c : Connection) (id : UInt64) : c.Touched (c.withdraw id) := by
  unfold withdraw
  split
  · exact ⟨rfl, ⟨rfl, rfl⟩, rfl, fun h => h, fun h => h, fun _ => ⟨rfl, rfl, .inl rfl⟩⟩
  · exact .of_woken rfl ⟨rfl, rfl⟩ rfl (fun h => h) rfl

/-- What an application does outside of its calls leaves a wake-up, or changes nothing. -/
theorem perform_touched (c : Connection) {op : Operation} (h : op.ofCall = false) :
    c.Touched (c.perform op) := by
  cases op with
  | setActive active => exact c.setActive_touched active
  | push now => exact c.push_touched now
  | cycle => exact .of_woken rfl ⟨rfl, rfl⟩ rfl nofun rfl
  | acquire | release | shutDown => exact .of_woken rfl ⟨rfl, rfl⟩ rfl id rfl
  | register | withdraw | send => cases h

/-- **What an application and its calls do** keeps what a keeper saw, or leaves a wake-up. -/
theorem Touched.vigilant (h : c.Touched c') (hclosed : c.phase = .parked → c.outbox = none)
    {glance : Glance} (hc : c.Vigilant glance now) : c'.Vigilant glance now := by
  refine ⟨hc.looked, hc.went, fun hwoken => ?_⟩
  have hsaw := hc.saw (h.woken hwoken)
  obtain ⟨hpolicy, hcycling, hpending⟩ := h.told hwoken
  have hmore : 0 < c.pending.size → 0 < c'.pending.size :=
    fun hpos => hpending.elim (fun hsame => hsame ▸ hpos) And.right
  have hwants : c.wanted glance.stores glance.looked = true →
      c'.wanted glance.stores glance.looked = true := by
    intro hwanted
    rw [wanted, wantedBy, hpolicy]
    exact Policy.wants_of_pending hmore hwanted
  unfold Saw at hsaw ⊢
  rw [h.phase]
  cases hphase : c.phase with
  | parked =>
    rw [hphase] at hsaw
    have hsize : c'.pending.size = c.pending.size := by
      refine hpending.resolve_right fun hopen => ?_
      rw [hclosed hphase] at hopen
      cases hopen.1
    simpa only [wanted, wantedBy, hpolicy, hsize] using hsaw
  | looking live look =>
    rw [hphase] at hsaw
    cases look with
    | whetherWanted counted => exact ⟨hcycling.trans hsaw.1, hmore ∘ hsaw.2⟩
    | untilWhen => exact ⟨hcycling.trans hsaw.1, hwants hsaw.2⟩
  | serving live window =>
    rw [hphase] at hsaw
    exact ⟨hcycling.trans hsaw.1, hwants hsaw.2.1, hpolicy ▸ hsaw.2.2⟩
  | _ => trivial

end Connection

namespace Sockets

/-- Both connections after something that calls do. -/
def Touched (s s' : Sockets) : Prop := ∀ k, (s.get k).Touched (s'.get k)

variable {s s' s'' : Sockets}

theorem Touched.refl (s : Sockets) : s.Touched s := fun k => .refl (s.get k)

theorem Touched.trans (h : s.Touched s') (h' : s'.Touched s'') : s.Touched s'' :=
  fun k => (h k).trans (h' k)

theorem modify_touched (s : Sockets) (k : SocketKind) {f : Connection → Connection}
    (h : ∀ c : Connection, c.Touched (f c)) : s.Touched (s.modify k f) := by
  intro j
  rw [get_modify]
  split
  · exact h _
  · exact .refl _

theorem foldl_modify_touched (s : Sockets) (ks : List SocketKind) {f : Connection → Connection}
    (h : ∀ c : Connection, c.Touched (f c)) :
    s.Touched (ks.foldl (fun s k => s.modify k f) s) := by
  induction ks generalizing s with
  | nil => exact .refl s
  | cons k ks ih => exact (s.modify_touched k h).trans (ih _)

end Sockets

namespace Call

open Connection

/-- **A request that is submitted** waits on an open socket; without one its entry is withdrawn
again, which leaves a wake-up. -/
theorem submit_touched (s : Sockets) (now : Nat) (socket token : SocketKind) (r : Request) :
    s.Touched (submit s now socket token r).2 := by
  have hrelease : ∀ c : Connection, c.Touched c.release :=
    fun c => .of_woken rfl ⟨rfl, rfl⟩ rfl id rfl
  let c := s.get socket
  let s₁ := (s.set socket c.register.2).modify token Connection.release
  have hother : ∀ j, j ≠ socket → (s.get j).Touched (s₁.get j) := by
    intro j hj
    rw [Sockets.get_modify, Sockets.get_set, if_neg hj]
    split
    · exact hrelease _
    · exact .refl _
  -- The socket of the request has one more entry, and maybe one token fewer.
  obtain ⟨hsocket, hpending⟩ : c.register.2.Touched (s₁.get socket) ∧
      (s₁.get socket).pending = c.register.2.pending := by
    rw [Sockets.get_modify, Sockets.get_set, if_pos rfl]
    split
    · exact ⟨hrelease _, rfl⟩
    · exact ⟨.refl _, rfl⟩
  have hset : ∀ {d : Connection}, c.Touched d → s.Touched (s₁.set socket d) := by
    intro d hd j
    rw [Sockets.get_set]
    split
    · next heq => exact heq ▸ hd
    · next hne => exact hother j hne
  unfold submit
  dsimp only
  split
  · next hsend =>
    have hwaits : (s₁.get socket).pending.receivers.get? c.register.1 = some c.register.1 := by
      rw [hpending]
      exact Table.get?_insert_self _ _ _
    obtain ⟨hphase, hkind, houtbox, hcycling, -, -⟩ :=
      hsocket.trans ((s₁.get socket).withdraw_touched c.register.1)
    exact hset (.of_woken hphase hkind houtbox hcycling (woken_withdraw hwaits))
  · next d hsend =>
    obtain ⟨queue, hqueue, rfl⟩ := Option.map_eq_some_iff.1 hsend
    have hopen : (s₁.get socket).outbox.isSome = true := by
      rw [show (s₁.get socket).outbox = some queue from hqueue]
      rfl
    obtain ⟨hphase, hkind, houtbox, hcycling, hwoken, htold⟩ := hsocket
    refine hset ⟨hphase, hkind, houtbox ▸ hopen.symm, hcycling, hwoken, fun h => ?_⟩
    obtain ⟨hpolicy, hcycles, -⟩ := htold h
    refine ⟨hpolicy, hcycles, .inr ⟨houtbox ▸ hopen, ?_⟩⟩
    show 0 < (s₁.get socket).pending.size
    rw [hpending]
    simp [Connection.register, Pending.register, Pending.size, Table.size, Table.insert]

theorem begin_touched (s : Sockets) (stores : Stores) (now : Nat) (goal : Goal) :
    s.Touched (begin s stores now goal).2 := by
  cases goal with
  | request r =>
    have hacquired : s.Touched (s.modify r.route Connection.acquire) :=
      s.modify_touched r.route fun c => .of_woken rfl ⟨rfl, rfl⟩ rfl id rfl
    unfold begin
    dsimp only
    split
    · exact hacquired
    · exact hacquired.trans (submit_touched _ now _ _ r)
  | submit socket token r => exact submit_touched s now socket token r
  | opening | openWithin | state =>
    rw [begin_looks s stores now rfl]
    exact .refl s
  | shutdown sockets =>
    rw [begin_shutdown]
    exact s.foldl_modify_touched sockets fun c => .of_woken rfl ⟨rfl, rfl⟩ rfl id rfl

/-- **A step of a call** does nothing to a connection that its keeper would have to be told of and
is not. -/
theorem step_touched (s : Sockets) (stores : Stores) (now : Nat) (p : Phase) :
    s.Touched (step s stores now p).2 := by
  have hwithdraw : ∀ socket id, s.Touched (s.modify socket (·.withdraw id)) :=
    fun socket id => s.modify_touched socket fun c => c.withdraw_touched id
  cases p with
  | fresh goal => exact begin_touched s stores now goal
  | holding socket r limit =>
    unfold step
    dsimp only
    split
    · exact submit_touched s now socket socket r
    · exact .refl s
  | submitted socket id path timeout deadline =>
    unfold step
    dsimp only
    split
    · exact hwithdraw socket id
    · split
      · exact hwithdraw socket id
      · exact .refl s
  | opening | openWithin | state | shutdown =>
    unfold step
    dsimp only
    split <;> exact .refl s
  | done | abandoned => exact .refl s

/-- So does a call that is abandoned. -/
theorem cancel_touched (s : Sockets) (p : Phase) : s.Touched (cancel s p).2 := by
  have hreleased : ∀ k, s.Touched (s.modify k Connection.release) :=
    fun k => s.modify_touched k fun c => .of_woken rfl ⟨rfl, rfl⟩ rfl id rfl
  cases p with
  | fresh goal =>
    cases goal with
    | submit socket token r => exact hreleased token
    | _ => exact .refl s
  | holding socket r limit => exact hreleased socket
  | submitted socket id path timeout deadline =>
    exact s.modify_touched socket fun c => c.withdraw_touched id
  | _ => exact .refl s

end Call

end ChatSockets
