import ChatSockets.Proofs.Application.Callers
import ChatSockets.Proofs.Application.OnLink
import ChatSockets.Proofs.Device.Operations
import ChatSockets.Proofs.Socket.Pace
import Mathlib.Algebra.Group.Nat.Defs

/-!
# The waits of a device

How long a keeper waits after a failure is a number that it carries along and changes in many
places. Seen from outside it depends only on the history of the socket, which lists what ended in a
run: open sockets that were closed, and waits (`Device.history`). Each event changes the next wait
in one of three ways (`make_paced`), so the next wait is what the events since the last reset make
of the shortest one (`delay_makeAll`). Whether anything was heard on a socket that was closed is
what its record says (`Record.Heeds`).
-/

namespace ChatSockets

open Keeper Wire

namespace Application

variable {a : Application} {move : Move} {k : SocketKind}

/-- What ends in a move, as far as the waits of a socket depend on it. -/
def event? (a : Application) (k : SocketKind) : Move → Option Event
  | .keeper j branch stores now link =>
    if j = k then Keeper.event? branch stores now ⟨a.connection k, link, none⟩ else none
  | .connected j _ now others link =>
    match (a.connection j).phase with
    | .dialing hello _ _ =>
      if j = k then
        (connectedClose? now hello ⟨a.connection k, link, none⟩).map
          (.closed (a.opened + others) false)
      else none
    | _ => none
  | _ => none

/-- Nothing ends as long as the keeper does not go on. -/
theorem event?_of_stirs? (hk : a.stirs? move ≠ some k) : a.event? k move = none := by
  cases move with
  | keeper j branch stores now link =>
    unfold event?
    dsimp only
    split
    · next hj =>
      subst hj
      refine event?_of_not_goesOn ?_
      rw [← Bool.not_eq_true]
      exact fun hgoes => hk (by simp only [stirs?, hgoes, if_true])
    · rfl
  | connected j stores now others link =>
    unfold event?
    dsimp only
    split
    · next hello deadline attempt hphase =>
      have hne : j ≠ k := by
        rintro rfl
        exact hk (by simp only [stirs?, hphase])
      rw [if_neg hne]
    · rfl
  | _ => rfl

/-- **What a move does to the waits of a socket.** -/
theorem make_paced (a : Application) (move : Move) (stores : Stores) (now : Nat)
    (k : SocketKind) : (a.connection k).Paced stores now (a.event? k (move.finding stores now))
      ((a.make (move.finding stores now)).connection k) := by
  by_cases hk : a.stirs? (move.finding stores now) = some k
  · have hstirs := stirs_of_stirs? hk
    cases move with
    | atHead j _ _ attempt =>
      cases hstirs with
      | atHead _ _ _ hphase =>
        rw [Move.finding, connection_atHead hphase]
        exact (a.connection k).atHead_paced stores now attempt hphase
    | connectFailed j _ _ e =>
      cases hstirs with
      | connectFailed _ _ _ hello deadline attempt hphase =>
        rw [Move.finding, connection_connectFailed hphase]
        exact (a.connection k).connectFailed_paced stores now e (by rw [hphase]; rfl)
          (by rw [hphase]; exact SocketState.noConfusion)
    | connected j _ _ others link =>
      cases hstirs with
      | connected _ _ _ _ hello deadline attempt hphase =>
        have hopens := connected_opens stores now (a.opened + others) hello
          ⟨a.connection k, link, none⟩
        rw [Move.finding, connection_connected stores now others link hphase]
        simp only [event?, hphase, if_true]
        exact hopens.paced (by rw [hphase]; rfl)
    | keeper j branch _ _ link =>
      cases hstirs with
      | keeper _ _ _ _ hgoes =>
        rw [Move.finding, connection_keeper]
        simp only [event?, if_true]
        exact step_paced branch stores now ⟨a.connection k, link, none⟩
    | operate j op => cases op <;> cases hstirs
    | call | step | cancel => cases hstirs
  · obtain ⟨hphase, hpace, hle⟩ := (a.worked_of_stirs? hk).keeps
    rw [event?_of_stirs? hk]
    exact .of_phase hphase hpace hle

theorem config_make (a : Application) (move : Move) (k : SocketKind) :
    ((a.make move).connection k).config = (a.connection k).config := by
  obtain ⟨stores, now, hmove⟩ := move.exists_finding
  have hpaced := a.make_paced move stores now k
  rw [hmove] at hpaced
  exact hpaced.config

theorem config_makeAll (config : ClientConfig) (moves : List Move) (k : SocketKind) :
    (((start config).makeAll moves).connection k).config = config := by
  induction moves using List.reverseRecOn with
  | nil => cases k <;> rfl
  | append_singleton moves move ih =>
    rw [makeAll_snoc]
    exact (config_make _ move k).trans ih

end Application

/-! ## What a socket heard -/

namespace Record

/-- Messages were heard on links that there have been, and the keeper of a link knows whether any
was heard on it. -/
structure Heeds (r : Record) (p : Phase) (opened : Nat) : Prop where
  links : ∀ h ∈ r.heard, h.link < opened
  knows : ∀ n, p.link? = some n → (p.heard = true ↔ ∃ h ∈ r.heard, h.link = n)

variable {r : Record} {n : Nat}

/-- What was heard on a link after a step of its keeper. -/
theorem heard_after_iff (r : Record) (n : Nat) (uttered : Option (Purpose × Message))
    (heard : Option Message) (b : ByteArray) :
    (∃ h ∈ ((r.after n uttered heard).put n b).heard, h.link = n) ↔
      (∃ h ∈ r.heard, h.link = n) ∨ heard.isSome = true := by
  rw [show ((r.after n uttered heard).put n b).heard = _ from r.heard_after n uttered heard]
  cases heard <;> simp [or_and_right, exists_or]

end Record

namespace Application

variable {a a' : Application} {move : Move} {k : SocketKind}

/-- A keeper that has a new link knows that nothing was heard on it, and one that makes a step knows
what it took. -/
theorem OnLink.heeds (h : a.OnLink k a') (hwired : a.Wired)
    (hheeds : (a.records k).Heeds (a.connection k).phase a.opened) :
    (a'.records k).Heeds (a'.connection k).phase a'.opened := by
  cases h with
  | rests hopened hphase hsaid hheard hissued =>
    refine ⟨fun x hx => ?_, fun n hn => ?_⟩
    · rw [hheard] at hx
      exact Nat.lt_of_lt_of_le (hheeds.links x hx) hopened
    · rcases hphase with hphase | hnone
      · rw [hphase] at hn ⊢
        rw [hheard]
        exact hheeds.knows n hn
      · rw [hnone] at hn
        cases hn
  | connects stores now n hello t hopened hopened' hconnection b hrecord =>
    have hheard : (a'.records k).heard = (a.records k).heard := by
      rw [hrecord]
      rfl
    have hlt : ∀ x ∈ (a'.records k).heard, x.link < n := fun x hx =>
      Nat.lt_of_lt_of_le (hheeds.links x (hheard ▸ hx)) hopened
    refine ⟨fun x hx => hopened' ▸ Nat.lt_succ_of_lt (hlt x hx), fun n' hn' => ?_⟩
    rw [hconnection] at hn' ⊢
    obtain ⟨rfl, hno, -⟩ := (connected_opens stores now n hello t).of_link? hn'
    rw [hno]
    refine ⟨nofun, ?_⟩
    rintro ⟨x, hx, rfl⟩
    exact absurd (hlt x hx) (Nat.lt_irrefl _)
  | steps branch stores now n link hlink hopened hconnection b hrecord =>
    let t : Turn := ⟨a.connection k, link, none⟩
    have hiff := (a.records k).heard_after_iff n (utters branch now t) (hears t) b
    rw [← hrecord] at hiff
    refine ⟨fun x hx => ?_, fun n' hn' => ?_⟩
    · have hlinks := hheeds.links
      rw [hrecord] at hx
      rcases List.mem_append.1 ((Record.heard_after ..) ▸ hx) with hx | hx
      · exact hopened ▸ hlinks x hx
      · obtain ⟨m, -, rfl⟩ := List.mem_map.1 hx
        exact hopened ▸ (hwired k).linked n hlink
    · rw [hconnection] at hn' ⊢
      rcases Phase.link?_cases hlink with ⟨rest, hphase⟩ | ⟨live, hlive, rfl⟩
      · obtain ⟨rfl, hno, -⟩ := (step_opens branch stores now (t := t) hphase).of_link? hn'
        have hhears : hears t = none := by simp only [hears, t, hphase]
        have hknows := hheeds.knows n' hlink
        rw [hno, hiff, hhears, ← hknows, hphase]
        simp [Phase.heard, Phase.live?]
      · obtain ⟨rfl, hheard, -⟩ := (step_fares branch stores now (t := t) hlive).of_link? hn'
        have hknows := hheeds.knows live.link hlink
        rw [hheard, hiff, ← hknows, Phase.heard, hlive]
        simp [t]

/-- **A socket that is closed** is said to have been heard on if it was. -/
theorem heard_of_event? (hheeds : (a.records k).Heeds (a.connection k).phase a.opened) {n : Nat}
    {heard : Bool} {why : Turn.Close} (h : a.event? k move = some (.closed n heard why)) :
    heard = true ↔ ∃ x ∈ ((a.make move).records k).heard, x.link = n := by
  cases move with
  | connected j stores now others link =>
    unfold event? at h
    dsimp only at h
    split at h
    · next hello deadline attempt hphase =>
      split at h
      · next hj =>
        subst hj
        obtain ⟨_, -, heq⟩ := Option.map_eq_some_iff.1 h
        cases heq
        rw [records_connected hphase]
        refine ⟨nofun, ?_⟩
        rintro ⟨x, hx, hlink⟩
        exact absurd (hheeds.links x hx) (by omega)
      · cases h
    · cases h
  | keeper j branch stores now link =>
    unfold event? at h
    dsimp only at h
    split at h
    · next hj =>
      subst hj
      obtain ⟨-, hlink, hheard⟩ := closed_of_event? h
      rw [records_keeper hlink, Record.heard_after_iff, ← hheeds.knows n hlink, hheard,
        Bool.or_eq_true]
    · cases h
  | _ => cases h

end Application

/-! ## The history of a socket -/

namespace Device

variable {d : Device} {k : SocketKind}

/-- What ends in a move, as far as the waits of a socket depend on it. -/
def event? (d : Device) (k : SocketKind) : Move → Option Event
  | .act move => d.app.event? k (move.finding d.stores d.now)
  | _ => none

/-- All that ends in a run. -/
def history (d : Device) (k : SocketKind) : List Move → List Event
  | [] => []
  | move :: rest => (d.event? k move).toList ++ (d.make move).history k rest

theorem history_snoc (d : Device) (k : SocketKind) (moves : List Move) (move : Move) :
    d.history k (moves ++ [move]) =
      d.history k moves ++ ((d.makeAll moves).event? k move).toList := by
  induction moves generalizing d with
  | nil => exact List.append_nil _
  | cons first rest ih =>
    simp only [List.cons_append, history, ih, List.append_assoc]
    rfl

/-- **What a move does to the waits of a socket.** -/
theorem make_paced (d : Device) (move : Move) (k : SocketKind) :
    (d.connection k).Paced d.stores d.now (d.event? k move) ((d.make move).connection k) := by
  have hsame : (d.connection k).Paced d.stores d.now none (d.connection k) :=
    .of_phase rfl (.refl _) (Nat.le_refl _)
  cases move with
  | act move => exact d.app.make_paced move d.stores d.now k
  | store | wait => exact hsame
  | reregister credentials =>
    exact d.app.make_paced (.operate .identified .cycle) d.stores d.now k

/-- Every keeper knows what was heard on its link. -/
def Heeds (d : Device) : Prop :=
  ∀ k, (d.app.records k).Heeds (d.connection k).phase d.app.opened

theorem heeds_make (hwired : d.app.Wired) (h : d.Heeds) (move : Move) : (d.make move).Heeds := by
  have hact : ∀ move k, ((d.app.make move).records k).Heeds
      ((d.app.make move).connection k).phase (d.app.make move).opened :=
    fun move k => (d.app.onLink_make move k).heeds hwired (h k)
  cases move with
  | act move => exact hact _
  | store | wait => exact h
  | reregister credentials => exact hact (.operate .identified .cycle)

theorem heeds_makeAll (hwired : d.app.Wired) (h : d.Heeds) (moves : List Move) :
    (d.makeAll moves).Heeds := by
  induction moves generalizing d with
  | nil => exact h
  | cons move rest ih => exact ih (wired_make hwired move) (heeds_make hwired h move)

end Device

/-! ## How long the waits are -/

namespace Keeper

/-- How many waits were waited to their end since the next one was last the shortest again. -/
def rounds (events : List Event) : Nat :=
  (events.reverse.takeWhile fun e => !e.resets).countP Event.lengthens

theorem rounds_snoc (events : List Event) (e : Event) :
    rounds (events ++ [e]) =
      if e.resets then 0 else if e.lengthens then rounds events + 1 else rounds events := by
  unfold rounds
  rw [List.reverse_append, List.reverse_singleton, List.singleton_append]
  cases hresets : e.resets with
  | true => simp [hresets]
  | false => cases hlengthens : e.lengthens <;> simp [hresets, hlengthens]

/-- How long the next wait is after some events. -/
def waitLength (config : ClientConfig) (events : List Event) : Nat :=
  min (config.reconnect * 2 ^ rounds events) config.maxReconnect

/-- **Each wait that is waited to its end doubles the next one**, up to the limit. -/
theorem waitLength_snoc {config : ClientConfig} (hle : config.reconnect ≤ config.maxReconnect)
    (events : List Event) (e : Event) : waitLength config (events ++ [e]) =
      e.delay config (waitLength config events) := by
  unfold waitLength Event.delay
  rw [rounds_snoc]
  cases e.resets with
  | true =>
    simp only [if_true, Nat.pow_zero, Nat.mul_one]
    exact Nat.min_eq_left hle
  | false =>
    cases e.lengthens with
    | true =>
      have hpow : config.reconnect * 2 ^ (rounds events + 1) =
          2 * (config.reconnect * 2 ^ rounds events) := by
        rw [Nat.pow_succ, ← Nat.mul_assoc, Nat.mul_comm]
      simp only [Bool.false_eq_true, if_false, if_true, hpow]
      omega
    | false => rfl

end Keeper

namespace Device

variable {d : Device} {k : SocketKind}

/-- **The next wait is as long as the history of the socket has it**, after any moves. -/
theorem delay_makeAll (config : ClientConfig) (hle : config.reconnect ≤ config.maxReconnect)
    (stores : Stores) (moves : List Move) (k : SocketKind) :
    let d := (start config stores).makeAll moves
    (d.connection k).config = config ∧
      (d.connection k).delay = waitLength config ((start config stores).history k moves) := by
  induction moves using List.reverseRecOn with
  | nil =>
    have hlength : waitLength config [] = config.reconnect := by
      show min (config.reconnect * 2 ^ 0) config.maxReconnect = config.reconnect
      rw [Nat.pow_zero, Nat.mul_one, Nat.min_eq_left hle]
    cases k <;> exact ⟨rfl, hlength.symm⟩
  | append_singleton moves move ih =>
    obtain ⟨hconfig, hdelay⟩ := ih
    have hpaced := ((start config stores).makeAll moves).make_paced move k
    dsimp only
    rw [makeAll_snoc, history_snoc]
    refine ⟨hpaced.config.trans hconfig, ?_⟩
    rw [hpaced.delay, hconfig, hdelay]
    cases ((start config stores).makeAll moves).event? k move with
    | none => rw [Option.elim_none, Option.toList_none, List.append_nil]
    | some e => exact (waitLength_snoc hle _ e).symm

/-- **A wait ends for a reason**: the keeper could go on for what it is said to have gone on for,
and a wake-up ended the wait only if the socket was not wanted any more or a token was taken. -/
theorem ended_of_event? {move : Move} {branch : Branch}
    (h : d.event? k move = some (.ended branch)) :
    ∃ b link, (d.connection k).phase = .waiting b ∧
      canTake d.now link (d.connection k) branch = true ∧
      (branch = .woken → (d.connection k).wanted d.stores d.now = false ∨
        b.tokens < (d.connection k).policy.tokens) := by
  cases move with
  | act move =>
    cases move with
    | keeper j branch' stores now link =>
      simp only [event?, Application.Move.finding, Application.event?] at h
      split at h
      · next hj =>
        subst hj
        obtain ⟨rfl, b, hends⟩ := Keeper.ended_of_event? h
        exact ⟨b, link, hends⟩
      · cases h
    | connected j stores now others link =>
      simp only [event?, Application.Move.finding, Application.event?] at h
      split at h
      · split at h
        · obtain ⟨why, -, heq⟩ := Option.map_eq_some_iff.1 h
          cases heq
        · cases h
      · cases h
    | operate j op => cases op <;> cases h
    | _ => cases h
  | _ => cases h

/-- A socket that is closed is said to have been heard on if it was. -/
theorem heard_of_event? (h : d.Heeds) {move : Move} {n : Nat} {heard : Bool} {why : Turn.Close}
    (he : d.event? k move = some (.closed n heard why)) :
    heard = true ↔ ∃ x ∈ ((d.make move).app.records k).heard, x.link = n := by
  cases move with
  | act move => exact Application.heard_of_event? (h k) he
  | store | reregister | wait => cases he

theorem heeds_start (config : ClientConfig) (stores : Stores) : (start config stores).Heeds := by
  refine fun k => ⟨nofun, fun n hn => ?_⟩
  cases k <;> cases hn

/-- **The wait after a failure doubles until it is reset.** In any run of a device, with the
shortest wait at most as long as the longest: the next wait lasts as long as the shortest one
doubled once for each wait that was waited to its end since the last reset, but at most as long as
the longest. A wait that begins finds its socket wanted and ends after as long as that; while it
goes on its end stays the same and the history is as before. A keeper that waited and does not any
more has ended its wait for a reason that there was, and a wake-up was one only if the socket is not
wanted any more or a token was taken. An open socket that is gone was closed, and is said to have
been heard on if a message was ever taken from its decoder. -/
theorem wait_doubles_until_reset (config : ClientConfig)
    (hle : config.reconnect ≤ config.maxReconnect) (stores : Stores) (moves : List Move)
    (k : SocketKind) :
    let past := (start config stores).history k moves
    let d := (start config stores).makeAll moves
    let c := d.connection k
    c.delay = waitLength config past ∧
    ∀ move : Move,
      let c' := (d.make move).connection k
      let e := d.event? k move
      (start config stores).history k (moves ++ [move]) = past ++ e.toList ∧
      (∀ b, c.phase.isWaiting = false → c'.phase = .waiting b →
        c'.wanted d.stores d.now = true ∧
          b.due = d.now + waitLength config (past ++ e.toList)) ∧
      (∀ b b', c.phase = .waiting b → c'.phase = .waiting b' → b'.due = b.due ∧ e = none) ∧
      (c.phase.isWaiting = true → c'.phase.isWaiting = false →
        ∃ branch, e = some (.ended branch)) ∧
      (∀ branch, e = some (.ended branch) → ∃ b link, c.phase = .waiting b ∧
        canTake d.now link c branch = true ∧
        (branch = .woken → c.wanted d.stores d.now = false ∨ b.tokens < c.policy.tokens)) ∧
      (c.phase.shown = .open → (e = none ↔ c'.phase.shown = .open)) ∧
      ∀ n heard why, e = some (.closed n heard why) →
        (heard = true ↔ ∃ x ∈ ((d.make move).app.records k).heard, x.link = n) := by
  intro past d c
  refine ⟨(delay_makeAll config hle stores moves k).2, fun move => ?_⟩
  intro c' e
  have hpaced : c.Paced d.stores d.now e c' := d.make_paced move k
  have hnext : (start config stores).history k (moves ++ [move]) = past ++ e.toList :=
    history_snoc _ k moves move
  have hdelay : c'.delay = waitLength config (past ++ e.toList) := by
    rw [← hnext]
    simpa only [makeAll_snoc] using (delay_makeAll config hle stores (moves ++ [move]) k).2
  have hheeds : d.Heeds := heeds_makeAll (Application.wired_start config)
    (heeds_start config stores) moves
  refine ⟨hnext, fun b hno hb => ?_, hpaced.waits, hpaced.ends, fun branch => ended_of_event?,
    hpaced.closes, fun n heard why => heard_of_event? hheeds⟩
  obtain ⟨hwanted, hdue, -⟩ := hpaced.begins hno b hb
  exact ⟨hwanted, hdelay ▸ hdue⟩

/-- The application is in the foreground, one attempt to connect fails, the wait after it is waited
to its end, and the next attempt is made. -/
def failingOnce : List Move :=
  [.act (.operate .unidentified (.setActive true)), .act (.atHead .unidentified {} 0 .hanging),
    .act (.connectFailed .unidentified {} 0 .brokenPipe), .wait 1000,
    .act (.keeper .unidentified .timer {} 0 {}), .act (.atHead .unidentified {} 0 .hanging)]

/-- The second wait is twice as long as the first one. -/
theorem wait_doubles_once :
    let d := (start {} {}).makeAll failingOnce
    let d' := d.make (.act (.connectFailed .unidentified {} 0 .brokenPipe))
    (d'.connection .unidentified).phase = .waiting ⟨3000, 0, 0⟩ ∧
      3000 = d.now + waitLength {} ((start {} {}).history .unidentified failingOnce) := by
  intro d d'
  have hphase : (d'.connection .unidentified).phase = .waiting ⟨3000, 0, 0⟩ := rfl
  obtain ⟨-, hmove⟩ := wait_doubles_until_reset {} (by decide) {} failingOnce .unidentified
  obtain ⟨-, hbegins, -⟩ := hmove (.act (.connectFailed .unidentified {} 0 .brokenPipe))
  exact ⟨hphase, (hbegins _ rfl hphase).2⟩

end Device

end ChatSockets
