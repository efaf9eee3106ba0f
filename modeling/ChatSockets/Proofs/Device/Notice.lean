import ChatSockets.Proofs.Device

/-!
# What the keepers of a device notice

A keeper that waits relies on a wake-up for every change that matters to it, and on a timer for the
end of a push. For all changes that leave a wake-up this is enough (`sleeps_rightly_iff`): a keeper
that parks without one has nothing to do, and one that serves is right to, unless a push ended
between its two looks at the clock, for which it has no timer (`push_slept_through`). A change of
the stores leaves no wake-up. A keeper at rest notices it no sooner than something else lets it look
again (`noticed_iff`, `change_overlooked`).
-/

namespace ChatSockets.Device

open Keeper

variable {d : Device}

/-! ## A keeper at rest -/

section

variable {c : Connection} {now : Nat} {link : Link}

/-- A keeper that waits for a change and cannot go on can go on for nothing. -/
theorem not_canTake_of_rest (hrest : ready now link c = false) (hwatches : c.phase.watches = true)
    (branch : Branch) : canTake now link c branch = false := by
  have hnone : Branch.all.any (canTake now link c) = false := by
    cases hphase : c.phase with
    | parked | serving => simpa only [ready, hphase] using hrest
    | _ => simp [hphase, Phase.watches] at hwatches
  have hmem : branch ∈ Branch.all := by cases branch <;> decide
  simpa using List.any_eq_false.1 hnone branch hmem

/-- No wake-up is left for it. -/
theorem asleep_of_rest (hrest : ready now link c = false) (hwatches : c.phase.watches = true) :
    c.policy.woken = false := by
  have hno := not_canTake_of_rest hrest hwatches .woken
  cases hphase : c.phase with
  | parked | serving => simpa only [canTake, hphase] using hno
  | _ => simp [hphase, Phase.watches] at hwatches

/-- The push for which it serves still counts. -/
theorem window_of_rest (hrest : ready now link c = false) {live : Live} {window : Option Nat}
    (hphase : c.phase = .serving live window) : ∀ t, window = some t → now < t := by
  rintro t rfl
  have hno := not_canTake_of_rest hrest (by rw [hphase]; rfl) .window
  simpa [canTake, hphase] using hno

end

/-! ## Changes with a wake-up -/

/-- Without a wake-up, what a keeper last saw in the stores is what they hold, as far as it matters.
-/
def Current (d : Device) : Prop :=
  ∀ k, (d.connection k).policy.woken = false → (d.seen k).forbids k = d.stores.forbids k

/-- A change of the stores with a wake-up for those that it concerns is no change to the others. -/
theorem Current.make (h : d.Current) {move : Move} (htold : ∀ stores, move ≠ .store stores) :
    (d.make move).Current := by
  intro k hwoken
  cases move with
  | act move =>
    show (if d.app.stirs? _ = some k then
      (d.glance k).next (d.app.connection k).phase d.stores d.now
      else d.glance k).stores.forbids k = d.stores.forbids k
    cases d.app.make_treats move d.stores d.now k with
    | stirs hk _ _ hpolicy =>
      rw [if_pos hk, Glance.next]
      split
      · next hfound => exact h k ((congrArg Policy.woken (hpolicy hfound)).symm.trans hwoken)
      · rfl
    | touches hk htouched =>
      rw [if_neg hk]
      exact h k (htouched.woken hwoken)
  | store stores => exact absurd rfl (htold stores)
  | reregister credentials =>
    cases k with
    | identified => cases hwoken
    | unidentified =>
      have hseen := h .unidentified hwoken
      simpa [Stores.forbids, Device.make, seen] using hseen
  | wait ms => exact h k hwoken

theorem Current.makeAll (h : d.Current) {moves : List Move}
    (htold : ∀ stores, Move.store stores ∉ moves) : (d.makeAll moves).Current := by
  induction moves generalizing d with
  | nil => exact h
  | cons move rest ih =>
    refine ih (h.make fun stores heq => ?_) fun stores hmem => ?_
    · exact htold stores (heq ▸ List.mem_cons_self)
    · exact htold stores (List.mem_cons_of_mem move hmem)

/-- **A keeper that sleeps is right to**, but for one case. Whatever happens to a device in which
the build does not expire, nor ceases to be, and the credentials change together with a cycle of the
identified socket: a keeper that is parked without a wake-up has a socket that is neither wanted nor
shut down. One that serves an open socket without a wake-up, before a push for which it has a timer
ceases to count, has one that is not to be cycled; and it is wanted, unless it was for a push alone
that ceased to count after the keeper had looked whether the socket is wanted, and before it looked
for how long. -/
theorem sleeps_rightly_iff (config : ClientConfig) (stores : Stores) (moves : List Move)
    (htold : ∀ stores, Move.store stores ∉ moves) (k : SocketKind) :
    let d := (start config stores).makeAll moves
    let c := d.connection k
    c.policy.woken = false →
      (c.phase = .parked → c.wanted d.stores d.now = false ∧ c.policy.shutDown = false) ∧
      ∀ live window, c.phase = .serving live window → (∀ t, window = some t → d.now < t) →
        (c.wanted d.stores d.now = true ↔ ¬ c.Lapsed (d.glance k)) ∧ c.cycling = false := by
  intro d c hwoken
  have hwatched : d.Watched := watched_makeAll (watched_start config stores) moves
  have hcurrent : d.Current := Current.makeAll (fun _ _ => rfl) htold
  have hsocket : c.policy.socket = k := (hwatched.socket k).2
  have hvigilant : c.Vigilant { d.glance k with stores := d.stores } d.now := by
    refine (hwatched.vigilant k).congr ?_
    rw [hsocket]
    exact hcurrent k hwoken
  refine ⟨fun hphase => ?_, fun live window hphase hwindow => ?_⟩
  · exact (hvigilant.parked hphase hwoken).symm
  · obtain ⟨hcycling, hwanted⟩ := hvigilant.serving hphase hwoken hwindow
    exact ⟨hwanted.trans (not_congr ⟨fun h => ⟨h.push, h.inactive, h.tokens, h.pending⟩,
      fun h => ⟨h.push, h.inactive, h.tokens, h.pending⟩⟩), hcycling⟩

/-- Without credentials one socket is opened while the other parks, both rightly. -/
theorem watches_of_attending :
    let d := (start {} {}).makeAll
      (attending .unidentified ++ [.act (.atHead .identified {} 0 .hanging)])
    ((∃ live window, (d.connection .unidentified).phase = .serving live window) ∧
        (d.connection .unidentified).wanted d.stores d.now = true ∧
        (d.connection .unidentified).cycling = false) ∧
      (d.connection .identified).phase = .parked ∧
      (d.connection .identified).wanted d.stores d.now = false ∧
      (d.connection .identified).policy.shutDown = false := by
  intro d
  have hrun : ((d.connection .unidentified).phase.watches, (d.connection .unidentified).phase.shown,
        ready d.now {} (d.connection .unidentified)) = (true, .open, false) ∧
      ((d.connection .identified).phase.watches, (d.connection .identified).phase.shown,
        ready d.now {} (d.connection .identified)) = (true, .closed, false) := by decide +kernel
  have hactive : (d.connection .unidentified).policy.appActive = true := by decide +kernel
  simp only [Prod.mk.injEq] at hrun
  obtain ⟨⟨hserves, hopen, hrest⟩, hparks, hclosed, hrest'⟩ := hrun
  have htold : ∀ stores, Move.store stores ∉
      attending .unidentified ++ [.act (.atHead .identified {} 0 .hanging)] := by
    simp [attending, looks]
  obtain ⟨live, window, hserving⟩ := Phase.serving_of_watches hserves hopen
  have hparked := Phase.parked_of_watches hparks hclosed
  obtain ⟨hwanted, hcycling⟩ := (sleeps_rightly_iff {} {} _ htold .unidentified
    (asleep_of_rest hrest hserves)).2 live window hserving (window_of_rest hrest hserving)
  have hidle := (sleeps_rightly_iff {} {} _ htold .identified (asleep_of_rest hrest' hparks)).1
    hparked
  refine ⟨⟨⟨live, window, hserving⟩, hwanted.2 fun hlapsed => ?_, hcycling⟩, hparked, hidle⟩
  cases hlapsed.inactive.symm.trans hactive

/-- A socket is open for a push, and its keeper looks whether it is wanted just before the push
ceases to count, and for how long it counts just after. -/
def lapsing : List Move :=
  [.act (.operate .unidentified (.push 0)), .act (.atHead .unidentified {} 0 .connected),
    .act (.connected .unidentified {} 0 0 {})] ++ looks .unidentified ++
  [.act (.keeper .unidentified .woken {} 0 {}), .wait 19999,
    .act (.keeper .unidentified .woken {} 0 {}), .wait 1,
    .act (.keeper .unidentified .woken {} 0 {})]

/-- **An end of a push is slept through.** The keeper is at rest with an open socket and without a
wake-up, and it has no timer; but the socket is not wanted. -/
theorem push_slept_through :
    let d := (start {} {}).makeAll lapsing
    let c := d.connection .unidentified
    (∀ stores, Move.store stores ∉ lapsing) ∧ ready d.now {} c = false ∧
      c.policy.woken = false ∧ (∃ live, c.phase = .serving live none) ∧ c.state = .open ∧
      c.wanted d.stores d.now = false := by
  intro d c
  obtain ⟨hrest, hwoken, hstate, hwanted⟩ : ready d.now {} c = false ∧ c.policy.woken = false ∧
      c.state = .open ∧ c.wanted d.stores d.now = false := by decide +kernel
  have hphase : ∃ live, c.phase = .serving live none := by
    obtain ⟨hwatches, hopen, hnone⟩ : c.phase.watches = true ∧ c.phase.shown = .open ∧
        c.phase.window? = none := by decide +kernel
    obtain ⟨live, window, hserving⟩ := Phase.serving_of_watches hwatches hopen
    rw [hserving] at hnone
    exact ⟨live, hserving.trans (congrArg _ hnone)⟩
  exact ⟨by simp [lapsing, looks], hrest, hwoken, hphase, hstate, hwanted⟩

/-! ## Changes without one -/

/-- A change is noticed once a socket that the stores forbid is not open, and the keeper of one that
is wanted is not parked. -/
def Noticed (d : Device) (k : SocketKind) : Prop :=
  (d.stores.forbids k = true → (d.connection k).state ≠ .open) ∧
    ((d.connection k).wanted d.stores d.now = true → (d.connection k).phase ≠ .parked)

/-- What a keeper at rest overlooks: that the stores forbid its socket, while it is in the middle of
a frame, or if they did not as it last looked; and that the socket is wanted, if it was not then.
One that has crashed overlooks everything. -/
inductive Overlooks (d : Device) (k : SocketKind) : Prop
  | writing (live : Live) (rest : ByteArray) (purpose : Purpose)
    (hphase : (d.connection k).phase = .writing live rest purpose)
    (hforbids : d.stores.forbids k = true)
  | serving (live : Live) (window : Option Nat)
    (hphase : (d.connection k).phase = .serving live window)
    (hforbids : d.stores.forbids k = true) (hseen : (d.seen k).forbids k = false)
  | parked (hphase : (d.connection k).phase = .parked)
    (hwanted : (d.connection k).wanted d.stores d.now = true)
    (hseen : (d.connection k).wanted (d.seen k) d.now = false)
  | crashed (hphase : (d.connection k).phase = .crashed)
    (hforbids : d.stores.forbids k = true)

/-- **What a change of the stores alone leads to.** Whenever the keeper of a socket is at rest, a
change is noticed, except for what the keeper overlooks: it is in the middle of a frame, or it has
not looked since the change, or it has crashed. -/
theorem noticed_iff (config : ClientConfig) (stores : Stores) (moves : List Move) (k : SocketKind)
    (link : Link) :
    let d := (start config stores).makeAll moves
    ready d.now link (d.connection k) = false → (d.Noticed k ↔ ¬ d.Overlooks k) := by
  intro d hrest
  have hwatched : d.Watched := watched_makeAll (watched_start config stores) moves
  have hstate : (d.connection k).state = (d.connection k).phase.shown :=
    (hwatched.sound.published k).state
  have hvigilant := hwatched.vigilant k
  constructor
  · rintro ⟨hforbidden, hwanted⟩ hoverlooks
    cases hoverlooks with
    | writing live rest purpose hphase hforbids =>
      exact hforbidden hforbids (hstate.trans (congrArg Phase.shown hphase))
    | serving live window hphase hforbids =>
      exact hforbidden hforbids (hstate.trans (congrArg Phase.shown hphase))
    | parked hphase hwants => exact hwanted hwants hphase
    | crashed hphase hforbids =>
      exact hforbidden hforbids (hstate.trans (congrArg Phase.shown hphase))
  · intro hno
    refine ⟨fun hforbids hopen => ?_, fun hwants hphase => ?_⟩
    · rw [hstate] at hopen
      cases hphase : (d.connection k).phase with
      | looking live look | draining live => simp [ready, hphase] at hrest
      | crashed => exact hno (.crashed hphase hforbids)
      | writing live rest purpose => exact hno (.writing live rest purpose hphase hforbids)
      | serving live window =>
        have hseen := hvigilant.forbids hphase (asleep_of_rest hrest (by rw [hphase]; rfl))
        rw [(hwatched.socket k).2] at hseen
        exact hno (.serving live window hphase hforbids hseen)
      | _ => simp [hphase, Phase.shown] at hopen
    · have hseen := (hvigilant.parked hphase (asleep_of_rest hrest (by rw [hphase]; rfl))).2
      exact hno (.parked hphase hwants hseen)

/-- The build expires while a socket is open, and nobody is told. -/
def expiring : List Move := attending .unidentified ++ [.store { expired := true }]

/-- When the keeper is woken for another reason, it notices. -/
theorem noticed_of_waking :
    let d := (start {} {}).makeAll (expiring ++
      [.act (.operate .unidentified (.setActive false)),
        .act (.keeper .unidentified .woken {} 0 {})] ++ looks .unidentified ++
      [.act (.atHead .unidentified {} 0 .hanging)])
    d.stores.forbids .unidentified = true ∧ d.Noticed .unidentified := by
  intro d
  obtain ⟨hforbids, hrest, hwatches, hclosed⟩ : d.stores.forbids .unidentified = true ∧
      ready d.now {} (d.connection .unidentified) = false ∧
      (d.connection .unidentified).phase.watches = true ∧
      (d.connection .unidentified).phase.shown = .closed := by decide +kernel
  have hparked := Phase.parked_of_watches hwatches hclosed
  refine ⟨hforbids, (noticed_iff {} {} _ .unidentified {} hrest).2 fun hoverlooks => ?_⟩
  cases hoverlooks with
  | writing live rest purpose hphase => cases hparked.symm.trans hphase
  | serving live window hphase => cases hparked.symm.trans hphase
  | crashed hphase => cases hparked.symm.trans hphase
  | parked hphase hwants =>
    have hidle : (d.connection .unidentified).wanted d.stores d.now = false := by decide +kernel
    exact absurd (hwants.symm.trans hidle) (by decide)

/-- **A change of the stores alone is not noticed.** With the keeper at rest, a socket stays open in
a build that has expired, and after its credentials are gone; and the keeper of a socket that has
become wanted by its credentials stays parked. -/
theorem change_overlooked :
    (let d := (start {} {}).makeAll expiring
     ready d.now {} (d.connection .unidentified) = false ∧ ¬ d.Noticed .unidentified) ∧
    (let d := (start {} { credentials := some ⟨"alice", "secret"⟩ }).makeAll
        (attending .identified ++ [.store {}])
     ready d.now {} (d.connection .identified) = false ∧ ¬ d.Noticed .identified) ∧
    (let d := (start {} {}).makeAll
        [.act (.operate .identified (.setActive true)), .act (.atHead .identified {} 0 .hanging),
          .act (.keeper .identified .woken {} 0 {}), .act (.atHead .identified {} 0 .hanging),
          .store { credentials := some ⟨"alice", "secret"⟩ }]
     ready d.now {} (d.connection .identified) = false ∧ ¬ d.Noticed .identified) := by
  refine ⟨⟨by decide +kernel, fun hnoticed => ?_⟩, ⟨by decide +kernel, fun hnoticed => ?_⟩,
    by decide +kernel, fun hnoticed => ?_⟩
  · exact hnoticed.1 (by decide +kernel) (by decide +kernel)
  · exact hnoticed.1 (by decide +kernel) (by decide +kernel)
  · exact hnoticed.2 (by decide +kernel)
      (Phase.parked_of_watches (by decide +kernel) (by decide +kernel))

end ChatSockets.Device
