import ChatSockets.Proofs.Application

/-!
# What holds of ledgers and records

What an application sees of a socket changes in many places: when its keeper dials, opens the socket
and lets go of it in any of several ways, and when calls submit and withdraw their requests. Yet it
is always what the keeper is doing (`Sound.published`), and the record of the socket tells what its
ledger is made of (`Sound.record`). Both are kept by every move (`Does.sound`).
-/

namespace ChatSockets.Application

open Keeper

variable {a a' : Application} {k : SocketKind}

/-- Every ledger shows what is, and every record tells what its ledger is made of. -/
structure Sound (a : Application) : Prop where
  published : ∀ k, (a.ledger k).Published
  record : ∀ k, (a.records k).Sound (a.ledger k)

/-- A socket on which a request can be put into an outbox has a link. -/
theorem Sound.link?_of_outbox (h : a.Sound) (hopen : (a.connection k).outbox.isSome = true) :
    ∃ n, (a.ledger k).link? = some n :=
  Option.isSome_iff_exists.1 ((h.published k).outbox.1 hopen)

/-- A socket without an outbox has no link. -/
theorem Sound.link?_of_closed (h : a.Sound) (hclosed : (a.connection k).outbox = none) :
    (a.ledger k).link? = none := by
  cases hlink : (a.ledger k).link? with
  | none => rfl
  | some n =>
    have hopen := (h.published k).outbox.2 (by rw [hlink]; rfl)
    rw [show (a.ledger k).outbox = none from hclosed] at hopen
    cases hopen

/-- A change of one socket and its record. -/
theorem Sound.at (ha : a.Sound) (hpublished : (a'.ledger k).Published)
    (hrecord : (a'.records k).Sound (a'.ledger k)) (hledger : ∀ j, j ≠ k → a'.ledger j = a.ledger j)
    (hrecords : ∀ j, j ≠ k → a'.records j = a.records j) : a'.Sound := by
  refine ⟨fun j => ?_, fun j => ?_⟩
  · by_cases heq : j = k
    · exact heq ▸ hpublished
    · rw [hledger j heq]
      exact ha.published j
  · by_cases heq : j = k
    · exact heq ▸ hrecord
    · rw [hledger j heq, hrecords j heq]
      exact ha.record j

/-- A call changed one ledger, and the record of the socket if it submitted a request. -/
theorem Sound.of_changes (ha : a.Sound) {l : Ledger} (h : a.sockets.Changes k l a'.sockets)
    (hpublished : l.Published) (hrecord : (a'.records k).Sound l)
    (hrecords : ∀ j, j ≠ k → a'.records j = a.records j) : a'.Sound := by
  have hk : a'.ledger k = l := h.ledger
  exact ha.at (hk ▸ hpublished) (hk ▸ hrecord) (fun j hj => (h.elsewhere j hj).ledger) hrecords

theorem records_goOn_self (a : Application) (j : Nat) (goal : Goal) (r : Request)
    (after : Call.Phase × Sockets) :
    (a.goOn j goal (some (k, r)) after).records k =
      (a.records k).issue (a.issueOf j k r) := Function.update_self ..

theorem records_goOn_of_ne (a : Application) (j : Nat) (goal : Goal) (r : Request)
    (after : Call.Phase × Sockets) {i : SocketKind} (hi : i ≠ k) :
    (a.goOn j goal (some (k, r)) after).records i = a.records i := Function.update_of_ne hi ..

/-- **What holds of all ledgers and records** is kept by every move. -/
theorem Does.sound (h : Does a a') (ha : a.Sound) : a'.Sound := by
  cases h with
  | waits _ hledger hrecords hcallers =>
    refine ⟨fun k => ?_, fun k => ?_⟩
    · rw [hledger k]
      exact ha.published k
    · rw [hledger k, hrecords]
      exact ha.record k
  | calls goal => exact ⟨ha.published, ha.record⟩
  | turns k _ hshifts hledger hrecords hcallers =>
    obtain ⟨hpublished, hrecord⟩ := hshifts.induct (P := fun l r => l.Published ∧ r.Sound l)
      ⟨ha.published k, ha.record k⟩ fun h ⟨hl, hr⟩ => ⟨h.published hl, h.sound hr⟩
    exact ha.at hpublished hrecord hledger hrecords
  | goes j goal p p' submitted s' hj h =>
    cases h with
    | waits _ _ halike hphase =>
      refine ⟨fun k => ?_, fun k => ?_⟩
      · show (s'.get k).ledger.Published
        rw [(halike k).ledger]
        exact ha.published k
      · show (a.records k).Sound (s'.get k).ledger
        rw [(halike k).ledger]
        exact ha.record k
    | withdraws k id _ _ hwaits hresult h =>
      exact ha.of_changes h ((ha.published k).withdraw id) ((ha.record k).withdraw id)
        fun _ _ => rfl
    | submits k r _ _ hasks h =>
      cases h with
      | queued timeout deadline _ hopen h =>
        obtain ⟨n, hn⟩ := ha.link?_of_outbox hopen
        refine ha.of_changes h ((ha.published k).enqueue hopen _) ?_
          fun i hi => a.records_goOn_of_ne j goal r _ hi
        rw [records_goOn_self]
        exact (ha.record k).enqueue rfl hn rfl rfl hopen
      | refused _ hclosed h =>
        refine ha.of_changes h (ha.published k).refuse ?_
          fun i hi => a.records_goOn_of_ne j goal r _ hi
        rw [records_goOn_self]
        exact ((ha.record k).register rfl).withdraw _

theorem sound_start (config : ClientConfig) : (start config).Sound := by
  have hnew : ∀ k, (start config).ledger k = (Connection.new k config).ledger := by
    intro k
    cases k <;> rfl
  refine ⟨fun k => ?_, fun k => ?_⟩
  · rw [hnew]
    exact ⟨rfl, rfl, ⟨nofun, nofun⟩, nofun, fun _ => ⟨rfl, rfl, rfl⟩⟩
  · rw [hnew]
    exact ⟨rfl, nofun, .slnil, nofun, nofun, nofun, nofun⟩

/-- **It holds after any moves.** -/
theorem sound_makeAll (ha : a.Sound) (moves : List Move) : (a.makeAll moves).Sound := by
  induction moves generalizing a with
  | nil => exact ha
  | cons move rest ih => exact ih ((make_does a move).sound ha)

end ChatSockets.Application
