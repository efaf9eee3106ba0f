import ChatSockets.Proofs.Application.Written
import ChatSockets.Proofs.Device.Dialing

/-!
# What a move makes of the link of a socket

Seen from one socket with its link and its record there are three kinds of moves
(`Application.OnLink`): its keeper gets a new link, its keeper makes a step on the link that it has,
or nothing is written, heard and probed. What is to be shown of a socket as long as it has its link
is then shown of these three.
-/

namespace ChatSockets.Application

open Wire Keeper

variable {a a' : Application} {k : SocketKind}

/-- What a move makes of the link of a socket. -/
inductive OnLink (a : Application) (k : SocketKind) (a' : Application) : Prop
  /-- the keeper stays where it is, or has no link; nothing is written or heard, and only calls
  issue requests -/
  | rests (hopened : a.opened ≤ a'.opened)
    (hphase : (a'.connection k).phase = (a.connection k).phase ∨
      (a'.connection k).phase.link? = none)
    (hsaid : (a'.records k).said = (a.records k).said)
    (hheard : (a'.records k).heard = (a.records k).heard)
    (hissued : ∀ i : Issue, i.caller? = none →
      (i ∈ (a'.records k).issued ↔ i ∈ (a.records k).issued))
  /-- the keeper has a new link -/
  | connects (stores : Stores) (now n : Nat) (hello : Handshake) (t : Turn) (hopened : a.opened ≤ n)
    (hopened' : a'.opened = n + 1)
    (hconnection : a'.connection k = (connected stores now n hello t).connection) (b : ByteArray)
    (hrecord : a'.records k = ((a.records k).say ⟨n, none, .ofHandshake hello⟩).put n b)
  /-- the keeper makes a step on its link -/
  | steps (branch : Branch) (stores : Stores) (now n : Nat) (link : Link)
    (hlink : (a.connection k).phase.link? = some n) (hopened : a'.opened = a.opened)
    (hconnection : a'.connection k =
      (step branch stores now ⟨a.connection k, link, none⟩).connection) (b : ByteArray)
    (hrecord : a'.records k = ((a.records k).after n
      (utters branch now ⟨a.connection k, link, none⟩)
      (hears ⟨a.connection k, link, none⟩)).put n b)

/-- A move that has to do with the other socket. -/
theorem OnLink.of_eq (hopened : a.opened ≤ a'.opened)
    (hconnection : a'.connection k = a.connection k) (hrecords : a'.records k = a.records k) :
    a.OnLink k a' :=
  .rests hopened (.inl (congrArg _ hconnection)) (congrArg _ hrecords) (congrArg _ hrecords)
    fun _ _ => by rw [hrecords]

/-- A call issues nothing but requests of its own. -/
theorem issued_goOn (a : Application) (j : Nat) (goal : Goal)
    (submitted : Option (SocketKind × Request)) (after : Call.Phase × Sockets) (k : SocketKind)
    {i : Issue} (hi : i.caller? = none) :
    i ∈ ((a.goOn j goal submitted after).records k).issued ↔ i ∈ (a.records k).issued := by
  cases submitted with
  | none => exact Iff.rfl
  | some x =>
    obtain ⟨k', r⟩ := x
    by_cases hk : k = k'
    · subst hk
      rw [records_goOn_self]
      have hne : i ≠ a.issueOf j k r := fun h => by rw [h] at hi; cases hi
      simp [Record.issue, hne]
    · rw [a.records_goOn_of_ne j goal r after hk]

/-- A move that touches no link leaves it at rest. -/
theorem onLink_of_quiet (h : a.Quiet a')
    (hissued : ∀ i : Issue, i.caller? = none →
      (i ∈ (a'.records k).issued ↔ i ∈ (a.records k).issued)) : a.OnLink k a' :=
  .rests (Nat.le_of_eq h.opened.symm) (h.phase k) (h.said k) (h.heard k) hissued

/-- **What a move makes of a link** is one of these. -/
theorem onLink_make (a : Application) (move : Move) (k : SocketKind) :
    a.OnLink k (a.make move) := by
  have hsame : a.OnLink k a := .of_eq (Nat.le_refl _) rfl rfl
  cases hquiet : move.isQuiet with
  | true =>
    refine onLink_of_quiet (a.make_quiet hquiet) fun i hi => ?_
    cases move with
    | step j stores now =>
      unfold make
      dsimp only
      split
      · exact Iff.rfl
      · exact a.issued_goOn j _ _ _ k hi
    | cancel j =>
      unfold make
      dsimp only
      split
      · exact Iff.rfl
      · exact a.issued_goOn j _ _ _ k hi
    | call goal => exact Iff.rfl
    | operate | atHead | connectFailed =>
      unfold make
      dsimp only
      split <;> exact Iff.rfl
    | connected | keeper => cases hquiet
  | false =>
    cases move with
    | connected j stores now others link =>
      cases hphase : (a.connection j).phase with
      | dialing hello deadline attempt =>
        by_cases hk : k = j
        · subst hk
          exact .connects stores now (a.opened + others) hello ⟨a.connection k, link, none⟩
            (Nat.le_add_right _ _) (by simp only [make, hphase, connect])
            (connection_connected stores now others link hphase) _
            (records_connected hphase stores now others link)
        · refine .of_eq ?_ ?_ ?_
          · simp only [make, hphase, connect]
            exact Nat.le_succ_of_le (Nat.le_add_right _ _)
          · simp only [make, hphase]
            exact (Sockets.get_set ..).trans (if_neg hk)
          · simp only [make, hphase, connect, Function.update_of_ne hk]
      | _ =>
        simp only [make, hphase]
        exact hsame
    | keeper j branch stores now link =>
      by_cases hk : k = j
      · subst hk
        cases hlink : linkOf? (a.connection k) with
        | none =>
          refine onLink_of_quiet (a.quiet_keeper hlink branch stores now link) fun i _ => ?_
          simp only [make, turn, hlink]
        | some n =>
          exact .steps branch stores now n link hlink rfl
            (a.connection_keeper k branch stores now link) _
            (records_keeper hlink branch stores now link)
      · refine .of_eq (Nat.le_refl _) ?_ (a.records_turn_of_ne _ _ _ _ _ hk)
        exact (Sockets.get_set ..).trans (if_neg hk)
    | _ => cases hquiet

end ChatSockets.Application
