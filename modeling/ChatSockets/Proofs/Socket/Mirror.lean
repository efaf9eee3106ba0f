import ChatSockets.Proofs.Socket.Relabel

/-!
# What calls do to the unidentified socket

A call works on the socket of its request, and on the sockets whose token it gives back or that it
shuts down; on no other. `Call.Phase.concerns` says whether the next step of a call can do anything
to the unidentified socket. If it can, what it does is decided by that socket alone: it is the same
for sockets that mirror each other, whatever the identified ones are (`Call.step_mirrors`). If it
cannot, it leaves the unidentified socket as it is, and so do all steps after it
(`Call.step_apart`).
-/

namespace ChatSockets

/-- The unidentified sockets are the same but for the numbers of their links. -/
def Sockets.Mirrors (n : Nat) (s s' : Sockets) : Prop :=
  s'.unidentified = s.unidentified.relabel n s.unidentified.claimed

theorem Connection.withdraw_relabel (c : Connection) (id : UInt64) (n : Nat) :
    (c.relabel n c.claimed).withdraw id = (c.withdraw id).relabel n (c.withdraw id).claimed := by
  unfold withdraw
  rw [show (c.relabel n c.claimed).pending = c.pending from rfl]
  obtain ⟨receiver, pending⟩ := c.pending.remove id
  cases receiver <;> rfl

namespace Sockets

variable {n : Nat} {s s' : Sockets}

theorem Mirrors.refl (s : Sockets) :
    ∃ n, s.Mirrors n s :=
  ⟨s.unidentified.phase.link?.getD 0, (s.unidentified.relabel_self _ fun m hm => by
    rw [hm]
    rfl).symm⟩

theorem Mirrors.get (h : s.Mirrors n s') : s'.get .unidentified =
    (s.get .unidentified).relabel n (s.get .unidentified).claimed := h

/-- Other connections in the place of one. -/
theorem Mirrors.set (h : s.Mirrors n s') (k : SocketKind) {c c' : Connection}
    (hc : k = .unidentified → c' = c.relabel n c.claimed) :
    (s.set k c).Mirrors n (s'.set k c') := by
  cases k with
  | identified => exact h
  | unidentified => exact hc rfl

/-- A change that does not look at the link. -/
theorem Mirrors.modify (h : s.Mirrors n s') (k : SocketKind) {f : Connection → Connection}
    (hf : ∀ c : Connection, f (c.relabel n c.claimed) = (f c).relabel n (f c).claimed) :
    (s.modify k f).Mirrors n (s'.modify k f) := by
  refine h.set k fun hk => ?_
  subst hk
  rw [h.get]
  exact hf _

theorem Mirrors.foldl_modify (h : s.Mirrors n s') (ks : List SocketKind)
    {f : Connection → Connection}
    (hf : ∀ c : Connection, f (c.relabel n c.claimed) = (f c).relabel n (f c).claimed) :
    (ks.foldl (fun s k => s.modify k f) s).Mirrors n (ks.foldl (fun s k => s.modify k f) s') := by
  induction ks generalizing s s' with
  | nil => exact h
  | cons k ks ih => exact ih (h.modify k hf)

/-- The identified socket is no part of the unidentified one. -/
theorem unidentified_modify (s : Sockets) {k : SocketKind} (hk : k ≠ .unidentified)
    (f : Connection → Connection) : (s.modify k f).unidentified = s.unidentified := by
  cases k with
  | identified => rfl
  | unidentified => exact absurd rfl hk

theorem unidentified_foldl (ks : List SocketKind) (hks : .unidentified ∉ ks)
    (f : Connection → Connection) (s : Sockets) :
    (ks.foldl (fun s k => s.modify k f) s).unidentified = s.unidentified := by
  induction ks generalizing s with
  | nil => rfl
  | cons k ks ih =>
    rw [List.foldl_cons, ih fun hmem => hks (List.mem_cons_of_mem k hmem)]
    exact s.unidentified_modify (fun hk => hks (hk ▸ List.mem_cons_self)) f

end Sockets

namespace Call

open Sockets

/-- Whether the next step of a call can do anything to the unidentified socket. -/
def Phase.concerns : Phase → Bool
  | .fresh (.request r) => r.route = .unidentified
  | .fresh (.submit k token _) => k = .unidentified || token = .unidentified
  | .fresh (.shutdown ks) => SocketKind.unidentified ∈ ks
  | .holding k _ _ => k = .unidentified
  | .submitted k _ _ _ _ => k = .unidentified
  | _ => false

/-- Where a call is, if its next step can do anything to the unidentified socket. -/
def Phase.concern? (p : Phase) : Option Phase := if p.concerns then some p else none

theorem Phase.concern?_of_apart {p : Phase} (h : p.concerns = false) : p.concern? = none := by
  rw [concern?, h]
  rfl

theorem Phase.concern?_eq_some_iff {p q : Phase} :
    p.concern? = some q ↔ p.concerns = true ∧ p = q := by
  unfold concern?
  split <;> simp [*]

variable {n : Nat} {s s' : Sockets}

/-- A request that is submitted on the identified socket, with a token of it. -/
theorem submit_apart (s : Sockets) (now : Nat) {k token : SocketKind} (hk : k ≠ .unidentified)
    (htoken : token ≠ .unidentified) (r : Request) :
    (submit s now k token r).2.unidentified = s.unidentified := by
  cases k with
  | unidentified => exact absurd rfl hk
  | identified =>
    cases token with
    | unidentified => exact absurd rfl htoken
    | identified =>
      unfold submit
      dsimp only
      split <;> rfl

/-- After its request was submitted on the identified socket a call does nothing to the other. -/
theorem submit_concerns (s : Sockets) (now : Nat) {k : SocketKind} (hk : k ≠ .unidentified)
    (token : SocketKind) (r : Request) : (submit s now k token r).1.concerns = false := by
  unfold submit
  dsimp only
  split
  · rfl
  · simpa [Phase.concerns] using hk

/-- On the identified socket nothing but the token can be of the other one. -/
theorem submit_identified (s : Sockets) (now : Nat) (token : SocketKind) (r : Request) :
    (submit s now .identified token r).2.unidentified =
      (s.modify token Connection.release).unidentified := by
  unfold submit
  dsimp only
  cases token <;> split <;> rfl

/-- **A request that is submitted** does the same to sockets that mirror each other. -/
theorem submit_mirrors (h : s.Mirrors n s') (now : Nat) (k token : SocketKind) (r : Request) :
    (submit s now k token r).2.Mirrors n (submit s' now k token r).2 ∧
      (submit s now k token r).1.concern? = (submit s' now k token r).1.concern? := by
  cases k with
  | identified =>
    have happart := fun s => submit_concerns s now (k := .identified) nofun token r
    refine ⟨?_, ?_⟩
    · rw [Sockets.Mirrors, submit_identified, submit_identified]
      exact h.modify token (f := Connection.release) fun _ => rfl
    · rw [Phase.concern?_of_apart (happart s), Phase.concern?_of_apart (happart s')]
  | unidentified =>
    have hget := h.get
    have hid : (s'.get .unidentified).register.1 = (s.get .unidentified).register.1 := by
      rw [hget]
      rfl
    have hmirrors : (handedOver s .unidentified token).Mirrors n
        (handedOver s' .unidentified token) := by
      refine Mirrors.modify (h.set .unidentified fun _ => ?_) token (f := Connection.release)
        fun _ => rfl
      rw [hget]
      rfl
    rw [submit_eq, submit_eq, hid, hmirrors.get, Connection.send?, Connection.send?,
      Connection.outbox_relabel]
    cases ((handedOver s .unidentified token).get .unidentified).outbox with
    | none =>
      refine ⟨hmirrors.set .unidentified fun _ => ?_, rfl⟩
      exact Connection.withdraw_relabel ..
    | some queue =>
      refine ⟨hmirrors.set .unidentified fun _ => ?_, rfl⟩
      rfl

/-- A shutdown that has begun only waits. -/
theorem begin_shutdown_concerns (s : Sockets) (stores : Stores) (now : Nat)
    (ks : List SocketKind) : (begin s stores now (.shutdown ks)).1.concerns = false := by
  unfold begin
  dsimp only
  split <;> rfl

/-- A call whose first step can do nothing to the unidentified socket. -/
theorem begin_apart {goal : Goal} (h : (Phase.fresh goal).concerns = false) (s : Sockets)
    (stores : Stores) (now : Nat) :
    (begin s stores now goal).2.unidentified = s.unidentified ∧
      (begin s stores now goal).1.concerns = false := by
  cases goal with
  | request r =>
    have hr : r.route ≠ .unidentified := by simpa [Phase.concerns] using h
    have hacquired := s.unidentified_modify hr Connection.acquire
    unfold begin
    dsimp only
    split
    · exact ⟨hacquired, by simpa [Phase.concerns] using hr⟩
    · exact ⟨(submit_apart _ now hr hr r).trans hacquired, submit_concerns _ now hr r.route r⟩
  | submit k token r =>
    have hk : k ≠ .unidentified ∧ token ≠ .unidentified := by simpa [Phase.concerns] using h
    exact ⟨submit_apart s now hk.1 hk.2 r, submit_concerns s now hk.1 token r⟩
  | opening | openWithin | state =>
    unfold begin
    dsimp only
    split <;> exact ⟨rfl, rfl⟩
  | shutdown ks =>
    have hks : SocketKind.unidentified ∉ ks := by simpa [Phase.concerns] using h
    refine ⟨?_, ?_⟩
    · rw [begin_shutdown]
      exact unidentified_foldl ks hks _ s
    · exact begin_shutdown_concerns s stores now ks

/-- **A call that can do nothing to the unidentified socket** does nothing to it, ever. -/
theorem step_apart {p : Phase} (h : p.concerns = false) (s : Sockets) (stores : Stores)
    (now : Nat) :
    (step s stores now p).2.unidentified = s.unidentified ∧
      (step s stores now p).1.concerns = false := by
  cases p with
  | fresh goal => exact begin_apart h s stores now
  | holding k r limit =>
    have hk : k ≠ .unidentified := by simpa [Phase.concerns] using h
    unfold step
    dsimp only
    split
    · exact ⟨submit_apart s now hk hk r, submit_concerns s now hk k r⟩
    · exact ⟨rfl, h⟩
  | submitted k id path timeout deadline =>
    have hk : k ≠ .unidentified := by simpa [Phase.concerns] using h
    have hwithdraw := s.unidentified_modify hk (·.withdraw id)
    unfold step
    dsimp only
    split
    · exact ⟨hwithdraw, rfl⟩
    · split
      · exact ⟨hwithdraw, rfl⟩
      · exact ⟨rfl, h⟩
  | opening | openWithin | state | shutdown =>
    unfold step
    dsimp only
    split <;> exact ⟨rfl, rfl⟩
  | done | abandoned => exact ⟨rfl, rfl⟩

theorem cancel_apart {p : Phase} (h : p.concerns = false) (s : Sockets) :
    (cancel s p).2.unidentified = s.unidentified ∧ (cancel s p).1.concerns = false := by
  cases p with
  | fresh goal =>
    cases goal with
    | submit k token r =>
      have hk : k ≠ .unidentified ∧ token ≠ .unidentified := by simpa [Phase.concerns] using h
      exact ⟨s.unidentified_modify hk.2 Connection.release, rfl⟩
    | _ => exact ⟨rfl, rfl⟩
  | holding k r limit =>
    have hk : k ≠ .unidentified := by simpa [Phase.concerns] using h
    exact ⟨s.unidentified_modify hk Connection.release, rfl⟩
  | submitted k id path timeout deadline =>
    have hk : k ≠ .unidentified := by simpa [Phase.concerns] using h
    exact ⟨s.unidentified_modify hk (·.withdraw id), rfl⟩
  | _ => exact ⟨rfl, rfl⟩

section

variable {stores stores' : Stores} (now : Nat)

/-- The first step of a call that can do something to the unidentified socket. -/
theorem begin_mirrors (h : s.Mirrors n s') {goal : Goal}
    (hgoal : (Phase.fresh goal).concerns = true)
    (hforbids : stores'.forbids s.unidentified.policy.socket =
      stores.forbids s.unidentified.policy.socket) :
    (begin s stores now goal).2.Mirrors n (begin s' stores' now goal).2 ∧
      (begin s stores now goal).1.concern? = (begin s' stores' now goal).1.concern? := by
  cases goal with
  | request r =>
    have hr : r.route = .unidentified := by simpa [Phase.concerns] using hgoal
    have hacquired := h.modify r.route (f := Connection.acquire) fun _ => rfl
    let c := (s.modify r.route Connection.acquire).get r.route
    have hget : (s'.modify r.route Connection.acquire).get r.route = c.relabel n c.claimed := by
      simp only [c, hr] at hacquired ⊢
      exact hacquired.get
    have hwanted : (c.relabel n c.claimed).wanted stores' now = c.wanted stores now := by
      refine Connection.wanted_relabel now n _ _ ?_
      simp only [c, hr]
      exact hforbids
    have hmust : ∀ limit,
        mustWait ((s'.modify r.route Connection.acquire).get r.route) stores' now limit =
          mustWait ((s.modify r.route Connection.acquire).get r.route) stores now limit := by
      intro limit
      rw [mustWait, hget, hwanted]
      rfl
    have hconfig : ((s'.modify r.route Connection.acquire).get r.route).config = c.config := by
      rw [hget]
      rfl
    unfold begin
    dsimp only
    rw [hmust, hconfig]
    split
    · exact ⟨hacquired, rfl⟩
    · exact submit_mirrors hacquired now r.route r.route r
  | submit k token r => exact submit_mirrors h now k token r
  | opening | state | openWithin => cases hgoal
  | shutdown ks =>
    refine ⟨?_, ?_⟩
    · rw [begin_shutdown, begin_shutdown]
      exact h.foldl_modify ks fun _ => rfl
    · rw [Phase.concern?_of_apart (begin_shutdown_concerns ..),
        Phase.concern?_of_apart (begin_shutdown_concerns ..)]

/-- **A call that can do something to the unidentified socket** does the same to sockets that mirror
each other. -/
theorem step_mirrors (h : s.Mirrors n s') {p : Phase} (hp : p.concerns = true)
    (hforbids : stores'.forbids s.unidentified.policy.socket =
      stores.forbids s.unidentified.policy.socket) :
    (step s stores now p).2.Mirrors n (step s' stores' now p).2 ∧
      (step s stores now p).1.concern? = (step s' stores' now p).1.concern? := by
  have hget : s'.get .unidentified = _ := h
  have hwithdraw : ∀ id, (s.modify .unidentified (·.withdraw id)).Mirrors n
      (s'.modify .unidentified (·.withdraw id)) :=
    fun id => h.modify .unidentified fun c => c.withdraw_relabel id n
  cases p with
  | fresh goal => exact begin_mirrors now h hp hforbids
  | holding k r limit =>
    obtain rfl : k = .unidentified := by simpa [Phase.concerns] using hp
    unfold step
    dsimp only
    rw [hget, show openOrShut (s.unidentified.relabel n s.unidentified.claimed) =
      openOrShut (s.get .unidentified) from rfl]
    by_cases hready : (openOrShut (s.get .unidentified) || decide (limit ≤ now)) = true
    · rw [if_pos hready, if_pos hready]
      exact submit_mirrors h now .unidentified .unidentified r
    · rw [if_neg hready, if_neg hready]
      exact ⟨h, rfl⟩
  | submitted k id path timeout deadline =>
    obtain rfl : k = .unidentified := by simpa [Phase.concerns] using hp
    unfold step
    dsimp only
    rw [hget, show (s.unidentified.relabel n s.unidentified.claimed).replies =
      (s.get .unidentified).replies from rfl]
    cases (s.get .unidentified).replies.get? id with
    | some outcome => exact ⟨hwithdraw id, rfl⟩
    | none =>
      dsimp only
      by_cases hlate : deadline ≤ now
      · rw [if_pos hlate, if_pos hlate]
        exact ⟨hwithdraw id, rfl⟩
      · rw [if_neg hlate, if_neg hlate]
        exact ⟨h, rfl⟩
  | opening | openWithin | state | shutdown | done | abandoned => cases hp

end

/-- So does a call that is abandoned. -/
theorem cancel_mirrors (h : s.Mirrors n s') (p : Phase) :
    (cancel s p).2.Mirrors n (cancel s' p).2 ∧
      (cancel s p).1.concern? = (cancel s' p).1.concern? := by
  cases p with
  | fresh goal =>
    cases goal with
    | submit k token r => exact ⟨h.modify token fun _ => rfl, rfl⟩
    | _ => exact ⟨h, rfl⟩
  | holding k r limit => exact ⟨h.modify k fun _ => rfl, rfl⟩
  | submitted k id path timeout deadline =>
    exact ⟨h.modify k fun c => c.withdraw_relabel id n, rfl⟩
  | _ => exact ⟨h, rfl⟩

end Call

end ChatSockets
