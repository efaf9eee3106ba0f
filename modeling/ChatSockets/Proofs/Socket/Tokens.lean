import ChatSockets.Proofs.Socket.Calls
import ChatSockets.Proofs.Socket.Vigilance

/-!
# The tokens of a call

A token says that a request is about to be submitted, and keeps its socket wanted until then. A call
for a request takes one before it waits for the socket, or it was made with one, and gives it back
once the request is registered or the call is abandoned. So a step of a call changes the number of
tokens of a socket by as much as the call itself has more of them, or fewer (`Call.step_tokens`,
`Call.cancel_tokens`). In the midst of a step, when the request is registered and the token is given
back, there is a reason for the socket at every moment (`Call.wanted_of_moments`).
-/

namespace ChatSockets

namespace Connection

/-- Nothing but the want of a reason keeps a socket from being open: it is not shut down, and the
stores do not forbid it. -/
def Allowed (c : Connection) (stores : Stores) : Prop :=
  c.policy.shutDown = false ∧ stores.forbids c.policy.socket = false

/-- A token or a request that waits is reason enough. -/
theorem wanted_iff_allowed (c : Connection) (stores : Stores) (now : Nat)
    (h : 0 < c.policy.tokens ∨ 0 < c.pending.size) :
    c.wanted stores now = true ↔ c.Allowed stores := by
  have hreason : c.policy.appActive = true ∨ 0 < c.policy.tokens ∨ 0 < c.pending.size ∨
      ∃ t, c.policy.pushDeadline? now = some t := .inr (h.imp_right .inl)
  refine (c.policy.wants_iff stores now c.pending.size).trans ⟨fun h => ⟨h.1, h.2.1⟩, fun h => ?_⟩
  exact ⟨h.1, h.2, hreason⟩

/-- What a keeper overlooks that has counted the requests that wait, and is about to look at the
other reasons for its open socket: all of those that wait have begun to since, and gave their tokens
back, and there is no other reason. -/
structure Overlooks (c : Connection) (counted now : Nat) : Prop where
  counted : counted = 0
  waits : 0 < c.pending.size
  tokens : c.policy.tokens = 0
  inactive : c.policy.appActive = false
  push : c.policy.pushDeadline? now = none

/-- **A keeper finds that a socket is wanted** which is, unless it overlooks that. -/
theorem wantedBy_iff_of_wanted {c : Connection} {stores : Stores} {now : Nat}
    (h : c.wanted stores now = true) (counted : Nat) :
    c.wantedBy counted stores now = true ↔ ¬ c.Overlooks counted now := by
  obtain ⟨hshut, hforbids, hreason⟩ := (c.policy.wants_iff stores now c.pending.size).1 h
  refine (c.policy.wants_iff stores now counted).trans
    ⟨fun hfound hover => ?_, fun hno => ⟨hshut, hforbids, ?_⟩⟩
  · obtain ⟨-, -, hseen⟩ := hfound
    simp [hover.counted, hover.tokens, hover.inactive, hover.push] at hseen
  · by_contra hnone
    simp only [not_or, Bool.not_eq_true, Nat.not_lt, Nat.le_zero, not_exists] at hnone
    obtain ⟨hinactive, htokens, hcounted, hpush⟩ := hnone
    have hwaits : 0 < c.pending.size := by simpa [hinactive, htokens, hpush] using hreason
    exact hno ⟨hcounted, hwaits, htokens, hinactive, Option.eq_none_iff_forall_ne_some.2 hpush⟩

theorem tokens_withdraw (c : Connection) (id : UInt64) :
    (c.withdraw id).policy.tokens = c.policy.tokens := by
  unfold withdraw
  split <;> rfl

/-- Only two operations of the application have to do with tokens. -/
theorem tokens_perform (c : Connection) {op : Operation} (hacquire : op ≠ .acquire)
    (hrelease : op ≠ .release) : (c.perform op).policy.tokens = c.policy.tokens := by
  cases op with
  | acquire => exact absurd rfl hacquire
  | release => exact absurd rfl hrelease
  | withdraw id => exact c.tokens_withdraw id
  | send r id =>
    unfold perform send?
    dsimp only
    cases c.outbox <;> rfl
  | setActive active =>
    unfold perform setActive withPolicy Policy.setActive
    dsimp only
    split <;> rfl
  | push now =>
    unfold perform push withPolicy Policy.extendPush
    dsimp only
    cases c.policy.pushUntil with
    | none => rfl
    | some t => dsimp only; split <;> rfl
  | cycle | shutDown | register => rfl

end Connection

namespace Sockets

variable {s : Sockets} {k j : SocketKind}

/-- A change that leaves the number of tokens as it is, on some sockets. -/
theorem tokens_modify {f : Connection → Connection}
    (hf : ∀ c, (f c).policy.tokens = c.policy.tokens) (s : Sockets) (k j : SocketKind) :
    ((s.modify k f).get j).policy.tokens = (s.get j).policy.tokens := by
  rw [get_modify]
  split
  · exact hf _
  · rfl

theorem tokens_foldl_modify {f : Connection → Connection}
    (hf : ∀ c, (f c).policy.tokens = c.policy.tokens) (ks : List SocketKind) (s : Sockets)
    (j : SocketKind) :
    ((ks.foldl (fun s k => s.modify k f) s).get j).policy.tokens = (s.get j).policy.tokens := by
  induction ks generalizing s with
  | nil => rfl
  | cons k ks ih => exact (ih (s.modify k f)).trans (tokens_modify hf s k j)

theorem tokens_set {c : Connection} (hc : c.policy.tokens = (s.get k).policy.tokens) :
    ((s.set k c).get j).policy.tokens = (s.get j).policy.tokens := by
  rw [get_set]
  split
  · next heq => rw [hc, heq]
  · rfl

theorem tokens_acquire (s : Sockets) (k j : SocketKind) :
    ((s.modify k Connection.acquire).get j).policy.tokens =
      (s.get j).policy.tokens + if k = j then 1 else 0 := by
  rw [get_modify]
  by_cases heq : j = k
  · rw [if_pos heq, if_pos heq.symm]
    rfl
  · rw [if_neg heq, if_neg (Ne.symm heq)]
    rfl

theorem tokens_release (s : Sockets) (k j : SocketKind) :
    ((s.modify k Connection.release).get j).policy.tokens =
      (s.get j).policy.tokens - if k = j then 1 else 0 := by
  rw [get_modify]
  by_cases heq : j = k
  · rw [if_pos heq, if_pos heq.symm]
    rfl
  · rw [if_neg heq, if_neg (Ne.symm heq)]
    rfl

end Sockets

namespace Call

open Sockets

/-- How many tokens of a socket a call holds: one or none. -/
def Phase.tokens (k : SocketKind) : Phase → Nat
  | .fresh (.submit _ token _) => if token = k then 1 else 0
  | .holding socket _ _ => if socket = k then 1 else 0
  | _ => 0

theorem Phase.ite_tokens (k : SocketKind) (p : Phase) :
    (if decide (p.tokens k = 1) = true then 1 else 0) = p.tokens k := by
  cases p with
  | fresh goal =>
    cases goal with
    | submit socket token r => by_cases heq : token = k <;> simp [tokens, heq]
    | _ => rfl
  | holding socket r limit => by_cases heq : socket = k <;> simp [tokens, heq]
  | _ => rfl

/-- Whether a call has ended or is abandoned. -/
def Phase.isOver : Phase → Bool
  | .done _ | .abandoned => true
  | _ => false

variable {s : Sockets} {p : Phase} {k : SocketKind}

/-- A request that is submitted gives back one token, and the call holds none after it. -/
theorem submit_tokens (s : Sockets) (now : Nat) (socket token : SocketKind) (r : Request)
    (k : SocketKind) :
    ((submit s now socket token r).2.get k).policy.tokens =
        (s.get k).policy.tokens - (if token = k then 1 else 0) ∧
      (submit s now socket token r).1.tokens k = 0 := by
  have hover : ((handedOver s socket token).get k).policy.tokens =
      (s.get k).policy.tokens - if token = k then 1 else 0 := by
    rw [handedOver, tokens_release, registered, tokens_set]
    rfl
  rw [submit_eq]
  cases hsend : ((handedOver s socket token).get socket).send?
      (.ofRequest (r.toWire (s.get socket).register.1)) with
  | none => exact ⟨(tokens_set (Connection.tokens_withdraw _ _)).trans hover, rfl⟩
  | some c =>
    have hc : c.policy.tokens = ((handedOver s socket token).get socket).policy.tokens := by
      obtain ⟨queue, -, rfl⟩ := Option.map_eq_some_iff.1 hsend
      rfl
    exact ⟨(tokens_set hc).trans hover, rfl⟩

/-- **A step of a call** changes the number of tokens by as much as the call has more of them. -/
theorem step_tokens (hle : p.tokens k ≤ (s.get k).policy.tokens) (stores : Stores) (now : Nat) :
    ((step s stores now p).2.get k).policy.tokens + p.tokens k =
      (s.get k).policy.tokens + (step s stores now p).1.tokens k := by
  cases p with
  | fresh goal =>
    cases goal with
    | request r =>
      have hacquired := s.tokens_acquire r.route k
      unfold step begin
      dsimp only
      split
      · exact hacquired
      · obtain ⟨hcount, hnone⟩ := submit_tokens (s.modify r.route Connection.acquire) now r.route
          r.route r k
        rw [hcount, hnone, hacquired, Nat.add_sub_cancel]
        rfl
    | submit socket token r =>
      obtain ⟨hcount, hnone⟩ := submit_tokens s now socket token r k
      show ((submit s now socket token r).2.get k).policy.tokens + _ = _
      rw [hcount, show (step s stores now (.fresh (.submit socket token r))).1.tokens k = 0
        from hnone]
      exact Nat.sub_add_cancel hle
    | opening | openWithin | state =>
      unfold step begin
      dsimp only
      split <;> rfl
    | shutdown ks =>
      have hsame := tokens_foldl_modify (f := fun c => { c with claimed := true }.shutDown)
        (fun _ => rfl) ks s k
      unfold step begin
      dsimp only
      split <;> exact hsame
  | holding socket r limit =>
    unfold step
    dsimp only
    split
    · obtain ⟨hcount, hnone⟩ := submit_tokens s now socket socket r k
      rw [hcount, hnone]
      exact Nat.sub_add_cancel hle
    · rfl
  | submitted socket id path timeout deadline =>
    have hwithdrawn := tokens_modify (fun c => c.tokens_withdraw id) s socket k
    unfold step
    dsimp only
    split
    · exact hwithdrawn
    · split
      · exact hwithdrawn
      · rfl
  | opening | openWithin | state | shutdown =>
    unfold step
    dsimp only
    split <;> rfl
  | done | abandoned => rfl

/-- So does a call that is abandoned. -/
theorem cancel_tokens (hle : p.tokens k ≤ (s.get k).policy.tokens) :
    ((cancel s p).2.get k).policy.tokens + p.tokens k =
      (s.get k).policy.tokens + (cancel s p).1.tokens k := by
  cases p with
  | fresh goal =>
    cases goal with
    | submit socket token r =>
      show ((s.modify token Connection.release).get k).policy.tokens + _ = _
      rw [tokens_release]
      exact Nat.sub_add_cancel hle
    | _ => rfl
  | holding socket r limit =>
    show ((s.modify socket Connection.release).get k).policy.tokens + _ = _
    rw [tokens_release]
    exact Nat.sub_add_cancel hle
  | submitted socket id path timeout deadline =>
    exact tokens_modify (fun c => c.tokens_withdraw id) s socket k
  | _ => rfl

/-! ## In the midst of a step -/

/-- What a step of a call for a request passes on its way to submit the request: the token is there,
the request is registered, and the token is given back. -/
def moments (s : Sockets) : Phase → List Sockets
  | .fresh (.request r) =>
    let s := s.modify r.route Connection.acquire
    [s, registered s r.route, handedOver s r.route r.route]
  | .holding socket _ _ => [s, registered s socket, handedOver s socket socket]
  | _ => []

/-- **A step that submits the request** of a call passes these moments, unless the call was made
with a token. -/
theorem step_of_moments {stores : Stores} {now : Nat} {r : Request} (hsome : moments s p ≠ [])
    (hsubmits : submits? s stores now p = some (k, r)) : ∃ s₀,
      moments s p = [s₀, registered s₀ k, handedOver s₀ k k] ∧
        step s stores now p = submit s₀ now k k r := by
  cases p with
  | fresh goal =>
    cases goal with
    | request r' =>
      let c := (s.modify r'.route Connection.acquire).get r'.route
      by_cases hmust : mustWait c stores now (now + c.config.openWait) = true
      · cases (if_pos hmust).symm.trans hsubmits
      · cases (if_neg hmust).symm.trans hsubmits
        exact ⟨s.modify r.route Connection.acquire, rfl, if_neg hmust⟩
    | _ => exact absurd rfl hsome
  | holding socket r' limit =>
    by_cases hready : (openOrShut (s.get socket) || decide (limit ≤ now)) = true
    · cases (if_pos hready).symm.trans hsubmits
      exact ⟨s, rfl, if_pos hready⟩
    · cases (if_neg hready).symm.trans hsubmits
  | _ => exact absurd rfl hsome

theorem pending_register (c : Connection) : 0 < c.register.2.pending.size := by
  show 0 < ((c.pending.receivers.erase _).entries ++ [_]).length
  rw [List.length_append]
  exact Nat.succ_pos _

/-- While a request is registered and its token is given back there is a reason for the socket. -/
theorem wanted_of_handedOver (h : 0 < (s.get k).policy.tokens) {s' : Sockets}
    (hs' : s' ∈ [s, registered s k, handedOver s k k]) (stores : Stores) (now : Nat) :
    (s'.get k).wanted stores now = true ↔ (s.get k).Allowed stores := by
  have hregistered : (registered s k).get k = (s.get k).register.2 :=
    (get_registered s k k).trans (if_pos rfl)
  have hover : (handedOver s k k).get k = (s.get k).register.2.release := by
    rw [handedOver, get_modify, if_pos rfl, hregistered]
  have hpending := pending_register (s.get k)
  simp only [List.mem_cons, List.not_mem_nil, or_false] at hs'
  rcases hs' with rfl | rfl | rfl
  · exact (s'.get k).wanted_iff_allowed stores now (.inl h)
  · rw [hregistered]
    exact (s.get k).register.2.wanted_iff_allowed stores now (.inr hpending)
  · rw [hover]
    exact (s.get k).register.2.release.wanted_iff_allowed stores now (.inr hpending)

/-- **At none of these moments** the socket lacks a reason to be open. -/
theorem wanted_of_moments {r : Request} (hasks : p.asks? = some (k, r))
    (hle : p.tokens k ≤ (s.get k).policy.tokens) {s' : Sockets} (hs' : s' ∈ moments s p)
    (stores : Stores) (now : Nat) :
    (s'.get k).wanted stores now = true ↔ (s.get k).Allowed stores := by
  cases p with
  | fresh goal =>
    cases goal with
    | request r' =>
      cases hasks
      have hacquired := s.tokens_acquire r.route r.route
      rw [if_pos rfl] at hacquired
      refine (wanted_of_handedOver (hacquired ▸ Nat.succ_pos _) hs' stores now).trans ?_
      rw [get_modify, if_pos rfl]
      rfl
    | _ => cases hs'
  | holding socket r' limit =>
    cases hasks
    exact wanted_of_handedOver (Nat.lt_of_lt_of_le (by simp [Phase.tokens]) hle) hs' stores now
  | _ => cases hs'

end Call

end ChatSockets
