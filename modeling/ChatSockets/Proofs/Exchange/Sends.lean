import ChatSockets.Proofs.Exchange.Invariant

/-!
# A message is sent at most once, and the answer is true

A call that sends a message may fail at any point: before its request is written, while it is half
written, after the server has executed it, or because the answer got lost. Yet its request is
executed at most once (`Inv.executions_spec`), in the order of the calls on the same socket
(`Inv.callsOn_sublist`), and whenever the call ends with an answer or without a socket, it tells
what became of the message (`Inv.tells`). The main statement is `sends_once_and_answers_truly`;
together with `mailbox_make` it says which of the messages in a mailbox a call has put there. It
holds for the first `2 ^ 64` ids of a socket, after which an id comes again.
-/

namespace ChatSockets

open Wire Keeper

namespace Application

/-- The request that a call was made for, with the socket for it. -/
def asked? (a : Application) (j : Nat) : Option (SocketKind × Request) :=
  a.callers[j]?.bind fun c => c.goal.asks?

/-- The result of a call that has ended. -/
def result? (a : Application) (j : Nat) : Option CallResult :=
  a.callers[j]?.bind fun c =>
    match c.phase with
    | .done result => some result
    | _ => none

/-- The requests that calls submitted on a link, in the order in which they did. -/
def submittedOn (a : Application) (k : SocketKind) (n : Nat) : List Wire.Request :=
  ((a.records k).issued.filter fun i => i.caller?.isSome ∧ i.link? = some n).map Issue.request

theorem asked?_eq_some_iff {a : Application} {j : Nat} {x : SocketKind × Request} :
    a.asked? j = some x ↔ ∃ c, a.callers[j]? = some c ∧ c.goal.asks? = some x :=
  Option.bind_eq_some_iff

theorem result?_eq_some_iff {a : Application} {j : Nat} {result : CallResult} :
    a.result? j = some result ↔ ∃ c, a.callers[j]? = some c ∧ c.phase = .done result := by
  refine Option.bind_eq_some_iff.trans (exists_congr fun c => and_congr_right fun _ => ?_)
  split <;> simp_all

theorem result?_of_answer? {a : Application} {j : Nat} {r : Response} (h : a.answer? j = some r) :
    a.result? j = some (.ok (.response r)) := by
  rw [answer?] at h
  split at h
  · next hdone =>
    obtain ⟨c, hc, hphase⟩ := Option.map_eq_some_iff.1 hdone
    obtain rfl := Option.some.inj h
    exact result?_eq_some_iff.2 ⟨c, hc, hphase⟩
  · cases h

end Application

namespace Exchange

/-- The requests of calls that were executed on a link, in the order in which they were. -/
def callsOn (x : Exchange) (k : SocketKind) (n : Nat) : List Wire.Request :=
  (requestsOn x.executed n).filter fun q => (x.app.submittedOn k n).any (·.id = q.id)

variable {x x' : Exchange} {k : SocketKind} {i : Issue} {j : Nat} {e : Execution}

/-! ## What is executed was written -/

/-- What was executed on a socket of the application was said on it. -/
theorem Inv.requestsOn_sublist (h : x.Inv) {n : Nat} (howns : x.Owns k n) :
    (requestsOn x.executed n).Sublist (requestsOf ((x.app.records k).saidOn n)) := by
  obtain ⟨v, hv, howner⟩ := howns
  obtain ⟨ms, hms, -⟩ := (h.tied k n v hv howner).order
  exact (List.sublist_append_left _ _).trans hms

theorem Inv.said_of_executed (h : x.Inv) (he : e ∈ x.executed) (howns : x.Owns k e.visit) :
    ∃ s ∈ (x.app.records k).said, s.link = e.visit ∧ s.message.request = some e.request := by
  have hmem : e.request ∈ requestsOn x.executed e.visit :=
    List.mem_map.2 ⟨e, List.mem_filter.2 ⟨he, by simp⟩, rfl⟩
  obtain ⟨m, hm, hrequest⟩ := List.mem_filterMap.1 ((h.requestsOn_sublist howns).subset hmem)
  obtain ⟨s, hs, rfl⟩ := List.mem_map.1 hm
  obtain ⟨hs, hlink⟩ := List.mem_filter.1 hs
  exact ⟨s, hs, by simpa using hlink, hrequest⟩

section

variable (h : x.Inv) (ha : x.app.Inv) (hfits : x.app.Fits)
include h ha hfits

/-- **Whatever is executed on a socket of the application** is a request that it issued, and one of
a call is executed on the link on which it was submitted. -/
theorem Inv.issued_of_executed (he : e ∈ x.executed) (howns : x.Owns k e.visit) :
    ∃ i ∈ (x.app.records k).issued, i.request = e.request ∧
      (i.caller?.isSome = true → i.link? = some e.visit) := by
  obtain ⟨s, hs, hlink, hrequest⟩ := h.said_of_executed he howns
  obtain ⟨i, hi, hsame⟩ := (ha.sound.record k).issued_of_said hs hrequest
  refine ⟨i, hi, hsame, fun hcaller => ?_⟩
  have hbears : s.bears i.id = true :=
    Said.bears_iff.2 ⟨e.request, hrequest, by rw [Issue.id, hsame]⟩
  exact hlink ▸ (((ha.sound.record k).writes (hfits k) hi hcaller).same s hs hbears).2

/-- What is executed under the id of a call's request, on its link, is this request. -/
theorem Inv.request_eq (he : e ∈ x.executed) (hi : i ∈ (x.app.records k).issued)
    (hcaller : i.caller?.isSome = true) (hlink : i.link? = some e.visit)
    (hid : i.id = e.request.id) : e.request = i.request := by
  obtain ⟨s, hs, -, hrequest⟩ := h.said_of_executed he (h.issued k i hi e.visit hlink)
  have hbears : s.bears i.id = true := Said.bears_iff.2 ⟨e.request, hrequest, hid.symm⟩
  have hsame := (((ha.sound.record k).writes (hfits k) hi hcaller).same s hs hbears).1
  rw [hsame] at hrequest
  exact (Option.some.inj hrequest).symm

/-- **The request of a call is executed at most once** on its link. -/
theorem Inv.countP_executed_le_one (hi : i ∈ (x.app.records k).issued)
    (hcaller : i.caller?.isSome = true) :
    (x.executed.countP fun e => i.link? = some e.visit ∧ i.id = e.request.id) ≤ 1 := by
  cases hlink : i.link? with
  | none => simp
  | some n =>
    calc x.executed.countP (fun e => some n = some e.visit ∧ i.id = e.request.id)
        = (requestsOn x.executed n).countP fun q => i.id = q.id := by
          rw [requestsOn, List.countP_map, List.countP_filter]
          refine List.countP_congr fun e _ => ?_
          simp only [Function.comp_apply, Bool.and_eq_true, decide_eq_true_eq, Option.some.injEq]
          exact and_comm.trans (and_congr_right fun _ => eq_comm)
      _ ≤ (requestsOf ((x.app.records k).saidOn n)).countP fun q => i.id = q.id :=
          (h.requestsOn_sublist (h.issued k i hi n hlink)).countP_le
      _ ≤ (x.app.records k).said.countP (·.bears i.id) := by
          rw [requestsOf, List.countP_filterMap, Record.saidOn, List.countP_map, List.countP_filter]
          refine List.countP_mono_left fun s _ hs => ?_
          cases hq : s.message.request with
          | none => simp [hq] at hs
          | some q =>
            have hid : i.id = q.id ∧ s.link = n := by simpa [hq] using hs
            exact Said.bears_iff.2 ⟨q, hq, hid.1.symm⟩
      _ ≤ 1 := ((ha.sound.record k).writes (hfits k) hi hcaller).once

end

/-! ## The executions of a call -/

/-- The executions of a call are those of the one request that it submitted. -/
theorem executions_eq (ha : x.app.Inv) (hi : i ∈ (x.app.records k).issued)
    (hcaller : i.caller? = some j) : x.executions j =
      x.executed.filter fun e => i.link? = some e.visit ∧ i.id = e.request.id := by
  refine List.filter_congr fun e _ => Bool.eq_iff_iff.2 ?_
  rw [isOf_iff, decide_eq_true_eq]
  constructor
  · rintro ⟨k', i', hi', hcaller', hrest⟩
    obtain ⟨-, rfl⟩ := ha.once k' k i' i j hi' hcaller' hi hcaller
    exact hrest
  · exact fun hrest => ⟨k, i, hi, hcaller, hrest⟩

/-- A call whose request was submitted without a socket has no executions. -/
theorem executions_of_unlinked (ha : x.app.Inv) (hi : i ∈ (x.app.records k).issued)
    (hcaller : i.caller? = some j) (hlink : i.link? = none) : x.executions j = [] := by
  rw [executions_eq ha hi hcaller, List.filter_eq_nil_iff]
  simp [hlink]

/-- **The request of a call is executed at most once**, as it was submitted. -/
theorem Inv.executions_spec (h : x.Inv) (ha : x.app.Inv) (hfits : x.app.Fits) (j : Nat) :
    (x.executions j).length ≤ 1 ∧ ∀ e ∈ x.executions j, e ∈ x.executed ∧
      ∃ k r, x.app.asked? j = some (k, r) ∧ e.request = r.toWire e.request.id := by
  constructor
  · by_cases hany : x.executions j = []
    · rw [hany]
      exact Nat.zero_le _
    · obtain ⟨e, he⟩ := List.exists_mem_of_ne_nil _ hany
      obtain ⟨-, k, i, hi, hcaller, -⟩ := (x.mem_executions_iff j e).1 he
      rw [executions_eq ha hi hcaller, ← List.countP_eq_length_filter]
      exact h.countP_executed_le_one ha hfits hi (by rw [hcaller]; rfl)
  · intro e he
    obtain ⟨he, k, i, hi, hcaller, hlink, hid⟩ := (x.mem_executions_iff j e).1 he
    obtain ⟨c, r, hc, hasks, hrequest, -⟩ := ha.issued k i j hi hcaller
    refine ⟨he, k, r, Application.asked?_eq_some_iff.2 ⟨c, hc, hasks⟩, ?_⟩
    rw [← hid, ← hrequest]
    exact h.request_eq ha hfits he hi (by rw [hcaller]; rfl) hlink hid

/-- A response that decides a request was given to it. -/
theorem Inv.executed_of_decides (h : x.Inv) {p : Nat} {w : Wire.Response}
    (hdecides : (x.app.records k).Decides i p w) :
    ∃ e ∈ x.executed, i.link? = some e.visit ∧ i.id = e.request.id ∧ e.response = w := by
  obtain ⟨heard, hp, ⟨hlink, -, w', hw', hid⟩, hw⟩ := hdecides.answers
  obtain rfl := Option.some.inj (hw'.symm.trans hw)
  obtain ⟨e, he, hvisit, rfl⟩ := h.heard k heard (List.mem_of_getElem? hp) w' hw
  exact ⟨e, he, hvisit ▸ hlink, hid.symm.trans (h.executed e he).2.id, rfl⟩

/-! ## What the result of a call tells -/

/-- What the result of a call that sends a message says is so. An answer that the request succeeded
says that the message has gone into the mailbox of its recipient, once. No socket, or an answer that
the request failed, says that it has not and never will. -/
def Tells (x x' : Exchange) (j : Nat) (recipient : String) (body : ByteArray) : CallResult → Prop
  | .ok (.response _) => ∃ e ∈ x.executed, x'.executions j = [e] ∧ e.Inserts recipient body
  | .error (.notConnected _) => ∀ e ∈ x'.executions j, e.InsertsNothing
  | .error (.serviceResponse ..) => ∀ e ∈ x'.executions j, e.InsertsNothing
  | _ => True

/-- A message of a call that is executed goes into the mailbox of its recipient if the answer says
so, and nowhere otherwise. -/
theorem Inv.sends (h : x.Inv) (ha : x.app.Inv) (hfits : x.app.Fits) {r : Request}
    {recipient : String} (hasked : x.app.asked? j = some (k, r)) (hverb : r.verb = "PUT")
    (hpath : r.path = Path.messagesTo ++ recipient) (he : e ∈ x.executions j) :
    e.response.isSuccess = true ∧ e.Inserts recipient r.body ∨
      e.response.isSuccess = false ∧ e.InsertsNothing := by
  obtain ⟨he, k', r', hasked', hrequest⟩ := (h.executions_spec ha hfits j).2 e he
  obtain ⟨-, rfl⟩ := Prod.mk.inj (Option.some.inj (hasked.symm.trans hasked'))
  have hverb' : e.request.verb = "PUT" := by
    rw [hrequest]
    exact hverb
  have hpath' : e.request.path = Path.messagesTo ++ recipient := by
    rw [hrequest]
    exact hpath
  have hbody : e.request.body = r.body := by
    rw [hrequest]
    rfl
  exact hbody ▸ (h.executed e he).2.sends hverb' hpath'

/-- **The result of a call is true**, now and later. -/
theorem Inv.tells (h : x.Inv) (ha : x.app.Inv) (h' : x'.Inv) (ha' : x'.app.Inv)
    (hfits : x'.app.Fits) (hgrown : x.app.Grown x'.app) (hexecuted : x.executed <+: x'.executed)
    {r : Request} {recipient : String} (hasked : x'.app.asked? j = some (k, r))
    (hverb : r.verb = "PUT") (hpath : r.path = Path.messagesTo ++ recipient) {result : CallResult}
    (hresult : x.app.result? j = some result) : x.Tells x' j recipient r.body result := by
  obtain ⟨c, hc, hdone⟩ := Application.result?_eq_some_iff.1 hresult
  have hends := ha.ended j c result hc hdone
  -- a response that decided the request was given to its only execution
  have hanswered : ∀ {k i p w}, i ∈ (x.app.records k).issued → i.caller? = some j →
      (x.app.records k).Decides i p w →
      ∃ e ∈ x.executed, e.response = w ∧ e ∈ x'.executions j ∧ x'.executions j = [e] := by
    intro k i p w hi hcaller hdecides
    obtain ⟨e, he, hlink, hid, hresponse⟩ := h.executed_of_decides hdecides
    have hmem : e ∈ x'.executions j := (x'.mem_executions_iff j e).2
      ⟨hexecuted.subset he, k, i, hgrown.mem hi, hcaller, hlink, hid⟩
    refine ⟨e, he, hresponse, hmem, ?_⟩
    obtain ⟨e', heq⟩ := List.length_eq_one_iff.1 (Nat.le_antisymm
      (h'.executions_spec ha' hfits j).1 (List.length_pos_of_mem hmem))
    rw [heq] at hmem ⊢
    rw [List.mem_singleton.1 hmem]
  cases result with
  | ok achieved =>
    cases achieved with
    | response =>
      obtain ⟨k, i, hi, hcaller, p, w, hdecides, hsuccess, -⟩ := hends
      obtain ⟨e, he, rfl, hmem, heq⟩ := hanswered hi hcaller hdecides
      refine ⟨e, he, heq, ?_⟩
      rcases h'.sends ha' hfits hasked hverb hpath hmem with ⟨-, hinserts⟩ | ⟨hfailed, -⟩
      · exact hinserts
      · rw [hsuccess] at hfailed
        cases hfailed
    | _ => trivial
  | error error =>
    cases error with
    | notConnected k =>
      obtain ⟨i, hi, hcaller, hlink⟩ := hends
      show ∀ e ∈ x'.executions j, e.InsertsNothing
      rw [executions_of_unlinked ha' (hgrown.mem hi) hcaller hlink]
      nofun
    | serviceResponse status message body =>
      obtain ⟨k, i, hi, hcaller, p, w, hdecides, hfailed, -⟩ := hends
      obtain ⟨e, he, rfl, hmem, heq⟩ := hanswered hi hcaller hdecides
      show ∀ e ∈ x'.executions j, e.InsertsNothing
      rw [heq]
      intro e' he'
      rw [List.mem_singleton.1 he']
      rcases h'.sends ha' hfits hasked hverb hpath hmem with ⟨hsuccess, -⟩ | ⟨-, hnothing⟩
      · rw [hfailed] at hsuccess
        cases hsuccess
      · exact hnothing
    | _ => trivial

/-! ## The order of calls -/

/-- The request in a message, if the message is for a link. -/
def onLink (n : Nat) (y : Nat × Message) : Option Wire.Request :=
  if y.1 = n then y.2.request else none

theorem submittedOn_eq (a : Application) (k : SocketKind) (n : Nat) :
    a.submittedOn k n = (a.records k).submitted.filterMap (onLink n) := by
  rw [Application.submittedOn, Record.submitted, List.filterMap_filterMap, ← List.filterMap_eq_map,
    List.filterMap_filter]
  refine List.filterMap_congr fun i _ => ?_
  cases i.caller? with
  | none => simp
  | some j =>
    cases i.link? with
    | none => simp
    | some m =>
      by_cases hm : m = n <;> simp [onLink, hm, Message.ofRequest]

/-- Among the requests that were written those of calls are told by their ids. -/
theorem submits_iff (ha : x.app.Inv) (hfits : x.app.Fits) {s : Said}
    (hs : s ∈ (x.app.records k).said) {q : Wire.Request} (hq : s.message.request = some q) :
    (x.app.submittedOn k s.link).any (·.id = q.id) = true ↔ s.purpose? = some .request := by
  have hrecord := ha.sound.record k
  rw [List.any_eq_true]
  constructor
  · rintro ⟨q', hq', hid⟩
    obtain ⟨i, hi, rfl⟩ := List.mem_map.1 hq'
    obtain ⟨hi, hsubmitted⟩ := List.mem_filter.1 hi
    have hcaller : i.caller?.isSome = true ∧ i.link? = some s.link := by simpa using hsubmitted
    exact (hrecord.said_of_bears (hfits k) hi hcaller.1 hs
      (Said.bears_iff.2 ⟨q, hq, (of_decide_eq_true hid).symm⟩)).1
  · intro hpurpose
    obtain ⟨i, hi, hcaller, hlink, hm⟩ := hrecord.submitted_of_said hs hpurpose
    rw [hm] at hq
    refine ⟨i.request,
      List.mem_map.2 ⟨i, List.mem_filter.2 ⟨hi, by simp [hcaller, hlink]⟩, rfl⟩, ?_⟩
    rw [Option.some.inj hq]
    exact decide_eq_true rfl

/-- **Calls on the same socket are executed in the order in which they were submitted.** -/
theorem Inv.callsOn_sublist (h : x.Inv) (ha : x.app.Inv) (hfits : x.app.Fits) (k : SocketKind)
    (n : Nat) : (x.callsOn k n).Sublist (x.app.submittedOn k n) := by
  by_cases howns : x.Owns k n
  · have hspoken : (requestsOf ((x.app.records k).saidOn n)).filter
          (fun q => (x.app.submittedOn k n).any (·.id = q.id)) =
        (x.app.records k).spoken.filterMap (onLink n) := by
      rw [requestsOf, Record.saidOn, Record.spoken, List.filterMap_map, List.filterMap_filterMap,
        List.filter_filterMap, List.filterMap_filter]
      refine List.filterMap_congr fun s hs => ?_
      by_cases hlink : s.link = n
      · subst hlink
        cases hq : s.message.request with
        | none => by_cases hpurpose : s.purpose? = some .request <;> simp [hpurpose, onLink, hq]
        | some q =>
          have hcall := submits_iff ha hfits hs hq
          by_cases hpurpose : s.purpose? = some .request
          · simp [hpurpose, onLink, hq, hcall.2 hpurpose]
          · have hno := mt hcall.1 hpurpose
            simpa [hpurpose, hq] using hno
      · by_cases hpurpose : s.purpose? = some .request <;> simp [hpurpose, onLink, hlink]
    calc (x.callsOn k n).Sublist _ := (h.requestsOn_sublist howns).filter _
      _ = (x.app.records k).spoken.filterMap (onLink n) := hspoken
      List.Sublist _ ((x.app.records k).submitted.filterMap (onLink n)) :=
        ((List.sublist_append_left _ _).trans (ha.sound.record k).order).filterMap _
      _ = x.app.submittedOn k n := (submittedOn_eq x.app k n).symm
  · -- nothing was submitted on a link that is none of this socket's
    have hnone : x.app.submittedOn k n = [] := by
      rw [Application.submittedOn, List.map_eq_nil_iff, List.filter_eq_nil_iff]
      intro i hi hsubmitted
      have hlink : i.caller?.isSome = true ∧ i.link? = some n := by simpa using hsubmitted
      exact howns (h.issued k i hi n hlink.2)
    rw [callsOn, hnone, List.filter_eq_nil_iff.2 (by simp)]

/-- **A message is sent at most once, and what is answered is true.** After any moves, as long as
the ids last, and for any moves that came later:

A call that sends a message to a recipient had its request executed at most once, with its words and
its body, and the execution put this one message into the mailbox of the recipient or nothing into
any mailbox. If the call ended with an answer that it succeeded, the message had gone into the
mailbox then, and only once since. If it ended without a socket, or with an answer that it failed,
no execution ever put anything into a mailbox.

What is executed on a socket of the application is a request that it issued; a call's request, on
the link that it was submitted on. And the requests that calls submitted on a link are executed in
the order in which they were submitted. -/
theorem sends_once_and_answers_truly (config : ClientConfig) (accounts : Accounts)
    (moves later : List Move)
    (hfits : ((start config accounts).makeAll (moves ++ later)).app.Fits) :
    let x := (start config accounts).makeAll moves
    let x' := x.makeAll later
    (∀ (j : Nat) (k : SocketKind) (r : Request) (recipient : String),
      x'.app.asked? j = some (k, r) → r.verb = "PUT" → r.path = Path.messagesTo ++ recipient →
      (x'.executions j).length ≤ 1 ∧
      (∀ e ∈ x'.executions j, e.request = r.toWire e.request.id ∧
        (e.Inserts recipient r.body ∨ e.InsertsNothing)) ∧
      ∀ result, x.app.result? j = some result → x.Tells x' j recipient r.body result) ∧
    (∀ k, ∀ e ∈ x'.executed, x'.Owns k e.visit → ∃ i ∈ (x'.app.records k).issued,
      i.request = e.request ∧ (i.caller?.isSome = true → i.link? = some e.visit)) ∧
    ∀ k n, (x'.callsOn k n).Sublist (x'.app.submittedOn k n) := by
  intro x x'
  have hx' : (start config accounts).makeAll (moves ++ later) = x' := List.foldl_append
  rw [hx'] at hfits
  have h : x.Inv := inv_makeAll (inv_start config accounts) moves
  have h' : x'.Inv := inv_makeAll h later
  obtain ⟨ms, hms⟩ : ∃ ms, x.app = (Application.start config).makeAll ms :=
    (start config accounts).makeAll_app moves
  obtain ⟨ms', hms'⟩ : ∃ ms', x'.app = x.app.makeAll ms' := x.makeAll_app later
  have hsound : x.app.Sound := by
    rw [hms]
    exact Application.sound_makeAll (Application.sound_start config) ms
  have hgrown : x.app.Grown x'.app := by
    rw [hms']
    exact Application.grown_makeAll hsound ms'
  have ha : x.app.Inv := by
    have hfits := hgrown.fits hfits
    rw [hms] at hfits ⊢
    exact Application.inv_makeAll (Application.inv_start config) ms hfits
  have ha' : x'.app.Inv := by
    rw [hms'] at hfits ⊢
    exact Application.inv_makeAll ha ms' hfits
  refine ⟨fun j k r recipient hasked hverb hpath => ?_, fun k e he howns =>
    h'.issued_of_executed ha' hfits he howns, h'.callsOn_sublist ha' hfits⟩
  obtain ⟨hlength, hrequest⟩ := h'.executions_spec ha' hfits j
  refine ⟨hlength, fun e he => ⟨?_, ?_⟩, fun result hresult =>
    h.tells ha h' ha' hfits hgrown (x.executed_makeAll later) hasked hverb hpath hresult⟩
  · obtain ⟨-, k', r', hasked', hrequest⟩ := hrequest e he
    obtain ⟨-, rfl⟩ := Prod.mk.inj (Option.some.inj (hasked.symm.trans hasked'))
    exact hrequest
  · exact (h'.sends ha' hfits hasked hverb hpath he).imp And.right And.right

/-- An application sends a message of one byte to `bob`. It dials for the request, submits and
writes it, and is answered by 200 after the server has executed it. When its keeper has opened the
socket, and again when it has written, it looks in two steps whether to go on. -/
def sending : List Move :=
  [.application (.call (.request ((Request.put "/v1/messages/bob" ⟨#[1]⟩).withoutAuthorization))),
    .application (.step 0 {} 0), .application (.atHead .unidentified {} 0 .connected),
    .connected .unidentified {} 0 1, .keeper .unidentified .woken {} 0,
    .keeper .unidentified .woken {} 0, .application (.step 0 {} 0),
    .keeper .unidentified .send {} 0, .keeper .unidentified .woken {} 0,
    .keeper .unidentified .woken {} 0, .server (.carry 0 1000 0),
    .server (.session 0 .frame 0 0), .server (.session 0 .frame 0 0),
    .server (.session 0 .frame 0 0), .server (.carry 0 0 1000), .keeper .unidentified .receive {} 0,
    .keeper .unidentified .woken {} 0, .application (.step 0 {} 0)]

/-- The message is in the mailbox of `bob`, once, when the call ends. -/
theorem sent_of_sending :
    let x := (start {} (.ofList [("bob", "secret")])).makeAll sending
    x.app.Fits ∧ (∃ r, x.app.result? 0 = some (.ok (.response r))) ∧
      ∃ e, x.executions 0 = [e] ∧ e.Inserts "bob" ⟨#[1]⟩ := by
  intro x
  have hrun : ((x.app.records .identified).issued.length ≤ UInt64.size ∧
      (x.app.records .unidentified).issued.length ≤ UInt64.size) ∧
      (x.app.answer? 0).isSome = true ∧
      (x.app.asked? 0).map (fun y => (y.2.verb, y.2.path, y.2.body)) =
        some ("PUT", Path.messagesTo ++ "bob", ⟨#[1]⟩) := by decide +kernel
  obtain ⟨hissued, hanswer, hasked⟩ := hrun
  have hfits : x.app.Fits := by
    intro k
    cases k with
    | identified => exact hissued.1
    | unidentified => exact hissued.2
  obtain ⟨response, hresponse⟩ := Option.isSome_iff_exists.1 hanswer
  have hresult := Application.result?_of_answer? hresponse
  obtain ⟨⟨k, r⟩, hr, hwords⟩ := Option.map_eq_some_iff.1 hasked
  simp only [Prod.mk.injEq] at hwords
  obtain ⟨hverb, hpath, hbody⟩ := hwords
  obtain ⟨hsends, -⟩ :=
    sends_once_and_answers_truly {} (.ofList [("bob", "secret")]) sending [] hfits
  simp only [makeAll_nil] at hsends
  obtain ⟨e, -, heq, hinserts⟩ := (hsends 0 k r "bob" hr hverb hpath).2.2 _ hresult
  exact ⟨hfits, ⟨response, hresult⟩, e, heq, hbody ▸ hinserts⟩

end Exchange

end ChatSockets
