import ChatSockets.Proofs.Exchange

/-!
# A socket between an application and the server

On every socket of the application, what was executed and what is still on its way up is, in this
order, what was said on it; and every response on its way down is that of a request that was
executed there (`Visit.Tied`). This holds of a new socket, and each step of the session or of the
keeper keeps it, as does all that happens elsewhere.
-/

namespace ChatSockets

open Wire Keeper

/-- The requests among some messages. -/
def requestsOf (ms : List Message) : List Wire.Request := ms.filterMap Message.request

/-- The requests that were executed on a socket. -/
def requestsOn (es : List Execution) (n : Nat) : List Wire.Request :=
  (es.filter (·.visit = n)).map Execution.request

/-- A response was given to a request that was executed on a socket. -/
def Given (es : List Execution) (n : Nat) (w : Wire.Response) : Prop :=
  ∃ e ∈ es, e.visit = n ∧ e.response = w

theorem requestsOf_append (ms ms' : List Message) :
    requestsOf (ms ++ ms') = requestsOf ms ++ requestsOf ms' := List.filterMap_append

theorem requestsOn_append (es es' : List Execution) (n : Nat) :
    requestsOn (es ++ es') n = requestsOn es n ++ requestsOn es' n := by
  rw [requestsOn, List.filter_append, List.map_append]
  rfl

/-- On a socket on which nothing happened nothing was executed. -/
theorem requestsOn_eq_nil {es : List Execution} {n : Nat} (h : ∀ e ∈ es, e.visit ≠ n) :
    requestsOn es n = [] := by
  rw [requestsOn, List.map_eq_nil_iff, List.filter_eq_nil_iff]
  simpa using h

theorem Given.append {es : List Execution} {n : Nat} {w : Wire.Response} (h : Given es n w)
    (es' : List Execution) : Given (es ++ es') n w := by
  obtain ⟨e, he, h⟩ := h
  exact ⟨e, List.mem_append_left _ he, h⟩

namespace Visit

/-- How a socket of an application stands, on a link with a number, with the record of the
application and with what was executed. -/
structure Tied (n : Nat) (c : Connection) (r : Record) (es : List Execution) (v : Visit) :
    Prop where
  order : ∃ ms, (requestsOn es n ++ requestsOf ms).Sublist (requestsOf (r.saidOn n)) ∧
    ((∃ result, v.session.phase = .ended result) ∨ Rises n c v ms)
  answers : linkOf? c = some n → ∃ ms, Falls c v ms ∧
    ∀ m ∈ ms, ∀ w, m.response = some w → Given es n w

variable {n : Nat} {c c' : Connection} {r r' : Record} {es es' : List Execution} {v v' : Visit}

/-! ## What does not touch the socket -/

/-- The keeper is where it was, or goes on without this link, and said nothing on it. -/
theorem Tied.of_phase (h : Tied n c r es v) (hsaid : r'.saidOn n = r.saidOn n)
    (hphase : c'.phase = c.phase ∨ linkOf? c' ≠ some n) : Tied n c' r' es v := by
  obtain ⟨ms, hms, hrises⟩ := h.order
  refine ⟨⟨ms, hsaid ▸ hms, hrises.imp_right fun hrises => ?_⟩, fun hlinked => ?_⟩
  · exact hphase.elim hrises.of_phase hrises.apart
  · have hphase := hphase.resolve_right fun hne => hne hlinked
    rw [linkOf?_eq, hphase] at hlinked
    obtain ⟨ms, hfalls, hms⟩ := h.answers hlinked
    exact ⟨ms, hfalls.of_phase hphase, hms⟩

/-- Bytes are carried, or an end of the link finds it closed. -/
theorem Tied.of_link (h : Tied n c r es v) (hsession : v'.session = v.session)
    (hup : v'.far.up.held ++ v'.near.up.held = v.far.up.held ++ v.near.up.held)
    (hdown : v'.near.down.held ++ v'.far.down.held = v.near.down.held ++ v.far.down.held) :
    Tied n c r es v' := by
  obtain ⟨ms, hms, hrises⟩ := h.order
  refine ⟨⟨ms, hms, ?_⟩, fun hlinked => ?_⟩
  · rw [hsession]
    exact hrises.imp_right fun hrises => hrises.of_eq (congrArg Session.decoder hsession) hup
  · obtain ⟨ms, hfalls, hms⟩ := h.answers hlinked
    exact ⟨ms, hfalls.of_eq (congrArg Session.phase hsession) hdown, hms⟩

/-- Requests are executed on other sockets. -/
theorem Tied.elsewhere (h : Tied n c r es v) (hes : ∀ e ∈ es', e.visit ≠ n) :
    Tied n c r (es ++ es') v := by
  obtain ⟨ms, hms, hrises⟩ := h.order
  refine ⟨⟨ms, ?_, hrises⟩, fun hlinked => ?_⟩
  · rw [requestsOn_append, requestsOn_eq_nil hes, List.append_nil]
    exact hms
  · obtain ⟨ms, hfalls, hms⟩ := h.answers hlinked
    exact ⟨ms, hfalls, fun m hm w hw => (hms m hm w hw).append es'⟩

/-! ## Steps of the session and of the keeper -/

/-- **A step of the session** executes the next request, if any, and answers what it executed. -/
theorem Tied.session (h : Tied n c r es v) (m : Mailroom) (branch : Session.Branch)
    (now wallClock : Nat) :
    Tied n c r (es ++ (v.execution? m n branch now wallClock).toList)
      (v.after (Session.step branch now wallClock ⟨v.session, m, v.far⟩)) := by
  obtain ⟨ms, hms, hrises⟩ := h.order
  by_cases hended : ∃ result, v.session.phase = .ended result
  · -- a session that has ended makes no step
    obtain ⟨result, hphase⟩ := hended
    have hstay : Session.step branch now wallClock ⟨v.session, m, v.far⟩ =
        ⟨v.session, m, v.far⟩ := by
      simp only [Session.step, hphase]
    have hnone : v.execution? m n branch now wallClock = none := by
      simp only [execution?, Session.answers?, hphase, Option.map_none]
    rw [hstay, hnone, Option.toList_none, List.append_nil]
    refine ⟨⟨ms, hms, .inl ⟨result, hphase⟩⟩, fun hlinked => ?_⟩
    obtain ⟨ms, hfalls, hms⟩ := h.answers hlinked
    exact ⟨ms, hfalls.of_eq rfl rfl, hms⟩
  · have hgoing : ∀ result, v.session.phase ≠ .ended result := fun result hphase =>
      hended ⟨result, hphase⟩
    have hdoes := Session.step_does branch now wallClock ⟨v.session, m, v.far⟩
    refine ⟨?_, fun hlinked => ?_⟩
    · obtain ⟨rest, rfl, hrest⟩ := (hrises.resolve_left hended).session hdoes
      refine ⟨rest, .trans ?_ hms, hrest⟩
      have htaken : (requestsOn (v.execution? m n branch now wallClock).toList n).Sublist
          (requestsOf (Session.hears branch ⟨v.session, m, v.far⟩).toList) := by
        unfold execution?
        cases hanswers : Session.answers? branch wallClock ⟨v.session, m, v.far⟩ with
        | none => exact List.nil_sublist _
        | some x =>
          obtain ⟨-, message, -, hheard, -, hr, -⟩ := Session.answers?_eq_some_iff.1 hanswers
          rw [hheard]
          simp [requestsOn, requestsOf, hr]
      rw [requestsOn_append, requestsOf_append, List.append_assoc]
      exact (List.Sublist.refl _).append (htaken.append (List.Sublist.refl _))
    · obtain ⟨ms, hfalls, hms⟩ := h.answers hlinked
      obtain ⟨said, hafter, hsaid⟩ := hfalls.session hgoing hdoes
      refine ⟨ms ++ said, hafter, fun message hm w hw => ?_⟩
      rcases List.mem_append.1 hm with hm | hm
      · exact (hms message hm w hw).append _
      · generalize hheard : Session.hears branch ⟨v.session, m, v.far⟩ = heard at hsaid
        cases hsaid message hm with
        | passes => cases hw
        | answers signIn message' q hphase hkind hq =>
          obtain rfl := Option.some.inj hw
          have hanswers : Session.answers? branch wallClock ⟨v.session, m, v.far⟩ = some (q, _) :=
            Session.answers?_eq_some_iff.2 ⟨signIn, message', hphase, hheard, hkind, hq, rfl⟩
          rw [execution?, hanswers]
          exact ⟨_, List.mem_append_right _ (List.mem_singleton.2 rfl), rfl, rfl⟩

variable {uttered : Option (Purpose × Message)} {heard : Option Message} {u u' : Keeper.Turn}

/-- **A step of the keeper** puts what it says behind the rest, and takes responses that were given.
-/
theorem Tied.keeper (h : Tied n c r es v) (hlinked : linkOf? c = some n)
    (hsaid : r'.saidOn n = r.saidOn n ++ fitting (uttered.toList.map Prod.snd))
    (hacts : Acts ⟨c, v.near, none⟩ uttered heard u') :
    Tied n u'.connection r' es { v with near := u'.link } ∧
      ∀ m ∈ heard, ∀ w, m.response = some w → Given es n w := by
  obtain ⟨ms, hms, hrises⟩ := h.order
  obtain ⟨ms', hfalls, hms'⟩ := h.answers hlinked
  obtain ⟨rest, rfl, hrest⟩ := hfalls.keeper hacts
  refine ⟨⟨⟨_, ?_, hrises.imp_right fun hrises => hrises.keeper hlinked hacts⟩, fun hstill => ?_⟩,
    fun m hm => hms' m (List.mem_append_left _ (Option.mem_toList.2 hm))⟩
  · rw [hsaid, requestsOf_append, requestsOf_append, ← List.append_assoc]
    exact hms.append (List.Sublist.refl _)
  · exact ⟨rest, hrest (by rw [hstill]; nofun), fun m hm => hms' m (List.mem_append_right _ hm)⟩

/-- **A new socket**: only the handshake was said on it. -/
theorem tied_connected {hello : Handshake} (id : UInt64) (now k : Nat) (hlink : u.link = {})
    (hleaves : u.Leaves n .new (offer (.ofHandshake hello)) u')
    (hsaid : r.saidOn n = fitting [.ofHandshake hello]) (hes : ∀ e ∈ es, e.visit ≠ n) :
    Tied n u'.connection r es { session := .start id now, near := u'.link, owner := some k } := by
  refine ⟨⟨_, ?_, .inr (rises_connected id now k hlink hleaves)⟩, fun hstill =>
    ⟨[], falls_connected id now k hlink hleaves (by rw [hstill]; nofun), nofun⟩⟩
  rw [hsaid, requestsOn_eq_nil hes]
  exact List.Sublist.refl _

end Visit

end ChatSockets
