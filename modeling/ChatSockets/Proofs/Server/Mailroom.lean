import ChatSockets.Server.Mailroom

/-!
# What the operations of a mailroom do

A mailroom is looked at through the mailbox of a login, the requests on a line (`onLine`), the live
session of a login and the next id. For each operation this module says what it does to these four:
a mailbox grows only by `post` and shrinks only by `acknowledge`, and a line is written only by
`register` and `post`. `deliver_eq` says when a message is accepted.
-/

namespace ChatSockets

/-- The value at a key of a modified table. -/
theorem Table.get?_modify {κ α : Type} [DecidableEq κ] (t : Table κ α) (k j : κ) (f : α → α) :
    (t.modify k f).get? j = if j = k then (t.get? k).map f else t.get? j := by
  simp only [get?, modify]
  induction t.entries with
  | nil => simp
  | cons e es ih =>
    rw [List.map_cons]
    by_cases hk : e.1 = k
    · rw [if_pos hk]
      by_cases hj : j = k
      · rw [if_pos hj, List.find?_cons_of_pos (by simp [hk, hj]),
          List.find?_cons_of_pos (by simp [hk])]
        rfl
      · have hne : ¬ e.1 = j := fun h => hj (h.symm.trans hk)
        rw [if_neg hj, List.find?_cons_of_neg (by simpa using hne),
          List.find?_cons_of_neg (by simpa using hne), ih, if_neg hj]
    · rw [if_neg hk]
      by_cases hej : e.1 = j
      · have hj : ¬ j = k := fun h => hk (hej.trans h)
        rw [if_neg hj, List.find?_cons_of_pos (by simpa using hej),
          List.find?_cons_of_pos (by simpa using hej)]
      · rw [List.find?_cons_of_neg (by simpa using hej), ih]
        by_cases hj : j = k
        · rw [if_pos hj, if_pos hj, List.find?_cons_of_neg (by simpa using hk)]
        · rw [if_neg hj, if_neg hj, List.find?_cons_of_neg (by simpa using hej)]

namespace Mailroom

/-- The requests on a line; none if it was hung up. -/
def onLine (m : Mailroom) (line : Nat) : List Wire.Request := (m.lines.get? line).getD []

/-! ## Lines -/

theorem isListening_iff (m : Mailroom) (line : Nat) :
    m.isListening line = true ↔ ∃ requests, m.lines.get? line = some requests := by
  rw [isListening, Table.contains, Option.isSome_iff_exists]

/-- Sent requests stand behind those on the line, if it was not hung up. -/
theorem onLine_send (m : Mailroom) (line other : Nat) (requests : List Wire.Request) :
    (m.send line requests).onLine other =
      if other = line ∧ m.isListening line = true then m.onLine line ++ requests
      else m.onLine other := by
  simp only [onLine, send, Table.get?_modify]
  by_cases ho : other = line
  · rw [if_pos ho, isListening, Table.contains, ho]
    cases m.lines.get? line with
    | none => rw [if_neg (by simp)]; rfl
    | some waiting => rw [if_pos ⟨rfl, rfl⟩]; rfl
  · rw [if_neg ho, if_neg fun h => ho h.1]

/-- Sending hangs nothing up. -/
theorem isListening_send (m : Mailroom) (line other : Nat) (requests : List Wire.Request) :
    (m.send line requests).isListening other = m.isListening other := by
  simp only [isListening, Table.contains, send, Table.get?_modify]
  split
  · next heq => rw [Option.isSome_map, heq]
  · rfl

theorem isListening_openLine (m : Mailroom) (other : Nat) :
    m.openLine.2.isListening other = true ↔ other = m.nextLine ∨ m.isListening other = true := by
  simp only [isListening, Table.contains, openLine, Table.get?_insert]
  split
  · next heq => simp [heq]
  · next hne => simp [hne]

theorem isListening_hangUp (m : Mailroom) (line other : Nat) :
    (m.hangUp line).isListening other = true ↔ other ≠ line ∧ m.isListening other = true := by
  simp only [isListening, Table.contains, hangUp, Table.get?_erase]
  split
  · next heq => simp [heq]
  · next hne => simp [hne]

/-- A line is received from in its order. -/
theorem receive?_eq_some {m m' : Mailroom} {line : Nat} {r : Wire.Request}
    (h : m.receive? line = some (r, m')) :
    ∃ rest, m.lines.get? line = some (r :: rest) ∧
      m' = { m with lines := m.lines.insert line rest } := by
  unfold receive? at h
  split at h
  · next r' rest hline =>
    simp only [Option.some.injEq, Prod.mk.injEq] at h
    obtain ⟨rfl, rfl⟩ := h
    exact ⟨rest, hline, rfl⟩
  · cases h

/-- A line from which a request was received holds what stood behind it. -/
theorem onLine_receive? {m m' : Mailroom} {line : Nat} {r : Wire.Request}
    (h : m.receive? line = some (r, m')) :
    m.onLine line = r :: m'.onLine line ∧
      ∀ other, other ≠ line → m'.onLine other = m.onLine other := by
  obtain ⟨rest, hline, rfl⟩ := receive?_eq_some h
  constructor
  · rw [onLine, onLine, hline, Table.get?_insert_self]
    rfl
  · intro other hother
    rw [onLine, onLine, Table.get?_insert, if_neg hother]

/-- Receiving hangs nothing up. -/
theorem isListening_receive? {m m' : Mailroom} {line : Nat} {r : Wire.Request}
    (h : m.receive? line = some (r, m')) (other : Nat) :
    m'.isListening other = m.isListening other := by
  obtain ⟨rest, hline, rfl⟩ := receive?_eq_some h
  simp only [isListening, Table.contains, Table.get?_insert]
  split
  · next heq => rw [heq, hline]; rfl
  · rfl

/-- A request can be received from a line that holds one. -/
theorem receive?_of_onLine {m : Mailroom} {line : Nat} {r : Wire.Request}
    {rest : List Wire.Request} (h : m.onLine line = r :: rest) :
    ∃ m', m.receive? line = some (r, m') := by
  unfold onLine at h
  unfold receive?
  cases hline : m.lines.get? line with
  | none =>
    rw [hline] at h
    cases h
  | some requests =>
    rw [hline] at h
    obtain rfl : requests = r :: rest := h
    exact ⟨_, rfl⟩

/-- A line that was hung up holds nothing. -/
theorem onLine_hangUp (m : Mailroom) (line other : Nat) :
    (m.hangUp line).onLine other = if other = line then [] else m.onLine other := by
  simp only [onLine, hangUp, Table.get?_erase]
  split <;> rfl

/-- A new line is empty. -/
theorem onLine_openLine (m : Mailroom) (other : Nat) :
    m.openLine.2.onLine other = if other = m.nextLine then [] else m.onLine other := by
  simp only [onLine, openLine, Table.get?_insert]
  split <;> rfl

/-- A posted message goes into its mailbox. Besides, it goes down the line of a live session, or the
session is forgotten. -/
theorem post_cases (m : Mailroom) (login : String) (q : Queued) :
    let mailboxes := m.mailboxes.insert login (m.mailbox login ++ [q])
    (m.post login q).2 = { m with mailboxes } ∨
      (∃ h, m.live.get? login = some h ∧ m.isListening h.line = true ∧
        (m.post login q).2 = { m.send h.line [q.request] with mailboxes }) ∨
      (m.post login q).2 = { m with live := m.live.erase login, mailboxes } := by
  unfold post
  cases hlive : m.live.get? login with
  | none => exact .inl rfl
  | some h =>
    by_cases hlisten : m.isListening h.line = true
    · refine .inr (.inl ⟨h, rfl, hlisten, ?_⟩)
      dsimp only
      rw [if_pos hlisten]
      rfl
    · refine .inr (.inr ?_)
      dsimp only
      rw [if_neg hlisten]
      rfl

/-- **Where a posted message goes besides its mailbox.** Down the line of the live session, if that
was not hung up; otherwise nowhere, and the recipient has no live session then. -/
theorem post_delivery (m : Mailroom) (login : String) (q : Queued) :
    (∃ h, m.live.get? login = some h ∧ m.isListening h.line = true ∧
        (m.post login q).1 = .live ∧ (m.post login q).2.live = m.live ∧
        (m.post login q).2.lines = (m.send h.line [q.request]).lines) ∨
      (∀ h, m.live.get? login = some h → m.isListening h.line = false) ∧
        (m.post login q).1 = .queued ∧ (m.post login q).2.lines = m.lines ∧
        ∀ other, (m.post login q).2.live.get? other =
          if other = login then none else m.live.get? other := by
  unfold post
  cases hlive : m.live.get? login with
  | none =>
    refine .inr ⟨nofun, rfl, rfl, fun other => ?_⟩
    show m.live.get? other = _
    split
    · next heq => rw [heq, hlive]
    · rfl
  | some h =>
    dsimp only
    split
    · next hlisten => exact .inl ⟨h, rfl, hlisten, rfl, rfl, rfl⟩
    · next hlisten =>
      refine .inr ⟨fun k hk => ?_, rfl, rfl, m.live.get?_erase login⟩
      rw [← Option.some.inj hk]
      simpa using hlisten

/-- A posted message goes down the line of its recipient's live session, if anywhere. -/
theorem onLine_post (m : Mailroom) (login : String) (q : Queued) (line : Nat) :
    (m.post login q).2.onLine line = m.onLine line ∨
      (∃ h, m.live.get? login = some h ∧ h.line = line) ∧
        (m.post login q).2.onLine line = m.onLine line ++ [q.request] := by
  rcases m.post_cases login q with heq | ⟨h, hlive, hlisten, heq⟩ | heq
  · exact .inl (by rw [heq]; rfl)
  · have hsend := m.onLine_send h.line line [q.request]
    by_cases hline : line = h.line
    · subst hline
      rw [if_pos ⟨rfl, hlisten⟩] at hsend
      exact .inr ⟨⟨h, hlive, rfl⟩, by rw [heq]; exact hsend⟩
    · rw [if_neg fun e => hline e.1] at hsend
      exact .inl (by rw [heq]; exact hsend)
  · exact .inl (by rw [heq]; rfl)

/-- A message hangs nothing up. -/
theorem isListening_post (m : Mailroom) (login : String) (q : Queued) (line : Nat) :
    (m.post login q).2.isListening line = m.isListening line := by
  rcases m.post_delivery login q with ⟨h, -, -, -, -, hlines⟩ | ⟨-, -, hlines, -⟩
  · rw [← m.isListening_send h.line line [q.request], isListening, hlines]
    rfl
  · rw [isListening, hlines]
    rfl

/-- A new session is sent the mailbox and the word that this was all. -/
theorem onLine_register (m : Mailroom) (login : String) (h : Handle) (line : Nat) :
    (m.register login h).2.onLine line =
      if line = h.line ∧ m.isListening h.line = true then
        m.onLine h.line ++ ((m.mailbox login).map Queued.request ++ [queueEmptyRequest m.nextId])
      else m.onLine line :=
  m.draw.2.onLine_send h.line line
    ((m.mailbox login).map Queued.request ++ [queueEmptyRequest m.nextId])

/-- A session that signs in on a new line finds there the mailbox and the word that this was all. -/
theorem onLine_openLine_register (m : Mailroom) (login : String) (session : UInt64) :
    (m.openLine.2.register login ⟨session, m.nextLine⟩).2.onLine m.nextLine =
      (m.mailbox login).map Queued.request ++ [queueEmptyRequest m.nextId] := by
  have hlistening : m.openLine.2.isListening m.nextLine = true :=
    (isListening_iff _ _).2 ⟨[], m.lines.get?_insert_self m.nextLine []⟩
  rw [onLine_register, if_pos ⟨rfl, hlistening⟩, onLine_openLine, if_pos rfl]
  rfl

/-! ## Live sessions -/

/-- Nothing but the live session of one login is touched by its end. -/
theorem unregister_eq (m : Mailroom) (login : String) (session : UInt64) :
    m.unregister login session = m ∨
      m.unregister login session = { m with live := m.live.erase login } := by
  unfold unregister
  split
  · split
    · exact .inr rfl
    · exact .inl rfl
  · exact .inl rfl

/-- A message can end a live session, of which the line was hung up, but not begin one. -/
theorem live_post {m : Mailroom} {login : String} {q : Queued} {other : String} {h : Handle}
    (hlive : (m.post login q).2.live.get? other = some h) : m.live.get? other = some h := by
  rcases m.post_cases login q with heq | ⟨_, _, _, heq⟩ | heq
  · rwa [heq] at hlive
  · rwa [heq] at hlive
  · rw [heq, Table.get?_erase] at hlive
    split at hlive
    · cases hlive
    · exact hlive

/-- A message touches the live session of its recipient only. -/
theorem live_post_of_ne (m : Mailroom) {login other : String} (q : Queued) (hne : other ≠ login) :
    (m.post login q).2.live.get? other = m.live.get? other := by
  rcases m.post_cases login q with heq | ⟨_, _, _, heq⟩ | heq
  · rw [heq]
  · rw [heq]
    rfl
  · rw [heq, Table.get?_erase, if_neg hne]

/-- The live session of a login that was registered is the new one. -/
theorem live_register (m : Mailroom) (login : String) (h : Handle) (other : String) :
    (m.register login h).2.live.get? other =
      if other = login then some h else m.live.get? other :=
  m.live.get?_insert login other h

/-- The end of a session begins none. -/
theorem live_unregister {m : Mailroom} {login : String} {session : UInt64} {other : String}
    {h : Handle} (hlive : (m.unregister login session).live.get? other = some h) :
    m.live.get? other = some h := by
  rcases m.unregister_eq login session with heq | heq
  · rwa [heq] at hlive
  · rw [heq, Table.get?_erase] at hlive
    split at hlive
    · cases hlive
    · exact hlive

/-- The end of a session ends the live session of its login, if that is the one. -/
theorem live_unregister_eq (m : Mailroom) (login : String) (session : UInt64) (other : String) :
    (m.unregister login session).live.get? other =
      if other = login then (m.live.get? login).filter (·.session ≠ session)
      else m.live.get? other := by
  unfold unregister
  cases hlive : m.live.get? login with
  | none =>
    show m.live.get? other = _
    split
    · next heq => rw [heq, hlive]; rfl
    · rfl
  | some h =>
    dsimp only
    by_cases hs : h.session = session
    · have hnone : (some h).filter (·.session ≠ session) = none := by simp [hs]
      rw [if_pos hs, Table.get?_erase, hnone]
    · have hsome : (some h).filter (·.session ≠ session) = some h := by simp [hs]
      rw [if_neg hs, hsome, ← hlive]
      split
      · next heq => rw [heq]
      · rfl

/-! ## Mailboxes -/

@[simp] theorem mailbox_draw (m : Mailroom) (login : String) :
    m.draw.2.mailbox login = m.mailbox login := rfl

@[simp] theorem mailbox_send (m : Mailroom) (line : Nat) (requests : List Wire.Request)
    (login : String) : (m.send line requests).mailbox login = m.mailbox login := rfl

@[simp] theorem mailbox_openLine (m : Mailroom) (login : String) :
    m.openLine.2.mailbox login = m.mailbox login := rfl

@[simp] theorem mailbox_hangUp (m : Mailroom) (line : Nat) (login : String) :
    (m.hangUp line).mailbox login = m.mailbox login := rfl

@[simp] theorem mailbox_register (m : Mailroom) (login : String) (h : Handle) (other : String) :
    (m.register login h).2.mailbox other = m.mailbox other := rfl

@[simp] theorem mailbox_unregister (m : Mailroom) (login : String) (session : UInt64)
    (other : String) : (m.unregister login session).mailbox other = m.mailbox other := by
  rcases m.unregister_eq login session with h | h
  · rw [h]
  · rw [h]
    rfl

theorem mailbox_receive? {m m' : Mailroom} {line : Nat} {r : Wire.Request}
    (h : m.receive? line = some (r, m')) (login : String) :
    m'.mailbox login = m.mailbox login := by
  obtain ⟨rest, -, rfl⟩ := receive?_eq_some h
  rfl

theorem mailboxes_post (m : Mailroom) (login : String) (q : Queued) :
    (m.post login q).2.mailboxes = m.mailboxes.insert login (m.mailbox login ++ [q]) := by
  rcases m.post_cases login q with heq | ⟨_, _, _, heq⟩ | heq <;> rw [heq]

/-- A posted message is the last of its mailbox. -/
theorem mailbox_post (m : Mailroom) (login : String) (q : Queued) (other : String) :
    (m.post login q).2.mailbox other =
      if other = login then m.mailbox login ++ [q] else m.mailbox other := by
  rw [mailbox, mailboxes_post, Table.get?_insert]
  split <;> rfl

/-- An acknowledgement takes the first message with the id out of one mailbox. -/
theorem mailbox_acknowledge (m : Mailroom) (login : String) (id : UInt64) (other : String) :
    (m.acknowledge login id).2.mailbox other =
      if other = login then (m.mailbox login).eraseP (·.id = id) else m.mailbox other := by
  by_cases hany : (m.mailbox login).any (·.id = id) = true
  · simp only [acknowledge, if_pos hany]
    split
    · next hempty =>
      simp only [mailbox, Table.get?_erase]
      by_cases ho : other = login
      · rw [if_pos ho, if_pos ho]
        exact hempty.symm
      · rw [if_neg ho, if_neg ho]
    · simp only [mailbox, Table.get?_insert]
      by_cases ho : other = login
      · rw [if_pos ho, if_pos ho]
        rfl
      · rw [if_neg ho, if_neg ho]
  · simp only [acknowledge, if_neg hany]
    by_cases ho : other = login
    · rw [if_pos ho, ho, List.eraseP_of_forall_not]
      intro q hq hid
      exact hany (List.any_eq_true.2 ⟨q, hq, hid⟩)
    · rw [if_neg ho]

/-- An acknowledgement touches nothing but mailboxes. -/
theorem acknowledge_eq (m : Mailroom) (login : String) (id : UInt64) :
    ∃ mailboxes, (m.acknowledge login id).2 = { m with mailboxes } := by
  simp only [acknowledge]
  split
  · split
    · exact ⟨_, rfl⟩
    · exact ⟨_, rfl⟩
  · exact ⟨m.mailboxes, rfl⟩

/-- An acknowledgement takes exactly one message out of its mailbox and says so, or there is none
with the id and nothing happens. -/
theorem acknowledge_cases (m : Mailroom) (login : String) (id : UInt64) :
    (∃ front q rest, m.mailbox login = front ++ q :: rest ∧ q.id = id ∧ (∀ p ∈ front, p.id ≠ id) ∧
        (m.acknowledge login id).1 = true ∧
        (m.acknowledge login id).2.mailbox login = front ++ rest) ∨
      (∀ q ∈ m.mailbox login, q.id ≠ id) ∧ m.acknowledge login id = (false, m) := by
  by_cases hany : (m.mailbox login).any (·.id = id) = true
  · left
    obtain ⟨q₀, hq₀, hid₀⟩ := List.any_eq_true.1 hany
    obtain ⟨q, front, rest, hfront, hid, hbox, herase⟩ :=
      List.exists_of_eraseP (p := (·.id = id)) hq₀ hid₀
    refine ⟨front, q, rest, hbox, by simpa using hid, by simpa using hfront, ?_, ?_⟩
    · simp only [acknowledge, if_pos hany]
      split <;> rfl
    · rw [mailbox_acknowledge, if_pos rfl, herase]
  · right
    refine ⟨fun q hq hid => hany (List.any_eq_true.2 ⟨q, hq, by simpa using hid⟩), ?_⟩
    simp only [acknowledge, if_neg hany]

theorem accounts_post (m : Mailroom) (login : String) (q : Queued) :
    (m.post login q).2.accounts = m.accounts := by
  rcases m.post_cases login q with heq | ⟨_, _, _, heq⟩ | heq
  · rw [heq]
  · rw [heq]
    rfl
  · rw [heq]

/-- A posted message draws no id and opens no line. -/
theorem post_next (m : Mailroom) (login : String) (q : Queued) :
    (m.post login q).2.nextId = m.nextId ∧ (m.post login q).2.nextLine = m.nextLine := by
  rcases m.post_cases login q with heq | ⟨_, _, _, heq⟩ | heq <;> rw [heq] <;> exact ⟨rfl, rfl⟩

/-! ## Accepting a message -/

/-- A message is accepted exactly for a login with an account; it gets the next id. -/
theorem deliver_eq (m : Mailroom) (now : Nat) (login : String) (body : ByteArray) :
    m.deliver now login body =
      if m.hasAccount login = true then
        (some (m.draw.2.post login ⟨m.nextId, body, now⟩).1,
          (m.draw.2.post login ⟨m.nextId, body, now⟩).2)
      else (none, m) := rfl

/-- The mailbox of an accepted message grows by it. -/
theorem mailbox_deliver (m : Mailroom) (now : Nat) (login : String) (body : ByteArray)
    (other : String) :
    (m.deliver now login body).2.mailbox other =
      if other = login ∧ m.hasAccount login = true then
        m.mailbox login ++ [⟨m.nextId, body, now⟩]
      else m.mailbox other := by
  rw [deliver_eq]
  by_cases ha : m.hasAccount login = true
  · rw [if_pos ha, mailbox_post, mailbox_draw, mailbox_draw]
    by_cases ho : other = login
    · rw [if_pos ho, if_pos ⟨ho, ha⟩]
    · rw [if_neg ho, if_neg fun h => ho h.1]
  · rw [if_neg ha, if_neg fun h => ha h.2]

/-- Delivering a message only adds to lines. -/
theorem onLine_deliver (m : Mailroom) (now : Nat) (login : String) (body : ByteArray)
    (line : Nat) :
    ∃ more, (m.deliver now login body).2.onLine line = m.onLine line ++ more := by
  rw [deliver_eq]
  split
  · rcases m.draw.2.onLine_post login ⟨m.nextId, body, now⟩ line with h | ⟨-, h⟩
    · exact ⟨[], by rw [List.append_nil]; exact h⟩
    · exact ⟨_, h⟩
  · exact ⟨[], by rw [List.append_nil]⟩

end Mailroom

end ChatSockets
