import ChatSockets.Proofs.Office.Mailboxes

/-!
# The lines of an office

`Lined` relates the lines and the live sessions of an office to its story: what was received from a
line that was not hung up, with what still waits on it, is what the story sent down (`sentDown`),
and a session whose line was not hung up is live exactly as long as the story says so. Every effect
keeps this (`Lined.does`).

What the story sends down the line of a session that was registered once can be told in one piece
(`sentDown_of_registered`), so that the receiver of the line finds the backlog of its registration,
the signal, and then every message that was posted while the session was registered
(`line_carries_backlog_then_posts`).
-/

namespace ChatSockets

namespace Office

variable {o o' : Office} {σ es : List Entry} {line : Nat}

/-! ## What a story sends -/

/-- What an entry sends down a line after some story. -/
def sentBy (line : Nat) (past : List Entry) : Entry → List Wire.Request
  | .registered _ h backlog signal =>
    if h.line = line then backlog.map Queued.request ++ [queueEmptyRequest signal] else []
  | .posted login q => if (sessionOf login past).any (·.line = line) then [q.request] else []
  | _ => []

/-- What a story sends down a line after a past. -/
def sentDown (line : Nat) (past : List Entry) : List Entry → List Wire.Request
  | [] => []
  | e :: rest => sentBy line past e ++ sentDown line (past ++ [e]) rest

theorem sentDown_append (line : Nat) (past σ es : List Entry) :
    sentDown line past (σ ++ es) = sentDown line past σ ++ sentDown line (past ++ σ) es := by
  induction σ generalizing past with
  | nil => rw [List.nil_append, List.append_nil]; rfl
  | cons e σ ih =>
    rw [List.cons_append, sentDown, sentDown, ih, List.append_assoc, List.append_assoc]
    rfl

theorem receivedFrom_append (line : Nat) (σ es : List Entry) :
    receivedFrom line (σ ++ es) = receivedFrom line σ ++ receivedFrom line es :=
  List.filterMap_append

/-! ## Lines, live sessions and the story -/

/-- How lines and live sessions follow from the story. -/
structure Lined (o : Office) (σ : List Entry) : Prop where
  opened : ∀ line, o.room.isListening line = true → line < o.room.nextLine
  named : ∀ login h, sessionOf login σ = some h → h.line < o.room.nextLine
  /-- nothing has happened yet on a line that is still to be opened -/
  unopened : ∀ line, o.room.nextLine ≤ line → sentDown line [] σ = [] ∧ receivedFrom line σ = []
  live : ∀ login h, o.room.live.get? login = some h → sessionOf login σ = some h
  /-- a live session is forgotten only after its line was hung up -/
  remembered : ∀ login h, sessionOf login σ = some h → o.room.isListening h.line = true →
    o.room.live.get? login = some h
  flow : ∀ line, o.room.isListening line = true →
    receivedFrom line σ ++ o.room.onLine line = sentDown line [] σ

theorem sentDown_snoc (line : Nat) (σ : List Entry) (e : Entry) :
    sentDown line [] (σ ++ [e]) = sentDown line [] σ ++ sentBy line σ e := by
  rw [sentDown_append]
  exact congrArg _ (List.append_nil _)

theorem sessionOf_snoc (login : String) (σ : List Entry) (e : Entry) :
    sessionOf login (σ ++ [e]) = sessionAfter login (sessionOf login σ) e := List.foldl_append

/-- A message goes down no line but that of the session that the story names. -/
theorem sentBy_posted_eq_nil {login : String} {q : Queued}
    (h : ∀ k, sessionOf login σ = some k → k.line ≠ line) :
    sentBy line σ (.posted login q) = [] := by
  refine if_neg fun hany => ?_
  obtain ⟨k, hk, hline⟩ := (Option.any_eq_true _ _).1 hany
  exact h k hk (by simpa using hline)

/-- An effect with one entry that opens no line and hangs none up. It is enough that what the entry
says was sent and received is what happened on the lines, and that the session it leaves to each
login is the live one, as long as the line of that session was not hung up. -/
theorem Lined.step (h : Lined o σ) {e : Entry} (hnext : o'.room.nextLine = o.room.nextLine)
    (hlisten : ∀ line, o'.room.isListening line = o.room.isListening line)
    (hflow : ∀ line, o.room.isListening line = true →
      receivedFrom line [e] ++ o'.room.onLine line = o.room.onLine line ++ sentBy line σ e)
    (hunopened : ∀ line, o.room.nextLine ≤ line →
      sentBy line σ e = [] ∧ receivedFrom line [e] = [])
    (hnamed : ∀ login k, sessionAfter login (sessionOf login σ) e = some k →
      k.line < o.room.nextLine)
    (hlive : ∀ login k, o'.room.live.get? login = some k →
      sessionAfter login (sessionOf login σ) e = some k)
    (hremembered : ∀ login k, sessionAfter login (sessionOf login σ) e = some k →
      o.room.isListening k.line = true → o'.room.live.get? login = some k) :
    Lined o' (σ ++ [e]) := by
  refine ⟨fun line hl => ?_, fun login k hk => ?_, fun line hl => ?_, fun login k hk => ?_,
    fun login k hk hl => ?_, fun line hl => ?_⟩
  · rw [hnext]
    exact h.opened line (hlisten line ▸ hl)
  · rw [hnext]
    exact hnamed login k (sessionOf_snoc login σ e ▸ hk)
  · have hle : o.room.nextLine ≤ line := hnext ▸ hl
    obtain ⟨hsent, hreceived⟩ := h.unopened line hle
    rw [sentDown_snoc, receivedFrom_append, hsent, hreceived]
    exact hunopened line hle
  · rw [sessionOf_snoc]
    exact hlive login k hk
  · exact hremembered login k (sessionOf_snoc login σ e ▸ hk) (hlisten k.line ▸ hl)
  · have hopen : o.room.isListening line = true := hlisten line ▸ hl
    rw [sentDown_snoc, receivedFrom_append, ← h.flow line hopen, List.append_assoc,
      List.append_assoc, hflow line hopen]

/-- What changes neither lines nor sessions, with an entry that is about neither. -/
theorem Lined.frame (h : Lined o σ) {e : Entry} (hlines : o'.room.lines = o.room.lines)
    (hnext : o'.room.nextLine = o.room.nextLine) (hlive : o'.room.live = o.room.live)
    (hsession : ∀ login session?, sessionAfter login session? e = session?)
    (hsilent : ∀ line, sentBy line σ e = [] ∧ receivedFrom line [e] = []) :
    Lined o' (σ ++ [e]) := by
  refine h.step hnext (fun line => ?_) (fun line _ => ?_) (fun line _ => hsilent line)
    (fun login k hk => ?_) (fun login k hk => ?_) (fun login k hk hl => ?_)
  · rw [Mailroom.isListening, hlines]
    rfl
  · rw [(hsilent line).1, (hsilent line).2, List.append_nil, Mailroom.onLine, hlines]
    rfl
  · rw [hsession] at hk
    exact h.named login k hk
  · rw [hsession]
    exact h.live login k (hlive ▸ hk)
  · rw [hsession] at hk
    rw [hlive]
    exact h.remembered login k hk hl

/-- An id that is drawn goes down no line. -/
theorem Lined.draw (h : Lined o σ) (accepted : List (String × Queued)) (id : UInt64) (use : Use) :
    Lined ⟨o.room.draw.2, accepted⟩ (σ ++ [.drew id use]) :=
  h.frame rfl rfl rfl (fun _ _ => rfl) fun _ => ⟨rfl, rfl⟩

theorem Lined.opens (h : Lined o σ) : Lined { o with room := o.room.openLine.2 } σ where
  opened line hl := by
    rcases (o.room.isListening_openLine line).1 hl with rfl | hold
    · exact Nat.lt_succ_self _
    · exact Nat.lt_succ_of_lt (h.opened line hold)
  named login k hk := Nat.lt_succ_of_lt (h.named login k hk)
  unopened line hl := h.unopened line (Nat.le_of_succ_le hl)
  live := h.live
  remembered login k hk hl := by
    rcases (o.room.isListening_openLine k.line).1 hl with heq | hold
    · exact absurd heq (Nat.ne_of_lt (h.named login k hk))
    · exact h.remembered login k hk hold
  flow line hl := by
    show _ ++ o.room.openLine.2.onLine line = _
    rw [o.room.onLine_openLine]
    rcases (o.room.isListening_openLine line).1 hl with rfl | hold
    · rw [if_pos rfl, (h.unopened _ (Nat.le_refl _)).1, (h.unopened _ (Nat.le_refl _)).2]
      rfl
    · rw [if_neg (Nat.ne_of_lt (h.opened line hold))]
      exact h.flow line hold

theorem Lined.hangsUp (h : Lined o σ) (line : Nat) :
    Lined { o with room := o.room.hangUp line } σ where
  opened other hl := h.opened other ((o.room.isListening_hangUp line other).1 hl).2
  named := h.named
  unopened := h.unopened
  live := h.live
  remembered login k hk hl :=
    h.remembered login k hk ((o.room.isListening_hangUp line k.line).1 hl).2
  flow other hl := by
    obtain ⟨hne, hold⟩ := (o.room.isListening_hangUp line other).1 hl
    show _ ++ (o.room.hangUp line).onLine other = _
    rw [o.room.onLine_hangUp, if_neg hne]
    exact h.flow other hold

theorem Lined.receives (h : Lined o σ) {r : Wire.Request} {room : Mailroom}
    (hreceive : o.room.receive? line = some (r, room)) :
    Lined { o with room } (σ ++ [.received line r]) := by
  obtain ⟨hon, helse⟩ := Mailroom.onLine_receive? hreceive
  obtain ⟨rest, hline, hroom⟩ := Mailroom.receive?_eq_some hreceive
  have hreceived : ∀ other, receivedFrom other [.received line r] =
      if line = other then [r] else [] := fun other => by
    by_cases heq : line = other
    · simp [receivedFrom, heq]
    · simp [receivedFrom, heq]
  refine h.step (by rw [hroom]) (Mailroom.isListening_receive? hreceive) (fun other _ => ?_)
    (fun other hle => ⟨rfl, ?_⟩) h.named (fun login k hk => ?_) (fun login k hk hl => ?_)
  · rw [hreceived]
    show _ = o.room.onLine other ++ []
    rw [List.append_nil]
    by_cases heq : line = other
    · subst heq
      rw [if_pos rfl, hon]
      rfl
    · rw [if_neg heq, List.nil_append]
      exact helse other fun h => heq h.symm
  · have hopen := h.opened line ((o.room.isListening_iff line).2 ⟨_, hline⟩)
    rw [hreceived, if_neg (Nat.ne_of_lt (Nat.lt_of_lt_of_le hopen hle))]
  · exact h.live login k (by rw [hroom] at hk; exact hk)
  · rw [hroom]
    exact h.remembered login k hk hl

theorem Lined.registers (h : Lined o σ) (login : String) {k : Handle}
    (hk : k.line < o.room.nextLine) (backlog : List Queued) (signal : UInt64) :
    Lined
      { o with
        room := { o.room.send k.line (backlog.map Queued.request ++ [queueEmptyRequest signal]) with
          live := o.room.live.insert login k } }
      (σ ++ [.registered login k backlog signal]) := by
  let sent := backlog.map Queued.request ++ [queueEmptyRequest signal]
  refine h.step rfl (fun line => o.room.isListening_send k.line line sent) (fun line hl => ?_)
    (fun line hle => ⟨?_, rfl⟩) (fun other j hj => ?_) (fun other j hj => ?_)
    (fun other j hj hl => ?_)
  · show (o.room.send k.line sent).onLine line = _ ++ if k.line = line then sent else []
    rw [o.room.onLine_send]
    by_cases heq : k.line = line
    · subst heq
      rw [if_pos rfl, if_pos ⟨rfl, hl⟩]
    · rw [if_neg heq, if_neg fun hc => heq hc.1.symm, List.append_nil]
  · exact if_neg (Nat.ne_of_lt (Nat.lt_of_lt_of_le hk hle))
  · change (if login = other then some k else sessionOf other σ) = some j at hj
    split at hj
    · exact Option.some.inj hj ▸ hk
    · exact h.named other j hj
  · show (if login = other then some k else sessionOf other σ) = some j
    rw [Table.get?_insert] at hj
    split
    · next heq => rwa [if_pos heq.symm] at hj
    · next hne => exact h.live other j (by rwa [if_neg fun heq => hne heq.symm] at hj)
  · change (if login = other then some k else sessionOf other σ) = some j at hj
    rw [Table.get?_insert]
    split at hj
    · next heq => rwa [if_pos heq.symm]
    · next hne =>
      rw [if_neg fun heq => hne heq.symm]
      exact h.remembered other j hj hl

theorem Lined.unregisters (h : Lined o σ) (login : String) (session : UInt64) :
    Lined { o with room := o.room.unregister login session }
      (σ ++ [.unregistered login session]) := by
  have hroom : (o.room.unregister login session).lines = o.room.lines ∧
      (o.room.unregister login session).nextLine = o.room.nextLine := by
    rcases o.room.unregister_eq login session with heq | heq <;> rw [heq] <;> exact ⟨rfl, rfl⟩
  have hafter : ∀ other, sessionAfter other (sessionOf other σ) (.unregistered login session) =
      if login = other then (sessionOf other σ).filter (·.session ≠ session)
      else sessionOf other σ := fun _ => rfl
  refine h.step hroom.2 (fun line => ?_) (fun line hl => ?_) (fun line hle => ⟨rfl, rfl⟩)
    (fun other k hk => ?_) (fun other k hk => ?_) (fun other k hk hl => ?_)
  · rw [Mailroom.isListening, hroom.1]
    rfl
  · show (o.room.unregister login session).onLine line = _ ++ []
    rw [Mailroom.onLine, hroom.1, List.append_nil]
    rfl
  · rw [hafter] at hk
    split at hk
    · exact h.named other k (Option.filter_eq_some_iff.1 hk).1
    · exact h.named other k hk
  · rw [o.room.live_unregister_eq] at hk
    rw [hafter]
    split
    · next heq =>
      subst heq
      rw [if_pos rfl] at hk
      obtain ⟨hold, hne⟩ := Option.filter_eq_some_iff.1 hk
      exact Option.filter_eq_some_iff.2 ⟨h.live _ k hold, hne⟩
    · next hne => exact h.live other k (by rwa [if_neg fun heq => hne heq.symm] at hk)
  · rw [hafter] at hk
    rw [o.room.live_unregister_eq]
    split at hk
    · next heq =>
      subst heq
      obtain ⟨hold, hne⟩ := Option.filter_eq_some_iff.1 hk
      rw [if_pos rfl]
      exact Option.filter_eq_some_iff.2 ⟨h.remembered _ k hold hl, hne⟩
    · next hne =>
      rw [if_neg fun heq => hne heq.symm]
      exact h.remembered other k hk hl

/-- What is said of a message is true: it is said to be live exactly if its recipient has a session
whose line was not hung up; then it went down this line, and otherwise down none. -/
def Truthful (o : Office) (past : List Entry) (recipient : String) (r : Wire.Request)
    (delivery : Delivery) (room : Mailroom) : Prop :=
  (delivery = .live ↔
    ∃ k, sessionOf recipient past = some k ∧ o.room.isListening k.line = true) ∧
  ∀ line, room.onLine line =
    if delivery = .live ∧ (sessionOf recipient past).any (·.line = line) then
      o.room.onLine line ++ [r]
    else o.room.onLine line

/-- **What is said of a message is true.** -/
theorem Lined.truthful (h : Lined o σ) (login : String) (q : Queued) :
    Truthful o σ login q.request (o.room.post login q).1 (o.room.post login q).2 := by
  rcases o.room.post_delivery login q with
    ⟨k, hk, hlisten, hlive, -, hlines⟩ | ⟨hdead, hqueued, hlines, -⟩
  · have hsession := h.live login k hk
    refine ⟨⟨fun _ => ⟨k, hsession, hlisten⟩, fun _ => hlive⟩, fun line => ?_⟩
    have hon := o.room.onLine_send k.line line [q.request]
    rw [Mailroom.onLine] at hon ⊢
    rw [hlines, hon, hsession, hlive]
    by_cases heq : k.line = line
    · subst heq
      simp [hlisten]
    · rw [if_neg fun hc => heq hc.1.symm]
      simp [heq]
  · rw [hqueued]
    refine ⟨⟨fun hlive => ?_, ?_⟩, fun line => ?_⟩
    · cases hlive
    · rintro ⟨k, hk, hl⟩
      rw [hdead k (h.remembered login k hk hl)] at hl
      cases hl
    · rw [if_neg (by simp), Mailroom.onLine, hlines]
      rfl

theorem Lined.posts (h : Lined o σ) (login : String) (q : Queued)
    (accepted : List (String × Queued)) :
    Lined { room := (o.room.post login q).2, accepted } (σ ++ [.posted login q]) := by
  obtain ⟨hdelivery, hon⟩ := h.truthful login q
  refine h.step (o.room.post_next login q).2 (o.room.isListening_post login q) (fun line hl => ?_)
    (fun line hle => ⟨?_, rfl⟩) h.named (fun other k hk => h.live other k (Mailroom.live_post hk))
    (fun other k hk hl => ?_)
  · show (o.room.post login q).2.onLine line = o.room.onLine line ++ if _ then _ else _
    rw [hon]
    by_cases hany : (sessionOf login σ).any (·.line = line) = true
    · -- the session that the story names has not hung up, so that the message is live
      obtain ⟨k, hk, hline⟩ := (Option.any_eq_true _ _).1 hany
      have hline : k.line = line := by simpa using hline
      rw [if_pos ⟨hdelivery.2 ⟨k, hk, hline ▸ hl⟩, hany⟩, if_pos hany]
    · rw [if_neg fun hc => hany hc.2, if_neg hany, List.append_nil]
  · exact sentBy_posted_eq_nil fun k hk =>
      Nat.ne_of_lt (Nat.lt_of_lt_of_le (h.named login k hk) hle)
  · have hold := h.remembered other k hk hl
    rcases o.room.post_delivery login q with ⟨-, -, -, -, hlive, -⟩ | ⟨hdead, -, -, hlive⟩
    · rwa [hlive]
    · rw [hlive, if_neg ?_]
      · exact hold
      · rintro rfl
        rw [hdead k hold] at hl
        cases hl

/-- **Every effect keeps lines and live sessions as the story says.** -/
theorem Lined.does (h : Lined o σ) (hdoes : o.Does es o') : Lined o' (σ ++ es) := by
  cases hdoes with
  | idle => rwa [List.append_nil]
  | opens =>
    rw [List.append_nil]
    exact h.opens
  | hangsUp line =>
    rw [List.append_nil]
    exact h.hangsUp line
  | receives line r room hreceive => exact h.receives hreceive
  | draws | accepts => exact h.draw _ _ _
  | registers login k hk =>
    have hregistered := (h.draw o.accepted o.room.nextId (.queueEmpty login)).registers login hk
      (o.room.mailbox login) o.room.nextId
    rwa [List.append_assoc] at hregistered
  | unregisters login session => exact h.unregisters login session
  | acknowledges login id =>
    obtain ⟨mailboxes, heq⟩ := o.room.acknowledge_eq login id
    rw [heq]
    exact h.frame rfl rfl rfl (fun _ _ => rfl) fun _ => ⟨rfl, rfl⟩
  | posts login q before after _ => exact h.posts login q _

theorem lined (accounts : Accounts) (moves : List Move) :
    Lined ((start accounts).makeAll moves) ((start accounts).story moves) := by
  refine induct accounts ?_ (fun _ _ _ _ h hdoes => h.does hdoes) moves
  exact ⟨nofun, nofun, fun _ _ => ⟨rfl, rfl⟩, nofun, nofun, nofun⟩

/-! ## The line of a session that is registered once -/

/-- Whether an entry ends the registration of a session, by another one or by itself. -/
def Entry.ends (login : String) (session : UInt64) : Entry → Bool
  | .registered l _ _ _ => l = login
  | .unregistered l s => l = login ∧ s = session
  | _ => false

/-- The messages that a story posts to a login before the registration of a session ends. -/
def postedWhile (login : String) (session : UInt64) (σ : List Entry) : List Queued :=
  ((posts (σ.takeWhile fun e => !e.ends login session)).filter (·.1 = login)).map Prod.snd

theorem sessionAfter_eq_some {login : String} {session? : Option Handle} {e : Entry} {k : Handle}
    (h : sessionAfter login session? e = some k) :
    session? = some k ∨ ∃ backlog signal, e = .registered login k backlog signal := by
  cases e with
  | registered l j backlog signal =>
    change (if l = login then some j else session?) = some k at h
    split at h
    · next heq => exact .inr ⟨backlog, signal, by rw [heq, Option.some.inj h]⟩
    · exact .inl h
  | unregistered l session =>
    change (if l = login then session?.filter _ else session?) = some k at h
    split at h
    · exact .inl (Option.filter_eq_some_iff.1 h).1
    · exact .inl h
  | drew | posted | acknowledged | received => exact .inl h

/-- A session of a login was registered. -/
theorem registered_of_sessionOf {login : String} {k : Handle} (h : sessionOf login σ = some k) :
    ∃ backlog signal, .registered login k backlog signal ∈ σ := by
  induction σ using List.reverseRecOn with
  | nil => cases h
  | append_singleton σ e ih =>
    rw [sessionOf_snoc] at h
    rcases sessionAfter_eq_some h with hold | ⟨backlog, signal, rfl⟩
    · obtain ⟨backlog, signal, hmem⟩ := ih hold
      exact ⟨backlog, signal, List.mem_append_left _ hmem⟩
    · exact ⟨backlog, signal, List.mem_append_right _ List.mem_cons_self⟩

/-- Nothing is sent down a line that no session has and none is given. -/
theorem sentDown_of_unused {past rest : List Entry}
    (hpast : ∀ l k, sessionOf l past = some k → k.line ≠ line)
    (hrest : ∀ l k backlog signal, .registered l k backlog signal ∈ rest → k.line ≠ line) :
    sentDown line past rest = [] := by
  induction rest generalizing past with
  | nil => rfl
  | cons e rest ih =>
    have hnone : sentBy line past e = [] := by
      cases e with
      | registered l k backlog signal => exact if_neg (hrest l k _ _ List.mem_cons_self)
      | posted l q => exact sentBy_posted_eq_nil (hpast l)
      | drew | unregistered | acknowledged | received => rfl
    rw [sentDown, hnone, List.nil_append]
    refine ih (fun l k hk => ?_) fun l k backlog signal hmem =>
      hrest l k backlog signal (List.mem_cons_of_mem _ hmem)
    rw [sessionOf_snoc] at hk
    rcases sessionAfter_eq_some hk with hold | ⟨backlog, signal, rfl⟩
    · exact hpast l k hold
    · exact hrest l k backlog signal List.mem_cons_self

theorem postedWhile_cons (login : String) (session : UInt64) (e : Entry) (σ : List Entry) :
    postedWhile login session (e :: σ) =
      if e.ends login session = true then []
      else ((posts [e]).filter (·.1 = login)).map Prod.snd ++ postedWhile login session σ := by
  unfold postedWhile
  rw [List.takeWhile_cons]
  split
  · next hcont =>
    rw [if_neg (by simpa using hcont), ← List.map_append, ← List.filter_append, ← posts_append]
    rfl
  · next hends =>
    rw [if_pos (by simpa using hends)]
    rfl

section Ends
variable {login : String} {h : Handle} {e : Entry}

/-- What ends a registration sends nothing down the line, unless it gives the line away again. -/
theorem sentBy_of_ends {past : List Entry} (hends : e.ends login h.session = true)
    (hline : ∀ l k backlog signal, e = .registered l k backlog signal → k.line ≠ h.line) :
    sentBy h.line past e = [] := by
  cases e with
  | registered l k backlog signal => exact if_neg (hline l k _ _ rfl)
  | unregistered => rfl
  | drew | posted | acknowledged | received => cases hends

/-- After what ends a registration, the login has another session or none. -/
theorem line_ne_of_ends {k : Handle} (hends : e.ends login h.session = true)
    (hk : sessionAfter login (some h) e = some k)
    (hline : ∀ l k backlog signal, e = .registered l k backlog signal → k.line ≠ h.line) :
    k.line ≠ h.line := by
  cases e with
  | registered l j backlog signal =>
    have hl : l = login := by simpa [Entry.ends] using hends
    change (if l = login then some j else some h) = some k at hk
    rw [if_pos hl] at hk
    exact Option.some.inj hk ▸ hline l j _ _ rfl
  | unregistered l session =>
    obtain ⟨hl, hsession⟩ : l = login ∧ session = h.session := by simpa [Entry.ends] using hends
    change (if l = login then (some h).filter (·.session ≠ session) else some h) = some k at hk
    rw [if_pos hl, hsession] at hk
    obtain ⟨heq, hne⟩ := Option.filter_eq_some_iff.1 hk
    rw [← Option.some.inj heq] at hne
    simp at hne
  | drew | posted | acknowledged | received => cases hends

/-- What does not end a registration leaves the session to the login. -/
theorem sessionAfter_of_not_ends (hends : ¬ e.ends login h.session = true) :
    sessionAfter login (some h) e = some h := by
  cases e with
  | registered l j backlog signal =>
    have hl : ¬ l = login := by simpa [Entry.ends] using hends
    exact if_neg hl
  | unregistered l session =>
    show (if l = login then (some h).filter (·.session ≠ session) else some h) = some h
    split
    · next hl =>
      have hne : h.session ≠ session := fun heq => hends (by simp [Entry.ends, hl, heq])
      simp [hne]
    · rfl
  | drew | posted | acknowledged | received => rfl

end Ends

/-- **What a story sends down the line of a registered session** is what it posts to the login while
the registration lasts, if no other session has the line. -/
theorem sentDown_of_registered {login : String} {h : Handle} {past rest : List Entry}
    (hself : sessionOf login past = some h)
    (hother : ∀ l k, l ≠ login → sessionOf l past = some k → k.line ≠ h.line)
    (hrest : ∀ l k backlog signal, .registered l k backlog signal ∈ rest → k.line ≠ h.line) :
    sentDown h.line past rest = (postedWhile login h.session rest).map Queued.request := by
  induction rest generalizing past with
  | nil => rfl
  | cons e rest ih =>
    have hrest' : ∀ l k backlog signal, .registered l k backlog signal ∈ rest → k.line ≠ h.line :=
      fun l k backlog signal hmem => hrest l k backlog signal (List.mem_cons_of_mem _ hmem)
    have hhead : ∀ l k backlog signal, e = .registered l k backlog signal → k.line ≠ h.line :=
      fun l k backlog signal heq => hrest l k backlog signal (heq ▸ List.mem_cons_self)
    have hother' : ∀ l k, l ≠ login → sessionOf l (past ++ [e]) = some k → k.line ≠ h.line := by
      intro l k hl hk
      rw [sessionOf_snoc] at hk
      rcases sessionAfter_eq_some hk with hold | ⟨backlog, signal, rfl⟩
      · exact hother l k hl hold
      · exact hhead l k backlog signal rfl
    rw [sentDown, postedWhile_cons]
    by_cases hends : e.ends login h.session = true
    · -- from here on no session has the line
      rw [if_pos hends, sentBy_of_ends hends hhead]
      refine sentDown_of_unused (fun l k hk => ?_) hrest'
      by_cases hl : l = login
      · rw [hl, sessionOf_snoc, hself] at hk
        exact line_ne_of_ends hends hk hhead
      · exact hother' l k hl hk
    · have hself' : sessionOf login (past ++ [e]) = some h := by
        rw [sessionOf_snoc, hself]
        exact sessionAfter_of_not_ends hends
      rw [if_neg hends, ih hself' hother' hrest', List.map_append]
      congr 1
      cases e with
      | posted l q =>
        show (if _ then _ else _) = _
        by_cases hl : l = login
        · simp [posts, hl, hself]
        · have hnone := sentBy_posted_eq_nil (q := q) (hother l · hl)
          rw [sentBy] at hnone
          simp [posts, hl, hnone]
      | registered l k backlog signal => exact if_neg (hhead l k _ _ rfl)
      | drew | unregistered | acknowledged | received => rfl

/-- Only a move that registers a session adds that to the story. -/
theorem register_of_registered {moves : List Move} {login : String} {k : Handle}
    {backlog : List Queued} {signal : UInt64}
    (h : .registered login k backlog signal ∈ o.story moves) : .register login k ∈ moves := by
  induction moves generalizing o with
  | nil => cases h
  | cons move moves ih =>
    rcases List.mem_append.1 h with hmove | hmoves
    · cases move with
      | register l j =>
        unfold entries at hmove
        dsimp only at hmove
        split at hmove
        · obtain ⟨rfl, rfl, -⟩ : login = l ∧ k = j ∧ _ := by simpa using hmove
          exact List.mem_cons_self
        · cases hmove
      | openLine | hangUp | draw | unregister | acknowledge => simp [entries] at hmove
      | receive | accept | post | deliver =>
        unfold entries at hmove
        dsimp only at hmove
        split at hmove <;> simp at hmove
    · exact List.mem_cons_of_mem _ (ih hmoves)

/-! ## The ids on a line -/

theorem postedWhile_sublist (login : String) (session : UInt64) (σ : List Entry) :
    (postedWhile login session σ).Sublist ((posts σ).map Prod.snd) := by
  have htake : (posts (σ.takeWhile fun e => !e.ends login session)).Sublist (posts σ) :=
    (List.takeWhile_sublist _).filterMap _
  exact (List.filter_sublist.trans htake).map Prod.snd

/-- The id of a signal is that of no message. -/
theorem Sound.ne_of_drew (h : Sound o σ) (hroom : (draws σ).length ≤ UInt64.size) {id : UInt64}
    {use : Use} (hdrew : (id, use) ∈ draws σ) (huse : use.isMessage = false) {q : Queued}
    (hq : q ∈ (posts σ).map Prod.snd) : q.id ≠ id := by
  intro heq
  obtain ⟨⟨login, q⟩, hposted, rfl⟩ := List.mem_map.1 hq
  have hsame := List.inj_on_of_nodup_map (h.nodup_draws hroom) hdrew (h.drew hposted) heq.symm
  obtain rfl : use = .message login := congrArg Prod.snd hsame
  cases huse

/-- **No request stands twice** among a backlog, a signal that is drawn after it, and what is posted
then. -/
theorem Sound.nodup_stream {σ' : List Entry} {login : String} {h : Handle} {id : UInt64}
    {backlog : List Queued} (hsound : Sound o σ') (hroom : (draws σ').length ≤ UInt64.size)
    (later : List Entry)
    (hsplit : σ' = σ ++ (.drew id (.queueEmpty login) :: .registered login h backlog id :: later)) :
    id ∉ (draws σ).map Prod.fst ∧
      (((outstanding login σ).map Queued.request ++ queueEmptyRequest id ::
        (postedWhile login h.session later).map Queued.request).map (·.id)).Nodup := by
  have hposts : posts σ' = posts σ ++ posts later := by
    rw [hsplit, posts_append]
    rfl
  have hdraws : draws σ' = draws σ ++ (id, .queueEmpty login) :: draws later := by
    rw [hsplit, draws_append]
    rfl
  have hout : (outstanding login σ).Sublist ((posts σ).map Prod.snd) := by
    simpa [Function.comp_def] using (outstanding_sublist login σ).map Prod.snd
  have hall : (outstanding login σ ++ postedWhile login h.session later).Sublist
      ((posts σ').map Prod.snd) := by
    rw [hposts, List.map_append]
    exact hout.append (postedWhile_sublist login h.session later)
  have hnodup :
      ((outstanding login σ ++ postedWhile login h.session later).map Queued.id).Nodup := by
    refine (hall.map Queued.id).nodup ?_
    rw [List.map_map]
    exact hsound.nodup_posts hroom
  have hsignal : id ∉ (outstanding login σ ++ postedWhile login h.session later).map Queued.id := by
    intro hmem
    obtain ⟨q, hq, hid⟩ := List.mem_map.1 hmem
    have hdrew : (id, Use.queueEmpty login) ∈ draws σ' := by
      rw [hdraws]
      exact List.mem_append_right _ List.mem_cons_self
    exact hsound.ne_of_drew hroom hdrew rfl (hall.subset hq) hid
  constructor
  · have hids := hsound.nodup_draws hroom
    rw [hdraws, List.map_append, List.map_cons, List.nodup_append] at hids
    exact fun hmem => hids.2.2 id hmem id List.mem_cons_self rfl
  · have hmap : ((outstanding login σ).map Queued.request ++ queueEmptyRequest id ::
        (postedWhile login h.session later).map Queued.request).map (·.id) =
        (outstanding login σ).map Queued.id ++ id ::
          (postedWhile login h.session later).map Queued.id := by
      rw [List.map_append, List.map_cons, List.map_map, List.map_map]
      rfl
    rw [List.map_append] at hnodup hsignal
    rw [hmap]
    exact List.nodup_middle.2 (List.nodup_cons.2 ⟨hsignal, hnodup⟩)

/-! ## The line of a session -/

section
variable {accounts : Accounts} {before after : List Move} {login : String} {h : Handle}

/-- The story of a run in which a session is registered. -/
theorem story_of_register (hopen : h.line < ((start accounts).makeAll before).room.nextLine) :
    (start accounts).story (before ++ .register login h :: after) =
      (start accounts).story before ++
        (.drew ((start accounts).makeAll before).room.nextId (.queueEmpty login) ::
          .registered login h (((start accounts).makeAll before).room.mailbox login)
            ((start accounts).makeAll before).room.nextId ::
          (((start accounts).makeAll before).make (.register login h)).story after) := by
  rw [story_append, story, entries, if_pos hopen]
  rfl

/-- What is sent down the line of a session that is registered once. -/
theorem sentDown_of_register (hopen : h.line < ((start accounts).makeAll before).room.nextLine)
    (honce : ∀ l k, .register l k ∈ before ++ after → k.line ≠ h.line) :
    sentDown h.line [] ((start accounts).story (before ++ .register login h :: after)) =
      ((((start accounts).makeAll before).room.mailbox login).map Queued.request ++
          [queueEmptyRequest ((start accounts).makeAll before).room.nextId]) ++
        (postedWhile login h.session
          ((((start accounts).makeAll before).make (.register login h)).story after)).map
            Queued.request := by
  have hbefore : ∀ l k backlog signal,
      .registered l k backlog signal ∈ (start accounts).story before → k.line ≠ h.line :=
    fun l k _ _ hmem => honce l k (List.mem_append_left _ (register_of_registered hmem))
  have hpast : ∀ l k, sessionOf l ((start accounts).story before) = some k → k.line ≠ h.line := by
    intro l k hk
    obtain ⟨backlog, signal, hmem⟩ := registered_of_sessionOf hk
    exact hbefore l k backlog signal hmem
  have hnone : ∀ l k, sessionOf l [] = some k → k.line ≠ h.line := by
    intro l k hk
    cases hk
  rw [story_of_register hopen, sentDown_append, sentDown_of_unused hnone hbefore,
    List.nil_append, List.nil_append]
  -- the entry of the id sends nothing, and that of the registration the backlog with the signal
  show [] ++ ((if h.line = h.line then _ else []) ++ sentDown h.line _ _) = _
  rw [if_pos rfl, List.nil_append]
  congr 1
  refine sentDown_of_registered ?_ (fun l k hl hk => ?_) fun l k _ _ hmem =>
    honce l k (List.mem_append_right _ (register_of_registered hmem))
  · rw [sessionOf_snoc, sessionOf_snoc]
    exact if_pos rfl
  · rw [sessionOf_snoc, sessionOf_snoc] at hk
    exact hpast l k ((if_neg fun heq => hl heq.symm).symm.trans hk)

end

/-- **A line carries the backlog of its session and then what is posted to it.** A session is
registered once, on a line that was opened before and that was not hung up in the end. What was
received from the line, with what still waits on it, is: a request for each message of the mailbox
at the time of the registration, in its order; the signal; and a request for each message that was
posted to the login before the registration ended, in this order. Whatever is posted next is said to
be live exactly if it goes down the line of its recipient's session. As long as the ids have not
begun anew, the backlog is what was outstanding, the signal has a fresh id, and no request stands
twice. -/
theorem line_carries_backlog_then_posts (accounts : Accounts) (before after : List Move)
    (login : String) (h : Handle) :
    let o := (start accounts).makeAll before
    let later := (o.make (.register login h)).story after
    let o' := (start accounts).makeAll (before ++ .register login h :: after)
    let past := (start accounts).story (before ++ .register login h :: after)
    let stream := receivedFrom h.line past ++ o'.room.onLine h.line
    h.line < o.room.nextLine →
    (∀ l k, .register l k ∈ before ++ after → k.line ≠ h.line) →
    o'.room.isListening h.line = true →
    stream = (o.room.mailbox login).map Queued.request ++ queueEmptyRequest o.room.nextId ::
        (postedWhile login h.session later).map Queued.request ∧
      (∀ recipient q, Truthful o' past recipient q.request (o'.room.post recipient q).1
        (o'.room.post recipient q).2) ∧
      (∀ now recipient body delivery, (o'.room.deliver now recipient body).1 = some delivery →
        Truthful o' past recipient (Queued.request ⟨o'.room.nextId, body, now⟩) delivery
          (o'.room.deliver now recipient body).2) ∧
      ((draws past).length ≤ UInt64.size →
        o.room.mailbox login = outstanding login ((start accounts).story before) ∧
        o.room.nextId ∉ (draws ((start accounts).story before)).map Prod.fst ∧
        (stream.map (·.id)).Nodup) := by
  intro o later o' past stream hopen honce hlisten
  have hlined : Lined o' past := lined accounts _
  have hstream : stream = (o.room.mailbox login).map Queued.request ++
      queueEmptyRequest o.room.nextId ::
        (postedWhile login h.session later).map Queued.request := by
    refine (hlined.flow h.line hlisten).trans ?_
    rw [sentDown_of_register hopen honce, List.append_assoc]
    rfl
  refine ⟨hstream, hlined.truthful, fun now recipient body delivery hdelivery => ?_,
    fun hroom => ?_⟩
  · rw [Mailroom.deliver_eq] at hdelivery ⊢
    split at hdelivery
    · next haccount =>
      rw [if_pos haccount, ← Option.some.inj hdelivery]
      have htrue := (hlined.draw o'.accepted o'.room.nextId .other).truthful recipient
        ⟨o'.room.nextId, body, now⟩
      rwa [Truthful, sessionOf_snoc] at htrue
    · cases hdelivery
  · have hbound : (draws ((start accounts).story before)).length ≤ UInt64.size := by
      have hle : (draws ((start accounts).story before)).length ≤ (draws past).length := by
        show _ ≤ (draws ((start accounts).story _)).length
        rw [story_append, draws_append, List.length_append]
        exact Nat.le_add_right _ _
      exact Nat.le_trans hle hroom
    have hbacklog := (mailbox_eq_held accounts before login).trans
      (outstanding_eq_held login ((sound accounts before).nodup_posts hbound)).symm
    have hsound : Sound o' past := sound accounts _
    obtain ⟨hfresh, hnodup⟩ := hsound.nodup_stream hroom later (story_of_register hopen)
    refine ⟨hbacklog, hfresh, ?_⟩
    rw [hstream, hbacklog]
    exact hnodup

/-- When `bob` has signed in, a second message is accepted for him, but a third one comes before
it. -/
def evening : List Move :=
  [.receive 0, .accept 1 "bob" ⟨#[2]⟩, .deliver 2 "bob" ⟨#[3]⟩, .post 0, .unregister "bob" 7,
    .deliver 3 "bob" ⟨#[4]⟩]

/-- His line carries the first message, the signal, the third and the second; what comes after he
has signed out stays in his mailbox. -/
theorem line_of_evening :
    let o := (start (.ofList [("bob", "secret")])).makeAll [.deliver 0 "bob" ⟨#[1]⟩, .openLine]
    let moves := [.deliver 0 "bob" ⟨#[1]⟩, .openLine] ++ .register "bob" ⟨7, 0⟩ :: evening
    let o' := (start (.ofList [("bob", "secret")])).makeAll moves
    let past := (start (.ofList [("bob", "secret")])).story moves
    let stream := receivedFrom 0 past ++ o'.room.onLine 0
    stream.map (·.id) = [1, 2, 4, 3] ∧ (o'.room.mailbox "bob").map Queued.id = [1, 4, 3, 5] ∧
      stream = (o.room.mailbox "bob").map Queued.request ++ queueEmptyRequest o.room.nextId ::
        (postedWhile "bob" 7 ((o.make (.register "bob" ⟨7, 0⟩)).story evening)).map
          Queued.request := by
  intro o moves o' past stream
  have hrun : stream.map (·.id) = [1, 2, 4, 3] ∧
      (o'.room.mailbox "bob").map Queued.id = [1, 4, 3, 5] ∧ 0 < o.room.nextLine ∧
      o'.room.isListening 0 = true := by
    decide +kernel
  obtain ⟨hids, hbox, hopen, hlisten⟩ := hrun
  have honce : ∀ l k, Move.register l k ∈ [.deliver 0 "bob" ⟨#[1]⟩, .openLine] ++ evening →
      k.line ≠ 0 := by
    simp [evening]
  exact ⟨hids, hbox, (line_carries_backlog_then_posts (.ofList [("bob", "secret")])
    [.deliver 0 "bob" ⟨#[1]⟩, .openLine] evening "bob" ⟨7, 0⟩ hopen honce hlisten).1⟩

end Office

end ChatSockets
