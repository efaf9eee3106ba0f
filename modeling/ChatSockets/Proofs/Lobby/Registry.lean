import ChatSockets.Proofs.Lobby

/-!
# Whom the register names

`Kept` relates the live sessions of a lobby to the seats: a live session is the last one that was
registered for its login and has its seat still, and the last one is live as long as it serves.
Every shift keeps this, in particular that of a session which gives up its account late, after
another one was registered in its place; this is where sessions must differ in their ids
(`Kept.shift`). So it holds after every run (`Kept.makeAll`), and `registry_names_last` says of the
sessions themselves what follows.
-/

namespace ChatSockets.Lobby

/-- How the live sessions follow from the seats. -/
structure Kept (l : Lobby) : Prop where
  parted : ∀ (n : Nat) (g : Guest), l.guests[n]? = some g → g.Parted
  opened : ∀ n s, l.seat? n = some s → s.handle.line < l.room.nextLine
  /-- every session has a line of its own -/
  apart : ∀ n s k s', l.seat? n = some s → l.seat? k = some s' →
    s.handle.line = s'.handle.line → n = k
  listens : ∀ n s, l.seat? n = some s → s.serves = true → l.room.isListening s.handle.line = true
  entered : ∀ login n, (login, n) ∈ l.enrolled → l.HasEntered n login
  /-- a live session is the last one of its login, and has its seat still -/
  live : ∀ login h, l.room.live.get? login = some h →
    ∃ n s, l.last? login = some n ∧ l.seat? n = some s ∧ s.login = login ∧ s.handle = h
  /-- the last session of a login is live as long as it serves -/
  remembered : ∀ login n s, l.last? login = some n → l.seat? n = some s → s.serves = true →
    l.room.live.get? login = some s.handle

variable {l l' : Lobby} {login : String} {n k : Nat} {g : Guest} {s s' : Seat}

theorem kept_start (accounts : Accounts) : (start accounts).Kept where
  parted n g hg := by cases hg
  opened n s hs := by cases hs
  apart n s k s' hs := by cases hs
  listens n s hs := by cases hs
  entered login n hn := by cases hn
  live login h hh := by cases hh
  remembered login n s hn := by cases hn

/-- The last session of a login is one that was registered for it. -/
theorem enrolled_of_last? (h : l.last? login = some n) : (login, n) ∈ l.enrolled := by
  obtain ⟨e, he, rfl⟩ := Option.map_eq_some_iff.1 h
  have hlogin : e.1 = login := by simpa using List.find?_some he
  rw [← hlogin]
  exact List.mem_of_find?_eq_some he

/-- The last session of a login, after one was registered. -/
theorem last?_cons {e : String × Nat} (h : l'.enrolled = e :: l.enrolled) (login : String) :
    l'.last? login = if e.1 = login then some e.2 else l.last? login := by
  rw [last?, h, List.find?_cons]
  by_cases he : e.1 = login
  · simp only [he, decide_true, if_true, Option.map_some]
  · simp only [he, decide_false, if_false]
    rfl

theorem last?_of_enrolled (h : l'.enrolled = l.enrolled) (login : String) :
    l'.last? login = l.last? login := by rw [last?, h, last?]

/-- Two seats of different sessions have different ids. -/
theorem id_ne_of_nodup (hids : l.ids.Nodup) (hs : l.seat? n = some s) (hs' : l.seat? k = some s')
    (hne : n ≠ k) : s.handle.session ≠ s'.handle.session := by
  have hid : ∀ {m : Nat} {r : Seat}, l.seat? m = some r → l.ids[m]? = some r.handle.session := by
    intro m r hr
    obtain ⟨g, hg, hseat⟩ := Option.bind_eq_some_iff.1 hr
    obtain ⟨i, -, rfl⟩ := Option.map_eq_some_iff.1 hseat
    rw [ids, List.getElem?_map, hg]
    rfl
  intro heq
  have hn := hid hs
  have hk := hid hs'
  rw [← heq, ← hn] at hk
  exact hne (List.getElem?_inj (List.getElem?_eq_some_iff.1 hn).1 hids |>.1 hk.symm)

namespace Kept

/-- Seats that sessions had before still have lines of their own. -/
theorem lines_of_older (h : l.Kept) (hnext : l'.room.nextLine = l.room.nextLine)
    (hold : ∀ k r, l'.seat? k = some r → ∃ r', l.seat? k = some r' ∧ r'.handle = r.handle) :
    (∀ n s, l'.seat? n = some s → s.handle.line < l'.room.nextLine) ∧
      ∀ n s k s', l'.seat? n = some s → l'.seat? k = some s' →
        s.handle.line = s'.handle.line → n = k := by
  refine ⟨fun n s hs => ?_, fun n s k s' hs hs' hline => ?_⟩
  · obtain ⟨r, hr, hhandle⟩ := hold n s hs
    rw [hnext, ← hhandle]
    exact h.opened n r hr
  · obtain ⟨r, hr, hhandle⟩ := hold n s hs
    obtain ⟨r', hr', hhandle'⟩ := hold k s' hs'
    exact h.apart n r k r' hr hr' (by rw [hhandle, hhandle', hline])

/-! ## What every shift keeps -/

section

variable (h : l.Kept) (hparted : ∀ (n : Nat) (g : Guest), l'.guests[n]? = some g → g.Parted)
  (hentered : ∀ n login, l.HasEntered n login → l'.HasEntered n login)
include h hparted hentered

/-- A move that is nothing to the register. -/
theorem of_keeps (hseats : ∀ k, l'.seat? k = l.seat? k) (henrolled : l'.enrolled = l.enrolled)
    (hroom : l.room.Remembers l'.room) : l'.Kept where
  parted := hparted
  opened n s hs := hroom.nextLine ▸ h.opened n s (hseats n ▸ hs)
  apart n s k s' hs hs' := h.apart n s k s' (hseats n ▸ hs) (hseats k ▸ hs')
  listens n s hs hserves := (hroom.lines _).trans (h.listens n s (hseats n ▸ hs) hserves)
  entered login n hmem := hentered n login (h.entered login n (henrolled ▸ hmem))
  live login k hk := by
    obtain ⟨n, s, hlast, hs, hboth⟩ := h.live login k (hroom.live_of_live hk)
    exact ⟨n, s, (last?_of_enrolled henrolled login).trans hlast, (hseats n).trans hs, hboth⟩
  remembered login n s hlast hs hserves := by
    rw [last?_of_enrolled henrolled] at hlast
    rw [hseats] at hs
    exact hroom.live_of_listening (h.remembered login n s hlast hs hserves)
      (h.listens n s hs hserves)

/-- A session is signed in: it is the last one of its login, and live, on a line of its own. -/
theorem of_enters {id : UInt64} (hnew : ∀ login, ¬ l.HasEntered n login)
    (hhere : l'.HasEntered n login)
    (hseats : ∀ k, l'.seat? k =
      if k = n then some ⟨login, ⟨id, l.room.nextLine⟩, true⟩ else l.seat? k)
    (henrolled : l'.enrolled = (login, n) :: l.enrolled)
    (hroom : l'.room = (l.room.openLine.2.register login ⟨id, l.room.nextLine⟩).2) : l'.Kept := by
  have hnext : l'.room.nextLine = l.room.nextLine + 1 := by rw [hroom]; rfl
  have hlistens : ∀ line, l'.room.isListening line = true ↔
      line = l.room.nextLine ∨ l.room.isListening line = true := by
    intro line
    rw [hroom, ← l.room.isListening_openLine line]
    exact Bool.eq_iff_iff.1 (Mailroom.isListening_send _ _ _ _)
  have hlive : ∀ other, l'.room.live.get? other =
      if other = login then some ⟨id, l.room.nextLine⟩ else l.room.live.get? other := by
    intro other
    rw [hroom, Mailroom.live_register]
    rfl
  -- who is the last of another login is another session
  have hlast : ∀ other m, other ≠ login → l'.last? other = some m →
      m ≠ n ∧ l.last? other = some m := by
    intro other m hother hm
    rw [last?_cons henrolled, if_neg (Ne.symm hother)] at hm
    refine ⟨?_, hm⟩
    rintro rfl
    exact hnew other (h.entered other m (enrolled_of_last? hm))
  refine ⟨hparted, fun m r hr => ?_, fun m r k r' hr hr' hline => ?_, fun m r hr hserves => ?_,
    fun other m hmem => ?_, fun other k hk => ?_, fun other m r hm hr hserves => ?_⟩
  · rw [hseats] at hr
    rw [hnext]
    split at hr
    · cases hr
      exact Nat.lt_succ_self _
    · exact Nat.lt_succ_of_lt (h.opened m r hr)
  · rw [hseats] at hr hr'
    split at hr
    · next hm =>
      split at hr'
      · next hk => rw [hm, hk]
      · cases hr
        exact absurd hline (Nat.ne_of_gt (h.opened k r' hr'))
    · split at hr'
      · cases hr'
        exact absurd hline (Nat.ne_of_lt (h.opened m r hr))
      · exact h.apart m r k r' hr hr' hline
  · rw [hseats] at hr
    rw [hlistens]
    split at hr
    · cases hr
      exact .inl rfl
    · exact .inr (h.listens m r hr hserves)
  · rw [henrolled] at hmem
    rcases List.mem_cons.1 hmem with heq | hold
    · cases heq
      exact hhere
    · exact hentered m other (h.entered other m hold)
  · rw [hlive] at hk
    split at hk
    · next heq =>
      refine ⟨n, _, ?_, (hseats n).trans (if_pos rfl), heq.symm, Option.some.inj hk⟩
      rw [last?_cons henrolled, if_pos heq.symm]
    · next hne =>
      obtain ⟨m, r, hm, hr, hboth⟩ := h.live other k hk
      have hm' : l'.last? other = some m := by
        rw [last?_cons henrolled, if_neg (Ne.symm hne)]
        exact hm
      exact ⟨m, r, hm', by rw [hseats, if_neg (hlast other m hne hm').1]; exact hr, hboth⟩
  · rw [hlive]
    by_cases hother : other = login
    · rw [last?_cons henrolled, if_pos hother.symm] at hm
      cases hm
      rw [hseats, if_pos rfl] at hr
      cases hr
      exact if_pos hother
    · obtain ⟨hne, hm⟩ := hlast other m hother hm
      rw [hseats, if_neg hne] at hr
      rw [if_neg hother]
      exact h.remembered other m r hm hr hserves

/-- A session ends: its line is hung up, and nothing else. -/
theorem of_hangsUp {m : Mailroom} (hseat : l.seat? n = some s)
    (hseats : ∀ k, l'.seat? k = if k = n then some { s with serves := false } else l.seat? k)
    (henrolled : l'.enrolled = l.enrolled) (hkeeps : l.room.Remembers m)
    (hroom : l'.room = m.hangUp s.handle.line) : l'.Kept := by
  -- a seat is as it was, but that its session may serve no longer
  have hold : ∀ k r, l'.seat? k = some r → ∃ r', l.seat? k = some r' ∧ r'.login = r.login ∧
      r'.handle = r.handle ∧ (r.serves = true → k ≠ n ∧ r'.serves = true) := by
    intro k r hr
    rw [hseats] at hr
    split at hr
    · next hk =>
      cases hr
      exact ⟨s, hk ▸ hseat, rfl, rfl, fun hserves => by cases hserves⟩
    · next hk => exact ⟨r, hr, rfl, rfl, fun hserves => ⟨hk, hserves⟩⟩
  have hlive : l'.room.live = m.live := by rw [hroom]; rfl
  have hnext : l'.room.nextLine = l.room.nextLine := by rw [hroom]; exact hkeeps.nextLine
  obtain ⟨hopened, hapart⟩ := h.lines_of_older hnext fun k r hr =>
    (hold k r hr).imp fun _ hr' => ⟨hr'.1, hr'.2.2.1⟩
  refine ⟨hparted, hopened, hapart, fun k r hr hserves => ?_, fun other k hmem => ?_,
    fun other k hk => ?_, fun other k r hk hr hserves => ?_⟩
  · obtain ⟨r₀, hr₀, -, hhandle, hsame⟩ := hold k r hr
    obtain ⟨hne, hserves₀⟩ := hsame hserves
    rw [hroom, Mailroom.isListening_hangUp, hkeeps.lines, ← hhandle]
    exact ⟨fun hline => hne (h.apart k r₀ n s hr₀ hseat hline), h.listens k r₀ hr₀ hserves₀⟩
  · exact hentered k other (h.entered other k (henrolled ▸ hmem))
  · rw [hlive] at hk
    obtain ⟨j, r, hlast, hr, hlogin, hhandle⟩ := h.live other k (hkeeps.live_of_live hk)
    have hlast := (last?_of_enrolled henrolled other).trans hlast
    by_cases hj : j = n
    · subst hj
      obtain rfl : s = r := Option.some.inj (hseat.symm.trans hr)
      exact ⟨j, _, hlast, (hseats j).trans (if_pos rfl), hlogin, hhandle⟩
    · exact ⟨j, r, hlast, by rw [hseats, if_neg hj]; exact hr, hlogin, hhandle⟩
  · obtain ⟨r₀, hr₀, -, hhandle, hsame⟩ := hold k r hr
    have hserves₀ := (hsame hserves).2
    rw [last?_of_enrolled henrolled] at hk
    rw [hlive, ← hhandle]
    exact hkeeps.live_of_listening (h.remembered other k r₀ hk hr₀ hserves₀)
      (h.listens k r₀ hr₀ hserves₀)

/-- The run of a session returns. If another session was registered for its login meanwhile, that
one has another id. -/
theorem of_leaves (hids : l.ids.Nodup) (hseat : l.seat? n = some s)
    (hseats : ∀ k, l'.seat? k = if k = n then none else l.seat? k)
    (henrolled : l'.enrolled = l.enrolled)
    (hroom : l'.room = l.room.unregister s.login s.handle.session) : l'.Kept := by
  have hold : ∀ k r, l'.seat? k = some r → k ≠ n ∧ l.seat? k = some r := by
    intro k r hr
    rw [hseats] at hr
    split at hr
    · cases hr
    · next hk => exact ⟨hk, hr⟩
  obtain ⟨hlines, hnext⟩ : l'.room.lines = l.room.lines ∧ l'.room.nextLine = l.room.nextLine := by
    rw [hroom]
    rcases l.room.unregister_eq s.login s.handle.session with heq | heq <;> rw [heq] <;>
      exact ⟨rfl, rfl⟩
  obtain ⟨hopened, hapart⟩ := h.lines_of_older hnext fun k r hr => ⟨r, (hold k r hr).2, rfl⟩
  refine ⟨hparted, hopened, hapart, fun k r hr => ?_, fun other k hmem => ?_, fun other k hk => ?_,
    fun other k r hk hr hserves => ?_⟩
  · rw [Mailroom.isListening, hlines]
    exact h.listens k r (hold k r hr).2
  · exact hentered k other (h.entered other k (henrolled ▸ hmem))
  · rw [hroom] at hk
    obtain ⟨j, r, hlast, hr, hlogin, hhandle⟩ := h.live other k (Mailroom.live_unregister hk)
    have hj : j ≠ n := by
      rintro rfl
      obtain rfl : s = r := Option.some.inj (hseat.symm.trans hr)
      rw [Mailroom.live_unregister_eq, if_pos hlogin.symm, ← hhandle] at hk
      obtain ⟨-, hother⟩ := Option.filter_eq_some_iff.1 hk
      simp at hother
    exact ⟨j, r, (last?_of_enrolled henrolled other).trans hlast,
      by rw [hseats, if_neg hj]; exact hr, hlogin, hhandle⟩
  · obtain ⟨hne, hr⟩ := hold k r hr
    rw [last?_of_enrolled henrolled] at hk
    have hlive := h.remembered other k r hk hr hserves
    rw [hroom, Mailroom.live_unregister_eq]
    split
    · next heq =>
      rw [← heq, hlive, Option.filter_some, if_pos]
      simpa using id_ne_of_nodup hids hr hseat hne
    · exact hlive

end

/-- **Every shift keeps this**, if no two sessions have the same id. -/
theorem shift (h : l.Kept) (hids : l.ids.Nodup)
    (hparted : ∀ (n : Nat) (g : Guest), l'.guests[n]? = some g → g.Parted)
    (hentered : ∀ n login, l.HasEntered n login → l'.HasEntered n login) (hshift : Shift l l') :
    l'.Kept := by
  cases hshift with
  | keeps hseats henrolled hroom => exact h.of_keeps hparted hentered hseats henrolled hroom
  | enters n login id hnew hhere hseats henrolled hroom =>
    exact h.of_enters hparted hentered hnew hhere hseats henrolled hroom
  | hangsUp n s m hseat hseats henrolled hkeeps hroom =>
    exact h.of_hangsUp hparted hentered hseat hseats henrolled hkeeps hroom
  | leaves n s hseat hseats henrolled hroom =>
    exact h.of_leaves hparted hentered hids hseat hseats henrolled hroom

/-- **What every move keeps**, if no two sessions have the same id. -/
theorem make (h : l.Kept) (hids : l.ids.Nodup) (move : Move) : (l.make move).Kept := by
  have hchanges := l.make_changes move
  exact h.shift hids (hchanges.parted h.parted) (fun n login => hchanges.hasEntered h.parted)
    (make_shift h.parted move)

end Kept

/-- What all moves keep. -/
theorem Kept.makeAll (h : l.Kept) (moves : List Move) (hids : (l.ids ++ begun moves).Nodup) :
    (l.makeAll moves).Kept ∧ (l.makeAll moves).ids.Nodup := by
  induction moves generalizing l with
  | nil =>
    rw [begun, List.filterMap_nil, List.append_nil] at hids
    exact ⟨h, hids⟩
  | cons move moves ih =>
    have hbegun : begun (move :: moves) = begun [move] ++ begun moves := by
      rw [begun, begun, begun, ← List.filterMap_append]
      rfl
    rw [hbegun, ← List.append_assoc, ← (l.make_changes move).ids] at hids
    refine ih (h.make ?_ move) hids
    rw [(l.make_changes move).ids, List.append_assoc] at hids
    exact (List.nodup_append.1 hids).1

/-! ## What the register names -/

/-- What the register says of a login. -/
structure Names (l : Lobby) (login : String) : Prop where
  /-- the live session is the one that was registered last, it is signed in as the login, and its
  run has not returned -/
  live : ∀ h, l.room.live.get? login = some h → ∃ n g, l.last? login = some n ∧
    l.guests[n]? = some g ∧ g.session.id = h.session ∧ g.signIn? = some ⟨login, h.line⟩ ∧
    g.hasReturned = false
  /-- the end of an older session does nothing to the live one -/
  older : ∀ n, l.last? login ≠ some n →
    (l.make (.leaves n)).room.live.get? login = l.room.live.get? login
  /-- the last session is live while it is in its loop -/
  online : ∀ n g, l.last? login = some n → l.guests[n]? = some g → g.session.result? = none →
    l.room.isOnline login = true ∧ ∃ line, g.signIn? = some ⟨login, line⟩ ∧
      l.room.live.get? login = some ⟨g.session.id, line⟩
  /-- when the run of the last session has returned, no session is live -/
  offline : ∀ n g, l.last? login = some n → l.guests[n]? = some g → g.hasReturned = true →
    l.room.isOnline login = false
  nobody : l.last? login = none → l.room.isOnline login = false

/-- The end of an older session does nothing to the live one, which has another id. -/
theorem Kept.live_leaves (h : l.Kept) (hids : l.ids.Nodup) (hn : l.last? login ≠ some n) :
    (l.make (.leaves n)).room.live.get? login = l.room.live.get? login := by
  unfold Lobby.make
  dsimp only
  split
  · next session i hg =>
    have hs : l.seat? n = some ⟨i.login, ⟨session.id, i.line⟩, false⟩ := by
      obtain ⟨result, hended⟩ := h.parted n _ hg (Option.some_ne_none i)
      rw [seat?_of_guest hg]
      exact Guest.seat?_of_signIn?_eq_none (congrArg Session.Phase.signIn? hended)
    show (l.room.unregister i.login session.id).live.get? login = _
    rw [Mailroom.live_unregister_eq]
    split
    · next heq =>
      subst heq
      cases hlive : l.room.live.get? i.login with
      | none => rfl
      | some k =>
        obtain ⟨m, r, hlast, hr, -, rfl⟩ := h.live i.login k hlive
        have hne : m ≠ n := fun heq => hn (heq ▸ hlast)
        rw [Option.filter_some, if_pos]
        simpa using id_ne_of_nodup hids hr hs hne
    · rfl
  · rfl

/-- A login of which no session is registered with a seat is not online. -/
theorem Kept.not_isOnline (h : l.Kept)
    (hnone : ∀ n, l.last? login = some n → l.seat? n = none) : l.room.isOnline login = false := by
  rw [Mailroom.isOnline, Table.contains, Option.isSome_eq_false_iff, Option.isNone_iff_eq_none]
  refine Option.eq_none_iff_forall_ne_some.2 fun k hk => ?_
  obtain ⟨n, s, hlast, hs, -⟩ := h.live login k hk
  cases (hnone n hlast).symm.trans hs

theorem Kept.names (h : l.Kept) (hids : l.ids.Nodup) (login : String) : l.Names login where
  live k hk := by
    obtain ⟨n, s, hlast, hs, hlogin, hhandle⟩ := h.live login k hk
    obtain ⟨g, hg, hseat⟩ := Option.bind_eq_some_iff.1 hs
    obtain ⟨i, hi, rfl⟩ := Option.map_eq_some_iff.1 hseat
    obtain rfl : i.login = login := hlogin
    subst hhandle
    refine ⟨n, g, hlast, hg, rfl, hi, ?_⟩
    cases hreturned : g.hasReturned with
    | false => rfl
    | true => cases hseat.symm.trans (Guest.seat?_of_hasReturned hreturned)
  older n hn := h.live_leaves hids hn
  online n g hlast hg hgoes := by
    obtain ⟨g', hg', hentered⟩ := h.entered login n (enrolled_of_last? hlast)
    obtain rfl : g = g' := Option.some.inj (hg.symm.trans hg')
    obtain ⟨s, hs, hserves⟩ := hentered.serves hgoes
    have hlogin := hentered.login_eq hs
    have hlive := h.remembered login n s hlast ((seat?_of_guest hg).trans hs) hserves
    obtain ⟨i, hi, rfl⟩ := Option.map_eq_some_iff.1 hs
    obtain rfl : i.login = login := hlogin
    refine ⟨?_, i.line, hi, hlive⟩
    rw [Mailroom.isOnline, Table.contains, hlive]
    rfl
  offline n g hlast hg hreturned := by
    refine h.not_isOnline fun m hm => ?_
    obtain rfl : n = m := Option.some.inj (hlast.symm.trans hm)
    exact (seat?_of_guest hg).trans (Guest.seat?_of_hasReturned hreturned)
  nobody hnone := h.not_isOnline fun m hm => by cases hnone.symm.trans hm

/-- **The register names the right session.** In every run in which no two sessions have the same
id, however sessions of a login begin, end and are sent messages: a live session is the one that was
registered last for its login, and its run has not returned; the end of an older one does nothing to
it; while the last one is in its loop it is live, and when its run has returned none is, until
another one is registered. -/
theorem registry_names_last (accounts : Accounts) (moves : List Move) (hids : (begun moves).Nodup)
    (login : String) : ((start accounts).makeAll moves).Names login := by
  obtain ⟨hkept, hnodup⟩ := (kept_start accounts).makeAll moves hids
  exact hkept.names hnodup login

/-- Bob signs in twice. His first session ends, but gives up his account only after his second one
has; a message for him comes in between. -/
def secondSignIn : List Move :=
  let hello := Wire.stream [.ofHandshake (.identified "bob" "secret" "")]
  let enters n := [.session n .frame 0 0 { up := { held := hello } }, .session n .frame 0 0 {}]
  [.begins 7 0, .begins 8 0] ++ enters 0 ++ enters 1 ++
    [.session 0 .frame 0 0 { up := { closed := true } }, .accepts 1 "bob" ⟨#[1]⟩]

/-- His second session is live before and after his first one gives up the account. When it has
ended too, he is online until it is found out, by the message or when it gives up the account
itself. -/
theorem names_of_secondSignIn :
    let l := (start (.ofList [("bob", "secret")])).makeAll secondSignIn
    let ends : Move := .session 1 .frame 0 0 { up := { closed := true } }
    l.Names "bob" ∧ l.last? "bob" = some 1 ∧ l.room.live.get? "bob" = some ⟨8, 1⟩ ∧
      (l.make (.leaves 0)).room.live.get? "bob" = some ⟨8, 1⟩ ∧
      (l.makeAll [ends, .leaves 0]).room.isOnline "bob" = true ∧
      (l.makeAll [ends, .posts 0, .leaves 0]).room.isOnline "bob" = false ∧
      (l.makeAll [ends, .leaves 1]).room.isOnline "bob" = false := by
  intro l ends
  exact ⟨registry_names_last (.ofList [("bob", "secret")]) secondSignIn (by decide +kernel) "bob",
    by decide +kernel⟩

end ChatSockets.Lobby
