import ChatSockets.Proofs.Device.Dialing

/-!
# The links of a socket

A socket has one link after the other, and each begins with the handshake that is said on it: so the
handshakes that were said tell which links a socket has had (`Record.links`). The link that it has
is the last of them, everything is said on one of them, and no two sockets share one
(`Application.Linked`, kept by every move). The bytes that were put on them, link by link, are the
streams of the socket (`Application.streams`); a keeper goes on with the last of them, or a new one
begins (`streams_keeper`, `streams_connected`).
-/

namespace ChatSockets

open Keeper Wire

namespace Record

/-- The links on which a handshake was said. -/
def links (r : Record) : List Nat := (r.said.filter (·.purpose?.isNone)).map Said.link

/-- A handshake is said on a new link. -/
theorem links_say_hello (r : Record) (n : Nat) (hello : Handshake) :
    (r.say ⟨n, none, .ofHandshake hello⟩).links =
      r.links ++ if (Message.ofHandshake hello).length ≤ Frame.maxLength then [n] else [] := by
  by_cases hfit : (Message.ofHandshake hello).length ≤ Frame.maxLength
  · simp [links, say, hfit]
  · simp [links, say, hfit]

theorem links_of_said {r r' : Record} (h : r'.said = r.said) : r'.links = r.links := by
  rw [links, links, h]

/-- What is said in a step of a keeper is said on its link, and is no handshake. -/
theorem said_after (r : Record) (n : Nat) (uttered : Option (Purpose × Message))
    (heard : Option Message) : ∃ more : List Said, (r.after n uttered heard).said = r.said ++ more ∧
      ∀ s ∈ more, s.link = n ∧ s.purpose?.isSome = true := by
  cases uttered with
  | none => exact ⟨[], by cases heard <;> exact (List.append_nil _).symm, nofun⟩
  | some x =>
    obtain ⟨purpose, m⟩ := x
    refine ⟨[⟨n, some purpose, m⟩].filter (·.message.length ≤ Frame.maxLength), ?_, fun s hs => ?_⟩
    · cases heard <;> cases purpose <;> rfl
    · rw [List.mem_singleton.1 (List.mem_of_mem_filter hs)]
      exact ⟨rfl, rfl⟩

/-- Nothing but a handshake is said on a link for the first time. -/
theorem links_append_said {r r' : Record} {more : List Said} {n : Nat}
    (hsaid : r'.said = r.said ++ more) (hmore : ∀ s ∈ more, s.link = n ∧ s.purpose?.isSome = true) :
    r'.links = r.links := by
  have hnone : more.filter (·.purpose?.isNone) = [] := by
    refine List.filter_eq_nil_iff.2 fun s hs => ?_
    obtain ⟨-, hsome⟩ := hmore s hs
    simp [Option.isSome_iff_ne_none.1 hsome]
  rw [links, links, hsaid, List.filter_append, hnone, List.append_nil]

end Record

namespace Application

variable {a a' : Application} {k : SocketKind} {move : Move}

/-- What a move does to the links of a socket and what is said and put on them. -/
inductive Uses (a : Application) (k : SocketKind) (a' : Application) : Prop
  /-- nothing, or the link is let go of -/
  | rests (hsaid : (a'.records k).said = (a.records k).said)
    (hwire : (a'.records k).wire = (a.records k).wire) (hopened : a.opened ≤ a'.opened)
    (hlink : linkOf? (a'.connection k) = linkOf? (a.connection k) ∨
      linkOf? (a'.connection k) = none)
  /-- bytes are put on the link -/
  | writes (n : Nat) (b : ByteArray) (more : List Said) (hlink : linkOf? (a.connection k) = some n)
    (hlink' : linkOf? (a'.connection k) = some n ∨ linkOf? (a'.connection k) = none)
    (hsaid : (a'.records k).said = (a.records k).said ++ more)
    (hmore : ∀ s ∈ more, s.link = n ∧ s.purpose?.isSome = true)
    (hwire : (a'.records k).wire = Function.update (a.records k).wire n ((a.records k).wire n ++ b))
    (hopened : a'.opened = a.opened)
  /-- there is a new link with a handshake on it, unless the handshake has no frame -/
  | opens (n : Nat) (hello : Handshake) (b : ByteArray) (hn : a.opened ≤ n)
    (hlink : linkOf? (a'.connection k) = some n ∧
      (Message.ofHandshake hello).length ≤ Frame.maxLength ∨ linkOf? (a'.connection k) = none)
    (hsaid : (a'.records k).said = ((a.records k).say ⟨n, none, .ofHandshake hello⟩).said)
    (hwire : (a'.records k).wire = Function.update (a.records k).wire n ((a.records k).wire n ++ b))
    (hopened : a'.opened = n + 1) (helsewhere : ∀ j, j ≠ k → a'.records j = a.records j)

theorem Quiet.uses (h : a.Quiet a') (k : SocketKind) : a.Uses k a' :=
  .rests (h.said k) (h.wire k) (Nat.le_of_eq h.opened.symm)
    ((h.phase k).imp (fun hphase => by rw [linkOf?_eq, linkOf?_eq, hphase]) id)

/-- A connection that is there makes a new link for its socket, and nothing of the other. -/
theorem connected_uses (a : Application) {j : SocketKind} {hello : Handshake} {deadline : Nat}
    {attempt : Attempt} (hphase : (a.connection j).phase = .dialing hello deadline attempt)
    (stores : Stores) (now others : Nat) (link : Link) (k : SocketKind) :
    a.Uses k (a.make (.connected j stores now others link)) := by
  let t : Turn := ⟨a.connection j, link, none⟩
  have hmake : a.make (.connected j stores now others link) =
      a.connect j (a.opened + others) hello t
        (connected stores now (a.opened + others) hello t) := by
    simp only [make, hphase, t]
  have helsewhere : ∀ i, i ≠ j →
      (a.make (.connected j stores now others link)).records i = a.records i := by
    intro i hi
    rw [hmake]
    exact Function.update_of_ne hi _ _
  have hopened : (a.make (.connected j stores now others link)).opened = a.opened + others + 1 := by
    rw [hmake]
    rfl
  by_cases hk : k = j
  · subst hk
    have hrecord := records_connected hphase stores now others link
    refine .opens (a.opened + others) hello (gained link.up (connected stores now
      (a.opened + others) hello t).link.up) (Nat.le_add_right _ _) ?_ (by rw [hrecord]; rfl)
      (by rw [hrecord]; rfl) hopened helsewhere
    rw [connection_connected stores now others link hphase]
    by_cases hfit : (Message.ofHandshake hello).length ≤ Frame.maxLength
    · exact (connected_leaves stores now (a.opened + others) hello t).stays.symm.imp
        (fun hsome => ⟨hsome.1, hfit⟩) And.left
    · refine .inr ?_
      rw [connected, Frame.encode_of_lt (Nat.lt_of_not_le hfit)]
      exact (connectFailed_spec _ stores now _).1
  · refine .rests (congrArg Record.said (helsewhere k hk)) (congrArg Record.wire (helsewhere k hk))
      ?_ (.inl (congrArg linkOf? ?_))
    · rw [hopened]
      exact Nat.le_succ_of_le (Nat.le_add_right _ _)
    · rw [hmake]
      exact (Sockets.get_set _ j k _).trans (if_neg hk)

/-- A step of a keeper is about its link. -/
theorem keeper_uses (a : Application) (j : SocketKind) (branch : Branch) (stores : Stores)
    (now : Nat) (link : Link) (k : SocketKind) :
    a.Uses k (a.make (.keeper j branch stores now link)) := by
  by_cases hk : k = j
  · subst hk
    cases hlink : linkOf? (a.connection k) with
    | none => exact (a.quiet_keeper hlink branch stores now link).uses k
    | some n =>
      have hrecord := records_keeper hlink branch stores now link
      obtain ⟨more, hsaid, hmore⟩ := (a.records k).said_after n
        (utters branch now ⟨a.connection k, link, none⟩) (hears ⟨a.connection k, link, none⟩)
      refine .writes n
        (gained link.up (step branch stores now ⟨a.connection k, link, none⟩).link.up) more hlink ?_
        (by rw [hrecord]; exact hsaid) hmore ?_ rfl
      · rw [connection_keeper]
        exact ((step_acts branch stores now ⟨a.connection k, link, none⟩).keeps hlink).link.symm
      · rw [hrecord, Record.put, Record.wire_after]
  · refine .rests ?_ ?_ (Nat.le_refl _) (.inl (congrArg linkOf? ?_))
    · exact congrArg Record.said (a.records_turn_of_ne _ _ _ _ _ hk)
    · exact congrArg Record.wire (a.records_turn_of_ne _ _ _ _ _ hk)
    · exact (Sockets.get_set _ j k _).trans (if_neg hk)

/-- **A move does one of these things to the links of a socket.** -/
theorem make_uses (a : Application) (move : Move) (k : SocketKind) : a.Uses k (a.make move) := by
  cases hquiet : move.isQuiet with
  | true => exact (a.make_quiet hquiet).uses k
  | false =>
    cases move with
    | connected j stores now others link =>
      cases hphase : (a.connection j).phase with
      | dialing => exact a.connected_uses hphase stores now others link k
      | _ =>
        have hmake : a.make (.connected j stores now others link) = a := by simp only [make, hphase]
        rw [hmake]
        exact (Quiet.refl a).uses k
    | keeper j branch stores now link => exact a.keeper_uses j branch stores now link k
    | _ => cases hquiet

/-! ## The links that a socket has had -/

/-- The links of a socket: the last is the one that it has, and there are none to come among them;
everything is said on one of them. -/
structure LinkedAt (a : Application) (k : SocketKind) : Prop where
  last : ∀ n, linkOf? (a.connection k) = some n → (a.records k).links.getLast? = some n
  below : ∀ n ∈ (a.records k).links, n < a.opened
  nodup : (a.records k).links.Nodup
  said : ∀ s ∈ (a.records k).said, s.link ∈ (a.records k).links

/-- As long as no handshake is said, the links stay as they are. -/
theorem LinkedAt.of_links (h : a.LinkedAt k)
    (hlinks : (a'.records k).links = (a.records k).links) (hopened : a.opened ≤ a'.opened)
    (hlink : linkOf? (a'.connection k) = linkOf? (a.connection k) ∨
      linkOf? (a'.connection k) = none)
    (hsaid : ∀ s ∈ (a'.records k).said,
      s ∈ (a.records k).said ∨ linkOf? (a.connection k) = some s.link) : a'.LinkedAt k := by
  refine ⟨fun n hn => ?_, fun n hn => ?_, hlinks ▸ h.nodup, fun s hs => ?_⟩
  · rw [hlinks]
    rcases hlink with hsame | hnone
    · exact h.last n (hsame ▸ hn)
    · rw [hnone] at hn
      cases hn
  · exact Nat.lt_of_lt_of_le (h.below n (hlinks ▸ hn)) hopened
  · rw [hlinks]
    rcases hsaid s hs with hbefore | hlast
    · exact h.said s hbefore
    · exact List.mem_of_getLast? (h.last s.link hlast)

/-- A handshake that is said begins a new link. -/
theorem LinkedAt.opens (h : a.LinkedAt k) {n : Nat} {hello : Handshake} (hn : a.opened ≤ n)
    (hfit : (Message.ofHandshake hello).length ≤ Frame.maxLength)
    (hlink : linkOf? (a'.connection k) = some n ∨ linkOf? (a'.connection k) = none)
    (hsaid : (a'.records k).said = ((a.records k).say ⟨n, none, .ofHandshake hello⟩).said)
    (hopened : a'.opened = n + 1) : a'.LinkedAt k := by
  have hlinks := (Record.links_of_said hsaid).trans ((a.records k).links_say_hello n hello)
  rw [if_pos hfit] at hlinks
  have hfresh : n ∉ (a.records k).links := fun hmem => Nat.not_lt.2 hn (h.below n hmem)
  refine ⟨fun n' hn' => ?_, fun n' hn' => ?_, ?_, fun s hs => ?_⟩
  · rw [hlinks, List.getLast?_append_of_ne_nil _ (by simp)]
    rcases hlink with hsame | hnone
    · exact hsame.symm.trans hn'
    · rw [hnone] at hn'
      cases hn'
  · rw [hopened]
    rw [hlinks] at hn'
    rcases List.mem_append.1 hn' with hmem | hmem
    · exact Nat.lt_succ_of_le (Nat.le_trans (Nat.le_of_lt (h.below n' hmem)) hn)
    · rw [List.mem_singleton.1 hmem]
      exact Nat.lt_succ_self n
  · rw [hlinks]
    exact h.nodup.append (List.nodup_singleton n) (by simpa using hfresh)
  · rw [hlinks]
    rw [hsaid] at hs
    rcases Record.mem_say hs with hs | rfl
    · exact List.mem_append_left _ (h.said s hs)
    · exact List.mem_append_right _ List.mem_cons_self

/-- **Whatever a move does to the links** of a socket, it keeps their order. -/
theorem LinkedAt.uses (h : a.LinkedAt k) (huses : a.Uses k a') : a'.LinkedAt k := by
  cases huses with
  | rests hsaid hwire hopened hlink =>
    exact h.of_links (Record.links_of_said hsaid) hopened hlink fun s hs => .inl (hsaid ▸ hs)
  | writes n b more hlink hlink' hsaid hmore hwire hopened =>
    refine h.of_links (Record.links_append_said hsaid hmore) (Nat.le_of_eq hopened.symm)
      (hlink'.imp_left fun hsame => hsame.trans hlink.symm) fun s hs => ?_
    rw [hsaid] at hs
    refine (List.mem_append.1 hs).imp_right fun hs => ?_
    rw [(hmore s hs).1]
    exact hlink
  | opens n hello b hn hlink hsaid hwire hopened =>
    by_cases hfit : (Message.ofHandshake hello).length ≤ Frame.maxLength
    · exact h.opens hn hfit (hlink.imp_left And.left) hsaid hopened
    · -- a handshake that has no frame is not said, and the attempt has failed
      have hsame : (a'.records k).said = (a.records k).said := by simp [hsaid, Record.say, hfit]
      refine h.of_links (Record.links_of_said hsame) ?_
        (.inr (hlink.resolve_left fun hopen => hfit hopen.2)) fun s hs => .inl (hsame ▸ hs)
      rw [hopened]
      exact Nat.le_succ_of_le hn

/-- The links of both sockets, none of which they share. -/
structure Linked (a : Application) : Prop where
  each : ∀ k, a.LinkedAt k
  apart : ∀ {k k' : SocketKind} {n : Nat}, n ∈ (a.records k).links → n ∈ (a.records k').links →
    k = k'

/-- A link that a socket has after a move it had before, or it is new and no other socket has a new
one. -/
theorem Uses.links_cases (h : a.Uses k a') {n : Nat} (hn : n ∈ (a'.records k).links) :
    n ∈ (a.records k).links ∨ a.opened ≤ n ∧ ∀ j, j ≠ k → a'.records j = a.records j := by
  cases h with
  | rests hsaid => exact .inl (Record.links_of_said hsaid ▸ hn)
  | writes n' b more hlink hlink' hsaid hmore =>
    exact .inl (Record.links_append_said hsaid hmore ▸ hn)
  | opens n' hello b hn' hlink hsaid hwire hopened helsewhere =>
    rw [Record.links_of_said hsaid, Record.links_say_hello] at hn
    refine (List.mem_append.1 hn).imp_right fun hmem => ?_
    split at hmem
    · rw [List.mem_singleton.1 hmem]
      exact ⟨hn', helsewhere⟩
    · cases hmem

theorem Linked.make (h : a.Linked) (move : Move) : (a.make move).Linked := by
  refine ⟨fun k => (h.each k).uses (a.make_uses move k), fun {k k' n} hk hk' => ?_⟩
  by_contra hne
  rcases (a.make_uses move k).links_cases hk with hold | ⟨hnew, helsewhere⟩
  · rcases (a.make_uses move k').links_cases hk' with hold' | ⟨hnew', -⟩
    · exact hne (h.apart hold hold')
    · exact Nat.not_lt.2 hnew' ((h.each k).below n hold)
  · rw [helsewhere k' (Ne.symm hne)] at hk'
    exact Nat.not_lt.2 hnew ((h.each k').below n hk')

theorem linked_start (config : ClientConfig) : (start config).Linked := by
  refine ⟨fun k => ⟨fun n hn => ?_, nofun, .nil, nofun⟩, nofun⟩
  cases k <;> cases hn

/-! ## The streams of a socket -/

/-- The bytes that were put on each link of a socket, in the order in which it had them. -/
def streams (a : Application) (k : SocketKind) : List ByteArray :=
  (a.records k).links.map (a.records k).wire

theorem streams_of_eq (hsaid : (a'.records k).said = (a.records k).said)
    (hwire : (a'.records k).wire = (a.records k).wire) : a'.streams k = a.streams k := by
  rw [streams, streams, Record.links_of_said hsaid, hwire]

/-- **A keeper goes on with the last stream.** -/
theorem LinkedAt.streams_keeper (h : a.LinkedAt k) {n : Nat}
    (hlink : linkOf? (a.connection k) = some n) (branch : Branch) (stores : Stores) (now : Nat)
    (link : Link) : ∃ before last, a.streams k = before ++ [last] ∧
      (a.make (.keeper k branch stores now link)).streams k =
        before ++ [last ++ gained link.up
          (step branch stores now ⟨a.connection k, link, none⟩).link.up] := by
  have hrecord := records_keeper hlink branch stores now link
  obtain ⟨more, hsaid, hmore⟩ := (a.records k).said_after n
    (utters branch now ⟨a.connection k, link, none⟩) (hears ⟨a.connection k, link, none⟩)
  have hlinks : ((a.make (.keeper k branch stores now link)).records k).links =
      (a.records k).links := by
    rw [hrecord]
    exact Record.links_append_said hsaid hmore
  obtain ⟨before, hbefore⟩ := List.getLast?_eq_some_iff.1 (h.last n hlink)
  have hnew : n ∉ before := by
    have hnodup := h.nodup
    rw [hbefore] at hnodup
    exact fun hmem => List.disjoint_of_nodup_append hnodup hmem List.mem_cons_self
  refine ⟨before.map (a.records k).wire, (a.records k).wire n, ?_, ?_⟩
  · rw [streams, hbefore, List.map_append]
    rfl
  · rw [streams, hlinks, hbefore, List.map_append, hrecord, Record.put, Record.wire_after]
    refine congrArg₂ _ (List.map_congr_left fun n' hn' => ?_) ?_
    · have hne : n' ≠ n := by
        rintro rfl
        exact hnew hn'
      exact Function.update_of_ne hne _ _
    · exact congrArg (fun b => [b]) (Function.update_self ..)

/-- **A connection that is there begins a new stream**, if its handshake has a frame. -/
theorem LinkedAt.streams_connected (h : a.LinkedAt k) (hwired : a.Wired) {hello : Handshake}
    {deadline : Nat} {attempt : Attempt}
    (hphase : (a.connection k).phase = .dialing hello deadline attempt) (stores : Stores)
    (now others : Nat) (link : Link) :
    (a.make (.connected k stores now others link)).streams k =
      a.streams k ++ if (Message.ofHandshake hello).length ≤ Frame.maxLength then
        [gained link.up (connected stores now (a.opened + others) hello
          ⟨a.connection k, link, none⟩).link.up] else [] := by
  have hrecord := records_connected hphase stores now others link
  have hlinks : ((a.make (.connected k stores now others link)).records k).links =
      (a.records k).links ++ if (Message.ofHandshake hello).length ≤ Frame.maxLength then
        [a.opened + others] else [] := by
    rw [hrecord]
    exact (a.records k).links_say_hello (a.opened + others) hello
  have hbelow : ∀ n ∈ (a.records k).links, n ≠ a.opened + others := fun n hn =>
    Nat.ne_of_lt (Nat.lt_of_lt_of_le (h.below n hn) (Nat.le_add_right _ _))
  have hempty := ((hwired k).fresh (a.opened + others) (Nat.le_add_right _ _)).1
  rw [streams, hlinks, List.map_append, hrecord]
  refine congrArg₂ _ (List.map_congr_left fun n hn => ?_) ?_
  · exact Function.update_of_ne (hbelow n hn) _ _
  · split
    · refine congrArg (fun b => [b]) ((Function.update_self ..).trans ?_)
      show (a.records k).wire (a.opened + others) ++ _ = _
      rw [hempty, ByteArray.empty_append]
    · rfl

end Application

end ChatSockets
