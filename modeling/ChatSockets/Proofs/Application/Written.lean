import ChatSockets.Proofs.Application.Answers

/-!
# What is written on the links

The record of a socket tells what its keeper said. That it was said in these words, and not in
others, is a matter of the bytes: those that were put on a link are the front of the stream of the
messages that were said on it (`Wired`, `wired_makeAll`). A request that a call submitted is said at
most once, with exactly the words that it was submitted with and on the link that was open then
(`Sound.writes`). Most moves touch no link; `Quiet` says what these leave as it was.
-/

namespace ChatSockets

open Wire Keeper

/-! ## What is said -/

/-- Whether a message is a request with an id. -/
def Said.bears (s : Said) (id : UInt64) : Bool := s.message.request.map Wire.Request.id == some id

theorem Said.bears_iff {s : Said} {id : UInt64} :
    s.bears id = true ↔ ∃ q, s.message.request = some q ∧ q.id = id :=
  beq_iff_eq.trans Option.map_eq_some_iff

/-- A request was written at most once, with these words and on the link that was open as it was
submitted. -/
structure Record.Writes (r : Record) (i : Issue) : Prop where
  once : r.said.countP (·.bears i.id) ≤ 1
  same : ∀ s ∈ r.said, s.bears i.id = true →
    s.message = .ofRequest i.request ∧ i.link? = some s.link

namespace Record

variable {r : Record} {l : Ledger} {i : Issue} {s : Said}

theorem mem_submitted_iff (n : Nat) (m : Message) :
    (n, m) ∈ r.submitted ↔ ∃ i ∈ r.issued, i.caller?.isSome = true ∧ i.link? = some n ∧
      m = .ofRequest i.request := by
  simp only [submitted, List.mem_filterMap]
  refine exists_congr fun i => and_congr_right fun _ => ?_
  cases hcaller : i.caller? with
  | none => simp
  | some j =>
    cases hlink : i.link? with
    | none => simp
    | some n' => simp [eq_comm]

theorem mem_spoken (hs : s ∈ r.said) (hpurpose : s.purpose? = some .request) :
    (s.link, s.message) ∈ r.spoken :=
  List.mem_filterMap.2 ⟨s, hs, if_pos hpurpose⟩

/-- What was written was submitted. -/
theorem Sound.submitted_of_said (h : r.Sound l) (hs : s ∈ r.said)
    (hpurpose : s.purpose? = some .request) : ∃ i ∈ r.issued, i.caller?.isSome = true ∧
      i.link? = some s.link ∧ s.message = .ofRequest i.request :=
  (mem_submitted_iff _ _).1
    (h.order.subset (List.mem_append_left _ (mem_spoken hs hpurpose)))

/-- Every request that is written has an id that was drawn for it. -/
theorem Sound.issued_of_said (h : r.Sound l) (hs : s ∈ r.said) {q : Wire.Request}
    (hq : s.message.request = some q) : ∃ i ∈ r.issued, i.request = q := by
  rcases h.said s hs q hq with hpurpose | ⟨i, hi, -, rfl⟩
  · obtain ⟨i, hi, -, -, hm⟩ := h.submitted_of_said hs hpurpose
    rw [hm] at hq
    exact ⟨i, hi, Option.some.inj hq⟩
  · exact ⟨i, hi, rfl⟩

/-- A message that bears the id of a call's request is this request, on its link. -/
theorem Sound.said_of_bears (h : r.Sound l) (hfits : r.issued.length ≤ UInt64.size)
    (hi : i ∈ r.issued) (hcaller : i.caller?.isSome = true) (hs : s ∈ r.said)
    (hbears : s.bears i.id = true) :
    s.purpose? = some .request ∧ s.message = .ofRequest i.request ∧ i.link? = some s.link := by
  obtain ⟨q, hq, hid⟩ := Said.bears_iff.1 hbears
  rcases h.said s hs q hq with hpurpose | ⟨i', hi', hprobe, rfl⟩
  · obtain ⟨i', hi', -, hlink, hm⟩ := h.submitted_of_said hs hpurpose
    rw [hm] at hq
    obtain rfl := Option.some.inj hq
    obtain rfl := h.unique hfits hi' hi hid
    exact ⟨hpurpose, hm, hlink⟩
  · rw [h.unique hfits hi' hi hid] at hprobe
    rw [hprobe] at hcaller
    cases hcaller

/-- No id was drawn twice. -/
theorem Sound.nodup_ids (h : r.Sound l) (hfits : r.issued.length ≤ UInt64.size) :
    (r.issued.map Issue.id).Nodup := by
  rw [List.nodup_iff_injective_getElem]
  rintro ⟨p, hp⟩ ⟨p', hp'⟩ heq
  rw [List.length_map] at hp hp'
  have hid : (r.issued[p]).id = (r.issued[p']).id := by simpa using heq
  exact Fin.ext (h.place_unique hfits (List.getElem?_eq_getElem hp) (List.getElem?_eq_getElem hp')
    hid)

/-- **A request is written at most once**, as it was submitted. -/
theorem Sound.writes (h : r.Sound l) (hfits : r.issued.length ≤ UInt64.size) (hi : i ∈ r.issued)
    (hcaller : i.caller?.isSome = true) : r.Writes i := by
  refine ⟨?_, fun s hs hbears => (h.said_of_bears hfits hi hcaller hs hbears).2⟩
  let bears (x : Nat × Message) : Bool := x.2.request.map Wire.Request.id == some i.id
  calc r.said.countP (·.bears i.id)
      ≤ r.spoken.countP bears := by
        rw [spoken, List.countP_filterMap]
        refine List.countP_mono_left fun s hs hbears => ?_
        rw [if_pos (h.said_of_bears hfits hi hcaller hs hbears).1]
        exact hbears
    _ ≤ r.submitted.countP bears :=
        (List.Sublist.trans (List.sublist_append_left _ _) h.order).countP_le
    _ ≤ r.issued.countP (·.id == i.id) := by
        rw [submitted, List.countP_filterMap]
        refine List.countP_mono_left fun i' _ hbears => ?_
        split at hbears
        · exact hbears
        · cases hbears
    _ = (r.issued.map Issue.id).count i.id := by
        rw [List.count, List.countP_map]
        rfl
    _ ≤ 1 := List.nodup_iff_count_le_one.1 (h.nodup_ids hfits) i.id

end Record

/-! ## The bytes of a socket -/

/-- The bytes that were put on each link are the front of what was said on it, and on the link that
a keeper works on only those are missing that it still has to write. -/
structure Record.Wired (r : Record) (p : Phase) (opened : Nat) : Prop where
  linked : ∀ n, p.link? = some n → n < opened
  fresh : ∀ n, opened ≤ n → r.wire n = .empty ∧ r.saidOn n = []
  bytes : ∀ n, ∃ more, r.wire n ++ more = stream (r.saidOn n) ∧
    (p.link? = some n → more = p.unwritten)

namespace Record.Wired

variable {r r' : Record} {p p' : Phase} {opened : Nat}

theorem mono {opened' : Nat} (h : r.Wired p opened) (hle : opened ≤ opened') :
    r.Wired p opened' :=
  ⟨fun n hn => Nat.lt_of_lt_of_le (h.linked n hn) hle,
    fun n hn => h.fresh n (Nat.le_trans hle hn), h.bytes⟩

/-- Only the bytes and what was said count. -/
theorem of_eq (h : r.Wired p opened) (hwire : r'.wire = r.wire) (hsaid : r'.said = r.said) :
    r'.Wired p opened := by
  have hsaidOn : ∀ n, r'.saidOn n = r.saidOn n := fun n => by rw [saidOn, saidOn, hsaid]
  refine ⟨h.linked, fun n hn => ?_, fun n => ?_⟩
  · rw [hwire, hsaidOn]
    exact h.fresh n hn
  · rw [hwire, hsaidOn]
    exact h.bytes n

/-- A keeper without a link owes no bytes. -/
theorem unlinked (h : r.Wired p opened) (hlink : p'.link? = none) : r.Wired p' opened := by
  refine ⟨fun n hn => ?_, h.fresh, fun n => ?_⟩
  · rw [hlink] at hn
    cases hn
  · obtain ⟨more, hmore, -⟩ := h.bytes n
    refine ⟨more, hmore, fun hn => ?_⟩
    rw [hlink] at hn
    cases hn

/-- Bytes are put on a link, and messages are said on it. -/
theorem put (h : r.Wired p opened) {n : Nat} {b more : ByteArray} {ms : List Message}
    (hn : n < opened) (hsaid : ∀ n', r'.saidOn n' = r.saidOn n' ++ if n' = n then ms else [])
    (hwire : r'.wire = r.wire) (hlink : ∀ n', p'.link? = some n' → n' = n)
    (hbytes : r.wire n ++ (b ++ more) = stream (r.saidOn n) ++ stream ms)
    (hmore : p'.link? = some n → more = p'.unwritten) : (r'.put n b).Wired p' opened := by
  have hother : ∀ n', n' ≠ n → (r'.put n b).wire n' = r.wire n' ∧
      (r'.put n b).saidOn n' = r.saidOn n' := by
    intro n' hne
    refine ⟨(Function.update_of_ne hne _ _).trans (congrFun hwire n'), ?_⟩
    show r'.saidOn n' = _
    rw [hsaid, if_neg hne, List.append_nil]
  refine ⟨fun n' hn' => hlink n' hn' ▸ hn, fun n' hn' => ?_, fun n' => ?_⟩
  · obtain ⟨hwire', hsaid'⟩ := hother n' (Nat.ne_of_gt (Nat.lt_of_lt_of_le hn hn'))
    rw [hwire', hsaid']
    exact h.fresh n' hn'
  · by_cases heq : n' = n
    · subst heq
      refine ⟨more, ?_, hmore⟩
      have hheld : (r'.put n' b).wire n' = r.wire n' ++ b := by
        rw [← hwire]
        exact Function.update_self ..
      rw [hheld, ByteArray.append_assoc, hbytes,
        show (r'.put n' b).saidOn n' = r'.saidOn n' from rfl, hsaid, if_pos rfl, stream_append]
    · obtain ⟨hwire', hsaid'⟩ := hother n' heq
      obtain ⟨more', hmore', -⟩ := h.bytes n'
      rw [hwire', hsaid']
      exact ⟨more', hmore', fun hn' => absurd (hlink n' hn') heq⟩

/-- What was put into a pipe is what it holds more. -/
theorem gained_eq {before after : Pipe} {b : ByteArray} (h : after.held = before.held ++ b) :
    Application.gained before after = b := by
  rw [Application.gained, h]
  exact ByteArray.extract_append_eq_right rfl ByteArray.size_append

/-- A keeper makes a step. -/
theorem acts {t t' : Turn} {uttered : Option (Purpose × Message)} {heard : Option Message}
    {n : Nat} (h : r.Wired t.connection.phase opened) (hlink : linkOf? t.connection = some n)
    (hacts : Acts t uttered heard t') :
    ((r.after n uttered heard).put n (Application.gained t.link.up t'.link.up)).Wired
      t'.connection.phase opened := by
  obtain ⟨b, more, hb, hheld, hmore⟩ := hacts.puts
  obtain ⟨owed, howed, hunwritten⟩ := h.bytes n
  rw [gained_eq hheld]
  refine h.put (h.linked n hlink) (r.saidOn_after n uttered heard) (r.wire_after n uttered heard)
    (fun n' hn' => ?_) ?_ fun hstill => hmore (by rw [linkOf?_eq, hstill]; nofun)
  · rcases (hacts.keeps hlink).link with hnone | hsame
    · rw [linkOf?_eq, hn'] at hnone
      cases hnone
    · rw [linkOf?_eq, hn'] at hsame
      exact Option.some.inj hsame
  · rw [hb, ← hunwritten hlink, ← ByteArray.append_assoc, howed]
    rfl

/-- A keeper gets a new link. -/
theorem connected {t t' : Turn} {n : Nat} {hello : Handshake} (h : r.Wired p opened)
    (hn : opened ≤ n) (hleaves : t.Leaves n .new (offer (.ofHandshake hello)) t') :
    ((r.say ⟨n, none, .ofHandshake hello⟩).put n
      (Application.gained t.link.up t'.link.up)).Wired t'.connection.phase (n + 1) := by
  obtain ⟨b, more, hb, hheld, hmore⟩ := hleaves.puts
  obtain ⟨hwire, hsaid⟩ := h.fresh n hn
  rw [gained_eq hheld]
  refine (h.mono (Nat.le_succ_of_le hn)).put (Nat.lt_succ_self n)
    (r.saidOn_say ⟨n, none, .ofHandshake hello⟩) rfl (fun n' hn' => ?_) ?_
    fun hstill => hmore (by rw [linkOf?_eq, hstill]; nofun)
  · rcases hleaves.stays with ⟨hnone, -⟩ | ⟨hsame, -⟩
    · rw [linkOf?_eq, hn'] at hnone
      cases hnone
    · rw [linkOf?_eq, hn'] at hsame
      exact Option.some.inj hsame
  · rw [hwire, hsaid, hb]
    rfl

end Record.Wired

namespace Application

variable {a : Application}

/-- The bytes on every link are right. -/
def Wired (a : Application) : Prop :=
  ∀ k, (a.records k).Wired (a.connection k).phase a.opened

/-- A change of one socket. -/
theorem Wired.at {a' : Application} (k : SocketKind) (ha : a.Wired) (hopened : a.opened ≤ a'.opened)
    (hk : (a'.records k).Wired (a'.connection k).phase a'.opened)
    (helsewhere : ∀ j, j ≠ k → (a'.connection j).phase = (a.connection j).phase ∧
      a'.records j = a.records j) : a'.Wired := by
  intro j
  by_cases heq : j = k
  · exact heq ▸ hk
  · obtain ⟨hphase, hrecord⟩ := helsewhere j heq
    rw [hphase, hrecord]
    exact (ha j).mono hopened

/-- Whether a move touches no link. -/
def Move.isQuiet : Move → Bool
  | .connected .. | .keeper .. => false
  | _ => true

/-- What a move that touches no link leaves as it was. A keeper stays where it is or has no link,
and a request that is submitted is submitted on the link of the open socket. -/
structure Quiet (a a' : Application) : Prop where
  opened : a'.opened = a.opened
  phase : ∀ k, (a'.connection k).phase = (a.connection k).phase ∨ linkOf? (a'.connection k) = none
  wire : ∀ k, (a'.records k).wire = (a.records k).wire
  said : ∀ k, (a'.records k).said = (a.records k).said
  heard : ∀ k, (a'.records k).heard = (a.records k).heard
  issued : ∀ k, ∀ i ∈ (a'.records k).issued,
    i ∈ (a.records k).issued ∨ i.link? = (a.ledger k).link?

theorem Quiet.refl (a : Application) : a.Quiet a :=
  ⟨rfl, fun _ => .inl rfl, fun _ => rfl, fun _ => rfl, fun _ => rfl, fun _ _ hi => .inl hi⟩

theorem quiet_modify (a : Application) (k : SocketKind) {f : Connection → Connection}
    (h : (f (a.connection k)).phase = (a.connection k).phase ∨
      linkOf? (f (a.connection k)) = none) : a.Quiet (a.modify k f) := by
  refine ⟨rfl, fun j => ?_, fun _ => rfl, fun _ => rfl, fun _ => rfl, fun _ _ hi => .inl hi⟩
  rw [connection, modify, Sockets.get_modify]
  split
  · next heq => exact heq ▸ h
  · exact .inl rfl

/-- A call goes on. -/
theorem quiet_goOn (a : Application) (j : Nat) (goal : Goal) {p p' : Call.Phase} {s' : Sockets}
    {submitted : Option (SocketKind × Request)} (h : Call.Does a.sockets p submitted p' s') :
    a.Quiet (a.goOn j goal submitted (p', s')) := by
  cases submitted with
  | none =>
    exact ⟨rfl, fun k => .inl (h.phase k), fun _ => rfl, fun _ => rfl, fun _ => rfl,
      fun _ _ hi => .inl hi⟩
  | some x =>
    obtain ⟨k', r⟩ := x
    have hrecords : ∀ k, (a.goOn j goal (some (k', r)) (p', s')).records k =
        if k = k' then (a.records k).issue (a.issueOf j k r) else a.records k := by
      intro k
      split
      · next heq => rw [heq, records_goOn_self]
      · next hne => exact a.records_goOn_of_ne j goal r (p', s') hne
    refine ⟨rfl, fun k => .inl (h.phase k), fun k => ?_, fun k => ?_, fun k => ?_, fun k i hi => ?_⟩
    · rw [hrecords]
      split <;> rfl
    · rw [hrecords]
      split <;> rfl
    · rw [hrecords]
      split <;> rfl
    · rw [hrecords] at hi
      split at hi
      · exact (List.mem_append.1 hi).imp_right fun hi => by rw [List.mem_singleton.1 hi]; rfl
      · exact .inl hi

/-- **A move that touches no link** leaves all this as it was. -/
theorem make_quiet (a : Application) {move : Move} (h : move.isQuiet = true) :
    a.Quiet (a.make move) := by
  cases move with
  | call goal =>
    exact ⟨rfl, fun _ => .inl rfl, fun _ => rfl, fun _ => rfl, fun _ => rfl, fun _ _ hi => .inl hi⟩
  | step j stores now =>
    unfold Application.make
    dsimp only
    split
    · exact .refl a
    · exact a.quiet_goOn j _ (Call.step_does a.sockets stores now _)
  | cancel j =>
    unfold Application.make
    dsimp only
    split
    · exact .refl a
    · exact a.quiet_goOn j _ (Call.cancel_does a.sockets _)
  | operate k op =>
    unfold Application.make
    dsimp only
    split
    · exact .refl a
    · next hop =>
      exact a.quiet_modify k (.inl (Connection.perform_alike _ (by simpa using hop)).phase)
  | atHead k stores now attempt =>
    unfold Application.make
    dsimp only
    split
    · exact a.quiet_modify k (.inr (Connection.atHead_spec _ stores now attempt).1)
    · exact .refl a
  | connectFailed k stores now e =>
    unfold Application.make
    dsimp only
    split
    · exact a.quiet_modify k (.inr (connectFailed_spec _ stores now e).1)
    · exact .refl a
  | connected k stores now others link => cases h
  | keeper k branch stores now link => cases h

/-- Nor does a keeper without a link touch any. -/
theorem quiet_keeper (a : Application) {k : SocketKind} (hlink : linkOf? (a.connection k) = none)
    (branch : Branch) (stores : Stores) (now : Nat) (link : Link) :
    a.Quiet (a.make (.keeper k branch stores now link)) := by
  have hnone := ((step_acts branch stores now ⟨a.connection k, link, none⟩).of_unlinked hlink).1
  unfold Application.make turn
  dsimp only
  rw [hlink]
  refine ⟨rfl, fun j => ?_, fun _ => rfl, fun _ => rfl, fun _ => rfl, fun _ _ hi => .inl hi⟩
  rw [connection, Sockets.get_set]
  split
  · exact .inr hnone
  · exact .inl rfl

theorem Wired.quiet {a' : Application} (ha : a.Wired) (h : a.Quiet a') : a'.Wired := by
  intro k
  have hrecord := (ha k).of_eq (h.wire k) (h.said k)
  rw [h.opened]
  rcases h.phase k with hphase | hnone
  · exact hphase ▸ hrecord
  · exact hrecord.unlinked hnone

theorem records_turn_of_ne (a : Application) {k : SocketKind} (n? : Option Nat)
    (uttered : Option (Purpose × Message)) (heard : Option Message) (t t' : Turn) {j : SocketKind}
    (hj : j ≠ k) : (a.turn k n? uttered heard t t').records j = a.records j := by
  cases n? with
  | none => rfl
  | some n => exact Function.update_of_ne hj _ _

/-- **The bytes stay right with every move.** -/
theorem Wired.make (ha : a.Wired) (move : Move) : (a.make move).Wired := by
  by_cases hquiet : move.isQuiet = true
  · exact ha.quiet (a.make_quiet hquiet)
  cases move with
  | connected k stores now others link =>
    unfold Application.make
    dsimp only
    split
    · next hello deadline attempt hphase =>
      have hleaves := connected_leaves stores now (a.opened + others) hello
        ⟨a.connection k, link, none⟩
      refine ha.at k (Nat.le_succ_of_le (Nat.le_add_right _ _)) ?_ fun j hj => ⟨?_, ?_⟩
      · have hconnected := (ha k).connected (Nat.le_add_right a.opened others) hleaves
        simpa [connect, connection] using hconnected
      · simp [connect, connection, hj]
      · exact Function.update_of_ne hj _ _
    · exact ha
  | keeper k branch stores now link =>
    cases hlink : linkOf? (a.connection k) with
    | none => exact ha.quiet (a.quiet_keeper hlink branch stores now link)
    | some n =>
      have hacts := step_acts branch stores now ⟨a.connection k, link, none⟩
      unfold Application.make
      dsimp only
      rw [hlink]
      refine ha.at k (Nat.le_refl _) ?_ fun j hj => ⟨?_, ?_⟩
      · have hwired := (ha k).acts hlink hacts
        simpa [turn, connection] using hwired
      · simp [turn, connection, hj]
      · exact a.records_turn_of_ne _ _ _ _ _ hj
  | _ => exact absurd rfl hquiet

theorem wired_start (config : ClientConfig) : (start config).Wired := by
  intro k
  refine ⟨fun n hn => ?_, fun n _ => ⟨rfl, rfl⟩, fun n => ⟨.empty, rfl, fun hn => ?_⟩⟩
  · cases k <;> cases hn
  · cases k <;> cases hn

/-- **They are right after any moves.** -/
theorem wired_makeAll (ha : a.Wired) (moves : List Move) : (a.makeAll moves).Wired := by
  induction moves generalizing a with
  | nil => exact ha
  | cons move rest ih => exact ih (ha.make move)

end Application

end ChatSockets
