import ChatSockets.Proofs.Application.Answers
import ChatSockets.Proofs.Application.OnLink
import ChatSockets.Proofs.Socket.Probes

/-!
# One probe at a time

On every socket one probe waits at most, and the keeper knows which (`Application.Tracks`): that is
kept by whatever a move makes of the link of the socket (`OnLink.tracks`). From there
`one_probe_unanswered` says what a tick and a response do.
-/

namespace ChatSockets

open Keeper Wire

namespace Application

variable {a a' : Application} {k : SocketKind}

/-- **What a move makes of a link** leaves the probes tracked. -/
theorem OnLink.tracks (h : a.OnLink k a') (hwired : a.Wired)
    (htracks : (a.records k).Tracks (a.connection k).phase) :
    (a'.records k).Tracks (a'.connection k).phase := by
  cases h with
  | rests hopened hphase hsaid hheard hissued =>
    refine .of_link? (fun i hi hcaller => ?_) fun n hn => ?_
    · rw [hheard]
      exact htracks.timely i ((hissued i hcaller).1 hi) hcaller
    · rcases hphase with hphase | hnone
      · rw [hphase] at hn ⊢
        refine ⟨htracks.one, fun id => ?_⟩
        rw [Record.unanswered_congr hsaid hheard hissued]
        exact htracks.probes n hn id
      · rw [hnone] at hn
        cases hn
  | connects stores now n hello t hopened hopened' hconnection b hrecord =>
    refine .of_link? (hrecord ▸ htracks.timely) fun n' hn' => ?_
    rw [hconnection] at hn' ⊢
    obtain ⟨rfl, -, hnone⟩ := (connected_opens stores now n hello t).of_link? hn'
    rw [hnone]
    refine ⟨Nat.zero_le 1, fun id => ⟨nofun, ?_⟩⟩
    -- nothing but the handshake was said on the new link
    rintro ⟨since, -, hsaid, -⟩
    rw [hrecord] at hsaid
    rcases Record.mem_say hsaid with hsaid | heq
    · have hmem : _ ∈ (a.records k).saidOn n' :=
        List.mem_map_of_mem (List.mem_filter.2 ⟨hsaid, decide_eq_true rfl⟩)
      rw [((hwired k).fresh n' hopened).2] at hmem
      cases hmem
    · cases heq
  | steps branch stores now n link hlink hopened hconnection b hrecord =>
    let t : Turn := ⟨a.connection k, link, none⟩
    have hafter : ∀ id, (a'.records k).Unanswered n id ↔
        id ∈ settled (a.connection k).phase.probes (utters branch now t) (hears t) := by
      intro id
      rw [hrecord, Record.unanswered_after_iff htracks.timely fun _ _ h => (utters_probe h).1,
        mem_settled, htracks.probes n hlink]
    refine .of_link? (hrecord ▸ htracks.timely.after) fun n' hn' => ?_
    rw [hconnection] at hn' ⊢
    rcases Phase.link?_cases hlink with ⟨rest, hphase⟩ | ⟨live, hlive, rfl⟩
    · obtain ⟨rfl, -, hnone⟩ := (step_opens branch stores now (t := t) hphase).of_link? hn'
      have hsettled :
          settled (a.connection k).phase.probes (utters branch now t) (hears t) = [] := by
        simp only [settled, utters, hears, t, hphase, Phase.probes]
        rfl
      refine ⟨hnone ▸ Nat.zero_le 1, fun id => ?_⟩
      rw [hafter, hsettled, hnone]
    · have hone := length_settled_le branch now t (hears t) htracks.one
      obtain ⟨rfl, -, hprobes⟩ := (step_fares branch stores now (t := t) hlive).of_link? hn'
      rw [hprobes hone]
      exact ⟨hone, fun id => (hafter id).symm⟩

/-- The probes of both sockets are tracked. -/
def Tracks (a : Application) : Prop := ∀ k, (a.records k).Tracks (a.connection k).phase

theorem tracks_start (config : ClientConfig) : (start config).Tracks := by
  intro k
  refine .of_link? nofun fun n hn => ?_
  cases k <;> cases hn

/-- **They are tracked after any moves.** -/
theorem tracks_makeAll (hwired : a.Wired) (htracks : a.Tracks) (moves : List Move) :
    (a.makeAll moves).Tracks := by
  induction moves generalizing a with
  | nil => exact htracks
  | cons move rest ih =>
    exact ih (hwired.make move) fun k => (a.onLink_make move k).tracks hwired (htracks k)

/-! ## Whose response it is -/

variable {i : Issue} {id : UInt64}

/-- Nobody waits for the response to a probe. -/
theorem Inv.receivers_of_probe (ha : a.Inv) (hfits : a.Fits) (hi : i ∈ (a.records k).issued)
    (hprobe : i.caller? = none) : (a.ledger k).pending.receivers.get? i.id = none := by
  rw [Option.eq_none_iff_forall_ne_some]
  intro receiver hget
  obtain ⟨j, c, hc, hwaits⟩ := ha.held k i.id receiver hget
  obtain ⟨i', hi', hcaller, hid, -⟩ := ha.waits j c k i.id hc hwaits
  obtain rfl := (ha.sound.record k).unique (hfits k) hi' hi hid
  rw [hprobe] at hcaller
  cases hcaller

/-- The request of a caller is no probe. -/
theorem Inv.not_unanswered (ha : a.Inv) (hfits : a.Fits) (hi : i ∈ (a.records k).issued)
    (hcaller : i.caller?.isSome = true) (n : Nat) : ¬ (a.records k).Unanswered n i.id := by
  rintro ⟨since, hi', -⟩
  rw [(ha.sound.record k).unique (hfits k) hi hi' rfl] at hcaller
  cases hcaller

/-- **One probe is unanswered at most**, in every run of an application, on every open socket. The
keeper of a socket waits for the probe that was written on its link and not answered there, once all
of it is written; all but what the keeper still writes is on the link.

In a step the keeper keeps the socket, or closes it for the reason that it finds. The reason is the
unanswered probe exactly if there is one and the next probe is due.

A response to the unanswered probe, whatever its status, is all that the keeper does not wait for
any more, and nothing else changes. Any other response leaves the probe as it was, and goes to
whoever waits for it. As long as the ids last, nobody waits for a response to a probe, and no
response to a caller is one to the probe. -/
theorem one_probe_unanswered (config : ClientConfig) (moves : List Move) (k : SocketKind)
    {live : Live}
    (hlive : (((start config).makeAll moves).connection k).phase.live? = some live) :
    let a := (start config).makeAll moves
    let c := a.connection k
    let r := a.records k
    (∀ id id', r.Unanswered live.link id → r.Unanswered live.link id' → id = id') ∧
    (∀ id, live.awaiting = some id ↔
      r.Unanswered live.link id ∧ c.phase.writes? ≠ some id) ∧
    r.wire live.link ++ c.phase.unwritten = stream (r.saidOn live.link) ∧
    ∀ (branch : Branch) (stores : Stores) (now : Nat) (link : Link),
      let t : Turn := ⟨c, link, none⟩
      let c' := (a.make (.keeper k branch stores now link)).connection k
      (closing? branch stores now t = none →
        ∃ live', c'.phase.live? = some live' ∧ live'.link = live.link) ∧
      (∀ why, closing? branch stores now t = some why → c'.phase.link? = none ∧
        ∃ (u : Turn) (heard : Bool), c' = (u.close stores now heard why).connection) ∧
      (∀ id, closing? branch stores now t = some (.unanswered id) ↔
        branch = .probe ∧ canTake now link c .probe = true ∧ r.Unanswered live.link id) ∧
      ∀ m w, hears t = some m → m.kindOf = .response → m.response = some w →
        (r.Unanswered live.link w.id →
          c'.pending = c.pending ∧ c'.replies = c.replies ∧ c'.phase.awaits? = none) ∧
        (¬ r.Unanswered live.link w.id → c'.pending = (c.pending.complete w).2 ∧
          c'.replies =
            (c.pending.complete w).1.elim c.replies (fun x => c.replies.insert x.1 x.2) ∧
          c'.phase.awaits? = live.awaiting) ∧
        (a.Fits → ∀ i ∈ r.issued, i.id = w.id →
          (i.caller? = none → c'.pending = c.pending ∧ c'.replies = c.replies) ∧
          (i.caller?.isSome = true → c'.phase.awaits? = live.awaiting)) := by
  intro a c r
  have hwired : a.Wired := wired_makeAll (wired_start config) moves
  have htracks : r.Tracks c.phase :=
    tracks_makeAll (wired_start config) (tracks_start config) moves k
  have hlink : c.phase.link? = some live.link :=
    Phase.link?_of_openLink? (congrArg (·.map Live.link) hlive)
  refine ⟨fun id id' => htracks.unique hlink, htracks.awaiting_iff hlive, ?_, ?_⟩
  · obtain ⟨more, hmore, hunwritten⟩ := (hwired k).bytes live.link
    rw [← hunwritten hlink]
    exact hmore
  intro branch stores now link t c'
  have hc' : c' = (step branch stores now t).connection :=
    connection_keeper a k branch stores now link
  have hfares := step_fares branch stores now (t := t) hlive
  rw [hc']
  refine ⟨fun hno => ?_, fun why hwhy => ?_,
    htracks.closing_iff branch stores now (t := t) hlive, fun m w hhears hkind hw => ?_⟩
  · rw [hno] at hfares
    generalize step branch stores now t = t' at hfares
    cases hfares with
    | keeps _ live' hlive' hlink' => exact ⟨live', hlive', hlink'⟩
  · rw [hwhy] at hfares
    generalize step branch stores now t = t' at hfares
    cases hfares with
    | closes u => exact ⟨(u.close_spec stores now _ why).2.2.1, u, _, rfl⟩
  · obtain ⟨hprobe, hother⟩ :=
      htracks.step_of_response branch stores now (t := t) hlive hhears hkind hw
    refine ⟨hprobe, hother, fun hfits i hi hid => ?_⟩
    have ha : a.Inv := inv_makeAll (inv_start config) moves hfits
    refine ⟨fun hnone => ?_, fun hcaller => ?_⟩
    · by_cases hwaits : r.Unanswered live.link w.id
      · exact ⟨(hprobe hwaits).1, (hprobe hwaits).2.1⟩
      · have hnobody : c.pending.complete w = (none, c.pending) :=
          Pending.complete_of_get?_eq_none (hid ▸ ha.receivers_of_probe hfits hi hnone)
        obtain ⟨hpending, hreplies, -⟩ := hother hwaits
        exact ⟨hpending.trans (congrArg Prod.snd hnobody), hreplies.trans (by rw [hnobody]; rfl)⟩
    · exact (hother (hid ▸ ha.not_unanswered hfits hi hcaller live.link)).2.2

/-- A socket is open as the application is in the foreground, and its first probe is written. -/
def probing : List Move :=
  [.operate .unidentified (.setActive true), .atHead .unidentified {} 0 .connected,
    .connected .unidentified {} 0 0 {}] ++ looks .unidentified {} 0 ++
  [.keeper .unidentified .probe {} Delay.keepalive {}] ++ looks .unidentified {} Delay.keepalive

/-- When the second probe is due and the first one is not answered, the socket is closed for it. -/
theorem first_probe_unanswered :
    let a := (start {}).makeAll probing
    let t : Turn := ⟨a.connection .unidentified, {}, none⟩
    (a.records .unidentified).Unanswered 0 1 ∧
      closing? .probe {} (2 * Delay.keepalive) t = some (.unanswered 1) := by
  intro a t
  have hlive : (a.connection .unidentified).phase.live? =
      some { link := 0, probeAt := 2 * Delay.keepalive, awaiting := some 1 } := rfl
  obtain ⟨-, hawaiting, -, hstep⟩ := one_probe_unanswered {} probing .unidentified hlive
  obtain ⟨-, -, hcloses, -⟩ := hstep .probe {} (2 * Delay.keepalive) {}
  have hwaits : (a.records .unidentified).Unanswered 0 1 := ((hawaiting 1).1 rfl).1
  exact ⟨hwaits, (hcloses 1).2 ⟨rfl, rfl, hwaits⟩⟩

end Application

end ChatSockets
