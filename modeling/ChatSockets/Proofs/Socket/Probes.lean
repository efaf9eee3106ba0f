import ChatSockets.Proofs.Socket.Standing
import ChatSockets.Proofs.Socket.Verdict

/-!
# Probes and their responses

A probe has an id from the same count as the requests of callers, but nobody waits for its response
in the table of those who wait. The record tells which probes were written on a link and not
answered there (`Record.Unanswered`), and a keeper that keeps track of them (`Record.Tracks`) has
one at most, waits for it as soon as it is written, and closes its socket for it exactly when the
next one is due (`Tracks.closing_iff`). A response goes to the probe or to the table, and never to
both (`Tracks.step_of_response`).
-/

namespace ChatSockets

open Keeper Wire

/-- A response for which nobody waits leaves the table as it was. -/
theorem Pending.complete_of_get?_eq_none {ρ : Type} {p : Pending ρ} {w : Wire.Response}
    (h : p.receivers.get? w.id = none) : p.complete w = (none, p) := by
  rw [Pending.complete, h, Table.erase_of_get?_eq_none h]
  rfl

namespace Keeper

/-! ## The failure that is about a probe -/

/-- The failure of a socket whose probe was not answered. -/
def Turn.Close.unanswered (id : UInt64) : Turn.Close := .failed s!"keepalive {id} went unanswered"

namespace Turn.Close

theorem toList_unanswered (id : UInt64) : (s!"keepalive {id} went unanswered").toList =
    "keepalive ".toList ++ (Nat.toDigits 10 id.toNat ++ " went unanswered".toList) := by
  have hdigits : (toString id.toNat).toList = Nat.toDigits 10 id.toNat := by
    rw [Nat.toString_eq_ofList_toDigits, String.toList_ofList]
  show (("keepalive " ++ toString id.toNat) ++ " went unanswered").toList = _
  rw [String.toList_append, String.toList_append, List.append_assoc, hdigits]

/-- The failure names the probe. -/
theorem unanswered_inj {id id' : UInt64} (h : unanswered id = unanswered id') : id = id' := by
  have hlists := congrArg String.toList (Turn.Close.failed.inj h)
  rw [toList_unanswered, toList_unanswered] at hlists
  have hdigits := (List.append_inj' (List.append_cancel_left hlists) rfl).1
  refine UInt64.toNat_inj.1 ?_
  calc id.toNat = Nat.ofDigitChars 10 (Nat.toDigits 10 id.toNat) 0 :=
        Nat.ofDigitChars_ten_toDigits.symm
    _ = Nat.ofDigitChars 10 (Nat.toDigits 10 id'.toNat) 0 := by rw [hdigits]
    _ = id'.toNat := Nat.ofDigitChars_ten_toDigits

/-- A failure that begins in another way is not about a probe that was not answered. -/
theorem ne_unanswered {reason : String} (front : List Char) {rest : List Char}
    (hreason : reason.toList = front ++ rest) (hlength : 0 < front.length)
    (hfront : front.head? ≠ some 'k') (id : UInt64) : Turn.Close.failed reason ≠ unanswered id := by
  intro h
  have hlists := congrArg (·.toList.head?) (Turn.Close.failed.inj h)
  simp only [toList_unanswered, hreason] at hlists
  cases front with
  | nil => cases hlength
  | cons c front => exact hfront hlists

/-- A probe that could not be written is another failure. -/
theorem unwritten_ne_unanswered (text : String) (id : UInt64) :
    Turn.Close.failed s!"keepalive write failed: {text}" ≠ unanswered id := by
  intro h
  have hlists := congrArg String.toList (Turn.Close.failed.inj h)
  have hwritten : (s!"keepalive write failed: {text}").toList =
      "keepalive ".toList ++ ("write failed: ".toList ++ text.toList) := by
    show ("keepalive write failed: " ++ text).toList = _
    rw [String.toList_append, ← List.append_assoc]
    rfl
  rw [hwritten, toList_unanswered] at hlists
  have htails := List.append_cancel_left hlists
  -- an id begins with a digit
  cases hdigits : Nat.toDigits 10 id.toNat with
  | nil => exact Nat.toDigits_ne_nil hdigits
  | cons c digits =>
    have hdigit : c.isDigit = true :=
      Nat.isDigit_of_mem_toDigits (by decide) (by decide) (hdigits ▸ List.mem_cons_self)
    rw [hdigits] at htails
    have hc : 'w' = c := (List.cons.inj htails).1
    rw [← hc] at hdigit
    cases hdigit

end Turn.Close

section
variable {stores : Stores} {now : Nat} {t : Turn}

theorem Turn.writeFailure_ne (purpose : Purpose) (e : ChatError) (id : UInt64) :
    writeFailure purpose e ≠ .unanswered id := by
  cases purpose with
  | probe => exact Turn.Close.unwritten_ne_unanswered e.message id
  | request | reply =>
    exact Turn.Close.ne_unanswered "write failed: ".toList (String.toList_append ..) (by decide)
      (by decide) id

theorem Turn.resumeClose?_ne (t : Turn) (id : UInt64) :
    t.resumeClose? ≠ some (.unanswered id) := by
  unfold resumeClose?
  split <;> nofun

theorem Turn.lookClose?_ne (t : Turn) (stores : Stores) (now : Nat) (look : Look) (id : UInt64) :
    t.lookClose? stores now look ≠ some (.unanswered id) := by
  unfold lookClose?
  split
  · split <;> nofun
  · nofun

theorem Turn.writeClose?_ne (t : Turn) (purpose : Purpose) (b : ByteArray) (id : UInt64) :
    t.writeClose? purpose b ≠ some (.unanswered id) := by
  unfold writeClose?
  split
  · exact fun h => Turn.writeFailure_ne purpose _ id (Option.some.inj h)
  · split
    · exact t.resumeClose?_ne id
    · nofun

theorem Turn.messageClose?_ne (t : Turn) (purpose : Purpose) (m : Message) (id : UInt64) :
    t.messageClose? purpose m ≠ some (.unanswered id) := by
  unfold messageClose?
  split
  · exact fun h => Turn.writeFailure_ne purpose _ id (Option.some.inj h)
  · exact t.writeClose?_ne purpose _ id

theorem Turn.serveClose?_unanswered_iff (t : Turn) (live : Live) (branch : Branch) (id : UInt64) :
    t.serveClose? live branch = some (.unanswered id) ↔
      branch = .probe ∧ live.awaiting = some id := by
  unfold Turn.serveClose?
  cases branch with
  | woken | window => exact ⟨fun h => absurd h (t.resumeClose?_ne id), nofun⟩
  | probe =>
    cases hawaiting : live.awaiting with
    | none => exact ⟨fun h => absurd h (t.messageClose?_ne _ _ id), nofun⟩
    | some id' =>
      refine ⟨fun h => ⟨rfl, ?_⟩, fun h => ?_⟩
      · rw [Turn.Close.unanswered_inj (Option.some.inj h)]
      · rw [← Option.some.inj h.2]
        rfl
  | send =>
    refine ⟨fun h => ?_, nofun⟩
    obtain ⟨m, -, hm⟩ := Option.bind_eq_some_iff.1 h
    exact absurd hm (t.messageClose?_ne .request m id)
  | receive =>
    dsimp only
    split
    · exact ⟨fun h => absurd (Option.some.inj h) (Turn.Close.ne_unanswered
        "server closed connection".toList (List.append_nil _).symm (by decide) (by decide) id),
        nofun⟩
    · exact ⟨nofun, nofun⟩
  | timer | nudge | shutdown => exact ⟨nofun, nofun⟩

/-- **A socket is closed for an unanswered probe** exactly if a probe is due while one waits. -/
theorem closing?_unanswered_iff (branch : Branch) (stores : Stores) (now : Nat) (t : Turn)
    (id : UInt64) : closing? branch stores now t = some (.unanswered id) ↔
      branch = .probe ∧ ∃ live window, t.connection.phase = .serving live window ∧
        live.probeAt ≤ now ∧ live.awaiting = some id := by
  cases hphase : t.connection.phase with
  | serving live window =>
    simp only [closing?, hphase]
    split
    · next htake =>
      rw [t.serveClose?_unanswered_iff live branch id]
      refine and_congr_right ?_
      rintro rfl
      have hdue : live.probeAt ≤ now := by simpa [canTake, hphase] using htake
      refine ⟨fun h => ⟨live, window, rfl, hdue, h⟩, ?_⟩
      rintro ⟨_, _, ⟨⟩, -, h⟩
      exact h
    · next htake =>
      refine ⟨fun h => ?_, ?_⟩
      · cases h
      · rintro ⟨rfl, _, _, ⟨⟩, hdue, -⟩
        exact absurd (by simpa [canTake, hphase] using hdue) htake
  | draining live =>
    have hno : t.drainClose? live ≠ some (.unanswered id) := by
      unfold Turn.drainClose?
      split
      · exact t.resumeClose?_ne id
      · exact fun h => Turn.Close.ne_unanswered "bad frame: ".toList (String.toList_append ..)
          (by decide) (by decide) id (Option.some.inj h)
      · split
        · exact t.messageClose?_ne .reply _ id
        · exact (Option.some_ne_none _).symm
    simp only [closing?, hphase]
    refine ⟨fun h => absurd h hno, ?_⟩
    rintro ⟨-, _, _, ⟨⟩, -⟩
  | looking live look =>
    simp only [closing?, hphase]
    refine ⟨fun h => absurd h (t.lookClose?_ne stores now look id), ?_⟩
    rintro ⟨-, _, _, ⟨⟩, -⟩
  | writing live rest purpose =>
    simp only [closing?, hphase]
    refine ⟨fun h => absurd h (t.writeClose?_ne purpose rest id), ?_⟩
    rintro ⟨-, _, _, ⟨⟩, -⟩
  | greeting link rest =>
    have hno : t.greetClose? now rest ≠ some (.unanswered id) := by
      unfold Turn.greetClose?
      split
      · exact (Option.some_ne_none _).symm
      · unfold Turn.openClose?
        split
        · split
          · exact t.resumeClose?_ne id
          · exact (Option.some_ne_none _).symm
        · exact (Option.some_ne_none _).symm
    simp only [closing?, hphase]
    refine ⟨fun h => absurd h hno, ?_⟩
    rintro ⟨-, _, _, ⟨⟩, -⟩
  | atHead | parked | dialing | waiting | finished | crashed =>
    simp only [closing?, hphase]
    refine ⟨fun h => ?_, ?_⟩
    · cases h
    · rintro ⟨-, _, _, ⟨⟩, -⟩


/-! ## Responses -/

/-- The probe that a keeper with an open socket waits for. -/
def Phase.awaits? (p : Phase) : Option UInt64 := p.live?.bind Live.awaiting

/-- The probe that a keeper is writing. -/
def Phase.writes? : Phase → Option UInt64
  | .writing _ _ purpose => purpose.probe?
  | _ => none

/-- The probes of an open socket are the one that waits and the one that is written. -/
theorem Phase.probes_of_live? {p : Phase} {live : Live} (h : p.live? = some live) :
    p.probes = live.awaiting.toList ++ p.writes?.toList := by
  cases p with
  | looking live' | serving live' | draining live' =>
    obtain rfl : live' = live := Option.some.inj h
    exact (List.append_nil _).symm
  | writing live' rest purpose =>
    obtain rfl : live' = live := Option.some.inj h
    rfl
  | _ => cases h

/-- A response that is heard is taken. -/
theorem step_of_response {live : Live} {m : Message} {w : Wire.Response} (branch : Branch)
    (stores : Stores) (now : Nat) (hlive : t.connection.phase.live? = some live)
    (hhears : hears t = some m)
    (hkind : m.kindOf = .response) (hw : m.response = some w) :
    ∃ decoder, t.connection.phase = .draining live ∧
      step branch stores now t = t.accept { live with decoder, heard := true } w := by
  cases hphase : t.connection.phase with
  | draining live' =>
    obtain rfl : live' = live := by rw [hphase] at hlive; exact Option.some.inj hlive
    cases hnext : live'.decoder.next with
    | mk found decoder =>
      cases found with
      | error e => simp [hears, hphase, hnext] at hhears
      | ok found =>
        obtain rfl : found = some m := by simpa [hears, hphase, hnext] using hhears
        refine ⟨decoder, rfl, ?_⟩
        simp only [step, hphase, Turn.drain, hnext, Turn.handle, hkind, hw]
  | _ => simp [hears, hphase] at hhears

/-- **The response to the probe** leaves the table of those who wait for responses as it was. -/
theorem Turn.accept_of_awaiting (t : Turn) {live : Live} {w : Wire.Response}
    (h : live.awaiting = some w.id) :
    (t.accept live w).connection.pending = t.connection.pending ∧
      (t.accept live w).connection.replies = t.connection.replies ∧
      (t.accept live w).connection.phase.awaits? = none := by
  unfold Turn.accept
  rw [if_pos h]
  exact ⟨rfl, rfl, rfl⟩

/-- **Any other response** is for the table, and the probe waits on. -/
theorem Turn.accept_of_not_awaiting (t : Turn) {live : Live} {w : Wire.Response}
    (h : live.awaiting ≠ some w.id) :
    (t.accept live w).connection.pending = (t.connection.pending.complete w).2 ∧
      (t.accept live w).connection.replies = (t.connection.pending.complete w).1.elim
        t.connection.replies (fun x => t.connection.replies.insert x.1 x.2) ∧
      (t.accept live w).connection.phase.awaits? = live.awaiting := by
  unfold Turn.accept
  rw [if_neg h]
  refine ⟨rfl, ?_, rfl⟩
  dsimp only [Pending.complete]
  cases t.connection.pending.receivers.get? w.id <;> rfl

/-! ## Probes that are written -/

/-- A keeper that sets out to write a probe has none that waits, and the probe is the request for
which the server has to show that it is there. -/
theorem utters_probe {branch : Branch} {id : UInt64} {m : Message}
    (h : utters branch now t = some (.probe id, m)) :
    m = .ofRequest (.plain id "GET" Path.keepalive) ∧ t.connection.phase.probes = [] := by
  unfold utters at h
  split at h
  · next live window hphase =>
    split at h
    · split at h
      · obtain ⟨m', -, heq⟩ := Option.map_eq_some_iff.1 h
        cases heq
      · split at h
        · cases h
        · next hno =>
          cases h
          refine ⟨rfl, ?_⟩
          rw [hphase, Phase.probes, Option.not_isSome_iff_eq_none.1 hno, Option.toList_none]
      · cases h
    · cases h
  · split at h
    · split at h <;> cases h
    · cases h
  · cases h

/-- After a step one probe waits at most. -/
theorem length_settled_le (branch : Branch) (now : Nat) (t : Turn) (heard : Option Message)
    (h : t.connection.phase.probes.length ≤ 1) :
    (settled t.connection.phase.probes (utters branch now t) heard).length ≤ 1 := by
  unfold settled
  rw [List.length_append]
  cases huttered : (utters branch now t).bind (·.1.probe?) with
  | none =>
    rw [Option.toList_none, List.length_nil, Nat.add_zero]
    exact Nat.le_trans (List.length_filter_le _ _) h
  | some id =>
    obtain ⟨⟨purpose, m⟩, hsome, hpurpose⟩ := Option.bind_eq_some_iff.1 huttered
    cases purpose with
    | probe id' =>
      rw [(utters_probe hsome).2]
      exact Nat.le_refl 1
    | request | reply => cases hpurpose

/-- Which probes wait after a step. -/
theorem mem_settled {probes : List UInt64} {uttered : Option (Purpose × Message)}
    {heard : Option Message} {id : UInt64} : id ∈ settled probes uttered heard ↔
      id ∈ probes ∧ heard.any (·.answers id) = false ∨ uttered.bind (·.1.probe?) = some id := by
  simp [settled, List.mem_append, List.mem_filter]

end

end Keeper

/-! ## What waits -/

/-- A message that was heard on a link answers a probe on this link, or does not. -/
theorem Heard.answers_probe_iff {n since : Nat} {id : UInt64} {m : Message} :
    (⟨n, m⟩ : Heard).Answers (.probe id n since) ↔ m.answers id = true := by
  unfold Heard.Answers Message.answers
  cases m.response with
  | none => simp
  | some w => simp [Issue.probe, Issue.id, Request.plain]

namespace Record

/-- A probe was written on a link, and no response to it was heard there since. -/
def Unanswered (r : Record) (n : Nat) (id : UInt64) : Prop :=
  ∃ since, Issue.probe id n since ∈ r.issued ∧
    ⟨n, some (.probe id), .ofRequest (.plain id "GET" Path.keepalive)⟩ ∈ r.said ∧
    ∀ q h, since ≤ q → r.heard[q]? = some h → ¬ h.Answers (.probe id n since)

/-- A probe counts what had been heard when it was issued. -/
def Timely (r : Record) : Prop := ∀ i ∈ r.issued, i.caller? = none → i.since ≤ r.heard.length

variable {r r' : Record} {n : Nat} {id : UInt64}
  {uttered : Option (Purpose × Message)} {heard : Option Message} {b : ByteArray}

/-- Whoever issues more requests of callers leaves the probes as they were. -/
theorem unanswered_congr (hsaid : r'.said = r.said) (hheard : r'.heard = r.heard)
    (hissued : ∀ i : Issue, i.caller? = none → (i ∈ r'.issued ↔ i ∈ r.issued)) :
    r'.Unanswered n id ↔ r.Unanswered n id := by
  unfold Unanswered
  rw [hsaid, hheard]
  exact exists_congr fun since => and_congr_left fun _ => hissued _ rfl

/-- A step of a keeper issues the probe that it sets out to write, and no other. -/
theorem mem_issued_after_iff {i : Issue} :
    i ∈ (r.after n uttered heard).issued ↔ i ∈ r.issued ∨ ∃ id,
      uttered.bind (·.1.probe?) = some id ∧
        i = .probe id n (r.after n uttered heard).heard.length := by
  rw [heard_after]
  cases uttered with
  | none => cases heard <;> simp [after, hear]
  | some x =>
    obtain ⟨purpose, m⟩ := x
    cases purpose <;> cases heard <;>
      simp [after, hear, say, issue, Purpose.probe?]

/-- It says what it sets out to write, if that has a frame. -/
theorem mem_said_after_iff {s : Said} :
    s ∈ (r.after n uttered heard).said ↔ s ∈ r.said ∨ ∃ purpose m,
      uttered = some (purpose, m) ∧ m.length ≤ Frame.maxLength ∧ s = ⟨n, some purpose, m⟩ := by
  cases uttered with
  | none => cases heard <;> simp [after, hear]
  | some x =>
    obtain ⟨purpose, m⟩ := x
    cases purpose <;> cases heard <;>
      simp [after, hear, say, issue, List.filter_cons]

theorem Timely.after (h : r.Timely) : ((r.after n uttered heard).put n b).Timely := by
  intro i hi hcaller
  show i.since ≤ (r.after n uttered heard).heard.length
  rcases mem_issued_after_iff.1 hi with hi | ⟨id, -, rfl⟩
  · rw [heard_after, List.length_append]
    exact Nat.le_add_right_of_le (h i hi hcaller)
  · exact Nat.le_refl _

/-- **Which probes wait** after a step of a keeper: those that waited, but for the one that was
answered, and the one that it set out to write. -/
theorem unanswered_after_iff (htimely : r.Timely) (hprobe : ∀ id m,
    uttered = some (.probe id, m) → m = .ofRequest (.plain id "GET" Path.keepalive)) :
    ((r.after n uttered heard).put n b).Unanswered n id ↔
      r.Unanswered n id ∧ heard.any (·.answers id) = false ∨
        uttered.bind (·.1.probe?) = some id := by
  have hheard : ((r.after n uttered heard).put n b).heard =
      r.heard ++ heard.toList.map (Heard.mk n) := r.heard_after n uttered heard
  constructor
  · rintro ⟨since, hissued, hsaid, hno⟩
    rw [hheard] at hno
    rcases mem_issued_after_iff.1 hissued with hmine | ⟨id', huttered, heq⟩
    · rcases mem_said_after_iff.1 hsaid with hspoken | ⟨purpose, m, huttered, -, heq⟩
      · refine .inl ⟨⟨since, hmine, hspoken, fun q h hq hh => hno q h hq ?_⟩, ?_⟩
        · rw [List.getElem?_append_left (List.getElem?_eq_some_iff.1 hh).1]
          exact hh
        · cases heard with
          | none => rfl
          | some m =>
            have hsince : since ≤ r.heard.length := htimely (.probe id n since) hmine rfl
            have hlast := hno r.heard.length ⟨n, m⟩ hsince (by simp)
            simpa [Heard.answers_probe_iff] using hlast
      · cases heq
        exact .inr (by rw [huttered]; rfl)
    · cases heq
      exact .inr huttered
  · rintro (⟨⟨since, hissued, hsaid, hno⟩, hheard'⟩ | huttered)
    · refine ⟨since, mem_issued_after_iff.2 (.inl hissued), mem_said_after_iff.2 (.inl hsaid), ?_⟩
      intro q h hq hh
      rw [hheard] at hh
      cases heard with
      | none =>
        rw [Option.toList_none, List.map_nil, List.append_nil] at hh
        exact hno q h hq hh
      | some m =>
        rcases getElem?_append_cases hh with ⟨-, rfl⟩ | hh
        · simpa [Heard.answers_probe_iff] using hheard'
        · exact hno q h hq hh
    · obtain ⟨⟨purpose, m⟩, hsome, hpurpose⟩ := Option.bind_eq_some_iff.1 huttered
      obtain rfl : purpose = .probe id := by
        cases purpose with
        | probe id' => rw [Option.some.inj hpurpose]
        | request | reply => cases hpurpose
      obtain rfl := hprobe id m hsome
      have hfits : (Message.ofRequest (.plain id "GET" Path.keepalive)).length ≤ Frame.maxLength :=
        Nat.le_trans (Message.length_plainRequest_le id "GET" Path.keepalive) (by decide)
      refine ⟨(r.after n uttered heard).heard.length,
        mem_issued_after_iff.2 (.inr ⟨id, huttered, rfl⟩),
        mem_said_after_iff.2 (.inr ⟨_, _, hsome, hfits, rfl⟩), fun q h hq hh => ?_⟩
      exact absurd (List.getElem?_eq_some_iff.1 hh).1 (Nat.not_lt.2 hq)

/-- The probes of a keeper are those that were written on its link and not answered there, and there
is one at most. -/
structure Tracks (r : Record) (p : Phase) : Prop where
  timely : r.Timely
  one : p.probes.length ≤ 1
  probes : ∀ n, p.link? = some n → ∀ id, id ∈ p.probes ↔ r.Unanswered n id

/-- A keeper without a link has no probes, so only one with a link is to be looked at. -/
theorem Tracks.of_link? {r : Record} {p : Phase} (htimely : r.Timely)
    (h : ∀ n, p.link? = some n →
      p.probes.length ≤ 1 ∧ ∀ id, id ∈ p.probes ↔ r.Unanswered n id) : r.Tracks p := by
  refine ⟨htimely, ?_, fun n hn => (h n hn).2⟩
  cases p with
  | greeting link | looking live | serving live | draining live | writing live =>
    exact (h _ rfl).1
  | _ => exact Nat.zero_le 1

section

variable {live : Live} {t : Turn} (branch : Branch) (stores : Stores) (now : Nat)

/-- There is one probe at most that was not answered. -/
theorem Tracks.unique {p : Phase} (h : r.Tracks p) (hlink : p.link? = some n) {id' : UInt64}
    (hid : r.Unanswered n id) (hid' : r.Unanswered n id') : id = id' := by
  rw [← h.probes n hlink] at hid hid'
  have hone := h.one
  cases hprobes : p.probes with
  | nil =>
    rw [hprobes] at hid
    cases hid
  | cons id₀ rest =>
    rw [hprobes] at hone hid hid'
    obtain rfl : rest = [] :=
      List.length_eq_zero_iff.1 (Nat.le_zero.1 (Nat.le_of_succ_le_succ hone))
    rw [List.mem_singleton.1 hid, List.mem_singleton.1 hid']

/-- A keeper waits for the probe that was written on its link and not answered there, as soon as it
has written all of it. -/
theorem Tracks.awaiting_iff {p : Phase} (h : r.Tracks p)
    (hlive : p.live? = some live) (id : UInt64) :
    live.awaiting = some id ↔ r.Unanswered live.link id ∧ p.writes? ≠ some id := by
  have hlink : p.link? = some live.link :=
    Phase.link?_of_openLink? (congrArg (·.map Live.link) hlive)
  have hone := h.one
  rw [← h.probes live.link hlink id]
  rw [Phase.probes_of_live? hlive] at hone ⊢
  cases hawaiting : live.awaiting with
  | none =>
    cases p.writes? with
    | none => simp
    | some id' => simp [eq_comm]
  | some id' =>
    cases hwrites : p.writes? with
    | none => simp [eq_comm]
    | some id'' => simp [hawaiting, hwrites] at hone

/-- **A socket is closed for an unanswered probe** exactly if one was not answered and the next one
is due. -/
theorem Tracks.closing_iff (h : r.Tracks t.connection.phase)
    (hlive : t.connection.phase.live? = some live) (id : UInt64) :
    closing? branch stores now t = some (.unanswered id) ↔
      branch = .probe ∧ canTake now t.link t.connection .probe = true ∧
        r.Unanswered live.link id := by
  rw [closing?_unanswered_iff]
  refine and_congr_right fun _ => ?_
  have hiff := h.awaiting_iff hlive id
  cases hphase : t.connection.phase with
  | serving live' window =>
    obtain rfl : live' = live := by rw [hphase] at hlive; exact Option.some.inj hlive
    have hwrites : t.connection.phase.writes? = none := by rw [hphase]; rfl
    rw [hwrites] at hiff
    have hwaits : live'.awaiting = some id ↔ r.Unanswered live'.link id := by simpa using hiff
    simp only [canTake, hphase, ← hwaits]
    simp
  | _ => simp [canTake, hphase]

/-- **A response to the probe that was not answered** leaves the table of those who wait as it was,
and no other response touches the probe. -/
theorem Tracks.step_of_response {m : Message} {w : Wire.Response}
    (h : r.Tracks t.connection.phase) (hlive : t.connection.phase.live? = some live)
    (hhears : hears t = some m) (hkind : m.kindOf = .response) (hw : m.response = some w) :
    let c := t.connection
    let c' := (step branch stores now t).connection
    (r.Unanswered live.link w.id →
      c'.pending = c.pending ∧ c'.replies = c.replies ∧ c'.phase.awaits? = none) ∧
    (¬ r.Unanswered live.link w.id → c'.pending = (c.pending.complete w).2 ∧
      c'.replies = (c.pending.complete w).1.elim c.replies (fun x => c.replies.insert x.1 x.2) ∧
      c'.phase.awaits? = live.awaiting) := by
  intro c c'
  obtain ⟨decoder, hphase, hstep⟩ :=
    Keeper.step_of_response branch stores now hlive hhears hkind hw
  have hawaiting : live.awaiting = some w.id ↔ r.Unanswered live.link w.id := by
    have hwrites : t.connection.phase.writes? = none := by rw [hphase]; rfl
    simpa [hwrites] using h.awaiting_iff hlive w.id
  have hc' : c' = (t.accept { live with decoder, heard := true } w).connection :=
    congrArg Turn.connection hstep
  have hlive' : ({ live with decoder, heard := true } : Live).awaiting = live.awaiting := rfl
  rw [hc', ← hawaiting, ← hlive']
  exact ⟨t.accept_of_awaiting, t.accept_of_not_awaiting⟩

end

end Record

end ChatSockets
