import ChatSockets.Proofs.Office
import Mathlib.Data.List.Induction
import Mathlib.Data.List.Nodup
import Mathlib.Data.List.Perm.Basic

/-!
# The mailboxes of an office

`mailbox_eq_held`: a mailbox is what the story says of it, entry by entry (`boxAfter`). As long as
no id was drawn twice, this is the list of the messages that were posted and not acknowledged since
(`outstanding_eq_held`). Ids are drawn one after the other (`Sound.ids`), and every message has one
that was drawn for it (`Sound.messages`); so an id belongs to one message or to none
(`Sound.nodup_posts`), until 2 ^ 64 ids were drawn and they begin anew.

`mailboxes_hold_outstanding` puts this together with what each operation does.
-/

namespace ChatSockets

namespace Office

variable {o o' : Office} {σ es : List Entry} {login : String}

/-! ## Entry by entry -/

/-- A mailbox after an entry. -/
def boxAfter (login : String) (box : List Queued) : Entry → List Queued
  | .posted l q => if l = login then box ++ [q] else box
  | .acknowledged l id => if l = login then box.eraseP (·.id = id) else box
  | _ => box

/-- An effect changes a mailbox as its entries say. -/
theorem Does.mailbox (h : o.Does es o') (login : String) :
    o'.room.mailbox login = es.foldl (boxAfter login) (o.room.mailbox login) := by
  cases h with
  | idle | opens | hangsUp | draws | registers | accepts => rfl
  | receives line r room h => exact Mailroom.mailbox_receive? h login
  | unregisters l session => exact o.room.mailbox_unregister l session login
  | acknowledges l id =>
    show _ = if l = login then _ else _
    rw [o.room.mailbox_acknowledge]
    split
    · next heq => rw [if_pos heq.symm, heq]
    · next hne => rw [if_neg fun heq => hne heq.symm]
  | posts l q before after _ =>
    show _ = if l = login then _ else _
    rw [Mailroom.mailbox_post]
    split
    · next heq => rw [if_pos heq.symm, heq]
    · next hne => rw [if_neg fun heq => hne heq.symm]

/-- **A mailbox is what the story says of it.** -/
theorem mailbox_eq_held (accounts : Accounts) (moves : List Move) (login : String) :
    ((start accounts).makeAll moves).room.mailbox login =
      ((start accounts).story moves).foldl (boxAfter login) [] := by
  refine induct (P := fun o σ => o.room.mailbox login = σ.foldl (boxAfter login) []) accounts rfl
    (fun o σ es o' hbox hdoes => ?_) moves
  rw [hdoes.mailbox, hbox, List.foldl_append]

/-- What is outstanding was posted, in this order. -/
theorem outstanding_sublist (login : String) (σ : List Entry) :
    ((outstanding login σ).map (Prod.mk login)).Sublist (posts σ) := by
  induction σ with
  | nil => exact .slnil
  | cons e σ ih =>
    cases e with
    | posted l q =>
      show ((if _ then _ else _ : List Queued).map _).Sublist ((l, q) :: posts σ)
      split
      · next h =>
        rw [List.map_cons, h.1]
        exact ih.cons_cons _
      · exact ih.cons _
    | drew | registered | unregistered | acknowledged | received => exact ih

/-- What is outstanding has different ids if all messages have. -/
theorem nodup_outstanding (login : String) (h : ((posts σ).map (·.2.id)).Nodup) :
    ((outstanding login σ).map Queued.id).Nodup := by
  have hsub := (outstanding_sublist login σ).map (·.2.id)
  rw [List.map_map] at hsub
  exact hsub.nodup h

/-- An entry that is no acknowledgement by the login only adds to what is outstanding. -/
theorem outstanding_append_of_not_ack {e : Entry} (he : ∀ id, e.isAckOf login id = false)
    (σ : List Entry) :
    outstanding login (σ ++ [e]) = outstanding login σ ++ outstanding login [e] := by
  induction σ with
  | nil => rfl
  | cons d σ ih =>
    cases d with
    | posted l q =>
      have hany : (σ ++ [e]).any (·.isAckOf login q.id) = σ.any (·.isAckOf login q.id) := by
        simp [he]
      simp only [List.cons_append, outstanding, hany, ih]
      split <;> rfl
    | drew | registered | unregistered | acknowledged | received => exact ih

/-- What is outstanding after an acknowledgement. -/
theorem outstanding_append_acknowledged (login : String) (id : UInt64) (σ : List Entry) :
    outstanding login (σ ++ [.acknowledged login id]) =
      (outstanding login σ).filter (·.id ≠ id) := by
  induction σ with
  | nil => rfl
  | cons d σ ih =>
    cases d with
    | posted l q =>
      simp only [List.cons_append, outstanding, ih]
      by_cases hid : id = q.id
      · -- this message is the one that is acknowledged
        have hack : ¬ (l = login ∧ ¬ (σ ++ [Entry.acknowledged login id]).any
            (·.isAckOf login q.id)) := by
          simp [Entry.isAckOf, hid]
        rw [if_neg hack]
        split
        · rw [List.filter_cons_of_neg (by simp [hid])]
        · rfl
      · have hany : (σ ++ [Entry.acknowledged login id]).any (·.isAckOf login q.id) =
            σ.any (·.isAckOf login q.id) := by
          simp [Entry.isAckOf, hid]
        rw [hany]
        split
        · rw [List.filter_cons_of_pos (by simpa using fun h => hid h.symm)]
        · rfl
    | drew | registered | unregistered | acknowledged | received => exact ih

/-- Among different ids, the first is the only one. -/
theorem filter_id_eq_eraseP {box : List Queued} (h : (box.map Queued.id).Nodup) (id : UInt64) :
    box.filter (·.id ≠ id) = box.eraseP (·.id = id) := by
  induction box with
  | nil => rfl
  | cons q box ih =>
    obtain ⟨hq, hbox⟩ := List.nodup_cons.1 h
    by_cases hid : q.id = id
    · rw [List.filter_cons_of_neg (by simpa using hid),
        List.eraseP_cons_of_pos (by simpa using hid)]
      refine List.filter_eq_self.2 fun p hp => ?_
      have hne : p.id ≠ id := fun heq =>
        hq (List.mem_map.2 ⟨p, hp, heq.trans hid.symm⟩)
      simpa using hne
    · rw [List.filter_cons_of_pos (by simpa using hid), ih hbox,
        List.eraseP_cons_of_neg (by simpa using hid)]

/-- **What the story says of a mailbox is what was posted and not acknowledged since**, if no two
messages have one id. -/
theorem outstanding_eq_held (login : String) (h : ((posts σ).map (·.2.id)).Nodup) :
    outstanding login σ = σ.foldl (boxAfter login) [] := by
  induction σ using List.reverseRecOn with
  | nil => rfl
  | append_singleton σ e ih =>
    have hσ : ((posts σ).map (·.2.id)).Nodup := by
      rw [posts, List.filterMap_append, List.map_append] at h
      exact h.of_append_left
    rw [List.foldl_append, List.foldl_cons, List.foldl_nil, ← ih hσ]
    cases e with
    | acknowledged l id =>
      show _ = if l = login then _ else _
      by_cases hl : l = login
      · rw [hl, if_pos rfl, outstanding_append_acknowledged,
          filter_id_eq_eraseP (nodup_outstanding login hσ)]
      · rw [if_neg hl, outstanding_append_of_not_ack (by simp [Entry.isAckOf, hl])]
        exact List.append_nil _
    | posted l q =>
      rw [outstanding_append_of_not_ack fun _ => rfl]
      show outstanding login σ ++ (if _ then _ else _) = if l = login then _ else _
      by_cases hl : l = login
      · rw [if_pos hl, if_pos ⟨hl, by simp⟩]
        rfl
      · rw [if_neg hl, if_neg fun h => hl h.1]
        exact List.append_nil _
    | drew | registered | unregistered | received =>
      rw [outstanding_append_of_not_ack fun _ => rfl]
      exact List.append_nil _

/-! ## Ids -/

/-- The first ids that a mailroom gives out. -/
def firstIds (n : Nat) : List UInt64 := (List.range n).map fun k => .ofNat (k + 1)

theorem firstIds_succ (n : Nat) : firstIds (n + 1) = firstIds n ++ [.ofNat (n + 1)] := by
  rw [firstIds, List.range_succ, List.map_append]
  rfl

theorem nodup_firstIds {n : Nat} (h : n ≤ UInt64.size) : (firstIds n).Nodup := by
  refine List.nodup_range.map_on fun i hi j hj hids => ?_
  have hi := List.mem_range.1 hi
  have hj := List.mem_range.1 hj
  have hmod := congrArg UInt64.toNat hids
  simp only [UInt64.toNat_ofNat'] at hmod
  have hsize : UInt64.size = 2 ^ 64 := rfl
  omega

/-- Whether an id was drawn for a message. -/
def Use.isMessage : Use → Bool
  | .message _ => true
  | _ => false

/-- What the id of a message to a login must have been drawn for. -/
def useOf (p : String × Queued) : UInt64 × Use := (p.2.id, .message p.1)

/-- How ids and messages belong together. -/
structure Sound (o : Office) (σ : List Entry) : Prop where
  next : o.room.nextId = .ofNat ((draws σ).length + 1)
  ids : (draws σ).map Prod.fst = firstIds (draws σ).length
  /-- each message that was posted or is still to be posted has its own id -/
  messages : ((posts σ ++ o.accepted).map useOf).Perm ((draws σ).filter (·.2.isMessage))

theorem draws_append (σ es : List Entry) : draws (σ ++ es) = draws σ ++ draws es :=
  List.filterMap_append

theorem posts_append (σ es : List Entry) : posts (σ ++ es) = posts σ ++ posts es :=
  List.filterMap_append

/-- An effect draws the next id or none. -/
theorem Does.drawn (h : o.Does es o') :
    Office.draws es = [] ∧ o'.room.nextId = o.room.nextId ∨
      ∃ use, Office.draws es = [(o.room.nextId, use)] ∧ o'.room.nextId = o.room.nextId + 1 := by
  cases h with
  | idle | opens | hangsUp => exact .inl ⟨rfl, rfl⟩
  | receives line r room h =>
    obtain ⟨rest, -, rfl⟩ := Mailroom.receive?_eq_some h
    exact .inl ⟨rfl, rfl⟩
  | draws | registers | accepts => exact .inr ⟨_, rfl, rfl⟩
  | unregisters l session =>
    refine .inl ⟨rfl, ?_⟩
    rcases o.room.unregister_eq l session with heq | heq <;> rw [heq]
  | acknowledges l id =>
    obtain ⟨mailboxes, heq⟩ := o.room.acknowledge_eq l id
    exact .inl ⟨rfl, by rw [heq]⟩
  | posts l q => exact .inl ⟨rfl, (o.room.post_next l q).1⟩

/-- An effect makes a message for an id that it drew for one, or posts one that was made. -/
theorem Does.messages (h : o.Does es o') :
    ((Office.posts es ++ o'.accepted).map useOf).Perm
      (o.accepted.map useOf ++ (Office.draws es).filter (·.2.isMessage)) := by
  cases h with
  | accepts now l body haccount =>
    have happend : ∀ ps, (o.accepted ++ ps).map useOf = o.accepted.map useOf ++ ps.map useOf :=
      fun _ => List.map_append
    exact .of_eq (happend _)
  | posts l q before after haccepted =>
    have hmiddle : (useOf (l, q) :: (before.map useOf ++ after.map useOf)).Perm
        (before.map useOf ++ useOf (l, q) :: after.map useOf) := List.perm_middle.symm
    rw [haccepted]
    simpa [Office.posts, Office.draws] using hmiddle
  | idle | opens | hangsUp | receives | draws | registers | unregisters | acknowledges =>
    exact .of_eq (List.append_nil _).symm

theorem Sound.does (h : Sound o σ) (hdoes : o.Does es o') : Sound o' (σ ++ es) where
  next := by
    rw [draws_append]
    rcases hdoes.drawn with ⟨hnone, hnext⟩ | ⟨use, hone, hnext⟩
    · rw [hnone, List.append_nil, hnext, h.next]
    · rw [hone, hnext, h.next, List.length_append]
      exact (UInt64.ofNat_add _ 1).symm
  ids := by
    rw [draws_append]
    rcases hdoes.drawn with ⟨hnone, -⟩ | ⟨use, hone, -⟩
    · rw [hnone, List.append_nil, h.ids]
    · rw [hone, List.map_append, List.length_append, h.ids, h.next]
      exact (firstIds_succ _).symm
  messages := by
    have hnew : ((posts es ++ o'.accepted).map useOf).Perm _ := hdoes.messages
    rw [posts_append, draws_append, List.append_assoc, List.map_append, List.filter_append]
    refine (hnew.append_left ((posts σ).map useOf)).trans ?_
    rw [← List.append_assoc, ← List.map_append]
    exact h.messages.append_right _

/-- **Ids and messages belong together after all moves.** -/
theorem sound (accounts : Accounts) (moves : List Move) :
    Sound ((start accounts).makeAll moves) ((start accounts).story moves) :=
  induct accounts ⟨rfl, rfl, .refl _⟩ (fun _ _ _ _ h hdoes => h.does hdoes) moves

theorem Sound.nodup_draws (h : Sound o σ) (hroom : (draws σ).length ≤ UInt64.size) :
    ((draws σ).map Prod.fst).Nodup := by
  rw [h.ids]
  exact nodup_firstIds hroom

/-- **An id is that of one message only**, posted or not yet posted. -/
theorem Sound.nodup_messages (h : Sound o σ) (hroom : (draws σ).length ≤ UInt64.size) :
    ((posts σ ++ o.accepted).map (·.2.id)).Nodup := by
  have hsub := (List.filter_sublist (l := draws σ) (p := (·.2.isMessage))).map Prod.fst
  have hnodup := (h.messages.map Prod.fst).nodup_iff.2 (hsub.nodup (h.nodup_draws hroom))
  rwa [List.map_map] at hnodup

theorem Sound.nodup_posts (h : Sound o σ) (hroom : (draws σ).length ≤ UInt64.size) :
    ((posts σ).map (·.2.id)).Nodup := by
  have hnodup := h.nodup_messages hroom
  rw [List.map_append] at hnodup
  exact hnodup.of_append_left

/-- The id of a posted message was drawn for a message to its recipient. -/
theorem Sound.drew (h : Sound o σ) {login : String} {q : Queued} (hq : (login, q) ∈ posts σ) :
    (q.id, .message login) ∈ draws σ :=
  List.mem_of_mem_filter (h.messages.subset
    (List.mem_map.2 ⟨(login, q), List.mem_append_left _ hq, rfl⟩))

/-! ## What does not change -/

/-- The login that a move is about. -/
def concerns (o : Office) : Move → Option String
  | .register login _ | .unregister login _ | .acknowledge login _ | .accept _ login _
  | .deliver _ login _ => some login
  | .post n => (o.accepted[n]?).map Prod.fst
  | .openLine | .hangUp _ | .receive _ | .draw => none

/-- **A move leaves the mailbox and the live session of every other login alone.** -/
theorem make_elsewhere (o : Office) {move : Move} (h : o.concerns move ≠ some login) :
    (o.make move).room.mailbox login = o.room.mailbox login ∧
      (o.make move).room.live.get? login = o.room.live.get? login := by
  cases move with
  | openLine | hangUp | draw => exact ⟨rfl, rfl⟩
  | receive line =>
    unfold make
    dsimp only
    split
    · next r room hreceive =>
      obtain ⟨rest, -, rfl⟩ := Mailroom.receive?_eq_some hreceive
      exact ⟨rfl, rfl⟩
    · exact ⟨rfl, rfl⟩
  | register l k =>
    have hne : login ≠ l := fun heq => h (congrArg some heq.symm)
    unfold make
    dsimp only
    split
    · exact ⟨rfl, by rw [Mailroom.live_register, if_neg hne]⟩
    · exact ⟨rfl, rfl⟩
  | unregister l session =>
    have hne : login ≠ l := fun heq => h (congrArg some heq.symm)
    exact ⟨o.room.mailbox_unregister l session login,
      (o.room.live_unregister_eq l session login).trans (if_neg hne)⟩
  | acknowledge l id =>
    have hne : login ≠ l := fun heq => h (congrArg some heq.symm)
    constructor
    · show (o.room.acknowledge l id).2.mailbox login = _
      rw [o.room.mailbox_acknowledge, if_neg hne]
    · obtain ⟨mailboxes, heq⟩ := o.room.acknowledge_eq l id
      show (o.room.acknowledge l id).2.live.get? login = _
      rw [heq]
  | accept now l body =>
    unfold make
    dsimp only
    split <;> exact ⟨rfl, rfl⟩
  | post n =>
    unfold make
    dsimp only
    split
    · next l q hn =>
      have hne : login ≠ l := fun heq => h (by rw [concerns, hn, heq]; rfl)
      exact ⟨by rw [Mailroom.mailbox_post, if_neg hne], o.room.live_post_of_ne q hne⟩
    · exact ⟨rfl, rfl⟩
  | deliver now l body =>
    have hne : login ≠ l := fun heq => h (congrArg some heq.symm)
    unfold make
    dsimp only
    rw [Mailroom.deliver_eq]
    split
    · exact ⟨by rw [Mailroom.mailbox_post, if_neg hne]; rfl,
        o.room.draw.2.live_post_of_ne _ hne⟩
    · exact ⟨rfl, rfl⟩

/-- An effect makes no mailbox empty without removing it, and no accounts. -/
theorem Does.kept (h : o.Does es o') (hkept : ∀ login, o.room.mailboxes.get? login ≠ some []) :
    o'.room.accounts = o.room.accounts ∧ ∀ login, o'.room.mailboxes.get? login ≠ some [] := by
  cases h with
  | idle | opens | hangsUp | draws | registers | accepts => exact ⟨rfl, hkept⟩
  | receives line r room h =>
    obtain ⟨rest, -, rfl⟩ := Mailroom.receive?_eq_some h
    exact ⟨rfl, hkept⟩
  | unregisters l session =>
    rcases o.room.unregister_eq l session with heq | heq <;> rw [heq] <;> exact ⟨rfl, hkept⟩
  | acknowledges l id =>
    obtain ⟨mailboxes, heq⟩ := o.room.acknowledge_eq l id
    refine ⟨by rw [heq], fun login => ?_⟩
    unfold Mailroom.acknowledge
    dsimp only
    split
    · split
      · rw [Table.get?_erase]
        split
        · simp
        · exact hkept login
      · next hrest =>
        rw [Table.get?_insert]
        split
        · exact fun heq => hrest (Option.some.inj heq)
        · exact hkept login
    · exact hkept login
  | posts l q before after _ =>
    refine ⟨o.room.accounts_post l q, fun login => ?_⟩
    rw [Mailroom.mailboxes_post, Table.get?_insert]
    split
    · simp
    · exact hkept login

/-- The accounts stay, and no empty mailbox is kept. -/
theorem kept (accounts : Accounts) (moves : List Move) :
    ((start accounts).makeAll moves).room.accounts = accounts ∧
      ∀ login, ((start accounts).makeAll moves).room.mailboxes.get? login ≠ some [] := by
  refine induct (P := fun o _ => o.room.accounts = accounts ∧
    ∀ login, o.room.mailboxes.get? login ≠ some []) accounts ⟨rfl, nofun⟩
    (fun o σ es o' h hdoes => ?_) moves
  obtain ⟨haccounts, hkept⟩ := hdoes.kept h.2
  exact ⟨haccounts.trans h.1, hkept⟩

/-! ## The mailboxes after all moves -/

/-- **Mailboxes hold what is outstanding.** After any moves by any number of tasks: no mailbox is
kept empty; a delivery is refused exactly without an account, and then nothing happens; an
acknowledgement takes exactly one message out, or none has the id and nothing happens; sessions that
come and go change no mailbox; and no move touches the mailbox or the live session of a login that
it is not about. As long as the ids have not begun anew, no id was drawn twice, each mailbox is what
was posted and not acknowledged since, and the id of a signal or of a message to another login takes
nothing out. -/
theorem mailboxes_hold_outstanding (accounts : Accounts) (moves : List Move) :
    let o := (start accounts).makeAll moves
    let past := (start accounts).story moves
    (∀ login, o.room.mailboxes.get? login ≠ some []) ∧
    (∀ now login body,
      ((o.room.deliver now login body).1 = none ↔ accounts.get? login = none) ∧
        ((o.room.deliver now login body).1 = none → (o.room.deliver now login body).2 = o.room)) ∧
    (∀ login id,
      (∃ front q rest, o.room.mailbox login = front ++ q :: rest ∧ q.id = id ∧
          (∀ p ∈ front, p.id ≠ id) ∧ (o.room.acknowledge login id).1 = true ∧
          (o.room.acknowledge login id).2.mailbox login = front ++ rest) ∨
        (∀ q ∈ o.room.mailbox login, q.id ≠ id) ∧
          o.room.acknowledge login id = (false, o.room)) ∧
    (∀ login h session other,
      (o.room.register login h).2.mailbox other = o.room.mailbox other ∧
        (o.room.unregister login session).mailbox other = o.room.mailbox other) ∧
    (∀ move login, o.concerns move ≠ some login →
      (o.make move).room.mailbox login = o.room.mailbox login ∧
        (o.make move).room.live.get? login = o.room.live.get? login) ∧
    ((draws past).length ≤ UInt64.size →
      ((draws past).map Prod.fst).Nodup ∧
      (∀ login, o.room.mailbox login = outstanding login past ∧
        ((o.room.mailbox login).map Queued.id).Nodup) ∧
      (∀ login id use, (id, use) ∈ draws past → use ≠ .message login →
        o.room.acknowledge login id = (false, o.room))) := by
  intro o past
  have hsound : Sound o past := sound accounts moves
  have hkept := kept accounts moves
  refine ⟨hkept.2, fun now login body => ?_, fun login id => o.room.acknowledge_cases login id,
    fun login h session other => ⟨rfl, o.room.mailbox_unregister login session other⟩,
    fun move login h => o.make_elsewhere h, fun hroom => ?_⟩
  · have haccount : o.room.hasAccount login = true ↔ accounts.get? login ≠ none := by
      rw [← hkept.1, ← Option.isSome_iff_ne_none]
      rfl
    rw [Mailroom.deliver_eq]
    split
    · next h =>
      refine ⟨⟨fun hnone => ?_, fun hnone => absurd hnone (haccount.1 h)⟩, fun hnone => ?_⟩
      · cases hnone
      · cases hnone
    · next h =>
      exact ⟨⟨fun _ => not_not.1 fun hne => h (haccount.2 hne), fun _ => rfl⟩, fun _ => rfl⟩
  · have hbox : ∀ login, o.room.mailbox login = outstanding login past := fun login =>
      (mailbox_eq_held accounts moves login).trans
        (outstanding_eq_held login (hsound.nodup_posts hroom)).symm
    have hdraws := hsound.nodup_draws hroom
    have hposts := hsound.nodup_posts hroom
    refine ⟨hdraws, fun login => ⟨hbox login, ?_⟩, fun login id use huse hother => ?_⟩
    · rw [hbox login]
      exact nodup_outstanding login hposts
    · rcases o.room.acknowledge_cases login id with ⟨front, q, rest, hmail, rfl, -⟩ | ⟨-, heq⟩
      · -- the id of what is in the mailbox was drawn for a message to this login
        have hq : (login, q) ∈ posts past := by
          refine (outstanding_sublist login past).subset (List.mem_map.2 ⟨q, ?_, rfl⟩)
          rw [← hbox login, hmail]
          exact List.mem_append_right _ List.mem_cons_self
        have hsame := List.inj_on_of_nodup_map hdraws huse (hsound.drew hq) rfl
        exact absurd (congrArg Prod.snd hsame) hother
      · exact heq

/-- `bob` is sent a message, signs in, is sent another one while a third is accepted, and
acknowledges the first; then the third is posted. -/
def morning : List Move :=
  [.deliver 0 "bob" ⟨#[1]⟩, .openLine, .register "bob" ⟨7, 0⟩, .accept 1 "bob" ⟨#[3]⟩,
    .deliver 2 "bob" ⟨#[2]⟩, .acknowledge "bob" 1, .post 0]

/-- What `bob` then has is outstanding, and the id of his signal takes nothing out. -/
theorem outstanding_of_morning :
    let o := (start (.ofList [("bob", "secret")])).makeAll morning
    let past := (start (.ofList [("bob", "secret")])).story morning
    (o.room.mailbox "bob").map Queued.id = [4, 3] ∧
      o.room.mailbox "bob" = outstanding "bob" past ∧
      o.room.acknowledge "bob" 2 = (false, o.room) := by
  intro o past
  have hrun : (o.room.mailbox "bob").map Queued.id = [4, 3] ∧
      (draws past).length ≤ UInt64.size ∧ (2, Use.queueEmpty "bob") ∈ draws past := by
    decide +kernel
  obtain ⟨hids, hroom, hsignal⟩ := hrun
  obtain ⟨-, -, -, -, -, h⟩ := mailboxes_hold_outstanding (.ofList [("bob", "secret")]) morning
  obtain ⟨-, hbox, hack⟩ := h hroom
  exact ⟨hids, (hbox "bob").1, hack "bob" 2 _ hsignal nofun⟩

end Office

end ChatSockets
