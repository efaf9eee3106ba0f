import ChatSockets.Proofs.Application.State
import ChatSockets.Proofs.Socket.Vigilance

/-!
# A device with its stores and its clock

A `Device` is an application with what its sockets look at besides: the stores and the time. The
stores change at any moment, with or without a word to the sockets, and time goes by between the
moves of the application. `Device.glance` notes for each keeper when it last looked and what the
stores held then.

A move lets a keeper go on or touches a connection, and then it is one that the keeper has been told
of (`Application.make_treats`). So every keeper stays right about what it saw then
(`Device.Watched`, kept by every move: `Watched.make`, and so by all: `watched_makeAll`).
-/

namespace ChatSockets

open Keeper

namespace Application

/-- A move with the stores and the time that it finds. -/
def Move.finding (stores : Stores) (now : Nat) : Move → Move
  | .step j _ _ => .step j stores now
  | .operate k (.push _) => .operate k (.push now)
  | .atHead k _ _ attempt => .atHead k stores now attempt
  | .connectFailed k _ _ e => .connectFailed k stores now e
  | .connected k _ _ others link => .connected k stores now others link
  | .keeper k branch _ _ link => .keeper k branch stores now link
  | move => move

/-- The socket whose keeper goes on in a move. -/
def stirs? (a : Application) : Move → Option SocketKind
  | .atHead k _ _ _ =>
    match (a.connection k).phase with
    | .atHead => some k
    | _ => none
  | .connectFailed k _ _ _ | .connected k _ _ _ _ =>
    match (a.connection k).phase with
    | .dialing .. => some k
    | _ => none
  | .keeper k branch _ now link =>
    if goesOn branch now ⟨a.connection k, link, none⟩ then some k else none
  | _ => none

end Application

/-- An application with its stores and its clock. -/
structure Device where
  app : Application
  stores : Stores
  now : Nat := 0
  /-- what the keeper of a socket had before its eyes when it last looked -/
  glance : SocketKind → Glance := fun _ => ⟨stores, now, now⟩

namespace Device

/-- What can happen. -/
inductive Move
  /-- the application does something, which finds what the stores hold at the time -/
  | act (move : Application.Move)
  /-- the stores change, and nobody is told -/
  | store (stores : Stores)
  /-- the credentials change, and the identified socket is cycled in the same step -/
  | reregister (credentials : Option Credentials)
  /-- some milliseconds go by -/
  | wait (ms : Nat)

/-- The device after a move. -/
def make (d : Device) : Move → Device
  | .act move =>
    let move := move.finding d.stores d.now
    { d with
      app := d.app.make move
      glance := fun k =>
        if d.app.stirs? move = some k then
          (d.glance k).next (d.app.connection k).phase d.stores d.now
        else d.glance k }
  | .store stores => { d with stores }
  | .reregister credentials =>
    { d with
      app := d.app.make (.operate .identified .cycle)
      stores := { d.stores with credentials } }
  | .wait ms => { d with now := d.now + ms }

/-- The device after some moves. -/
def makeAll (d : Device) (moves : List Move) : Device := moves.foldl make d

/-- A device on which nothing has happened. -/
def start (config : ClientConfig) (stores : Stores) : Device where
  app := .start config
  stores

/-- The two steps in which the keeper of an open socket looks whether it is wanted, and for how long
a push counts. -/
def looks (k : SocketKind) : List Move := (Application.looks k {} 0).map .act

/-- The application wants a socket, and it is opened over a new link. Its keeper takes the wake-up.
-/
def attending (k : SocketKind) : List Move :=
  [.act (.operate k (.setActive true)), .act (.atHead k {} 0 .connected),
    .act (.connected k {} 0 0 {})] ++ looks k ++ [.act (.keeper k .woken {} 0 {})] ++ looks k

/-- The connection of a socket. -/
def connection (d : Device) (k : SocketKind) : Connection := d.app.connection k

/-- What the stores held when the keeper of a socket last looked at them. -/
def seen (d : Device) (k : SocketKind) : Stores := (d.glance k).stores

end Device

namespace Application

/-- What a move does to the connection of a socket, with the stores and the time that it finds: its
keeper goes on, and is right about what it saw if it was before; or the connection is touched. -/
inductive Treats (a : Application) (move : Move) (stores : Stores) (now : Nat) (k : SocketKind)
    (a' : Application) : Prop
  | stirs (hk : a.stirs? move = some k)
    (vigilant : ∀ glance, (a.connection k).Vigilant glance now →
      (a'.connection k).Vigilant (glance.next (a.connection k).phase stores now) now)
    (policy : (a'.connection k).policy = (a.connection k).policy ∨
      (a'.connection k).policy = (a.connection k).policy.takeWake)
    (found : (a.connection k).phase.found = true →
      (a'.connection k).policy = (a.connection k).policy)
    (counted : (a'.connection k).Counted)
  | touches (hk : a.stirs? move ≠ some k) (h : (a.connection k).Touched (a'.connection k))

variable {a a' : Application} {move : Move} {stores : Stores} {now : Nat}

theorem connection_modify (a : Application) (k j : SocketKind) (f : Connection → Connection) :
    (a.modify k f).connection j = if j = k then f (a.connection j) else a.connection j :=
  Sockets.get_modify ..

/-- The keeper of one socket goes on. -/
theorem treats_of_set {k : SocketKind} {c : Connection} (hk : a.stirs? move = some k)
    (hsockets : a'.sockets = a.sockets.set k c)
    (vigilant : ∀ glance, (a.connection k).Vigilant glance now →
      c.Vigilant (glance.next (a.connection k).phase stores now) now)
    (policy : c.policy = (a.connection k).policy ∨
      c.policy = (a.connection k).policy.takeWake)
    (found : (a.connection k).phase.found = true → c.policy = (a.connection k).policy)
    (counted : c.Counted) (j : SocketKind) : a.Treats move stores now j a' := by
  have hconnection : a'.connection j = if j = k then c else a.connection j := by
    rw [connection, hsockets, Sockets.get_set]
    rfl
  split at hconnection
  · next heq =>
    subst heq
    exact .stirs hk (hconnection ▸ vigilant) (hconnection ▸ policy) (hconnection ▸ found)
      (hconnection ▸ counted)
  · next hne =>
    exact .touches (fun h => hne (Option.some.inj (h.symm.trans hk))) (hconnection ▸ .refl _)

/-- No keeper goes on. -/
theorem treats_of_touched (hk : a.stirs? move = none) (h : a.sockets.Touched a'.sockets)
    (j : SocketKind) : a.Treats move stores now j a' :=
  .touches (by rw [hk]; nofun) (h j)

/-- **What a move does to a connection** that finds the stores and the time as they are. -/
theorem make_treats (a : Application) (move : Move) (stores : Stores) (now : Nat)
    (k : SocketKind) :
    a.Treats (move.finding stores now) stores now k (a.make (move.finding stores now)) := by
  have hoperates : ∀ (j : SocketKind) (op : Operation),
      a.Treats (.operate j op) stores now k (a.make (.operate j op)) := by
    intro j op
    refine treats_of_touched rfl ?_ k
    unfold make
    dsimp only
    split
    · exact .refl _
    · next hop =>
      exact a.sockets.modify_touched j fun c => c.perform_touched (by simpa using hop)
  have afresh : ∀ {p : Phase} {c c' : Connection}, p.looks = false →
      c'.Saw ⟨stores, now, now⟩ → ∀ glance, c.Vigilant glance now →
        c'.Vigilant (glance.next p stores now) now :=
    fun hlooks hsaw glance _ => Glance.next_of_not_looks hlooks ▸ hsaw.vigilant
  cases move with
  | call goal =>
    refine treats_of_touched rfl ?_ k
    exact .refl _
  | step i _ _ =>
    refine treats_of_touched rfl ?_ k
    unfold Move.finding make
    dsimp only
    split
    · exact .refl _
    · exact Call.step_touched a.sockets stores now _
  | cancel i =>
    refine treats_of_touched rfl ?_ k
    unfold Move.finding make
    dsimp only
    split
    · exact .refl _
    · exact Call.cancel_touched a.sockets _
  | operate j op => cases op <;> exact hoperates j _
  | atHead j _ _ attempt =>
    unfold Move.finding make
    dsimp only
    split
    · next hphase =>
      obtain ⟨hsaw, hpolicy⟩ := (a.connection j).atHead_saw stores now attempt
      exact treats_of_set (by simp only [stirs?, hphase]) rfl
        (afresh (by rw [hphase]; rfl) hsaw) (.inl hpolicy) (fun _ => hpolicy)
        (.of_phase (Phase.looks_of_unlinked (Connection.atHead_spec _ stores now attempt).1)) k
    · next hphase =>
      refine treats_of_touched ?_ (.refl _) k
      unfold stirs?
      dsimp only
      split
      · next hhead => exact absurd hhead hphase
      · rfl
  | connectFailed j _ _ e =>
    unfold Move.finding make
    dsimp only
    split
    · next hello deadline attempt hphase =>
      obtain ⟨hwatches, hclosed, hpolicy⟩ := connectFailed_away (a.connection j) stores now e
      exact treats_of_set (by simp only [stirs?, hphase]) rfl
        (afresh (by rw [hphase]; rfl) (.of_phase hwatches (Phase.looks_of_closed hclosed)))
        (.inl hpolicy) (fun _ => hpolicy) (.of_phase (Phase.looks_of_closed hclosed)) k
    · next hphase =>
      refine treats_of_touched ?_ (.refl _) k
      unfold stirs?
      dsimp only
      split
      · next hdialing => exact absurd hdialing (hphase _ _ _)
      · rfl
  | connected j _ _ others link =>
    unfold Move.finding make
    dsimp only
    split
    · next hello deadline attempt hphase =>
      obtain ⟨⟨hpolicy, -, -⟩, hsaw, hcounted⟩ :=
        connected_looks stores now (a.opened + others) hello ⟨a.connection j, link, none⟩
      exact treats_of_set (by simp only [stirs?, hphase]) rfl
        (afresh (by rw [hphase]; rfl) hsaw) hpolicy
        (fun hfound => by rw [hphase] at hfound; cases hfound) hcounted k
    · next hphase =>
      refine treats_of_touched ?_ (.refl _) k
      unfold stirs?
      dsimp only
      split
      · next hdialing => exact absurd hdialing (hphase _ _ _)
      · rfl
  | keeper j branch _ _ link =>
    cases hgoes : goesOn branch now ⟨a.connection j, link, none⟩ with
    | true =>
      exact treats_of_set (by simp only [Move.finding, stirs?, hgoes, if_true]) rfl
        (fun _ => step_vigilant branch stores hgoes) (step_heeds branch stores now _ hgoes).policy
        (policy_step_of_found branch stores now ⟨_, link, none⟩)
        (step_counted branch stores now hgoes) k
    | false =>
      refine treats_of_touched (by simp [Move.finding, stirs?, hgoes]) (fun i => ?_) k
      have hsame := step_of_not_goesOn branch stores now _ hgoes
      show (a.sockets.get i).Touched ((a.sockets.set j _).get i)
      rw [Sockets.get_set, hsame]
      split
      · next heq => exact heq ▸ .refl _
      · exact .refl _

/-- A call changes a ledger, but not which socket it is of. -/
theorem socket_of_changes {s s' : Sockets} {k : SocketKind} {l : Ledger} (h : s.Changes k l s')
    (hl : l.socket = (s.get k).socket) (j : SocketKind) : (s'.get j).socket = (s.get j).socket := by
  by_cases heq : j = k
  · subst heq
    exact (congrArg Ledger.socket h.ledger).trans hl
  · exact congrArg Ledger.socket (h.elsewhere j heq).ledger

/-- A move leaves the sockets what they are. -/
theorem Does.socket (h : Does a a') (k : SocketKind) :
    (a'.connection k).socket = (a.connection k).socket := by
  cases h with
  | waits _ hledger => exact congrArg Ledger.socket (hledger k)
  | calls goal => rfl
  | goes i goal p p' submitted s' hi h =>
    cases h with
    | waits _ _ halike => exact congrArg Ledger.socket (halike k).ledger
    | withdraws j id _ _ hwaits hresult h => exact socket_of_changes h rfl k
    | submits j r _ _ hasks h =>
      cases h with
      | queued timeout deadline _ hopen h => exact socket_of_changes h rfl k
      | refused _ hclosed h => exact socket_of_changes h rfl k
  | turns j _ hshifts hledger hrecords hcallers =>
    by_cases heq : k = j
    · subst heq
      exact hshifts.induct (P := fun l _ => l.socket = (a.connection k).socket) rfl
        fun h hsocket => h.socket.trans hsocket
    · exact congrArg Ledger.socket (hledger k heq)

end Application

namespace Device

variable {d : Device}

/-- Each connection is the one of its socket, shows what is, and its keeper is right about what it
saw when it last went on, or has a wake-up. -/
structure Watched (d : Device) : Prop where
  sound : d.app.Sound
  socket : ∀ k, (d.connection k).socket = k ∧ (d.connection k).policy.socket = k
  vigilant : ∀ k, (d.connection k).Vigilant (d.glance k) d.now

/-- A keeper that parks has no outbox. -/
theorem Watched.closed (h : d.Watched) {k : SocketKind}
    (hphase : (d.connection k).phase = .parked) : (d.connection k).outbox = none := by
  have hpublished := h.sound.published k
  rw [← Option.not_isSome_iff_eq_none]
  intro hopen
  have hlink : (d.connection k).phase.openLink?.isSome = true := hpublished.outbox.1 hopen
  rw [hphase] at hlink
  cases hlink

/-- A move of the application that finds the stores and the time as they are. -/
theorem Watched.act (h : d.Watched) (move : Application.Move) : (d.make (.act move)).Watched := by
  have hdoes := Application.make_does d.app (move.finding d.stores d.now)
  have htreats := d.app.make_treats move d.stores d.now
  refine ⟨hdoes.sound h.sound, fun k => ⟨(hdoes.socket k).trans (h.socket k).1, ?_⟩, fun k => ?_⟩
  · cases htreats k with
    | stirs hk vigilant policy => exact (policy.elim (congrArg _) (congrArg _)).trans (h.socket k).2
    | touches hk htouched => exact htouched.socket.2.trans (h.socket k).2
  · show Connection.Vigilant _ (if d.app.stirs? _ = some k then _ else d.glance k) d.now
    cases htreats k with
    | stirs hk vigilant policy =>
      rw [if_pos hk]
      exact vigilant _ (h.vigilant k)
    | touches hk htouched =>
      rw [if_neg hk]
      exact htouched.vigilant h.closed (h.vigilant k)

/-- **Every keeper stays right** about what it saw, whatever happens. -/
theorem Watched.make (h : d.Watched) (move : Move) : (d.make move).Watched := by
  cases move with
  | act move => exact h.act move
  | store stores => exact ⟨h.sound, h.socket, h.vigilant⟩
  | reregister credentials =>
    obtain ⟨hsound, hsocket, hvigilant⟩ := h.act (.operate .identified .cycle)
    exact ⟨hsound, hsocket, hvigilant⟩
  | wait ms =>
    exact ⟨h.sound, h.socket, fun k => (h.vigilant k).later (Nat.le_add_right _ _)⟩

theorem watched_start (config : ClientConfig) (stores : Stores) :
    (start config stores).Watched := by
  refine ⟨Application.sound_start config, fun k => ?_, fun k => ?_⟩
  · cases k <;> exact ⟨rfl, rfl⟩
  · exact (Connection.Saw.of_phase (by cases k <;> rfl) (by cases k <;> rfl)).vigilant

/-- **Every keeper is right** about what it saw, after any moves. -/
theorem watched_makeAll (h : d.Watched) (moves : List Move) : (d.makeAll moves).Watched := by
  induction moves generalizing d with
  | nil => exact h
  | cons move rest ih => exact ih (h.make move)

theorem makeAll_append (d : Device) (before after : List Move) :
    d.makeAll (before ++ after) = (d.makeAll before).makeAll after :=
  List.foldl_append

end Device

end ChatSockets
