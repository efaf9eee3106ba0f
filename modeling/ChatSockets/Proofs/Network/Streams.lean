import ChatSockets.Proofs.Network

/-!
# The two streams of a socket

What a client wrote on a socket and its session has not taken yet is a row of messages (`Rises`),
and so is what the session wrote and the client has not taken (`Falls`). Wherever the bytes are, in
a decoder, at an end of the link or still to be written, a step only moves them on, takes the first
message or puts messages behind the others. `Upstream` and `Downstream` say that all responses on
their way up, or all requests on their way down, have some property.
-/

namespace ChatSockets.Visit

open Wire Keeper

/-- The messages on their way up: those that the session has before it, up to the bytes that a
client with this link still has to write. Of a link that was let go, the last bytes may be missing.
-/
def Rises (n : Nat) (c : Connection) (v : Visit) (ms : List Message) : Prop :=
  ∃ more, v.session.decoder.Expects (v.far.up.held ++ v.near.up.held ++ more) ms ∧
    (linkOf? c = some n → more = c.phase.unwritten)

/-- The messages on their way down: those that the client has before it, up to the bytes that the
session still has to write. Of a session that has ended, the last bytes may be missing. -/
def Falls (c : Connection) (v : Visit) (ms : List Message) : Prop :=
  ∃ more, c.phase.decoder.Expects (v.near.down.held ++ v.far.down.held ++ more) ms ∧
    ((∀ result, v.session.phase ≠ .ended result) → more = v.session.phase.unwritten)

variable {n : Nat} {c c' : Connection} {v v' : Visit} {ms : List Message}

/-! ## What does not touch them -/

/-- Carried bytes keep their order. -/
theorem carry_held (v : Visit) (up down : Nat) :
    (v.carry up down).far.up.held ++ (v.carry up down).near.up.held =
        v.far.up.held ++ v.near.up.held ∧
      (v.carry up down).near.down.held ++ (v.carry up down).far.down.held =
        v.near.down.held ++ v.far.down.held := by
  constructor
  · simp only [carry]
    rw [ByteArray.append_assoc, Pipe.extract_append_extract]
  · simp only [carry]
    rw [ByteArray.append_assoc, Pipe.extract_append_extract]

theorem Rises.of_eq (h : Rises n c v ms) (hdecoder : v'.session.decoder = v.session.decoder)
    (hheld : v'.far.up.held ++ v'.near.up.held = v.far.up.held ++ v.near.up.held) :
    Rises n c v' ms := by
  obtain ⟨more, hexpects, hmore⟩ := h
  exact ⟨more, by rw [hdecoder, hheld]; exact hexpects, hmore⟩

theorem Falls.of_eq (h : Falls c v ms) (hphase : v'.session.phase = v.session.phase)
    (hheld : v'.near.down.held ++ v'.far.down.held = v.near.down.held ++ v.far.down.held) :
    Falls c v' ms := by
  obtain ⟨more, hexpects, hmore⟩ := h
  exact ⟨more, by rw [hheld]; exact hexpects, by rw [hphase]; exact hmore⟩

/-- What is on its way up does not change with a client that has let go of the link. -/
theorem Rises.apart (h : Rises n c v ms) (hlink : linkOf? c' ≠ some n) : Rises n c' v ms := by
  obtain ⟨more, hexpects, -⟩ := h
  exact ⟨more, hexpects, fun hlinked => absurd hlinked hlink⟩

theorem Rises.of_phase (h : Rises n c v ms) (hphase : c'.phase = c.phase) : Rises n c' v ms := by
  obtain ⟨more, hexpects, hmore⟩ := h
  refine ⟨more, hexpects, ?_⟩
  rw [linkOf?_eq, hphase]
  exact hmore

theorem Falls.of_phase (h : Falls c v ms) (hphase : c'.phase = c.phase) : Falls c' v ms := by
  obtain ⟨more, hexpects, hmore⟩ := h
  exact ⟨more, by rw [hphase]; exact hexpects, hmore⟩

/-! ## Steps of the session -/

variable {wallClock : Nat} {m : Mailroom} {t' : Session.Turn} {heard : Option Message}

/-- A session gets the messages of its client one after the other. -/
theorem Rises.next (h : Rises n c v ms) {message : Message} {decoder : Decoder}
    (hnext : v.session.decoder.next = (.ok (some message), decoder)) :
    ∃ rest, ms = message :: rest := by
  obtain ⟨more, hexpects, -⟩ := h
  obtain ⟨rest, hrest, -⟩ := hexpects.next hnext
  exact ⟨rest, hrest⟩

/-- **What is on its way up after a step of the session**, unless the session is at its end. -/
theorem Rises.session (h : Rises n c v ms)
    (hdoes : Session.Does wallClock ⟨v.session, m, v.far⟩ heard t') :
    ∃ rest, ms = heard.toList ++ rest ∧
      ((∃ result, t'.session.phase = .ended result) ∨ Rises n c (v.after t') rest) := by
  obtain ⟨more, hexpects, hmore⟩ := h
  rw [ByteArray.append_assoc] at hexpects
  obtain ⟨rest, hms, hrest⟩ := hdoes.expects hexpects
  refine ⟨rest, hms, hrest.imp_right fun hrest => ⟨more, ?_, hmore⟩⟩
  rw [ByteArray.append_assoc]
  exact hrest

/-- **What is on its way down after a step of the session**: what it wrote is behind the rest. -/
theorem Falls.session (h : Falls c v ms) (hgoing : ∀ result, v.session.phase ≠ .ended result)
    (hdoes : Session.Does wallClock ⟨v.session, m, v.far⟩ heard t') :
    ∃ said, Falls c (v.after t') (ms ++ said) ∧
      ∀ message ∈ said, Session.Utters wallClock ⟨v.session, m, v.far⟩ heard message := by
  obtain ⟨more, hexpects, hmore⟩ := h
  obtain ⟨said, more', hputs, hframed, hmore', hsaid⟩ := hdoes.puts
  refine ⟨said, ⟨more', ?_, hmore'⟩, hsaid⟩
  have hall : v.near.down.held ++ t'.link.down.held ++ more' =
      v.near.down.held ++ v.far.down.held ++ more ++ stream said := by
    rw [hmore hgoing, ByteArray.append_assoc, hputs]
    simp only [ByteArray.append_assoc]
  exact hall ▸ hexpects.append hframed

/-! ## Steps of the keeper -/

variable {uttered : Option (Purpose × Message)} {u u' : Keeper.Turn}

/-- **What is on its way up after a step of the keeper**: what it wrote is behind the rest. -/
theorem Rises.keeper (h : Rises n c v ms) (hlinked : linkOf? c = some n)
    (hacts : Acts ⟨c, v.near, none⟩ uttered heard u') :
    Rises n u'.connection { v with near := u'.link }
      (ms ++ fitting (uttered.toList.map Prod.snd)) := by
  obtain ⟨more, hexpects, hmore⟩ := h
  obtain ⟨put, more', hput, hheld, hmore'⟩ := hacts.puts
  refine ⟨more', ?_, fun hstill => hmore' (by rw [hstill]; nofun)⟩
  have hall : v.far.up.held ++ u'.link.up.held ++ more' =
      v.far.up.held ++ v.near.up.held ++ more ++ offered uttered := by
    calc v.far.up.held ++ u'.link.up.held ++ more'
        = v.far.up.held ++ v.near.up.held ++ (put ++ more') := by
          rw [hheld]
          simp only [ByteArray.append_assoc]
      _ = _ := by rw [hput, hmore hlinked, ← ByteArray.append_assoc]
  exact hall ▸ hexpects.append (framed_fitting _)

/-- **What is on its way down after a step of the keeper**, while it keeps the link. -/
theorem Falls.keeper (h : Falls c v ms) (hacts : Acts ⟨c, v.near, none⟩ uttered heard u') :
    ∃ rest, ms = heard.toList ++ rest ∧ (linkOf? u'.connection ≠ none →
      Falls u'.connection { v with near := u'.link } rest) := by
  obtain ⟨more, hexpects, hmore⟩ := h
  rw [ByteArray.append_assoc] at hexpects
  obtain ⟨rest, hms, hrest⟩ := hacts.expects hexpects
  refine ⟨rest, hms, fun hstill => ⟨more, ?_, hmore⟩⟩
  rw [ByteArray.append_assoc]
  exact hrest hstill

/-- On a new socket there is nothing but a handshake on its way up. -/
theorem rises_connected {hello : Handshake} (id : UInt64) (now k : Nat) (hlink : u.link = {})
    (hleaves : u.Leaves n .new (offer (.ofHandshake hello)) u') :
    Rises n u'.connection { session := .start id now, near := u'.link, owner := some k }
      (fitting [.ofHandshake hello]) := by
  obtain ⟨put, more, hput, hheld, hmore⟩ := hleaves.puts
  refine ⟨more, ⟨rfl, framed_fitting _, ?_⟩, fun hstill => hmore (by rw [hstill]; nofun)⟩
  show ByteArray.empty ++ (ByteArray.empty ++ u'.link.up.held ++ more) = offer _
  rw [ByteArray.empty_append, ByteArray.empty_append, hheld, hlink, ← hput]
  exact congrArg (· ++ more) ByteArray.empty_append

/-- On a new socket there is nothing on its way down. -/
theorem falls_connected {b : ByteArray} (id : UInt64) (now k : Nat) (hlink : u.link = {})
    (hleaves : u.Leaves n .new b u') (hstill : linkOf? u'.connection ≠ none) :
    Falls u'.connection { session := .start id now, near := u'.link, owner := some k } [] := by
  have hdecoder : u'.connection.phase.decoder = .new := by
    rcases hleaves.stays with ⟨hnone, -⟩ | ⟨-, hdecoder⟩
    · exact absurd hnone hstill
    · exact hdecoder
  have hheld : u'.link.down.held = .empty := by
    rw [hleaves.down, hlink]
  refine ⟨.empty, ?_, fun _ => rfl⟩
  rw [hdecoder]
  show Decoder.new.Expects (u'.link.down.held ++ .empty ++ .empty) []
  rw [hheld]
  exact Decoder.expects_new

/-! ## Responses on their way up, and requests on their way down -/

/-- All responses on their way up have a property. -/
def Upstream (n : Nat) (c : Connection) (v : Visit) (P : Wire.Response → Prop) : Prop :=
  ∃ ms, Rises n c v ms ∧ ∀ m ∈ ms, ∀ r, m.response = some r → P r

/-- All requests on their way down have a property. -/
def Downstream (c : Connection) (v : Visit) (P : Wire.Request → Prop) : Prop :=
  ∃ ms, Falls c v ms ∧ ∀ m ∈ ms, ∀ r, m.request = some r → P r

variable {P P' : Wire.Response → Prop} {Q Q' : Wire.Request → Prop}

theorem Upstream.mono (h : Upstream n c v P) (hP : ∀ r, P r → P' r) : Upstream n c v P' := by
  obtain ⟨ms, hrises, hms⟩ := h
  exact ⟨ms, hrises, fun m hm r hr => hP r (hms m hm r hr)⟩

theorem Downstream.mono (h : Downstream c v Q) (hQ : ∀ r, Q r → Q' r) : Downstream c v Q' := by
  obtain ⟨ms, hfalls, hms⟩ := h
  exact ⟨ms, hfalls, fun m hm r hr => hQ r (hms m hm r hr)⟩

/-- What happens to the link and the client is the same for all properties. -/
theorem Upstream.imp (h : Upstream n c v P) (hrises : ∀ ms, Rises n c v ms → Rises n c' v' ms) :
    Upstream n c' v' P := by
  obtain ⟨ms, hms, hP⟩ := h
  exact ⟨ms, hrises ms hms, hP⟩

theorem Downstream.imp (h : Downstream c v Q) (hfalls : ∀ ms, Falls c v ms → Falls c' v' ms) :
    Downstream c' v' Q := by
  obtain ⟨ms, hms, hQ⟩ := h
  exact ⟨ms, hfalls ms hms, hQ⟩

/-- The stream up after a step of the session, unless the session is at its end. -/
theorem Upstream.session (h : Upstream n c v P)
    (hdoes : Session.Does wallClock ⟨v.session, m, v.far⟩ heard t') :
    (∃ result, t'.session.phase = .ended result) ∨ Upstream n c (v.after t') P := by
  obtain ⟨ms, hrises, hms⟩ := h
  obtain ⟨rest, rfl, hrest⟩ := hrises.session hdoes
  exact hrest.imp_right fun hrest => ⟨rest, hrest, fun m hm => hms m (List.mem_append_right _ hm)⟩

/-- The stream down after a step of the session, which passes on what is on its line. -/
theorem Downstream.session (h : Downstream c v Q)
    (hgoing : ∀ result, v.session.phase ≠ .ended result)
    (hline : ∀ i, v.session.phase.signIn? = some i → ∀ r ∈ m.onLine i.line, Q r)
    (hdoes : Session.Does wallClock ⟨v.session, m, v.far⟩ heard t') :
    Downstream c (v.after t') Q := by
  obtain ⟨ms, hfalls, hms⟩ := h
  obtain ⟨said, hafter, hsaid⟩ := hfalls.session hgoing hdoes
  refine ⟨ms ++ said, hafter, fun message hm r hr => ?_⟩
  rcases List.mem_append.1 hm with hm | hm
  · exact hms message hm r hr
  · cases hsaid message hm with
    | passes i r' m' hphase hreceive =>
      obtain rfl : r' = r := Option.some.inj hr
      refine hline i (congrArg Session.Phase.signIn? hphase) r' ?_
      rw [(Mailroom.onLine_receive? hreceive).1]
      exact List.mem_cons_self ..
    | answers signIn message' r' => cases hr

end ChatSockets.Visit
