import ChatSockets.Link
import ChatSockets.Server.Mailroom
import ChatSockets.Text.Duration
import ChatSockets.Wire.Frame

/-!
# Server sessions

A session is one client's socket at the server, from the handshake to the end. It waits a limited
time for a handshake, signs the client in if the handshake asks for it, and then does whatever is
next: it passes on a request from its line, or handles a frame of the client. When both are there,
either may come first; `Session.step` is told which (`Session.Branch`). While a frame is written
and the pipe is full, it does nothing else.

Each step handles at most one frame. `Session.ready` says whether a step would change anything.
-/

namespace ChatSockets

/-- Why a session ended in an error. -/
inductive SessionError
  | noHandshake
  | closedBeforeHandshake
  | expectedHandshake (found : Wire.Kind)
  | handshakeWithoutPayload
  | authenticationFailed (login : String)
  | frame (cause : Wire.FrameError)
  | brokenPipe
  deriving DecidableEq

/-- The words for an error and its causes, joined by colons. -/
def SessionError.message : SessionError → String
  | noHandshake => s!"no handshake within {(Duration.ofMillis Delay.connect).text}"
  | closedBeforeHandshake => "closed before handshake"
  | expectedHandshake found => s!"expected handshake, got {found.name}"
  | handshakeWithoutPayload => "handshake frame without payload"
  | authenticationFailed login => s!"authentication failed for {login}"
  | frame (.malformed cause) => (Wire.FrameError.malformed cause).message ++ ": " ++ cause.message
  | frame cause => cause.message
  | brokenPipe => "broken pipe"

/-- Who a session is signed in as, and the line on which it is sent requests. -/
structure SignIn where
  login : String
  line : Nat
  deriving DecidableEq, Repr

namespace Session

/-- What a session is doing. -/
inductive Phase
  /-- it waits for a handshake until a time -/
  | greeting (deadline : Nat)
  /-- it waits for a request on its line or a frame of the client -/
  | serving (signIn : Option SignIn)
  /-- it has bytes of a frame still to write -/
  | writing (signIn : Option SignIn) (rest : ByteArray)
  | ended (result : Except SessionError Unit)

/-- What a session that serves can do next. -/
inductive Branch
  /-- pass on a request from the line -/
  | push
  /-- read from the client -/
  | frame
  deriving DecidableEq, Repr

end Session

/-- A client's socket at the server. -/
structure Session where
  id : UInt64
  decoder : Wire.Decoder := .new
  phase : Session.Phase

namespace Session

/-- A session that begins at a time. -/
def start (id : UInt64) (now : Nat) : Session :=
  { id, phase := .greeting (now + Delay.connect) }

/-- What a session ended in, if it has. -/
def result? (s : Session) : Option (Except SessionError Unit) :=
  match s.phase with
  | .ended r => some r
  | _ => none

/-! ## Whether a step can be made -/

/-- Whether there is something to read, in the decoder or on the link. -/
def hasInput (link : Link) (s : Session) : Bool := s.decoder.ready || link.up.readable

/-- Whether a branch can be taken. -/
def canTake (m : Mailroom) (link : Link) (s : Session) : Branch → Bool
  | .push =>
    match s.phase with
    | .serving (some i) => (m.receive? i.line).isSome
    | _ => false
  | .frame => s.hasInput link

/-- Whether a step would change anything. -/
def ready (now : Nat) (m : Mailroom) (link : Link) (s : Session) : Bool :=
  match s.phase with
  | .greeting deadline => s.hasInput link || deadline ≤ now
  | .serving _ => s.canTake m link .push || s.canTake m link .frame
  | .writing .. => link.down.writable
  | .ended _ => false

/-! ## The parts of a step -/

/-- A session with what it works on. -/
structure Turn where
  session : Session
  mailroom : Mailroom
  link : Link

namespace Turn

/-- Goes on to another phase. -/
def goTo (t : Turn) (phase : Phase) : Turn := { t with session := { t.session with phase } }

/-- Lets go of the link. -/
def finish (t : Turn) (result : Except SessionError Unit) : Turn :=
  { t.goTo (.ended result) with link := t.link.close }

/-- Hangs up the line, gives up the account and lets go of the link. -/
def signOut (t : Turn) (signIn : Option SignIn) (result : Except SessionError Unit) : Turn :=
  match signIn with
  | none => t.finish result
  | some i =>
    { t with mailroom := (t.mailroom.hangUp i.line).unregister i.login t.session.id }.finish result

/-- Writes as much as there is room for. -/
def write (t : Turn) (signIn : Option SignIn) (b : ByteArray) : Turn :=
  match t.link.down.write? b with
  | none => t.signOut signIn (.error .brokenPipe)
  | some (rest, down) =>
    { t with link := { t.link with down } }.goTo
      (if rest.isEmpty then .serving signIn else .writing signIn rest)

/-- Writes a message. -/
def writeMessage (t : Turn) (signIn : Option SignIn) (message : Wire.Message) : Turn :=
  match Wire.Frame.encode message with
  | .error e => t.signOut signIn (.error (.frame e))
  | .ok frame => t.write signIn frame

end Turn

/-- Who a handshake signs in, if it is accepted. -/
def authenticate (m : Mailroom) (h : Wire.Handshake) : Except SessionError (Option String) :=
  match h.login, h.password with
  | none, _ => .ok none
  | some login, some password =>
    if m.authenticate login password then .ok (some login)
    else .error (.authenticationFailed login)
  | some login, none => .error (.authenticationFailed login)

/-- The handshake that a message is. -/
def handshakeOf (message : Wire.Message) : Except SessionError Wire.Handshake :=
  if message.kindOf = .handshake then
    match message.handshake with
    | none => .error .handshakeWithoutPayload
    | some h => .ok h
  else .error (.expectedHandshake message.kindOf)

/-- The first message of a client: a session is signed in, or ends. -/
def greet (t : Turn) (message : Wire.Message) : Turn :=
  match (handshakeOf message >>= authenticate t.mailroom) with
  | .error e => t.finish (.error e)
  | .ok none => t.goTo (.serving none)
  | .ok (some login) =>
    let (line, m) := t.mailroom.openLine
    let (_, m) := m.register login ⟨t.session.id, line⟩
    { t with mailroom := m }.goTo (.serving (some ⟨login, line⟩))

/-- The answer to a request of a client that is signed in as `login`, at a time. -/
def answer (m : Mailroom) (wallClock : Nat) (login : Option String) (r : Wire.Request) :
    Wire.Response × Mailroom :=
  if r.verb = "GET" ∧ r.path = Path.keepalive then (.plain r.id 200 "OK", m)
  else if r.verb = "GET" ∧ r.path = Path.whoami then
    match login with
    | some login => ({ Wire.Response.plain r.id 200 "OK" with body := login.toUTF8 }, m)
    | none => (.plain r.id 401 "Unauthorized", m)
  else
    match (if r.verb = "PUT" then Text.after? Path.messagesTo.toList r.path.toList else none) with
    | none => (.plain r.id 404 "Not Found", m)
    | some recipient =>
      match m.deliver wallClock (.ofList recipient) r.body with
      | (some _, m) => (.plain r.id 200 "OK", m)
      | (none, m) => (.plain r.id 404 "Unknown recipient", m)

/-- One message of a client after the handshake. -/
def handle (t : Turn) (wallClock : Nat) (signIn : Option SignIn) (message : Wire.Message) : Turn :=
  match message.kindOf, message.request, message.response, signIn with
  | .request, some r, _, _ =>
    let (response, m) := answer t.mailroom wallClock (signIn.map SignIn.login) r
    { t with mailroom := m }.writeMessage signIn (.ofResponse response)
  | .response, _, some r, some i =>
    if r.isSuccess then { t with mailroom := (t.mailroom.acknowledge i.login r.id).2 } else t
  | _, _, _, _ => t

/-- The result of a client that went away. -/
def endOfInput (phase : Phase) : Except SessionError Unit :=
  match phase with
  | .greeting _ => .error .closedBeforeHandshake
  | _ => .ok ()

/-- Reads: a message that is complete is handled, otherwise a piece of the stream is taken. A read
that fails, which would end the session with an error of its own, is left out (`Pipe.read`). -/
def Turn.read (t : Turn) (signIn : Option SignIn) (handle : Turn → Wire.Message → Turn) : Turn :=
  if t.session.decoder.ready then
    match t.session.decoder.next with
    | (.error e, decoder) =>
      { t with session := { t.session with decoder } }.signOut signIn (.error (.frame e))
    | (.ok none, _) => t
    | (.ok (some message), decoder) =>
      handle { t with session := { t.session with decoder } } message
  else
    match t.link.up.read Pipe.readSize with
    | (.nothing, _) => t
    | (.ended, _) => t.signOut signIn (endOfInput t.session.phase)
    | (.bytes b, up) =>
      { t with
        link := { t.link with up }
        session := { t.session with decoder := t.session.decoder.extend b } }

/-- One step. A branch that cannot be taken changes nothing. -/
def step (branch : Branch) (now wallClock : Nat) (t : Turn) : Turn :=
  match t.session.phase with
  | .greeting deadline =>
    if t.session.hasInput t.link then t.read none greet
    else if deadline ≤ now then t.finish (.error .noHandshake)
    else t
  | .serving signIn =>
    match branch with
    | .push =>
      match signIn with
      | none => t
      | some i =>
        match t.mailroom.receive? i.line with
        | none => t
        | some (r, m) => { t with mailroom := m }.writeMessage signIn (.ofRequest r)
    | .frame => t.read signIn fun t message => handle t wallClock signIn message
  | .writing signIn rest => t.write signIn rest
  | .ended _ => t

end Session

end ChatSockets
