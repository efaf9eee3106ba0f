import ChatSockets.Link
import ChatSockets.Request
import ChatSockets.Text.Blank
import ChatSockets.Text.Decimal
import ChatSockets.Wire.Frame

/-!
# A server that follows a script

A `Peer` is the server's end of a link. It takes note of every frame, answers some requests at once
if it is told to (`Peer.answer?`), and writes what the script wants to be written. It lets go of the
link when the script says so, and notices when the client does.
-/

namespace ChatSockets.Script

/-- What the server's end of a link takes note of. -/
inductive Sighting
  | frame (m : Wire.Message)
  /-- the client let go of the link -/
  | closed

/-- The server's end of a link. -/
structure Peer where
  /-- the name of the socket, once its handshake is there -/
  name : Option String := none
  decoder : Wire.Decoder := .new
  /-- what is still to be written -/
  output : ByteArray := .empty
  /-- whether the link is to be let go of after that -/
  closing : Bool := false
  /-- whether the client let go of the link, or the peer did -/
  gone : Bool := false

namespace Peer

/-- The path in front of a status that a request asks for. -/
def statusPath : String := "/v1/status/"

/-- The answer to a request, for the paths that have one. -/
def answer? (r : Wire.Request) : Option Wire.Response :=
  if r.path = Path.keepalive then some (.plain r.id 200 "OK")
  else if r.path = "/v1/echo" then
    some { Wire.Response.plain r.id 200 "OK" with body := r.body, headers := r.headers }
  else
    match (Text.after? statusPath.toList r.path.toList).bind (Text.unsigned? UInt32.size) with
    | none => none
    | some n => some { Wire.Response.plain r.id n.toUInt32 s!"Status {n}" with body := r.body }

/-- The bytes with which a message is answered. -/
def reply (m : Wire.Message) : ByteArray :=
  match m.request.bind answer? with
  | none => .empty
  | some response =>
    match Wire.Frame.encode (.ofResponse response) with
    | .ok frame => frame
    | .error _ => .empty

/-- Whether there is something to write, or the link is to be let go of. -/
def canWrite (link : Link) (p : Peer) : Bool :=
  !p.gone && (if p.output.isEmpty then p.closing else link.down.writable)

/-- Whether there is something to read. -/
def canRead (link : Link) (p : Peer) : Bool := !p.gone && link.up.readable

/-- Whether a step would change anything. -/
def ready (link : Link) (p : Peer) : Bool := p.canWrite link || p.canRead link

/-- Writes as much as there is room for, and lets go of the link after that if it is to. A client
that is gone takes nothing. -/
def write (link : Link) (p : Peer) : Peer × Link :=
  if p.output.isEmpty then ({ p with gone := true }, link.close)
  else
    match link.down.write? p.output with
    | none => ({ p with output := .empty }, link)
    | some (rest, down) => ({ p with output := rest }, { link with down })

/-- Reads a piece of the stream. The frames that it completes are handed over for being noted. -/
def read (auto : Bool) (link : Link) (p : Peer) : List Sighting × Peer × Link :=
  match link.up.read Pipe.readSize with
  | (.nothing, _) => ([], p, link)
  | (.ended, _) => ([.closed], { p with gone := true }, link)
  | (.bytes b, up) =>
    let (items, decoder) := p.decoder.feed b
    let messages := items.filterMap Except.toOption
    let output := if auto then messages.foldl (fun o m => o ++ reply m) p.output else p.output
    (messages.map .frame, { p with decoder, output }, { link with up })

end Peer

end ChatSockets.Script
