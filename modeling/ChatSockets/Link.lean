/-!
# Links between a client and a server

A `Link` is a pair of pipes, one for each direction. A `Pipe` holds at most `Pipe.capacity` bytes
that were written and not yet read. Once a pipe is closed nothing can be written to it; what it
holds can still be read, and after that its reader finds the end. To read does not fail: a transport
may also report that it failed as it was read, and this is left out.
-/

namespace ChatSockets

/-- One direction of a link. -/
structure Pipe where
  held : ByteArray := .empty
  closed : Bool := false
  deriving Inhabited

/-- What a reader of a pipe finds. -/
inductive ReadResult
  /-- nothing yet -/
  | nothing
  /-- nothing, and nothing more will come -/
  | ended
  | bytes (b : ByteArray)

namespace Pipe

/-- How many bytes a pipe holds. -/
def capacity : Nat := 64 * 1024

/-- The most bytes that are read at a time. -/
def readSize : Nat := 4096

/-- Whether a reader finds anything, be it the end. -/
def readable (p : Pipe) : Bool := p.held.size > 0 || p.closed

/-- Whether a writer gets on, be it by an error. -/
def writable (p : Pipe) : Bool := p.held.size < capacity || p.closed

/-- Reads as many bytes as there are, but at most `n`. There is no read that fails. -/
def read (p : Pipe) (n : Nat) : ReadResult × Pipe :=
  if p.held.isEmpty then (if p.closed then .ended else .nothing, p)
  else (.bytes (p.held.extract 0 n), { p with held := p.held.extract n p.held.size })

/-- Writes what there is room for; the bytes left over come back. A closed pipe takes none. -/
def write? (p : Pipe) (b : ByteArray) : Option (ByteArray × Pipe) :=
  if p.closed then none
  else
    let room := capacity - p.held.size
    some (b.extract room b.size, { p with held := p.held ++ b.extract 0 room })

/-- The pipe, closed. -/
def close (p : Pipe) : Pipe := { p with closed := true }

end Pipe

/-- A connection: what the client writes goes up, what the server writes goes down. -/
structure Link where
  up : Pipe := {}
  down : Pipe := {}
  deriving Inhabited

namespace Link

/-- One end let go of the link: both directions are closed. -/
def close (l : Link) : Link := ⟨l.up.close, l.down.close⟩

/-- The client will write no more. -/
def closeUp (l : Link) : Link := { l with up := l.up.close }

/-- Whether an end let go of the link. -/
def isClosed (l : Link) : Bool := l.down.closed

end Link

end ChatSockets
