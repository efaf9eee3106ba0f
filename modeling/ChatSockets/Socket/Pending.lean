import ChatSockets.ChatError
import ChatSockets.Table

/-!
# Requests that wait for their responses

`Pending ρ` keeps, by request id, who waits for the response; `ρ` names the receivers. An operation
gives back the table and what becomes of the receivers it touches: one gets an outcome, or it is
told by being dropped that it will get none. `Pending.draw` gives out the ids, from 1 on.
-/

namespace ChatSockets

/-- What a request ends in. -/
abbrev Outcome := Except ChatError Response

/-- The outcome that a response of the server means. -/
def Outcome.ofWire (r : Wire.Response) : Outcome :=
  if r.isSuccess then .ok (.ofWire r) else .error (.serviceResponse r.status r.message r.body)

/-- The receivers of the responses that are still to come, by request id. -/
structure Pending (ρ : Type) where
  /-- the last id given out -/
  drawn : UInt64
  receivers : Table UInt64 ρ

namespace Pending

variable {ρ : Type}

/-- No id given out, nobody waiting. -/
def empty : Pending ρ := ⟨0, .empty⟩

instance : Inhabited (Pending ρ) := ⟨empty⟩

/-- How many requests wait. -/
def size (p : Pending ρ) : Nat := p.receivers.size

/-- A request id that was not given out before. -/
def draw (p : Pending ρ) : UInt64 × Pending ρ := (p.drawn + 1, { p with drawn := p.drawn + 1 })

/-- A receiver waits under an id; the one that waited under it is dropped. -/
def register (p : Pending ρ) (id : UInt64) (r : ρ) : Option ρ × Pending ρ :=
  (p.receivers.get? id, { p with receivers := p.receivers.insert id r })

/-- A response arrives: its receiver and the outcome for it, if one waits. -/
def complete (p : Pending ρ) (r : Wire.Response) : Option (ρ × Outcome) × Pending ρ :=
  ((p.receivers.get? r.id).map fun receiver => (receiver, Outcome.ofWire r),
    { p with receivers := p.receivers.erase r.id })

/-- Nobody waits under an id any more; the receiver that did is dropped. -/
def remove (p : Pending ρ) (id : UInt64) : Option ρ × Pending ρ :=
  (p.receivers.get? id, { p with receivers := p.receivers.erase id })

/-- All receivers that wait are to fail, and none waits any more. -/
def failAll (p : Pending ρ) : List ρ × Pending ρ :=
  (p.receivers.values, { p with receivers := .empty })

end Pending

end ChatSockets
