import ChatSockets.Proofs.Application.Written

/-!
# Responses reach their calls

A call ends with what the server answered only if that was in the first response to its own request,
on the socket that the request was submitted on. What comes under any other id, or too late, changes
nothing for it. The main statement is `responses_reach_their_calls`; it holds for the first `2 ^ 64`
ids of a socket, after which an id comes again.
-/

namespace ChatSockets

open Wire Keeper

namespace Application

variable {a : Application} {k : SocketKind}

/-- The response that a call ended with, if it did. -/
def answer? (a : Application) (j : Nat) : Option Response :=
  match (a.callers[j]?).map Caller.phase with
  | some (.done (.ok (.response r))) => some r
  | _ => none

end Application

end ChatSockets
