/-!
# The wall clock of a script

Of the time of day, only the number of its digits can be seen: the length of a message depends on
it. A script begins at a time with as many digits as any time of this century after 2001.
-/

namespace ChatSockets.Script

/-- The time of day when a script begins, in milliseconds. -/
def dawn : Nat := 1700000000000

/-- The time of day when a script has gone on for some milliseconds. -/
def wallClock (now : Nat) : Nat := dawn + now

end ChatSockets.Script
