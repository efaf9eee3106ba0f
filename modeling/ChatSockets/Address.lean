import ChatSockets.Text.Blank
import ChatSockets.Text.Decimal

/-!
# Addresses that cannot be parsed

An address is a host, a colon and a port number below 65536. `Address.fault?` says what is wrong
with a text that is none; what a well-formed address leads to is not decided here.
-/

namespace ChatSockets.Address

/-- What stands after the last colon, if there is one. -/
def afterLastColon? (s : List Char) : Option (List Char) :=
  (Text.cut? ':' s.reverse).map fun p => p.1.reverse

/-- What is wrong with the form of an address. -/
def fault? (address : String) : Option String :=
  match afterLastColon? address.toList with
  | none => some "invalid socket address"
  | some port => if (Text.unsigned? 65536 port).isNone then some "invalid port value" else none

/-- The words for an address that could not be connected to, and why. -/
def connectError (address reason : String) : String := s!"connect to {address}: {reason}"

end ChatSockets.Address
