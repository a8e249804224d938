import InbandTelemetry.Bytes

namespace InbandTelemetry

/-!
# Transport protocols

Synthetic frames carry one of two transport protocols, each with a header of a
fixed least length.
-/

/-- A transport protocol that a frame can be built with. -/
inductive Transport where
  | udp
  | tcp
deriving DecidableEq

namespace Transport

/-- The length of the transport header that a frame is built with. -/
def headerLength : Transport → Nat
  | udp => 8
  | tcp => 20

def number : Transport → UInt8
  | udp => 17
  | tcp => 6

def ofNumber? (number : UInt8) : Option Transport :=
  if number = udp.number then some udp
  else if number = tcp.number then some tcp
  else none

/-- The protocol that a name in lower case stands for. -/
def ofName? (name : String) : Option Transport :=
  if name = "udp" then some udp
  else if name = "tcp" then some tcp
  else none

def name : Transport → String
  | udp => "UDP"
  | tcp => "TCP"

end Transport

/-- A name that stands for no transport protocol. -/
structure UnknownTransport where
  name : String
deriving DecidableEq

def UnknownTransport.message (unknown : UnknownTransport) : String :=
  "invalid protocol: " ++ unknown.name

namespace Transport

/-- The protocol that a name stands for, or the report on that name. -/
def ofName (name : String) : Except UnknownTransport Transport :=
  (ofName? name).elim (.error ⟨name⟩) .ok

end Transport

end InbandTelemetry
