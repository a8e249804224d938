import InbandTelemetry.Node.Progress

namespace InbandTelemetry

/-!
# Using a node

What the owner of a node and the consumers of its outputs can do.  Nothing here
moves the driver; it runs afterwards.
-/

namespace Node

/-- Send a command, unless the driver has stopped. -/
def submit (node : Node) (command : Command) : Except NodeError Node :=
  if node.running then .ok { node with commands := node.commands ++ [command] }
  else .error .closed

/-- Collect the oldest answer.  Without one the driver has stopped before it came to
the command. -/
def collect (node : Node) : Except NodeError Unit × Node :=
  match node.answers with
  | [] => (.error .closed, node)
  | answer :: rest => (answer.mapError .config, { node with answers := rest })

/-- Send a command and wait for its answer. -/
def call (clock : Nat → Nat) (node : Node) (command : Command) :
    Except NodeError Unit × Node :=
  match node.submit command with
  | .error fault => (.error fault, node)
  | .ok sent => (sent.run clock).collect

def send (node : Node) (gated : GatedBatch) : Except NodeError Node :=
  if !node.running then .error .closed
  else if node.input.length < node.inputRoom then
    .ok { node with input := node.input ++ [gated] }
  else .error .channelFull

def takeOutput (node : Node) : Bool × Node :=
  let (available, output) := node.output.take
  (available, { node with output })

def takePostcards (node : Node) : Bool × Node :=
  let (available, postcards) := node.postcards.take
  (available, { node with postcards })

def receive (node : Node) : Received GatedBatch × Node :=
  let (received, output) := node.output.receive node.running
  (received, { node with output })

def receivePostcard (node : Node) : Received Packet × Node :=
  let (received, postcards) := node.postcards.receive node.running
  (received, { node with postcards })

def tick (node : Node) : Node := { node with drainDue := node.running }

def dropOutput (node : Node) : Node := { node with output := node.output.drop }

def dropPostcards (node : Node) : Node := { node with postcards := node.postcards.drop }

/-- The owner lets go of the node, and with it of the streams that nobody took. -/
def release (node : Node) : Node :=
  { node with
    owned := false
    output := node.output.abandon
    postcards := node.postcards.abandon }

end Node

end InbandTelemetry
