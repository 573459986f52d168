import Muxwire.Client.Address
import Muxwire.Client.Handshake
import Muxwire.Mux.Pipeline

/-!
# Connections

A connection is opened to an address: the address is read, the handshake is done on the stream of
the server, and what is left of the stream feeds the pipeline.

* `effectiveSpace` is the default space of all queries: the option if it is set, even to the empty
  text, else the space of the address, else the empty text.
* `Connection.establish` is the opening. It fails before anything is read if the address cannot be
  read.
* `Connection.answer` is what a caller gets that waits no longer than the limit for queries.
-/

namespace Muxwire.Client

open Wire Mux

/-- A connection. -/
structure Connection where
  remote : String
  space : String
  queryTimeout : Duration
  greeting : Greeting
  pipeline : Pipeline

namespace Connection

/-- The default space for options and an address. -/
def effectiveSpace (o : Options) (a : Address) : String :=
  (o.defaultSpace.or a.space).getD ""

/-- The inbound stage at a stream of which nothing is read yet. -/
def inboundOf (s : Source) : Inbound :=
  { Inbound.start with
    arrived := s.octets
    fault := match s.ending with
      | .fault fault => some fault
      | .eof => none
    closing := s.ending = .eof }

/-- The pipeline of an established connection. -/
def pipelineOf (c : Capacities) (space : String) (e : Established) : Pipeline :=
  let intake := Intake.ofSizes c.responses c.divisor
  { Pipeline.start (.new c.submissions c.responses c.outbound intake space e.counter) with
    inbound := inboundOf e.stream }

/-- Opens a connection to an address whose server sends a stream. `staysOpen` tells that the server
does not end the stream during the handshake. -/
def establish (address : String) (o : Options) (c : Capacities) (staysOpen : Bool) (s : Source) :
    Except Error Connection := do
  let o := o.normalized
  let a ← Address.parse address
  let space := effectiveSpace o a
  let e ← Handshake.outcome o staysOpen s
  pure ⟨a.remote, space, o.queryTimeout, e.greeting, pipelineOf c space e⟩

/-- The answer to a query whose reply is the given one, if any came within the limit. A server's
error is part of the reply. -/
def answer (c : Connection) (reply? : Option Reply) : Reply :=
  reply?.getD (.error (.timeout c.queryTimeout))

end Connection

end Muxwire.Client
