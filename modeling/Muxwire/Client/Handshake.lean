import Muxwire.Client.Options
import Muxwire.Mux.SyncCounter
import Muxwire.Request.Query
import Muxwire.Wire.Greeting
import Muxwire.Wire.Response

/-!
# The handshake

What comes before the first query: the greeting of the server and, if a user is named, one
authentication request with its answer.

* `Handshake.run` does this on the stream of the server. It gives what was written, and either the
  greeting with what is left of the stream and the next sync, or the first failure.
* A stream that ends while more is due fails the handshake; where the server stays silent instead,
  the time limit does (`Handshake.outcome`).
-/

namespace Muxwire.Client

open Wire Request Mux

/-- A connection that is ready for queries. -/
structure Established where
  greeting : Greeting
  /-- The syncs from here on. -/
  counter : SyncCounter
  /-- What the server sends from here on. -/
  stream : Source

namespace Handshake

/-- Why a handshake fails. -/
inductive Failure where
  /-- The stream ended while more was due; the error is what that means. -/
  | streamEnded (error : Error)
  | failed (error : Error)

/-- What a handshake wrote, and how it ended. -/
structure Result where
  written : Octets
  outcome : Except Failure Established

/-- The failure of a missing frame. -/
def Failure.ofFrameFault : Source.FrameFault → Failure
  | .ended ending => .streamEnded (Source.closedAt ending)
  | .badPrefix fault => .failed (.protocol fault.message)

/-- The error of an answer that is for another request. -/
def otherSync (got wanted : UInt32) : Error :=
  .auth s!"reply for request {got.toNat} while waiting for {wanted.toNat}"

/-- Whether the answer to the authentication under a sync accepts it. -/
def accepts (sync : UInt32) (body : Octets) : Except Error Unit := do
  let r ← Response.decode body
  if r.sync ≠ sync then .error (otherSync r.sync sync)
  match r.error with
  | some e => .error (.auth e.text)
  | none => pure ()

/-- The authentication on the stream behind the greeting. -/
def authenticate (user password : String) (g : Greeting) (s : Source) : Result :=
  match g.decodedSalt with
  | .error e => ⟨[], .error (.failed e)⟩
  | .ok salt =>
    let (sync, counter) := SyncCounter.new.next
    match (Query.auth user password salt).pack sync "" with
    | .error e => ⟨[], .error (.failed (.auth e.message))⟩
    | .ok frame =>
      match s.readFrame with
      | (.error fault, _) => ⟨frame, .error (.ofFrameFault fault)⟩
      | (.ok body, rest) =>
        match accepts sync body with
        | .error e => ⟨frame, .error (.failed e)⟩
        | .ok () => ⟨frame, .ok ⟨g, counter, rest⟩⟩

/-- The handshake on the stream of the server. -/
def run (o : Options) (s : Source) : Result :=
  match Greeting.read s with
  | (.error ending, _) => ⟨[], .error (.streamEnded (Greeting.cutShort ending))⟩
  | (.ok g, rest) =>
    match o.credentials? with
    | none => ⟨[], .ok ⟨g, .new, rest⟩⟩
    | some (user, password) => authenticate user password g rest

/-- The outcome for the caller. `staysOpen` tells that the server does not end its stream, so that
where more is due the time limit passes. -/
def outcome (o : Options) (staysOpen : Bool) (s : Source) : Except Error Established :=
  match (run o s).outcome with
  | .ok established => .ok established
  | .error (.streamEnded e) => .error (if staysOpen then .connectTimeout o.connectTimeout else e)
  | .error (.failed e) => .error e

end Handshake

end Muxwire.Client
