import Muxwire.Duration

/-!
# Options

What a caller sets for a connection.

* `Options` are the time limits, the default space and the credentials. `normalized` puts the
  defaults for limits of zero; `credentials?` is the pair to present, if a user is named.
* `Capacities` are the sizes of the queues between the stages, and the divisor of the intake gate.
-/

namespace Muxwire.Client

/-- The options of a connection. -/
structure Options where
  /-- The limit for connecting, greeting and authentication together; zero for the default. -/
  connectTimeout : Duration := ⟨0⟩
  /-- The limit for a query and its answer; zero for the default. -/
  queryTimeout : Duration := ⟨0⟩
  /-- The space of queries that name none. -/
  defaultSpace : Option String := none
  user : Option String := none
  password : Option String := none
  deriving DecidableEq, Repr

namespace Options

/-- The default of both limits. -/
def defaultTimeout : Duration := .ofSeconds 1

/-- A limit, or the default for none. -/
def orDefault (d : Duration) : Duration :=
  if d.isZero then defaultTimeout else d

/-- The options with the defaults in the place of limits of zero. -/
def normalized (o : Options) : Options :=
  { o with connectTimeout := orDefault o.connectTimeout, queryTimeout := orDefault o.queryTimeout }

/-- The user and the password to present; none without a name. A missing password is empty. -/
def credentials? (o : Options) : Option (String × String) :=
  match o.user with
  | none => none
  | some user => if user.isEmpty then none else some (user, o.password.getD "")

end Options

/-- The sizes of the queues. -/
structure Capacities where
  /-- Queries submitted and not yet routed. -/
  submissions : Nat := 16
  /-- Frames routed and not yet written. -/
  outbound : Nat := 256
  /-- Responses read and not yet routed. -/
  responses : Nat := 256
  /-- Intake pauses above `responses / divisor` waiting responses. -/
  divisor : Nat := 10
  deriving DecidableEq, Repr

end Muxwire.Client
