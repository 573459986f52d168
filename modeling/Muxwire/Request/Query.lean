import Muxwire.Msgpack.Arguments
import Muxwire.Request.Scramble
import Muxwire.Wire.Frame

/-!
# Queries

A query is what a caller wants of the server. The connection never looks inside: it asks for the
code and for the body, and makes a frame of them.

* `Query.appendBody` puts the body behind what a buffer holds. A query that fails may have put a
  part of it there; the queries of this library do not.
* `Query.pack` is the whole frame or an error of the query: whatever failed, its wording is kept
  (`Query.asQueryError`).
-/

namespace Muxwire.Request

open Msgpack Wire

/-- What is put behind a buffer, and whether that is the whole body. -/
structure Appended where
  buffer : Octets
  failure : Option Error

/-- A query. -/
inductive Query where
  /-- Asks for a sign of life. -/
  | ping
  /-- Calls a function by name. -/
  | call (name : String) (args : Arguments)
  /-- Evaluates an expression. -/
  | eval (expression : String) (args : Arguments)
  /-- Presents credentials, for the salt of a greeting. -/
  | auth (user password : String) (salt : Octets)
  /-- A query of the caller's own, which appends its body given the default space. -/
  | custom (code : UInt8) (append : String → Octets → Appended)
  /-- A query behind one more owner. -/
  | boxed (inner : Query)

namespace Query

/-- The name of the authentication that `auth` uses. -/
def authMechanism : String := "chap-sha1"

/-- The code of a query. -/
def code : Query → UInt8
  | .ping => RequestCode.ping.octet
  | .call _ _ => RequestCode.call.octet
  | .eval _ _ => RequestCode.eval.octet
  | .auth _ _ _ => RequestCode.auth.octet
  | .custom code _ => code
  | .boxed inner => inner.code

/-- A whole body behind a buffer, or the buffer alone if there is none. -/
def appendAll (buffer : Octets) : Except Error Octets → Appended
  | .ok body => ⟨buffer ++ body, none⟩
  | .error e => ⟨buffer, some e⟩

/-- The octets of a text. -/
def textOctets (s : String) : Octets :=
  (Value.text s).encode

/-- The map of a name and an argument list. -/
def namedBody (key : Key) (name : String) (args : Arguments) : Except Error Octets := do
  let list ← args.encodeList
  pure ((Head.map 2).write ++ key.octet :: textOctets name ++ Key.tuple.octet :: list)

/-- The map of a user and the pair of mechanism and scramble; the scramble is a string of raw
octets. -/
def authBody (user password : String) (salt : Octets) : Except Error Octets := do
  let scramble ← scramble password salt
  pure ((Head.map 2).write ++ Key.userName.octet :: textOctets user
    ++ Key.tuple.octet :: (Head.array 2).write ++ textOctets authMechanism
    ++ (Head.str scrambleSize).write ++ scramble)

/-- Puts the body of a query behind a buffer. -/
def appendBody (space : String) (buffer : Octets) : Query → Appended
  | .ping => appendAll buffer (.ok [])
  | .call name args => appendAll buffer (namedBody .functionName name args)
  | .eval expression args => appendAll buffer (namedBody .expression expression args)
  | .auth user password salt => appendAll buffer (authBody user password salt)
  | .custom _ append => append space buffer
  | .boxed inner => inner.appendBody space buffer

/-- An error as an error of the query. One that is so already keeps its text; any other gives its
wording. -/
def asQueryError : Error → Error
  | .query text => .query text
  | e => .query e.message

/-- The frame of a query under a sync, for a default space. -/
def pack (sync : UInt32) (space : String) : Query → Except Error Octets
  | .boxed inner => inner.pack sync space
  | q =>
    let body := q.appendBody space []
    match body.failure with
    | some e => .error (asQueryError e)
    | none => (build q.code sync body.buffer).mapError asQueryError

end Query

end Muxwire.Request
