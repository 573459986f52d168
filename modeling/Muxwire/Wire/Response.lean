import Muxwire.Msgpack.Decode
import Muxwire.Msgpack.Shape.Convert
import Muxwire.Wire.Frame

/-!
# Responses

The body of an answer is two values: a header map and, if anything follows it, a payload map.

* `Response.ofValues` reads the meaning off the two values. Of several entries with one key the
  first counts, and a key or number counts in any integer form.
* `Response.decode` reads the values from octets. Octets after the payload are ignored.
* An error of the server is part of a response; `Response.result` makes it the outcome.
* `Response.dataAs` gives the data in the shape that is wanted.
-/

namespace Muxwire.Wire

open Msgpack

/-- An answer of the server. -/
structure Response where
  sync : UInt32
  code : UInt32
  schemaVersion : Option UInt64
  data : Option Value
  error : Option ServerError
  deriving Repr, BEq, Inhabited

/-- The bit of a response code that marks an error. -/
def errorFlag : UInt32 := 0x8000

/-- What is wrong with the header of a response. -/
inductive HeaderFault where
  | noCode
  | noSync
  | syncOutOfRange (n : Nat)
  | codeOutOfRange (n : Nat)
  deriving DecidableEq, Repr

/-- The wording of a header fault. -/
def HeaderFault.message : HeaderFault → String
  | .noCode => "Response header has no code"
  | .noSync => "Response header has no sync"
  | .syncOutOfRange n => s!"Response sync {n} out of range"
  | .codeOutOfRange n => s!"Response code {n} out of range"

/-- The value of a key in a map, for the keys of the protocol. -/
def field? (v : Value) (k : Key) : Option Value :=
  v.lookup? k.toNat

/-- The non-negative integer of a key in a map. -/
def natField? (v : Value) (k : Key) : Option Nat :=
  (field? v k).bind Value.nat?

namespace Response

/-- The wording of an error that brings none of its own. -/
def unknownError : String := "unknown error"

/-- The response that a header and a payload mean. -/
def ofValues (header : Value) (payload : Option Value) : Except HeaderFault Response := do
  let some code := natField? header .code | .error .noCode
  let some sync := natField? header .sync | .error .noSync
  if 2 ^ 32 ≤ sync then .error (.syncOutOfRange sync)
  if 2 ^ 32 ≤ code then .error (.codeOutOfRange code)
  let code := UInt32.ofNat code
  let sync := UInt32.ofNat sync
  let schemaVersion := (natField? header .schemaVersion).map UInt64.ofNat
  if code &&& errorFlag ≠ 0 then
    let message := (payload.bind (field? · .error)).bind Value.text?
    pure {
      sync, code, schemaVersion, data := none
      error := some ⟨code &&& ~~~errorFlag, message.getD unknownError⟩ }
  else
    pure { sync, code, schemaVersion, data := payload.bind (field? · .data), error := none }

/-- The header and the payload of a body. -/
def readValues (body : Octets) : Except ReadFault (Value × Option Value) := do
  let (header, rest) ← Value.read body
  if rest.isEmpty then pure (header, none)
  else
    let (payload, _) ← Value.read rest
    pure (header, some payload)

/-- The response in a body. -/
def decode (body : Octets) : Except Error Response :=
  match readValues body with
  | .error fault => .error (.valueDecode fault)
  | .ok (header, payload) =>
    match ofValues header payload with
    | .error fault => .error (.protocol fault.message)
    | .ok response => .ok response

/-- The answer to a ping: a header with code 0 and sync 1, and no payload. -/
theorem decode_pong : decode [0x82, 0x00, 0x00, 0x01, 0x01] = .ok ⟨1, 0, none, none, none⟩ := by
  have header : readValues [0x82, 0x00, 0x00, 0x01, 0x01]
      = .ok (.map [(.int (.ofUnsigned .one 0), .int (.ofUnsigned .one 0)),
          (.int (.ofUnsigned .one 1), .int (.ofUnsigned .one 1))], none) := by
    simp [readValues, Value.read, Value.fullBudget, Value.readWithin, Head.read, readMany, readPair,
      bind, Except.bind, pure, Except.pure]
  rw [decode, header]
  rfl

/-- Whether the server answered with an error. -/
def isError (r : Response) : Bool :=
  r.error.isSome

/-- The response, or the error that the server answered with. -/
def result (r : Response) : Except Error Response :=
  match r.error with
  | some e => .error (.server e)
  | none => .ok r

/-- The data in a shape. Missing data are nil. -/
def dataAs (s : Shape) (r : Response) : Except Error Typed :=
  s.ofValue (r.data.getD .nil)

end Response

end Muxwire.Wire
