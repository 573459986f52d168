import Muxwire.Msgpack.Datum
import Muxwire.Text.Hex

/-!
# Argument lists

What a caller hands over as arguments must come out as an array. `Arguments.encodeList` accepts a
datum exactly if its octets begin with an array marker; nothing at all (a datum of a type without
content, which is written as nil) counts as the empty list.
-/

namespace Muxwire.Msgpack

/-- A datum, and whether its type has no content, as the unit type has none. -/
structure Arguments where
  datum : Datum
  contentless : Bool
  deriving Repr, Inhabited

namespace Arguments

/-- A datum of a type with content. -/
def ofDatum (d : Datum) : Arguments :=
  ⟨d, false⟩

/-- A dynamic value. -/
def ofValue (v : Value) : Arguments :=
  ofDatum (.dynamic v)

/-- A datum of a type without content. -/
def nothing (d : Datum) : Arguments :=
  ⟨d, true⟩

/-- Whether an octet is the marker of an array. -/
def isArrayMarker (b : UInt8) : Bool :=
  (0x90 ≤ b && b ≤ 0x9f) || b = 0xdc || b = 0xdd

/-- The octets of the arguments, whatever they are. -/
def encode (args : Arguments) : Except Error Octets :=
  args.datum.encode

/-- The octets of the arguments as a list. -/
def encodeList (args : Arguments) : Except Error Octets := do
  let octets ← args.encode
  match octets with
  | [] => .error (.query "empty msgpack encoding")
  | marker :: _ =>
    if marker = 0xc0 ∧ args.contentless then .ok (Head.array 0).write
    else if isArrayMarker marker then .ok octets
    else .error (.query
      ("expected a msgpack array, got marker 0x" ++ String.ofList (Text.Hex.octet marker)))

end Arguments

end Muxwire.Msgpack
