import Muxwire.Msgpack.Encode

/-!
# Values read

`Value.read` takes one value, in any form, from the front of octets; what follows it stays unread.

A budget bounds the nesting. Reading a value costs 1, which is due before its marker is read; the
content of an array or a map costs 1 more, and each of its items starts from what is left; a string
costs 2 more, a binary 1 more, an extension 1 more for its type and 1 for its content. A cost that
the budget does not cover is `ReadFault.tooDeep`. The reserved marker `c1` reads as nil.
-/

namespace Muxwire.Msgpack.Value

/-- The budget of a document. -/
def fullBudget : Nat := 1024

/-- Content of `n` octets, for a cost that the budget must cover. -/
def readCharged (cost budget n : Nat) : Reader ReadFault Octets := fun bs =>
  if budget < cost then .error .tooDeep else readContent n bs

/-- Content that the budget covers is read whole. -/
theorem readCharged_append {c b : Nat} (h : c ≤ b) (octets rest : Octets) :
    readCharged c b octets.length (octets ++ rest) = .ok (octets, rest) := by
  rw [readCharged, if_neg (by omega), readContent_append]

/-- An extension with content of `n` octets: its type, then its content. -/
def readExtension (budget n : Nat) : Reader ReadFault Value := fun bs =>
  if budget < 1 then .error .tooDeep
  else
    match bs with
    | [] => .error .dataMissing
    | type :: rest => do
      let (octets, rest) ← readCharged 2 budget n rest
      pure (.ext type.toInt8 octets, rest)

/-- Reads one value. The budget is the argument of the recursion. -/
def readWithin : Nat → Reader ReadFault Value
  | 0, _ => .error .tooDeep
  | budget + 1, bs => do
    let (head, rest) ← Head.read bs
    match head with
    | .nil | .reserved => pure (.nil, rest)
    | .bool b => pure (.bool b, rest)
    | .int n => pure (.int n, rest)
    | .f32 word => pure (.f32 word, rest)
    | .f64 word => pure (.f64 word, rest)
    | .str n =>
      let (octets, rest) ← readCharged 2 budget n rest
      pure (.str octets, rest)
    | .bin n =>
      let (octets, rest) ← readCharged 1 budget n rest
      pure (.bin octets, rest)
    | .ext n => readExtension budget n rest
    | .array n =>
      match budget with
      | 0 => .error .tooDeep
      | inner + 1 =>
        let (items, rest) ← readMany (readWithin inner) n [] rest
        pure (.array items, rest)
    | .map n =>
      match budget with
      | 0 => .error .tooDeep
      | inner + 1 =>
        let (entries, rest) ←
          readMany (readPair (readWithin inner) (readWithin inner)) n [] rest
        pure (.map entries, rest)

/-- Reads one value with the full budget. -/
def read : Reader ReadFault Value :=
  readWithin fullBudget

end Muxwire.Msgpack.Value
