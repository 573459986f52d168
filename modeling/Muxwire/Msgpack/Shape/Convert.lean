import Muxwire.Error
import Muxwire.Msgpack.Shape

/-!
# Values in a shape

`Shape.ofValue` gives a value that was read already in the shape that is wanted.

* A tuple takes an array of exactly its length. A record takes such an array too, or a map with
  one entry for each field and any other entries.
* In a dictionary the last entry of a key counts.
* A string that is not valid UTF-8 becomes a binary where any value is wanted.
-/

namespace Muxwire.Msgpack.Shape

/-- A key of a dictionary. -/
def ofKey? : Value → Option Typed
  | .str octets => Shape.string.ofStr? octets
  | .bin octets => Shape.string.ofBin? octets
  | _ => none

mutual

/-- A value in a shape, if it fits. -/
def ofValue? : Shape → Value → Option Typed
  | .bool, .bool b => some (.bool b)
  | .unit, .nil => some .unit
  | .value, v => some (.value v.sanitize)
  | .option s, v =>
    match v with
    | .nil => some .none
    | v => (ofValue? s v).map .some
  | .list s, .array items => (items.mapM (ofValue? s)).map .list
  | .tuple ss, .array items => (ofValues? ss items).map .tuple
  | .record fields, .array items => (ofPositions? fields items).map .record
  | .record fields, .map entries => do
    let keyed ← entries.mapM fun e => (FieldKey.ofValue? e.1).map (·, e.2)
    (ofEntries? fields 0 keyed).map .record
  | .dict s, .map entries => do
    let keyed ← entries.mapM fun e => do
      let some (.string key) := ofKey? e.1 | none
      let item ← ofValue? s e.2
      pure (key, item)
    some (.dict (keyed.foldl (fun found e => putEntry e.1 e.2 found) []))
  | s, .int n => s.ofInt? n.val
  | s, .f32 word => s.ofSingle? word
  | s, .f64 word => s.ofDouble? word
  | s, .str octets => s.ofStr? octets
  | s, .bin octets => s.ofBin? octets
  | _, _ => none

/-- Values in the shapes of a tuple. -/
def ofValues? : List Shape → List Value → Option (List Typed)
  | [], [] => some []
  | s :: ss, v :: vs => do
    let t ← ofValue? s v
    let ts ← ofValues? ss vs
    some (t :: ts)
  | _, _ => none

/-- Values in the shapes of the fields of a record, by position. -/
def ofPositions? : List (String × Shape) → List Value → Option (List (String × Typed))
  | [], [] => some []
  | (name, s) :: fields, v :: vs => do
    let t ← ofValue? s v
    let ts ← ofPositions? fields vs
    some ((name, t) :: ts)
  | _, _ => none

/-- The entries of a map in the shapes of the fields of a record, of which the first stands at
position `i`. Each field must be meant by one key. -/
def ofEntries? : List (String × Shape) → Nat → List (FieldKey × Value) →
    Option (List (String × Typed))
  | [], _, _ => some []
  | (name, s) :: fields, i, entries =>
    match entries.filter fun e => e.1.means name i with
    | [(_, v)] => do
      let t ← ofValue? s v
      let ts ← ofEntries? fields (i + 1) entries
      some ((name, t) :: ts)
    | _ => none

end

/-- A value in a shape. -/
def ofValue (s : Shape) (v : Value) : Except Error Typed :=
  match s.ofValue? v with
  | some t => .ok t
  | none => .error .valueConvert

end Muxwire.Msgpack.Shape
