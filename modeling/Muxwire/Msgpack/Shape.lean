import Muxwire.Ieee
import Muxwire.Msgpack.Value

/-!
# Shapes

A program asks for data in the shape it wants to use.

* `Shape` describes what is wanted, `Typed` is data that has a shape.
* The scalar rules stand here, once for both ways to a shape: an integer of any width fits an
  integer type that holds its number, and a number becomes a float of the wanted width, the nearest
  one; a float never becomes an integer.
-/

namespace Muxwire.Msgpack

/-! ## 1. Descriptions and data -/

/-- The integer types. -/
inductive IntType where
  | u8 | u16 | u32 | u64 | i8 | i16 | i32 | i64
  deriving DecidableEq, Repr

/-- The least number of an integer type. -/
def IntType.least : IntType → Int
  | .u8 | .u16 | .u32 | .u64 => 0
  | .i8 => -2 ^ 7
  | .i16 => -2 ^ 15
  | .i32 => -2 ^ 31
  | .i64 => -2 ^ 63

/-- The least number above an integer type. -/
def IntType.bound : IntType → Int
  | .u8 => 2 ^ 8
  | .u16 => 2 ^ 16
  | .u32 => 2 ^ 32
  | .u64 => 2 ^ 64
  | .i8 => 2 ^ 7
  | .i16 => 2 ^ 15
  | .i32 => 2 ^ 31
  | .i64 => 2 ^ 63

/-- Whether an integer type holds a number. -/
def IntType.holds (t : IntType) (n : Int) : Bool :=
  t.least ≤ n && n < t.bound

/-- A description of wanted data. -/
inductive Shape where
  | bool
  | int (type : IntType)
  | f32
  | f64
  | char
  | string
  | unit
  /-- Any value as it is. -/
  | value
  | option (content : Shape)
  | list (item : Shape)
  | tuple (items : List Shape)
  | record (fields : List (String × Shape))
  /-- A map with strings for keys. -/
  | dict (item : Shape)
  deriving Repr, Inhabited

/-- Data in a shape. -/
inductive Typed where
  | bool (b : Bool)
  | int (n : Int)
  | f32 (word : UInt32)
  | f64 (word : UInt64)
  | char (c : Char)
  | string (s : String)
  | unit
  | value (v : Value)
  | none
  | some (content : Typed)
  | list (items : List Typed)
  | tuple (items : List Typed)
  | record (fields : List (String × Typed))
  /-- The entries in ascending order of their keys, one for each key. -/
  | dict (entries : List (String × Typed))
  deriving Repr, BEq, Inhabited

/-! ## 2. Scalars -/

namespace Shape

/-- An integer in a scalar shape. -/
def ofInt? (s : Shape) (n : Int) : Option Typed :=
  match s with
  | .int t => if t.holds n then some (.int n) else none
  | .f32 => some (.f32 (Ieee.singleOfInt n))
  | .f64 => some (.f64 (Ieee.doubleOfInt n))
  | _ => none

/-- A 32-bit float in a scalar shape. -/
def ofSingle? (s : Shape) (word : UInt32) : Option Typed :=
  match s with
  | .f32 => some (.f32 word)
  | .f64 => some (.f64 (Ieee.widen word))
  | _ => none

/-- A 64-bit float in a scalar shape. -/
def ofDouble? (s : Shape) (word : UInt64) : Option Typed :=
  match s with
  | .f32 => some (.f32 (Ieee.narrow word))
  | .f64 => some (.f64 word)
  | _ => none

/-- The octets of a string in a scalar shape. -/
def ofStr? (s : Shape) (octets : Octets) : Option Typed := do
  let text ← Text.Utf8.decode? octets
  match s with
  | .string => some (.string text)
  | .char =>
    match text.toList with
    | [c] => some (.char c)
    | _ => none
  | _ => none

/-- The octets of a binary in a scalar shape. -/
def ofBin? (s : Shape) (octets : Octets) : Option Typed :=
  match s with
  | .string => (Text.Utf8.decode? octets).map .string
  | _ => none

/-! ## 3. Keys -/

/-- What the key of an entry says about the fields of a record. -/
inductive FieldKey where
  | name (octets : Octets)
  | position (n : Nat)
  deriving DecidableEq, Repr

/-- A key as a field key: the name as a string or binary, or the position as a number. -/
def FieldKey.ofValue? : Value → Option FieldKey
  | .str octets => some (.name octets)
  | .bin octets => some (.name octets)
  | .int n => n.toNat?.map .position
  | _ => none

/-- Whether a key means the field of a name that stands at position `i`. -/
def FieldKey.means (key : FieldKey) (name : String) (i : Nat) : Bool :=
  match key with
  | .name octets => octets == Text.Utf8.encode name
  | .position n => n == i

/-- Puts an entry into a list in ascending order of keys; an entry with the key gives way. -/
def putEntry (key : String) (item : Typed) : List (String × Typed) → List (String × Typed)
  | [] => [(key, item)]
  | (k, t) :: rest =>
    if key < k then (key, item) :: (k, t) :: rest
    else if key = k then (key, item) :: rest
    else (k, t) :: putEntry key item rest

end Shape

end Muxwire.Msgpack
