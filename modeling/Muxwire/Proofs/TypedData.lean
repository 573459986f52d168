import Mathlib.Data.List.Basic
import Muxwire.Msgpack.Datum.Meaning
import Muxwire.Msgpack.Shape

/-!
# Types of data

The types that a program declares for its data, with their values.

* `DataType` -- a type, and `DataType.Val` its values.
* `DataType.datum` -- a value as it is handed over to be written.
* `DataType.shape`, `DataType.typed` -- what is asked for to get a value back, and the value in that
  shape. **`DataType.typed_inj`** -- no two values of a type look the same in it.
* `DataType.Regular` -- the condition on options: what they hold is never written as nil.
-/

namespace Muxwire.Msgpack

/-! ## 1. Machine words -/

namespace IntType

/-- The words of an integer type. -/
def Word : IntType → Type
  | .u8 => UInt8
  | .u16 => UInt16
  | .u32 => UInt32
  | .u64 => UInt64
  | .i8 => Int8
  | .i16 => Int16
  | .i32 => Int32
  | .i64 => Int64

/-- The number of a word. -/
def number : (t : IntType) → t.Word → Int
  | .u8, w => UInt8.toNat w
  | .u16, w => UInt16.toNat w
  | .u32, w => UInt32.toNat w
  | .u64, w => UInt64.toNat w
  | .i8, w => Int8.toInt w
  | .i16, w => Int16.toInt w
  | .i32, w => Int32.toInt w
  | .i64, w => Int64.toInt w

/-- The datum of a word. -/
def datum : (t : IntType) → t.Word → Datum
  | .u8, w => .u8 w
  | .u16, w => .u16 w
  | .u32, w => .u32 w
  | .u64, w => .u64 w
  | .i8, w => .i8 w
  | .i16, w => .i16 w
  | .i32, w => .i32 w
  | .i64, w => .i64 w

theorem holds_iff {t : IntType} {n : Int} : t.holds n = true ↔ t.least ≤ n ∧ n < t.bound := by
  simp [holds]

/-- **A type holds exactly the numbers of its words.** -/
theorem holds_iff_exists_word {t : IntType} {n : Int} :
    t.holds n = true ↔ ∃ w : t.Word, t.number w = n := by
  rw [holds_iff]
  constructor
  · rintro ⟨low, high⟩
    have natural {size m : Nat} (nonneg : 0 ≤ n) (below : n < size)
        (same : n.toNat < size → m = n.toNat) : (m : Int) = n := by
      rw [same (by omega), Int.toNat_of_nonneg nonneg]
    cases t with
    | u8 => exact ⟨UInt8.ofNat n.toNat, natural low high UInt8.toNat_ofNat_of_lt'⟩
    | u16 => exact ⟨UInt16.ofNat n.toNat, natural low high UInt16.toNat_ofNat_of_lt'⟩
    | u32 => exact ⟨UInt32.ofNat n.toNat, natural low high UInt32.toNat_ofNat_of_lt'⟩
    | u64 => exact ⟨UInt64.ofNat n.toNat, natural low high UInt64.toNat_ofNat_of_lt'⟩
    | i8 => exact ⟨Int8.ofInt n, Int8.toInt_ofInt_of_le low high⟩
    | i16 => exact ⟨Int16.ofInt n, Int16.toInt_ofInt_of_le low high⟩
    | i32 => exact ⟨Int32.ofInt n, Int32.toInt_ofInt_of_le low high⟩
    | i64 => exact ⟨Int64.ofInt n, Int64.toInt_ofInt_of_le low high⟩
  · rintro ⟨w, rfl⟩
    cases t with
    | u8 => exact ⟨Int.natCast_nonneg _, Int.ofNat_lt.mpr (UInt8.toNat_lt w)⟩
    | u16 => exact ⟨Int.natCast_nonneg _, Int.ofNat_lt.mpr (UInt16.toNat_lt w)⟩
    | u32 => exact ⟨Int.natCast_nonneg _, Int.ofNat_lt.mpr (UInt32.toNat_lt w)⟩
    | u64 => exact ⟨Int.natCast_nonneg _, Int.ofNat_lt.mpr (UInt64.toNat_lt w)⟩
    | i8 => exact ⟨Int8.le_toInt w, Int8.toInt_lt w⟩
    | i16 => exact ⟨Int16.le_toInt w, Int16.toInt_lt w⟩
    | i32 => exact ⟨Int32.le_toInt w, Int32.toInt_lt w⟩
    | i64 => exact ⟨Int64.le_toInt w, Int64.toInt_lt w⟩

theorem number_inj {t : IntType} {v w : t.Word} (h : t.number v = t.number w) : v = w := by
  cases t with
  | u8 => exact UInt8.toNat_inj.mp (Int.ofNat.inj h)
  | u16 => exact UInt16.toNat_inj.mp (Int.ofNat.inj h)
  | u32 => exact UInt32.toNat_inj.mp (Int.ofNat.inj h)
  | u64 => exact UInt64.toNat_inj.mp (Int.ofNat.inj h)
  | i8 => exact Int8.toInt_inj.mp h
  | i16 => exact Int16.toInt_inj.mp h
  | i32 => exact Int32.toInt_inj.mp h
  | i64 => exact Int64.toInt_inj.mp h

/-- A word means its number, whatever its type. -/
theorem value_datum (t : IntType) (w : t.Word) :
    ∃ n : WireInt, n.val = t.number w ∧ (t.datum w).value = .int n := by
  cases t with
  | u8 => exact ⟨_, congrArg Int.ofNat (UInt8.toNat_toUInt64 w), rfl⟩
  | u16 => exact ⟨_, congrArg Int.ofNat (UInt16.toNat_toUInt64 w), rfl⟩
  | u32 => exact ⟨_, congrArg Int.ofNat (UInt32.toNat_toUInt64 w), rfl⟩
  | u64 => exact ⟨_, rfl, rfl⟩
  | i8 => exact ⟨_, Int8.toInt_toInt64 w, rfl⟩
  | i16 => exact ⟨_, Int16.toInt_toInt64 w, rfl⟩
  | i32 => exact ⟨_, Int32.toInt_toInt64 w, rfl⟩
  | i64 => exact ⟨_, rfl, rfl⟩

theorem refusal?_datum (t : IntType) (w : t.Word) : (t.datum w).refusal? = none := by
  cases t <;> rfl

end IntType

/-! ## 2. Types and their values -/

/-- A type of data. -/
inductive DataType where
  | bool
  | int (type : IntType)
  | string
  /-- A sequence; `announced` tells whether its length is known beforehand. -/
  | seq (announced : Bool) (item : DataType)
  | tuple (items : List DataType)
  | tupleStruct (items : List DataType)
  | struct (fields : List (String × DataType))
  | newtype (content : DataType)
  | option (content : DataType)

namespace DataType

mutual

/-- The values of a type. -/
def Val : DataType → Type
  | .bool => Bool
  | .int t => t.Word
  | .string => String
  | .seq _ t => List (Val t)
  | .tuple ts | .tupleStruct ts => ValAll ts
  | .struct fields => ValFields fields
  | .newtype t => Val t
  | .option t => Option (Val t)

/-- One value for each type of a list. -/
def ValAll : List DataType → Type
  | [] => Unit
  | t :: ts => Val t × ValAll ts

/-- One value for each field. -/
def ValFields : List (String × DataType) → Type
  | [] => Unit
  | (_, t) :: fields => Val t × ValFields fields

end

mutual

/-- A value as it is handed over to be written. -/
def datum : (t : DataType) → t.Val → Datum
  | .bool, b => .bool b
  | .int t, w => t.datum w
  | .string, s => .str s
  | .seq announced t, xs => .seq announced (List.map (datum t) xs)
  | .tuple ts, xs => .tuple (datumAll ts xs)
  | .tupleStruct ts, xs => .tupleStruct (datumAll ts xs)
  | .struct fields, xs => .struct (datumFields fields xs)
  | .newtype t, x => .newtypeStruct (datum t x)
  | .option _, none => .none
  | .option t, some x => .some (datum t x)

/-- The same for each type of a list. -/
def datumAll : (ts : List DataType) → ValAll ts → List Datum
  | [], _ => []
  | t :: ts, (x, xs) => datum t x :: datumAll ts xs

/-- The same for each field. -/
def datumFields : (fields : List (String × DataType)) → ValFields fields → List (String × Datum)
  | [], _ => []
  | (name, t) :: fields, (x, xs) => (name, datum t x) :: datumFields fields xs

end

/-- What a value means. -/
def value (t : DataType) (x : t.Val) : Value :=
  (t.datum x).value

mutual

/-- The shape in which a value is asked for. A wrapper is asked for as what it holds. -/
def shape : DataType → Shape
  | .bool => .bool
  | .int t => .int t
  | .string => .string
  | .seq _ t => .list (shape t)
  | .tuple ts | .tupleStruct ts => .tuple (shapeAll ts)
  | .struct fields => .record (shapeFields fields)
  | .newtype t => shape t
  | .option t => .option (shape t)

/-- The same for each type of a list. -/
def shapeAll : List DataType → List Shape
  | [] => []
  | t :: ts => shape t :: shapeAll ts

/-- The same for each field. -/
def shapeFields : List (String × DataType) → List (String × Shape)
  | [] => []
  | (name, t) :: fields => (name, shape t) :: shapeFields fields

end

mutual

/-- A value in that shape. -/
def typed : (t : DataType) → t.Val → Typed
  | .bool, b => .bool b
  | .int t, w => .int (t.number w)
  | .string, s => .string s
  | .seq _ t, xs => .list (List.map (typed t) xs)
  | .tuple ts, xs => .tuple (typedAll ts xs)
  | .tupleStruct ts, xs => .tuple (typedAll ts xs)
  | .struct fields, xs => .record (typedFields fields xs)
  | .newtype t, x => typed t x
  | .option _, none => .none
  | .option t, some x => .some (typed t x)

/-- The same for each type of a list. -/
def typedAll : (ts : List DataType) → ValAll ts → List Typed
  | [], _ => []
  | t :: ts, (x, xs) => typed t x :: typedAll ts xs

/-- The same for each field. -/
def typedFields : (fields : List (String × DataType)) → ValFields fields → List (String × Typed)
  | [], _ => []
  | (name, t) :: fields, (x, xs) => (name, typed t x) :: typedFields fields xs

end

mutual

/-- Wherever the type has an option, what the option holds is never written as nil. -/
def Regular : DataType → Prop
  | .bool | .int _ | .string => True
  | .seq _ t | .newtype t => Regular t
  | .tuple ts | .tupleStruct ts => RegularAll ts
  | .struct fields => RegularFields fields
  | .option t => (∀ x : t.Val, (t.datum x).encode ≠ .ok [0xc0]) ∧ Regular t

/-- The same for each type of a list. -/
def RegularAll : List DataType → Prop
  | [] => True
  | t :: ts => Regular t ∧ RegularAll ts

/-- The same for each field. -/
def RegularFields : List (String × DataType) → Prop
  | [] => True
  | (_, t) :: fields => Regular t ∧ RegularFields fields

end

/-! ## 3. Values are told apart -/

mutual

/-- **No two values of a type are the same in its shape.** -/
theorem typed_inj : ∀ (t : DataType) {x y : t.Val}, t.typed x = t.typed y → x = y
  | .bool, _, _, h => Typed.bool.inj h
  | .int _, _, _, h => IntType.number_inj (Typed.int.inj h)
  | .string, _, _, h => Typed.string.inj h
  | .seq _ t, _, _, h =>
    List.map_injective_iff.mpr (fun _ _ => typed_inj t) (Typed.list.inj h)
  | .tuple ts, _, _, h => typedAll_inj ts (Typed.tuple.inj h)
  | .tupleStruct ts, _, _, h => typedAll_inj ts (Typed.tuple.inj h)
  | .struct fields, _, _, h => typedFields_inj fields (Typed.record.inj h)
  | .newtype t, _, _, h => typed_inj t h
  | .option _, none, none, _ => rfl
  | .option t, some _, some _, h => congrArg some (typed_inj t (Typed.some.inj h))

theorem typedAll_inj : ∀ (ts : List DataType) {xs ys : ValAll ts},
    typedAll ts xs = typedAll ts ys → xs = ys
  | [], (), (), _ => rfl
  | t :: ts, (_, _), (_, _), h => by
    obtain ⟨first, rest⟩ := List.cons.inj h
    rw [typed_inj t first, typedAll_inj ts rest]

theorem typedFields_inj : ∀ (fields : List (String × DataType)) {xs ys : ValFields fields},
    typedFields fields xs = typedFields fields ys → xs = ys
  | [], (), (), _ => rfl
  | (_, t) :: fields, (_, _), (_, _), h => by
    -- the names are those of the type on both sides
    obtain ⟨first, rest⟩ := List.cons.inj h
    rw [typed_inj t (Prod.mk.inj first).2, typedFields_inj fields rest]

end

end DataType

end Muxwire.Msgpack
