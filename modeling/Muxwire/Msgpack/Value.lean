import Muxwire.Text.Utf8

/-!
# MessagePack values

What a MessagePack document means, apart from the widths it is written in.

* An integer is one number from -2^63 to 2^64 - 1 (`WireInt`): its sign and width on the wire are
  not part of it.
* A string is a byte string that need not be valid UTF-8; `Value.text?` is the text if it is.
* A floating-point number is kept as its word, so that every NaN stays itself.
* A map is the list of its entries in order, with duplicates; `Value.lookup?` finds the first entry
  with a given non-negative integer key.
-/

namespace Muxwire.Msgpack

/-! ## 1. Integers -/

/-- An integer of the format: at least -2^63 and below 2^64. -/
structure WireInt where
  val : Int
  low : -2 ^ 63 ≤ val
  high : val < 2 ^ 64
  deriving DecidableEq, Repr

/-- The widths of the fixed-width numbers. -/
inductive Width where
  | one | two | four | eight
  deriving DecidableEq, Repr

/-- The number of octets of a width. -/
def Width.octets : Width → Nat
  | .one => 1
  | .two => 2
  | .four => 4
  | .eight => 8

namespace WireInt

instance : Inhabited WireInt := ⟨⟨0, by decide, by decide⟩⟩

/-- The integer that an unsigned number of a width stands for. -/
def ofUnsigned (w : Width) (n : Nat) : WireInt :=
  ⟨(n % 256 ^ w.octets : Nat), by omega, by cases w <;> simp only [Width.octets] <;> omega⟩

/-- The integer that a two's complement number of a width stands for. -/
def ofSigned (w : Width) (n : Nat) : WireInt :=
  ⟨Int.bmod n (256 ^ w.octets), by
    have := Int.le_bmod (x := n) (m := 256 ^ w.octets) (Nat.pow_pos (by decide))
    cases w <;> simp only [Width.octets] at this ⊢ <;> omega, by
    have := Int.bmod_lt (x := n) (m := 256 ^ w.octets) (Nat.pow_pos (by decide))
    cases w <;> simp only [Width.octets] at this ⊢ <;> omega⟩

/-- An integer of the format, if the number is one. -/
def ofInt? (n : Int) : Option WireInt :=
  if h : -2 ^ 63 ≤ n ∧ n < 2 ^ 64 then some ⟨n, h.1, h.2⟩ else none

/-- A number below 2^64. -/
def ofNat (n : UInt64) : WireInt :=
  ⟨n.toNat, by omega, by have := n.toNat_lt; omega⟩

/-- The number, if it is not negative. -/
def toNat? (n : WireInt) : Option Nat :=
  if 0 ≤ n.val then some n.val.toNat else none

@[ext] theorem ext {m n : WireInt} (h : m.val = n.val) : m = n := by
  cases m; cases n; cases h; rfl

theorem ofInt?_val (n : WireInt) : ofInt? n.val = some n := by
  simp only [ofInt?, n.low, n.high, and_self, dite_true]

/-- A non-negative integer is the one that its own number stands for. -/
theorem ofUnsigned_toNat {w : Width} {n : WireInt} (nonneg : 0 ≤ n.val)
    (fits : n.val.toNat < 256 ^ w.octets) : ofUnsigned w n.val.toNat = n := by
  apply WireInt.ext
  simp only [ofUnsigned, Nat.mod_eq_of_lt fits]
  omega

/-- A negative integer is the one that its two's complement stands for. -/
theorem ofSigned_toNat {w : Width} {n : WireInt} (neg : n.val < 0)
    (fits : -(256 ^ w.octets : Int) ≤ 2 * n.val) :
    ofSigned w (n.val + 256 ^ w.octets).toNat = n := by
  apply WireInt.ext
  have hn : ((n.val + 256 ^ w.octets).toNat : Int) = n.val + 256 ^ w.octets := by omega
  have hm := Int.add_bmod_right n.val (256 ^ w.octets)
  simp only [Int.natCast_pow, Int.cast_ofNat_Int] at hm
  simp only [ofSigned, hn, hm]
  apply Int.bmod_eq_of_le <;> cases w <;> simp only [Width.octets] at fits ⊢ <;> omega

end WireInt

/-! ## 2. Values -/

/-- A MessagePack value. -/
inductive Value where
  | nil
  | bool (b : Bool)
  | int (n : WireInt)
  | f32 (word : UInt32)
  | f64 (word : UInt64)
  | str (octets : Octets)
  | bin (octets : Octets)
  | array (items : List Value)
  | map (entries : List (Value × Value))
  | ext (type : Int8) (octets : Octets)
  deriving Repr, BEq, Inhabited

namespace Value

/-- The string value of a text. -/
def text (s : String) : Value :=
  .str (Text.Utf8.encode s)

/-- The text of a string value that is valid UTF-8. -/
def text? : Value → Option String
  | .str octets => Text.Utf8.decode? octets
  | _ => none

/-- The number of a non-negative integer value. -/
def nat? : Value → Option Nat
  | .int n => n.toNat?
  | _ => none

/-- The entries of a map. -/
def entries? : Value → Option (List (Value × Value))
  | .map entries => some entries
  | _ => none

/-- The value of the first entry of a map whose key is the integer `key`. -/
def lookup? (v : Value) (key : Nat) : Option Value := do
  let entries ← v.entries?
  let entry ← entries.find? fun entry => entry.1.nat? == some key
  pure entry.2

/-! ## 3. Depth -/

mutual

/-- How deeply arrays and maps are nested: 0 for a scalar. -/
def depth : Value → Nat
  | .array items => depthAll items + 1
  | .map entries => depthEntries entries + 1
  | _ => 0

/-- The greatest depth in a list. -/
def depthAll : List Value → Nat
  | [] => 0
  | v :: vs => max (depth v) (depthAll vs)

/-- The greatest depth among keys and values. -/
def depthEntries : List (Value × Value) → Nat
  | [] => 0
  | (k, v) :: rest => max (max (depth k) (depth v)) (depthEntries rest)

end

/-! ## 4. Text that is none -/

mutual

/-- The value with every string that is not valid UTF-8, keys included, made a binary of the same
octets. -/
def sanitize : Value → Value
  | .str octets => if (Text.Utf8.decode? octets).isSome then .str octets else .bin octets
  | .array items => .array (sanitizeAll items)
  | .map entries => .map (sanitizeEntries entries)
  | v => v

/-- The same for each value of a list. -/
def sanitizeAll : List Value → List Value
  | [] => []
  | v :: vs => sanitize v :: sanitizeAll vs

/-- The same for each key and value. -/
def sanitizeEntries : List (Value × Value) → List (Value × Value)
  | [] => []
  | (k, v) :: rest => (sanitize k, sanitize v) :: sanitizeEntries rest

end

end Value

end Muxwire.Msgpack
