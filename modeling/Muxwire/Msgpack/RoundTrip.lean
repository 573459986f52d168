import Muxwire.Msgpack.Form
import Muxwire.Text.Utf8.RoundTrip

/-!
# Values read back

What is written is read back, in front of anything, as the value with every string that is not
valid UTF-8 made a binary (`Value.sanitize`).

* `Value.Fits` says that the format can express the value: every length has at most four octets.
* `Value.cost` is the budget that the shortest form takes.
* **`Value.form_encode`** -- what is written is a form of what is read back; `Value.read_encode`
  follows.
* `Value.encode_array_overlong` -- an array that is too long for the format is written as an empty
  one, with its items behind it.
-/

namespace Muxwire.Msgpack.Value

/-! ## 1. What the format can express -/

mutual

/-- Every length in a value is below 2^32. -/
def Fits : Value → Prop
  | .str octets | .bin octets | .ext _ octets => octets.length < 2 ^ 32
  | .array items => items.length < 2 ^ 32 ∧ FitsAll items
  | .map entries => entries.length < 2 ^ 32 ∧ FitsEntries entries
  | _ => True

/-- The same for each value of a list. -/
def FitsAll : List Value → Prop
  | [] => True
  | v :: vs => Fits v ∧ FitsAll vs

/-- The same for each key and value. -/
def FitsEntries : List (Value × Value) → Prop
  | [] => True
  | (k, v) :: rest => (Fits k ∧ Fits v) ∧ FitsEntries rest

end

/-! ## 2. What reading costs -/

mutual

/-- The budget that reading the shortest form of a value takes. -/
def cost : Value → Nat
  | .str octets => if (Text.Utf8.decode? octets).isSome then 3 else 2
  | .bin _ => 2
  | .ext _ _ => 3
  | .array items => costAll items + 2
  | .map entries => costEntries entries + 2
  | _ => 1

/-- The greatest cost in a list. -/
def costAll : List Value → Nat
  | [] => 0
  | v :: vs => max (cost v) (costAll vs)

/-- The greatest cost among keys and values. -/
def costEntries : List (Value × Value) → Nat
  | [] => 0
  | (k, v) :: rest => max (max (cost k) (cost v)) (costEntries rest)

end

mutual

/-- The shortest form costs what its value needs when it is read back. -/
theorem need_sanitize : ∀ v : Value, v.sanitize.need = v.cost
  | .nil | .bool _ | .int _ | .f32 _ | .f64 _ | .bin _ | .ext _ _ => rfl
  | .str octets => by
    rw [sanitize, cost]
    split <;> rfl
  | .array items => by rw [sanitize, cost, need, needAll_sanitizeAll items]
  | .map entries => by rw [sanitize, cost, need, needEntries_sanitizeEntries entries]

theorem needAll_sanitizeAll : ∀ vs : List Value, needAll (sanitizeAll vs) = costAll vs
  | [] => rfl
  | v :: vs => by rw [sanitizeAll, needAll, costAll, need_sanitize v, needAll_sanitizeAll vs]

theorem needEntries_sanitizeEntries : ∀ es : List (Value × Value),
    needEntries (sanitizeEntries es) = costEntries es
  | [] => rfl
  | (k, v) :: es => by
    rw [sanitizeEntries, needEntries, costEntries, need_sanitize k, need_sanitize v,
      needEntries_sanitizeEntries es]

end

/-! ## 3. Every value -/

theorem length_sanitizeAll (vs : List Value) : (sanitizeAll vs).length = vs.length := by
  induction vs with
  | nil => rfl
  | cons v vs ih => rw [sanitizeAll, List.length_cons, List.length_cons, ih]

theorem length_sanitizeEntries (es : List (Value × Value)) :
    (sanitizeEntries es).length = es.length := by
  induction es with
  | nil => rfl
  | cons e es ih => rw [sanitizeEntries, List.length_cons, List.length_cons, ih]

mutual

/-- **What is written is a form of what is read back.** -/
theorem form_encode : ∀ v : Value, v.Fits → Form v.sanitize v.encode
  | .nil, _ => .nil .nil
  | .bool b, _ => .bool (Head.form_write (h := .bool b) trivial nofun)
  | .int n, _ => by
    have he : (int n).encode = (Head.int n).write := by simp [encode, emit]
    rw [he]
    exact .int (Head.form_write (h := .int n) trivial nofun)
  | .f32 w, _ => .f32 (Head.form_write (h := .f32 w) trivial nofun)
  | .f64 w, _ => .f64 (Head.form_write (h := .f64 w) trivial nofun)
  | .str octets, h => by
    rw [sanitize, encode_str]
    split
    · exact .str (Head.form_write h nofun)
    · exact .bin (Head.form_write h nofun)
  | .bin octets, h => by
    rw [encode_bin]
    exact .bin (Head.form_write (h := .bin octets.length) h nofun)
  | .ext type octets, h => by
    rw [encode_ext]
    exact .ext (Head.form_write (h := .ext octets.length) h nofun)
  | .array items, h => by
    rw [sanitize, encode_array, ← length_sanitizeAll]
    exact .array (Head.form_write ((length_sanitizeAll items).symm ▸ h.1) nofun)
      (formAll_encode items h.2)
  | .map entries, h => by
    rw [sanitize, encode_map, ← length_sanitizeEntries]
    exact .map (Head.form_write ((length_sanitizeEntries entries).symm ▸ h.1) nofun)
      (formEntries_encode entries h.2)

theorem formAll_encode : ∀ vs : List Value, FitsAll vs →
    FormAll (sanitizeAll vs) (vs.flatMap encode)
  | [], _ => .nil
  | v :: vs, h => .cons (form_encode v h.1) (formAll_encode vs h.2)

theorem formEntries_encode : ∀ es : List (Value × Value), FitsEntries es →
    FormEntries (sanitizeEntries es) (es.flatMap fun e => encode e.1 ++ encode e.2)
  | [], _ => .nil
  | (k, v) :: es, h => by
    rw [sanitizeEntries, List.flatMap_cons, List.append_assoc]
    exact .cons (form_encode k h.1.1) (form_encode v h.1.2) (formEntries_encode es h.2)

end

/-- A text stays the string that it is. -/
@[simp] theorem sanitize_text (s : String) : (text s).sanitize = text s := by
  simp [text, sanitize, Text.Utf8.decode?_encode]

/-- The text of a string value is found again. -/
@[simp] theorem text?_text (s : String) : (text s).text? = some s :=
  Text.Utf8.decode?_encode s

/-- **A value is read back from its shortest form, in front of anything.** -/
theorem read_encode {v : Value} (fits : v.Fits) (cost : v.cost ≤ fullBudget) (rest : Octets) :
    read (v.encode ++ rest) = .ok (v.sanitize, rest) := by
  have need : v.sanitize.need ≤ fullBudget := by
    rw [need_sanitize]
    exact cost
  exact (form_encode v fits).read need rest

/-! ## 4. Longer than the format can express -/

/-- An array of 2^32 items is announced as empty, and its items stand behind the head all the same.
So it is with every multiple of that. -/
theorem encode_array_overlong {items : List Value} (wraps : items.length % 0x100000000 = 0) :
    (array items).encode = 0x90 :: items.flatMap encode := by
  rw [encode_array, Head.write, Head.narrow, wraps]
  rfl

/-- The head is all that there is to the empty array. -/
theorem form_array_nil : (array []).Form [0x90] :=
  .array (.fixArray (by decide)) .nil

end Muxwire.Msgpack.Value
