import Muxwire.Msgpack.Datum
import Muxwire.Text.Utf8.RoundTrip

/-!
# What a datum means

A datum is written as the value that it means, whatever names and widths it has.

* `Datum.value` -- the value: the names of records and fields and the widths of numbers are gone,
  and options and wrappers are what they hold.
* `Datum.refusal?` -- the text of the first datum met in it whose encoder gives up.
* **`Datum.encode_eq`** -- the octets of a datum are those of its value, unless there is such a
  text; then that is the error.
-/

namespace Muxwire.Msgpack.Datum

/-! ## 1. Values and refusals -/

/-- A variant with content is the map of its name to that. -/
def variantValue (name : String) (content : Value) : Value :=
  .map [(.text name, content)]

/-- An integer of an unsigned type. -/
def unsignedValue (n : UInt64) : Value :=
  .int (.ofNat n)

/-- An integer of a signed type. -/
def signedValue (n : Int64) : Value :=
  .int ⟨n.toInt, n.le_toInt, Int.lt_trans n.toInt_lt (by decide)⟩

mutual

/-- The value that a datum means. What is refused means nothing. -/
def value : Datum → Value
  | .unit | .none | .refusing _ => .nil
  | .some content | .newtypeStruct content => value content
  | .bool b => .bool b
  | .u8 n => unsignedValue n.toUInt64
  | .u16 n => unsignedValue n.toUInt64
  | .u32 n => unsignedValue n.toUInt64
  | .u64 n => unsignedValue n
  | .i8 n => signedValue n.toInt64
  | .i16 n => signedValue n.toInt64
  | .i32 n => signedValue n.toInt64
  | .i64 n => signedValue n
  | .f32 word => .f32 word
  | .f64 word => .f64 word
  | .char c => .text (String.ofList [c])
  | .str s | .unitVariant s => .text s
  | .bytes octets => .bin octets
  | .unitStruct => .array []
  | .newtypeVariant name content => variantValue name (value content)
  | .seq _ items | .tuple items | .tupleStruct items => .array (valueAll items)
  | .tupleVariant name items => variantValue name (.array (valueAll items))
  | .map entries => .map (valueEntries entries)
  | .struct fields => .array (valueFields fields)
  | .structVariant name fields => variantValue name (.array (valueFields fields))
  | .dynamic v => v

/-- The same for each datum of a list. -/
def valueAll : List Datum → List Value
  | [] => []
  | d :: ds => value d :: valueAll ds

/-- The same for each key and its datum. -/
def valueEntries : List (Datum × Datum) → List (Value × Value)
  | [] => []
  | (k, d) :: rest => (value k, value d) :: valueEntries rest

/-- The same for the datum of each field. -/
def valueFields : List (String × Datum) → List Value
  | [] => []
  | (_, d) :: rest => value d :: valueFields rest

end

mutual

/-- The text of the first datum that is met and refused. -/
def refusal? : Datum → Option String
  | .refusing text => .some text
  | .some content | .newtypeStruct content | .newtypeVariant _ content => refusal? content
  | .seq _ items | .tuple items | .tupleStruct items | .tupleVariant _ items => refusalAll? items
  | .map entries => refusalEntries? entries
  | .struct fields | .structVariant _ fields => refusalFields? fields
  | _ => .none

/-- The same in a list. -/
def refusalAll? : List Datum → Option String
  | [] => .none
  | d :: ds => (refusal? d).or (refusalAll? ds)

/-- The same among keys and their data. -/
def refusalEntries? : List (Datum × Datum) → Option String
  | [] => .none
  | (k, d) :: rest => ((refusal? k).or (refusal? d)).or (refusalEntries? rest)

/-- The same among the data of fields. -/
def refusalFields? : List (String × Datum) → Option String
  | [] => .none
  | (_, d) :: rest => (refusal? d).or (refusalFields? rest)

end

theorem valueAll_eq (ds : List Datum) : valueAll ds = ds.map value := by
  induction ds with
  | nil => rfl
  | cons d ds ih => rw [valueAll, ih, List.map_cons]

theorem valueFields_eq (fields : List (String × Datum)) :
    valueFields fields = (fields.map (·.2)).map value := by
  induction fields with
  | nil => rfl
  | cons field fields ih => rw [valueFields, ih, List.map_cons, List.map_cons]

theorem refusalFields?_eq (fields : List (String × Datum)) :
    refusalFields? fields = refusalAll? (fields.map (·.2)) := by
  induction fields with
  | nil => rfl
  | cons field fields ih => rw [refusalFields?, ih, List.map_cons, refusalAll?]

theorem refusalAll?_eq_none_iff {ds : List Datum} :
    refusalAll? ds = .none ↔ ∀ d ∈ ds, d.refusal? = .none := by
  induction ds with
  | nil => simp [refusalAll?]
  | cons d ds ih => simp [refusalAll?, ih]

theorem length_valueAll (ds : List Datum) : (valueAll ds).length = ds.length := by
  rw [valueAll_eq, List.length_map]

theorem length_valueFields (fields : List (String × Datum)) :
    (valueFields fields).length = fields.length := by
  rw [valueFields_eq, List.length_map, List.length_map]

theorem length_valueEntries (entries : List (Datum × Datum)) :
    (valueEntries entries).length = entries.length := by
  induction entries with
  | nil => rfl
  | cons entry entries ih => rw [valueEntries, List.length_cons, List.length_cons, ih]

/-! ## 2. What is written -/

/-- The octets, unless there is a refusal. -/
def unlessRefused (octets : Octets) : Option String → Except String Octets
  | .none => .ok octets
  | .some text => .error text

theorem emitText_eq (buffer : Octets) (s : String) :
    emitText buffer s = (Value.text s).emit buffer := by
  simp [emitText, Value.text, Value.emit, putString, Text.Utf8.decode?_encode]

mutual

/-- A datum is put onto a buffer as its value is, unless it is refused. -/
theorem emit_eq (buffer : Octets) : ∀ d : Datum,
    emit buffer d = unlessRefused (d.value.emit buffer) d.refusal?
  | .unit | .none | .bool _ | .f32 _ | .f64 _ | .unitStruct | .bytes _ | .dynamic _
  | .refusing _ => rfl
  | .u8 n => by
    rw [emit, ← UInt8.toNat_toUInt64]
    rfl
  | .u16 n => by
    rw [emit, ← UInt16.toNat_toUInt64]
    rfl
  | .u32 n => by
    rw [emit, ← UInt32.toNat_toUInt64]
    rfl
  | .u64 _ | .i64 _ => rfl
  | .i8 n => by
    rw [emit, ← Int8.toInt_toInt64]
    rfl
  | .i16 n => by
    rw [emit, ← Int16.toInt_toInt64]
    rfl
  | .i32 n => by
    rw [emit, ← Int32.toInt_toInt64]
    rfl
  | .char _ | .str _ | .unitVariant _ => by
    rw [emit, emitText_eq]
    rfl
  | .some content => emit_eq buffer content
  | .newtypeStruct content => emit_eq buffer content
  | .newtypeVariant name content => by
    rw [emit, emit_eq _ content, emitVariant, emitText_eq]
    rfl
  | .seq _ items | .tuple items | .tupleStruct items => by
    rw [emit, emitAll_eq _ items, value, Value.emit, length_valueAll]
    rfl
  | .tupleVariant name items => by
    rw [emit, emitAll_eq _ items, emitVariant, emitText_eq, ← length_valueAll]
    rfl
  | .map entries => by
    rw [emit, emitEntries_eq _ entries, value, Value.emit, length_valueEntries]
    rfl
  | .struct fields => by
    rw [emit, emitFields_eq _ fields, value, Value.emit, length_valueFields]
    rfl
  | .structVariant name fields => by
    rw [emit, emitFields_eq _ fields, emitVariant, emitText_eq, ← length_valueFields]
    rfl

theorem emitAll_eq (buffer : Octets) : ∀ ds : List Datum,
    emitAll buffer ds = unlessRefused (Value.emitAll buffer (valueAll ds)) (refusalAll? ds)
  | [] => rfl
  | d :: ds => by
    rw [emitAll, emit_eq buffer d, valueAll, Value.emitAll, refusalAll?]
    cases refusal? d with
    | none => exact emitAll_eq _ ds
    | some text => rfl

theorem emitEntries_eq (buffer : Octets) : ∀ es : List (Datum × Datum),
    emitEntries buffer es
      = unlessRefused (Value.emitEntries buffer (valueEntries es)) (refusalEntries? es)
  | [] => rfl
  | (k, d) :: rest => by
    rw [emitEntries, emit_eq buffer k, valueEntries, Value.emitEntries, refusalEntries?]
    cases refusal? k with
    | some text => rfl
    | none =>
      dsimp only [unlessRefused]
      rw [emit_eq _ d]
      cases refusal? d with
      | some text => rfl
      | none => exact emitEntries_eq _ rest

theorem emitFields_eq (buffer : Octets) : ∀ fs : List (String × Datum),
    emitFields buffer fs = unlessRefused (Value.emitAll buffer (valueFields fs)) (refusalFields? fs)
  | [] => rfl
  | (_, d) :: rest => by
    rw [emitFields, emit_eq buffer d, valueFields, Value.emitAll, refusalFields?]
    cases refusal? d with
    | none => exact emitFields_eq _ rest
    | some text => rfl

end

/-- **The octets of a datum are those of its value**, if nothing in it is refused. -/
theorem encode_eq_ok_iff {d : Datum} {octets : Octets} :
    d.encode = .ok octets ↔ d.refusal? = .none ∧ octets = d.value.encode := by
  rw [encode, emit_eq]
  cases d.refusal? with
  | some text =>
    refine ⟨fun h => ?_, fun h => ?_⟩
    · cases h
    · cases h.1
  | none =>
    simp only [unlessRefused, Except.ok.injEq, true_and]
    exact eq_comm

/-- **A datum fails to be encoded by the first refusal in it**, and in no other way. -/
theorem encode_eq_error_iff {d : Datum} {e : Error} :
    d.encode = .error e ↔ ∃ text, d.refusal? = .some text ∧ e = .encode text := by
  rw [encode, emit_eq]
  cases d.refusal? with
  | none =>
    refine ⟨fun h => ?_, fun ⟨text, h, _⟩ => ?_⟩
    · cases h
    · cases h
  | some text =>
    simp only [unlessRefused, Except.error.injEq, Option.some.injEq, exists_eq_left']
    exact eq_comm

end Muxwire.Msgpack.Datum
