import Muxwire.Msgpack.Head

/-!
# Values written

`Value.encode` writes a value in the shortest form throughout. A string that is not valid UTF-8 is
written as a binary of the same octets.

The writing proper (`Value.emit`) puts octets onto a reversed buffer, so that long arrays take no
stack; `Value.emit_eq` says that it puts exactly `encode v` behind what the buffer holds, and
`encode_str` to `encode_map` give the plain equations: a head, and then the content.
-/

namespace Muxwire.Msgpack

/-- Puts octets onto a buffer that is held in reverse. -/
def putOctets (buffer bs : Octets) : Octets :=
  bs.reverseAux buffer

@[simp] theorem putOctets_eq (buffer bs : Octets) : putOctets buffer bs = bs.reverse ++ buffer := by
  simp [putOctets, List.reverseAux_eq]

/-- Puts a string onto a reversed buffer: valid UTF-8 as a string, else as a binary. -/
def putString (buffer octets : Octets) : Octets :=
  let head := if (Text.Utf8.decode? octets).isSome then Head.str octets.length
    else Head.bin octets.length
  putOctets (putOctets buffer head.write) octets

namespace Value

mutual

/-- Puts a value onto a reversed buffer. -/
def emit (buffer : Octets) : Value → Octets
  | .nil => putOctets buffer Head.nil.write
  | .bool b => putOctets buffer (Head.bool b).write
  | .int n => putOctets buffer (Head.int n).write
  | .f32 word => putOctets buffer (Head.f32 word).write
  | .f64 word => putOctets buffer (Head.f64 word).write
  | .str octets => putString buffer octets
  | .bin octets => putOctets (putOctets buffer (Head.bin octets.length).write) octets
  | .array items => emitAll (putOctets buffer (Head.array items.length).write) items
  | .map entries => emitEntries (putOctets buffer (Head.map entries.length).write) entries
  | .ext type octets =>
    putOctets (type.toUInt8 :: putOctets buffer (Head.ext octets.length).write) octets

/-- Puts values onto a reversed buffer, one after the other. -/
def emitAll (buffer : Octets) : List Value → Octets
  | [] => buffer
  | v :: vs => emitAll (emit buffer v) vs

/-- Puts each key and its value onto a reversed buffer. -/
def emitEntries (buffer : Octets) : List (Value × Value) → Octets
  | [] => buffer
  | (k, v) :: rest => emitEntries (emit (emit buffer k) v) rest

end

/-- The octets of a value. -/
def encode (v : Value) : Octets :=
  (emit [] v).reverse

/-! ## The buffer only grows -/

mutual

theorem emit_append (front buffer : Octets) : ∀ v : Value,
    emit (front ++ buffer) v = emit front v ++ buffer
  | .nil | .bool _ | .int _ | .f32 _ | .f64 _ | .bin _ | .ext _ _ => by simp [emit]
  | .str _ => by simp [emit, putString]
  | .array items => by
    have := emitAll_append ((Head.array items.length).write.reverse ++ front) buffer items
    simpa [emit] using this
  | .map entries => by
    have := emitEntries_append ((Head.map entries.length).write.reverse ++ front) buffer entries
    simpa [emit] using this

theorem emitAll_append (front buffer : Octets) : ∀ vs : List Value,
    emitAll (front ++ buffer) vs = emitAll front vs ++ buffer
  | [] => by simp [emitAll]
  | v :: vs => by
    rw [emitAll, emitAll, emit_append front buffer v, emitAll_append _ buffer vs]

theorem emitEntries_append (front buffer : Octets) : ∀ es : List (Value × Value),
    emitEntries (front ++ buffer) es = emitEntries front es ++ buffer
  | [] => by simp [emitEntries]
  | (k, v) :: rest => by
    rw [emitEntries, emitEntries, emit_append front buffer k, emit_append _ buffer v,
      emitEntries_append _ buffer rest]

end

/-- **A value is put behind what the buffer holds, whatever that is.** -/
theorem emit_eq (buffer : Octets) (v : Value) : emit buffer v = (encode v).reverse ++ buffer := by
  have := emit_append [] buffer v
  simpa [encode] using this

theorem emitAll_eq (buffer : Octets) (vs : List Value) :
    emitAll buffer vs = (vs.flatMap encode).reverse ++ buffer := by
  induction vs generalizing buffer with
  | nil => simp [emitAll]
  | cons v vs ih => simp [emitAll, ih, emit_eq]

theorem emitEntries_eq (buffer : Octets) (es : List (Value × Value)) :
    emitEntries buffer es = (es.flatMap fun e => encode e.1 ++ encode e.2).reverse ++ buffer := by
  induction es generalizing buffer with
  | nil => simp [emitEntries]
  | cons e es ih => simp [emitEntries, ih, emit_eq]

/-- A string is its head and then its octets; the head tells whether they are valid UTF-8. -/
theorem encode_str (octets : Octets) : encode (.str octets) =
    (if (Text.Utf8.decode? octets).isSome then Head.str octets.length
      else Head.bin octets.length).write ++ octets := by
  simp [encode, emit, putString]

/-- A binary is its head and then its octets. -/
theorem encode_bin (octets : Octets) :
    encode (.bin octets) = (Head.bin octets.length).write ++ octets := by
  simp [encode, emit]

/-- An extension is its head, its type and then its octets. -/
theorem encode_ext (type : Int8) (octets : Octets) :
    encode (.ext type octets) = (Head.ext octets.length).write ++ type.toUInt8 :: octets := by
  simp [encode, emit]

/-- An array is its head and then its items. -/
theorem encode_array (items : List Value) :
    encode (.array items) = (Head.array items.length).write ++ items.flatMap encode := by
  simp [encode, emit, emitAll_eq]

/-- A map is its head and then each key with its value. -/
theorem encode_map (entries : List (Value × Value)) :
    encode (.map entries) =
      (Head.map entries.length).write ++ entries.flatMap fun e => encode e.1 ++ encode e.2 := by
  simp [encode, emit, emitEntries_eq]

end Value

end Muxwire.Msgpack
