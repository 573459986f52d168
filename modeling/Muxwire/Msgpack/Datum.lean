import Muxwire.Error
import Muxwire.Msgpack.Encode

/-!
# Typed data

The data that a program hands over to be written: scalars with their declared types, options,
sequences, records and variants. What a datum is called and how wide its type is does not show on
the wire; `Datum.encode` is positional.

* Records and tuples are arrays of their parts; field names are not written.
* A variant with content is a map of one entry, from its name to the content.
* An option that is there and a wrapper are what they hold.
* `Datum.refusing` is a datum whose own encoder gives up; the first one met ends the encoding.
-/

namespace Muxwire.Msgpack

/-- A datum of the data model. -/
inductive Datum where
  | unit
  | none
  | some (content : Datum)
  | bool (b : Bool)
  | u8 (n : UInt8)
  | u16 (n : UInt16)
  | u32 (n : UInt32)
  | u64 (n : UInt64)
  | i8 (n : Int8)
  | i16 (n : Int16)
  | i32 (n : Int32)
  | i64 (n : Int64)
  | f32 (word : UInt32)
  | f64 (word : UInt64)
  | char (c : Char)
  | str (s : String)
  | bytes (octets : Octets)
  | unitStruct
  | unitVariant (name : String)
  | newtypeStruct (content : Datum)
  | newtypeVariant (name : String) (content : Datum)
  /-- A sequence; `announced` tells whether its length was known beforehand. -/
  | seq (announced : Bool) (items : List Datum)
  | tuple (items : List Datum)
  | tupleStruct (items : List Datum)
  | tupleVariant (name : String) (items : List Datum)
  | map (entries : List (Datum × Datum))
  | struct (fields : List (String × Datum))
  | structVariant (name : String) (fields : List (String × Datum))
  /-- A value that is dynamic already. -/
  | dynamic (value : Value)
  /-- A datum whose encoder gives up with a text. -/
  | refusing (text : String)
  deriving Repr, Inhabited

namespace Datum

/-- Puts a text onto a reversed buffer. -/
def emitText (buffer : Octets) (s : String) : Octets :=
  let octets := Text.Utf8.encode s
  putOctets (putOctets buffer (Head.str octets.length).write) octets

/-- Puts the map head and the name of a variant onto a reversed buffer. -/
def emitVariant (buffer : Octets) (name : String) : Octets :=
  emitText (putOctets buffer (Head.map 1).write) name

/-- Puts a head onto a reversed buffer. -/
def emitHead (buffer : Octets) (head : Head) : Octets :=
  putOctets buffer head.write

/-- Puts an integer onto a reversed buffer. -/
def emitInt (buffer : Octets) (n : Int) : Octets :=
  putOctets buffer (Head.writeInt n)

mutual

/-- Puts a datum onto a reversed buffer, or says why it is refused. -/
def emit (buffer : Octets) : Datum → Except String Octets
  | .unit => .ok (emitHead buffer .nil)
  | .none => .ok (emitHead buffer .nil)
  | .some content => emit buffer content
  | .bool b => .ok (emitHead buffer (.bool b))
  | .u8 n => .ok (emitInt buffer n.toNat)
  | .u16 n => .ok (emitInt buffer n.toNat)
  | .u32 n => .ok (emitInt buffer n.toNat)
  | .u64 n => .ok (emitInt buffer n.toNat)
  | .i8 n => .ok (emitInt buffer n.toInt)
  | .i16 n => .ok (emitInt buffer n.toInt)
  | .i32 n => .ok (emitInt buffer n.toInt)
  | .i64 n => .ok (emitInt buffer n.toInt)
  | .f32 word => .ok (emitHead buffer (.f32 word))
  | .f64 word => .ok (emitHead buffer (.f64 word))
  | .char c => .ok (emitText buffer (String.ofList [c]))
  | .str s => .ok (emitText buffer s)
  | .bytes octets => .ok (putOctets (emitHead buffer (.bin octets.length)) octets)
  | .unitStruct => .ok (emitHead buffer (.array 0))
  | .unitVariant name => .ok (emitText buffer name)
  | .newtypeStruct content => emit buffer content
  | .newtypeVariant name content => emit (emitVariant buffer name) content
  | .seq _ items => emitAll (emitHead buffer (.array items.length)) items
  | .tuple items => emitAll (emitHead buffer (.array items.length)) items
  | .tupleStruct items => emitAll (emitHead buffer (.array items.length)) items
  | .tupleVariant name items =>
    emitAll (emitHead (emitVariant buffer name) (.array items.length)) items
  | .map entries => emitEntries (emitHead buffer (.map entries.length)) entries
  | .struct fields => emitFields (emitHead buffer (.array fields.length)) fields
  | .structVariant name fields =>
    emitFields (emitHead (emitVariant buffer name) (.array fields.length)) fields
  | .dynamic value => .ok (value.emit buffer)
  | .refusing text => .error text

/-- Puts data onto a reversed buffer, one after the other. -/
def emitAll (buffer : Octets) : List Datum → Except String Octets
  | [] => .ok buffer
  | d :: ds =>
    match emit buffer d with
    | .ok buffer => emitAll buffer ds
    | .error text => .error text

/-- Puts each key and its datum onto a reversed buffer. -/
def emitEntries (buffer : Octets) : List (Datum × Datum) → Except String Octets
  | [] => .ok buffer
  | (k, d) :: rest =>
    match emit buffer k with
    | .error text => .error text
    | .ok buffer =>
      match emit buffer d with
      | .ok buffer => emitEntries buffer rest
      | .error text => .error text

/-- Puts the datum of each field onto a reversed buffer. -/
def emitFields (buffer : Octets) : List (String × Datum) → Except String Octets
  | [] => .ok buffer
  | (_, d) :: rest =>
    match emit buffer d with
    | .ok buffer => emitFields buffer rest
    | .error text => .error text

end

/-- The octets of a datum. -/
def encode (d : Datum) : Except Error Octets :=
  match emit [] d with
  | .ok buffer => .ok buffer.reverse
  | .error text => .error (.encode text)

end Datum

end Muxwire.Msgpack
