import Muxwire.Msgpack.Value

/-!
# Heads

A value on the wire begins with its head: the marker octet and, as far as the marker asks for them,
a number or a length.

* `Head` is the meaning of a head; several heads on the wire can mean the same (`05`, `cc 05`,
  `d0 05`).
* `Head.write` writes the shortest form (`Head.shortest`) of a head whose length was cut to 32 bits
  (`Head.narrow`).
* `Head.read` reads every form. An octet string that ends early is a `ReadFault`.
-/

namespace Muxwire.Msgpack

/-- A reader takes a value from the front of the octets and leaves the rest. -/
abbrev Reader (ε α : Type) := Octets → Except ε (α × Octets)

/-! ## 1. What can go wrong -/

/-- Why octets hold no value. -/
inductive ReadFault where
  /-- The input ended where a marker was due. -/
  | markerMissing
  /-- The input ended inside a number, a length or the type of an extension. -/
  | dataMissing
  /-- The content of a string, binary or extension was cut short. -/
  | contentCut (expected available : Nat)
  /-- The values were nested too deeply. -/
  | tooDeep
  deriving DecidableEq, Repr

/-- The wording of a fault. -/
def ReadFault.message : ReadFault → String
  | .markerMissing => "I/O error while reading marker byte: failed to fill whole buffer"
  | .dataMissing => "I/O error while reading non-marker bytes: failed to fill whole buffer"
  | .contentCut expected available =>
    s!"I/O error while reading non-marker bytes: Expected {expected} bytes, read {available} bytes"
  | .tooDeep => "depth limit exceeded"

/-! ## 2. Heads and their shortest forms -/

/-- What the first octets of a value say: a whole scalar, or the length of the content. -/
inductive Head where
  | nil
  | reserved
  | bool (b : Bool)
  | int (n : WireInt)
  | f32 (word : UInt32)
  | f64 (word : UInt64)
  | str (length : Nat)
  | bin (length : Nat)
  | array (length : Nat)
  | map (length : Nat)
  | ext (length : Nat)
  deriving DecidableEq, Repr

namespace Head

/-- A marker with a number of `w` octets. -/
def withNumber (marker : UInt8) (w n : Nat) : Octets :=
  marker :: Octets.bigEndian w n

/-- The shortest form of an integer. -/
def writeInt (n : Int) : Octets :=
  if 0 ≤ n then
    let k := n.toNat
    if k < 0x80 then [UInt8.ofNat k]
    else if k < 0x100 then withNumber 0xcc 1 k
    else if k < 0x10000 then withNumber 0xcd 2 k
    else if k < 0x100000000 then withNumber 0xce 4 k
    else withNumber 0xcf 8 k
  else if -32 ≤ n then [UInt8.ofNat (n + 0x100).toNat]
  else if -0x80 ≤ n then withNumber 0xd0 1 (n + 0x100).toNat
  else if -0x8000 ≤ n then withNumber 0xd1 2 (n + 0x10000).toNat
  else if -0x80000000 ≤ n then withNumber 0xd2 4 (n + 0x100000000).toNat
  else withNumber 0xd3 8 (n + 0x10000000000000000).toNat

/-- The shortest form of a length that has a two-octet and a four-octet marker. -/
def writeLength (n : Nat) (two four : UInt8) : Octets :=
  if n < 0x10000 then withNumber two 2 n else withNumber four 4 n

/-- The shortest form of a head. -/
def shortest : Head → Octets
  | .nil => [0xc0]
  | .reserved => [0xc1]
  | .bool b => [if b then 0xc3 else 0xc2]
  | .int n => writeInt n.val
  | .f32 word => withNumber 0xca 4 word.toNat
  | .f64 word => withNumber 0xcb 8 word.toNat
  | .str n =>
    if n < 32 then [UInt8.ofNat (0xa0 + n)]
    else if n < 0x100 then withNumber 0xd9 1 n
    else writeLength n 0xda 0xdb
  | .bin n => if n < 0x100 then withNumber 0xc4 1 n else writeLength n 0xc5 0xc6
  | .array n => if n < 16 then [UInt8.ofNat (0x90 + n)] else writeLength n 0xdc 0xdd
  | .map n => if n < 16 then [UInt8.ofNat (0x80 + n)] else writeLength n 0xde 0xdf
  | .ext n =>
    if n = 1 then [0xd4]
    else if n = 2 then [0xd5]
    else if n = 4 then [0xd6]
    else if n = 8 then [0xd7]
    else if n = 16 then [0xd8]
    else if n < 0x100 then withNumber 0xc7 1 n
    else writeLength n 0xc8 0xc9

/-- The head with its length cut to a word of 32 bits, the most that a marker announces. -/
def narrow : Head → Head
  | .str n => .str (n % 0x100000000)
  | .bin n => .bin (n % 0x100000000)
  | .array n => .array (n % 0x100000000)
  | .map n => .map (n % 0x100000000)
  | .ext n => .ext (n % 0x100000000)
  | head => head

/-- A head goes out in its shortest form, after its length was cut: what has 2^32 items is announced
as empty. -/
def write (head : Head) : Octets :=
  head.narrow.shortest

/-! ## 3. Every form -/

/-- Reads the number of a head. -/
def number (w : Width) (head : Nat → Head) : Reader ReadFault Head := fun bs =>
  match Octets.readNumber? w.octets bs with
  | some (n, rest) => .ok (head n, rest)
  | none => .error .dataMissing

/-- Reads what follows a marker from `c0` to `df`; `k` counts the markers from `c0`. -/
def readMarked (k : Nat) : Reader ReadFault Head := fun rest =>
  match k with
  | 0 => .ok (.nil, rest)
  | 1 => .ok (.reserved, rest)
  | 2 => .ok (.bool false, rest)
  | 3 => .ok (.bool true, rest)
  | 4 => number .one .bin rest
  | 5 => number .two .bin rest
  | 6 => number .four .bin rest
  | 7 => number .one .ext rest
  | 8 => number .two .ext rest
  | 9 => number .four .ext rest
  | 10 => number .four (fun n => .f32 (UInt32.ofNat n)) rest
  | 11 => number .eight (fun n => .f64 (UInt64.ofNat n)) rest
  | 12 => number .one (fun n => .int (.ofUnsigned .one n)) rest
  | 13 => number .two (fun n => .int (.ofUnsigned .two n)) rest
  | 14 => number .four (fun n => .int (.ofUnsigned .four n)) rest
  | 15 => number .eight (fun n => .int (.ofUnsigned .eight n)) rest
  | 16 => number .one (fun n => .int (.ofSigned .one n)) rest
  | 17 => number .two (fun n => .int (.ofSigned .two n)) rest
  | 18 => number .four (fun n => .int (.ofSigned .four n)) rest
  | 19 => number .eight (fun n => .int (.ofSigned .eight n)) rest
  | 20 => .ok (.ext 1, rest)
  | 21 => .ok (.ext 2, rest)
  | 22 => .ok (.ext 4, rest)
  | 23 => .ok (.ext 8, rest)
  | 24 => .ok (.ext 16, rest)
  | 25 => number .one .str rest
  | 26 => number .two .str rest
  | 27 => number .four .str rest
  | 28 => number .two .array rest
  | 29 => number .four .array rest
  | 30 => number .two .map rest
  | _ => number .four .map rest

/-- Whether a marker announces a number in two's complement. Such a number may still be positive. -/
def isSigned (marker : UInt8) : Bool :=
  0xd0 ≤ marker && marker ≤ 0xd3

/-- Reads a head in any form. -/
def read : Reader ReadFault Head
  | [] => .error .markerMissing
  | b :: rest =>
    let n := b.toNat
    if n < 0x80 then .ok (.int (.ofUnsigned .one n), rest)
    else if n < 0x90 then .ok (.map (n - 0x80), rest)
    else if n < 0xa0 then .ok (.array (n - 0x90), rest)
    else if n < 0xc0 then .ok (.str (n - 0xa0), rest)
    else if n < 0xe0 then readMarked (n - 0xc0) rest
    else .ok (.int (.ofSigned .one n), rest)

end Head

/-! ## 4. Content -/

/-- Reads exactly `n` octets of content. -/
def readContent (n : Nat) : Reader ReadFault Octets := fun bs =>
  match Octets.splitExact? n bs with
  | some (content, rest) => .ok (content, rest)
  | none => .error (.contentCut n bs.length)

/-- Content of the announced length is read whole, in front of anything. -/
theorem readContent_append (octets rest : Octets) :
    readContent octets.length (octets ++ rest) = .ok (octets, rest) := by
  simp [readContent, Octets.splitExact?_append]

/-- Reads `n` items in order; those found so far are held in reverse. -/
def readMany {ε α : Type} (item : Reader ε α) : Nat → List α → Reader ε (List α)
  | 0, found, bs => .ok (found.reverse, bs)
  | n + 1, found, bs =>
    match item bs with
    | .ok (a, rest) => readMany item n (a :: found) rest
    | .error e => .error e

/-- Reads one item and then another. -/
def readPair {ε α β : Type} (first : Reader ε α) (second : Reader ε β) : Reader ε (α × β) :=
  fun bs =>
    match first bs with
    | .error e => .error e
    | .ok (a, rest) =>
      match second rest with
      | .error e => .error e
      | .ok (b, rest) => .ok ((a, b), rest)

end Muxwire.Msgpack
