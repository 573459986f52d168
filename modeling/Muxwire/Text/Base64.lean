import Muxwire.Octets

/-!
# Base 64

The standard alphabet with canonical padding.

* `encode` writes three octets as four symbols and pads the last group with `=`.
* `decode` accepts only what `encode` writes and says what is wrong with anything else: a `Fault`
  with the octet and its offset. All groups but the last are read before the last, whose rules are
  stricter (`decodeTail`).
-/

namespace Muxwire.Text.Base64

/-! ## 1. The alphabet -/

/-- The symbol of a six-bit number. -/
def symbol (n : Nat) : UInt8 :=
  UInt8.ofNat <|
    if n < 26 then 65 + n
    else if n < 52 then 71 + n
    else if n < 62 then n - 4
    else if n = 62 then 43
    else 47

/-- The six-bit number of a symbol. -/
def valueOf? (b : UInt8) : Option Nat :=
  let n := b.toNat
  if 65 ≤ n ∧ n ≤ 90 then some (n - 65)
  else if 97 ≤ n ∧ n ≤ 122 then some (n - 71)
  else if 48 ≤ n ∧ n ≤ 57 then some (n + 4)
  else if n = 43 then some 62
  else if n = 47 then some 63
  else none

/-- The padding octet `=`. -/
def padding : UInt8 := 61

/-! ## 2. Writing -/

/-- The text of octets. -/
def encode : Octets → Octets
  | [] => []
  | [a] =>
    let n := a.toNat * 16
    [symbol (n / 64), symbol (n % 64), padding, padding]
  | [a, b] =>
    let n := (a.toNat * 256 + b.toNat) * 4
    [symbol (n / 4096), symbol (n / 64 % 64), symbol (n % 64), padding]
  | a :: b :: c :: rest =>
    let n := (a.toNat * 256 + b.toNat) * 256 + c.toNat
    symbol (n / 262144) :: symbol (n / 4096 % 64) :: symbol (n / 64 % 64) :: symbol (n % 64)
      :: encode rest

/-! ## 3. Reading -/

/-- What can be wrong with a text. Offsets count from 0. -/
inductive Fault where
  | invalidSymbol (octet : UInt8) (offset : Nat)
  | invalidLength (count : Nat)
  | invalidLastSymbol (octet : UInt8) (offset : Nat)
  | invalidPadding
  deriving DecidableEq, Repr

/-- The wording of a fault. -/
def Fault.message : Fault → String
  | .invalidSymbol b i => s!"Invalid symbol {b.toNat}, offset {i}."
  | .invalidLength n => s!"Invalid input length: {n}"
  | .invalidLastSymbol b i => s!"Invalid last symbol {b.toNat}, offset {i}."
  | .invalidPadding => "Invalid padding"

/-- The three octets of four six-bit numbers. -/
def triple (a b c d : Nat) : Octets :=
  let n := ((a * 64 + b) * 64 + c) * 64 + d
  Octets.bigEndian 3 n

/-- The groups before the last. `offset` counts the symbols read, `found` holds the octets in
reverse. -/
def decodeGroups (offset : Nat) (found : Octets) : Octets → Except Fault Octets
  | a :: b :: c :: d :: rest => do
    let read (x : UInt8) (i : Nat) : Except Fault Nat :=
      match valueOf? x with
      | some n => .ok n
      | none => .error (.invalidSymbol x (offset + i))
    let a ← read a 0
    let b ← read b 1
    let c ← read c 2
    let d ← read d 3
    decodeGroups (offset + 4) ((triple a b c d).reverse ++ found) rest
  | _ => .ok found.reverse

/-- The symbols of the last group, left to right: the numbers read, and the offset of the first
padding and the count of paddings. -/
structure Tail where
  values : List Nat
  firstPadding : Nat
  paddings : Nat
  deriving DecidableEq, Repr

/-- Reads the last group. Padding may stand only behind two symbols and before no symbol. -/
def scanTail (start : Nat) (tail : Tail) (i : Nat) : Octets → Except Fault Tail
  | [] => .ok tail
  | b :: rest =>
    if b = padding then
      if i < 2 then .error (.invalidSymbol b (start + i))
      else
        let first := if tail.paddings = 0 then i else tail.firstPadding
        scanTail start { tail with firstPadding := first, paddings := tail.paddings + 1 } (i + 1) rest
    else if 0 < tail.paddings then
      .error (.invalidSymbol padding (start + tail.firstPadding))
    else
      match valueOf? b with
      | some n => scanTail start { tail with values := tail.values ++ [n] } (i + 1) rest
      | none => .error (.invalidSymbol b (start + i))

/-- The octets of the last group, which starts at offset `start`. -/
def decodeTail (start : Nat) (bs : Octets) : Except Fault Octets := do
  let tail ← scanTail start ⟨[], 0, 0⟩ 0 bs
  let count := tail.values.length
  if count < 2 then .error (.invalidLength (start + count))
  else if (count + tail.paddings) % 4 ≠ 0 then .error .invalidPadding
  else
    let last (i : Nat) : Fault := .invalidLastSymbol (bs.getD i 0) (start + i)
    match tail.values with
    | [a, b] => if b % 16 = 0 then .ok ((triple a b 0 0).take 1) else .error (last 1)
    | [a, b, c] => if c % 4 = 0 then .ok ((triple a b c 0).take 2) else .error (last 2)
    | [a, b, c, d] => .ok (triple a b c d)
    | _ => .error .invalidPadding

/-- The octets that a text writes. A stray octet at the end of a text of length 4k + 1 is
reported before all else. -/
def decode (bs : Octets) : Except Fault Octets :=
  let n := bs.length
  let last := bs.getD (n - 1) 0
  if n % 4 = 1 ∧ last ≠ padding ∧ (valueOf? last).isNone then
    .error (.invalidSymbol last (n - 1))
  else if n = 0 then .ok []
  else
    let start := (n - 1) / 4 * 4
    match decodeGroups 0 [] (bs.take start) with
    | .error e => .error e
    | .ok front =>
      match decodeTail start (bs.drop start) with
      | .error e => .error e
      | .ok back => .ok (front ++ back)

end Muxwire.Text.Base64
