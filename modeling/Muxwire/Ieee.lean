import Muxwire.Power

/-!
# Binary floating-point words

Conversions between integers and the two interchange formats, on the bits of the words.

* A `Format` gives the widths of the exponent and of the fraction; `single` and `double` are the
  formats of 32 and 64 bits.
* `Format.round` gives the word nearest to `± m · 2 ^ e`: a tie goes to the even word, and what is
  too large becomes infinity.
* `ofInt`, `narrow` and `widen` are stated through it. A NaN keeps its sign and the leading bits
  of its payload, and comes out quiet.
-/

namespace Muxwire.Ieee

/-- A binary interchange format. -/
structure Format where
  exponentBits : Nat
  fractionBits : Nat
  deriving DecidableEq, Repr

/-- The format of 32-bit words. -/
def single : Format := ⟨8, 23⟩

/-- The format of 64-bit words. -/
def double : Format := ⟨11, 52⟩

namespace Format

/-- The exponent of the least normal number. -/
def leastExponent (f : Format) : Int :=
  2 - 2 ^ (f.exponentBits - 1)

/-- The word of positive infinity. -/
def infinity (f : Format) : Nat :=
  (2 ^ f.exponentBits - 1) * 2 ^ f.fractionBits

/-- The word with the sign bit alone. -/
def signBit (f : Format) : Nat :=
  2 ^ (f.exponentBits + f.fractionBits)

/-- `n / 2 ^ k`, rounded to the nearest integer; a tie goes to the even one. -/
def halve (n k : Nat) : Nat :=
  let unit := 2 ^ k
  let q := n / unit
  let r := n % unit
  if 2 * r > unit ∨ (2 * r = unit ∧ q % 2 = 1) then q + 1 else q

/-- The word nearest to `m · 2 ^ e`, without a sign. -/
def roundMagnitude (f : Format) (m : Nat) (e : Int) : Nat :=
  if m = 0 then 0
  else
    let top := max ((Nat.log2 m : Int) + e) f.leastExponent
    let quantum := top - f.fractionBits
    let significand :=
      if quantum ≤ e then m * 2 ^ (e - quantum).toNat
      else halve m (quantum - e).toNat
    min ((top - f.leastExponent).toNat * 2 ^ f.fractionBits + significand) f.infinity

/-- The word nearest to `m · 2 ^ e` with the given sign. -/
def round (f : Format) (negative : Bool) (m : Nat) (e : Int) : Nat :=
  (if negative then f.signBit else 0) + f.roundMagnitude m e

/-- The word nearest to an integer. -/
def ofInt (f : Format) (n : Int) : Nat :=
  f.round (n < 0) n.natAbs 0

/-- A word of format `f` in format `g`. -/
def convert (f g : Format) (word : Nat) : Nat :=
  let negative := f.signBit ≤ word
  let magnitude := word % f.signBit
  let exponent := magnitude / 2 ^ f.fractionBits
  let fraction := magnitude % 2 ^ f.fractionBits
  let sign := if negative then g.signBit else 0
  if f.infinity < magnitude then
    -- a NaN: the payload keeps its leading bits and gains the quiet bit
    let payload :=
      if f.fractionBits ≤ g.fractionBits then fraction * 2 ^ (g.fractionBits - f.fractionBits)
      else fraction / 2 ^ (f.fractionBits - g.fractionBits)
    sign + (g.infinity + (payload ||| 2 ^ (g.fractionBits - 1)))
  else if magnitude = f.infinity then sign + g.infinity
  else if exponent = 0 then g.round negative fraction (f.leastExponent - f.fractionBits)
  else
    g.round negative (2 ^ f.fractionBits + fraction)
      (f.leastExponent + (exponent - 1) - f.fractionBits)

end Format

/-- The 32-bit word nearest to a 64-bit one. -/
def narrow (word : UInt64) : UInt32 :=
  UInt32.ofNat (double.convert single word.toNat)

/-- The 64-bit word of the same number. -/
def widen (word : UInt32) : UInt64 :=
  UInt64.ofNat (single.convert double word.toNat)

/-- The 32-bit word nearest to an integer. -/
def singleOfInt (n : Int) : UInt32 :=
  UInt32.ofNat (single.ofInt n)

/-- The 64-bit word nearest to an integer. -/
def doubleOfInt (n : Int) : UInt64 :=
  UInt64.ofNat (double.ofInt n)

end Muxwire.Ieee
