/-!
# Lower-case hexadecimal

* `digits n` writes a number with no leading zeros (`0` is the one digit `0`);
* `octet b` writes an octet with exactly two digits (`length_octet`);
* `octets bs` joins the pairs.
-/

namespace Muxwire.Text.Hex

/-- The lower-case digit of a number below sixteen. -/
def digit (n : Nat) : Char :=
  if n < 10 then Char.ofNat (48 + n) else Char.ofNat (87 + n)

/-- The digits of `n`, most significant first, without leading zeros. -/
def digits (n : Nat) : List Char :=
  Nat.toDigits 16 n

/-- The two digits of an octet. -/
def octet (b : UInt8) : List Char :=
  [digit (b.toNat / 16), digit (b.toNat % 16)]

/-- Octets as pairs of digits. -/
def octets (bs : List UInt8) : String :=
  String.ofList (bs.flatMap octet)

@[simp] theorem length_octet (b : UInt8) : (octet b).length = 2 := rfl

end Muxwire.Text.Hex
