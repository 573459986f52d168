import Muxwire.Octets

/-!
# UTF-8

Characters written as octets, and octets read as characters.

* `encode` writes a string.
* `pieces` cuts any octets into characters and *faults*; a fault is a longest run of octets that
  starts a character and is not continued to a whole one, or one octet that starts none.
* `decode?` is the string if there is no fault; `lossy` puts U+FFFD in the place of each fault.

The reading is one pass with a small state (`Partial`): what is still due of the character begun,
and which octets may come next. The first continuation octet has a narrower range after E0, ED, F0
and F4: this keeps out over-long forms, surrogates and numbers above 10FFFF.
-/

namespace Muxwire.Text.Utf8

/-! ## 1. Writing -/

/-- The octets of a string. -/
def encode (s : String) : Octets :=
  s.toList.flatMap String.utf8EncodeChar

/-! ## 2. Reading -/

/-- A character begun: how many octets are due, the range of the next, and the number so far. -/
structure Partial where
  due : Nat
  low : UInt8
  high : UInt8
  code : Nat
  deriving DecidableEq, Repr

/-- What an octet gives at the start of a character: whole characters (`some`) and faults
(`none`), and the character it begins. -/
def start (b : UInt8) : List (Option Char) × Option Partial :=
  let n := b.toNat
  if b < 0x80 then ([some (Char.ofNat n)], none)
  else if b < 0xC2 then ([none], none)
  else if b < 0xE0 then ([], some ⟨1, 0x80, 0xBF, n - 0xC0⟩)
  else if b = 0xE0 then ([], some ⟨2, 0xA0, 0xBF, 0⟩)
  else if b = 0xED then ([], some ⟨2, 0x80, 0x9F, 0xD⟩)
  else if b < 0xF0 then ([], some ⟨2, 0x80, 0xBF, n - 0xE0⟩)
  else if b = 0xF0 then ([], some ⟨3, 0x90, 0xBF, 0⟩)
  else if b < 0xF4 then ([], some ⟨3, 0x80, 0xBF, n - 0xF0⟩)
  else if b = 0xF4 then ([], some ⟨3, 0x80, 0x8F, 4⟩)
  else ([none], none)

/-- One more octet. An octet out of range ends the character begun as a fault and starts anew. -/
def feed (state : Option Partial) (b : UInt8) : List (Option Char) × Option Partial :=
  match state with
  | none => start b
  | some p =>
    if p.low ≤ b ∧ b ≤ p.high then
      let code := p.code * 64 + (b.toNat - 0x80)
      if p.due ≤ 1 then ([some (Char.ofNat code)], none)
      else ([], some ⟨p.due - 1, 0x80, 0xBF, code⟩)
    else
      let (out, state) := start b
      (none :: out, state)

/-- The pass over all octets, with the pieces found so far in reverse. -/
def scan (state : Option Partial) (found : List (Option Char)) : Octets → List (Option Char)
  | [] => (if state.isSome then none :: found else found).reverse
  | b :: bs =>
    let (out, state) := feed state b
    scan state (out.reverse ++ found) bs

/-- The characters (`some`) and faults (`none`) that octets consist of, in order. -/
def pieces (bs : Octets) : List (Option Char) :=
  scan none [] bs

/-- The string that octets write, if they are valid. -/
def decode? (bs : Octets) : Option String :=
  let ps := pieces bs
  if ps.all Option.isSome then some (String.ofList (ps.filterMap id)) else none

/-- The string with U+FFFD for each fault. -/
def lossy (bs : Octets) : String :=
  String.ofList ((pieces bs).map fun p => p.getD (Char.ofNat 0xFFFD))

end Muxwire.Text.Utf8
