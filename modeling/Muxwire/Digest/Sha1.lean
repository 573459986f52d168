import Muxwire.Octets

/-!
# SHA-1

The twenty-octet digest of any byte string.

* `pad` completes the message to whole blocks of 64 octets (`length_pad_mod`);
* `compress` runs the eighty rounds of one block over the five-word state;
* `digest` absorbs all blocks; `length_digest` says that it has 20 octets.
-/

namespace Muxwire.Digest.Sha1

/-- The five words that a block transforms. -/
structure State where
  a : UInt32
  b : UInt32
  c : UInt32
  d : UInt32
  e : UInt32
  deriving DecidableEq, Repr

/-- The state before the first block. -/
def State.start : State :=
  ⟨0x67452301, 0xEFCDAB89, 0x98BADCFE, 0x10325476, 0xC3D2E1F0⟩

/-- Rotation to the left by `n` places, for `0 < n < 32`. -/
def rotate (x n : UInt32) : UInt32 :=
  (x <<< n) ||| (x >>> (32 - n))

/-! ## 1. Padding -/

/-- How many zero octets stand between the end mark and the length. -/
def paddingZeros (size : Nat) : Nat :=
  (119 - size % 64) % 64

/-- The message, an end mark, zeros, and the length of the message in bits. -/
def pad (message : Octets) : Octets :=
  message ++ 0x80 :: (List.replicate (paddingZeros message.length) 0
    ++ Octets.bigEndian 8 (8 * message.length))

theorem length_pad (message : Octets) :
    (pad message).length = message.length + paddingZeros message.length + 9 := by
  simp [pad]
  omega

/-- **A padded message consists of whole blocks.** -/
theorem length_pad_mod (message : Octets) : (pad message).length % 64 = 0 := by
  rw [length_pad]
  unfold paddingZeros
  omega

/-! ## 2. One block -/

/-- The big-endian words of a block. -/
def words : Octets → List UInt32
  | a :: b :: c :: d :: rest =>
    (a.toUInt32 <<< 24 ||| b.toUInt32 <<< 16 ||| c.toUInt32 <<< 8 ||| d.toUInt32) :: words rest
  | _ => []

/-- Adds `n` words to a schedule that is held newest first. -/
def extend : Nat → List UInt32 → List UInt32
  | 0, ws => ws
  | n + 1, ws =>
    extend n (rotate (ws.getD 2 0 ^^^ ws.getD 7 0 ^^^ ws.getD 13 0 ^^^ ws.getD 15 0) 1 :: ws)

/-- The eighty words that the rounds of a block use. -/
def schedule (block : Octets) : List UInt32 :=
  (extend 64 (words block).reverse).reverse

/-- The mixing function of round `t`, with its constant. -/
def mix (t : Nat) (b c d : UInt32) : UInt32 :=
  if t < 20 then ((b &&& c) ||| (~~~b &&& d)) + 0x5A827999
  else if t < 40 then (b ^^^ c ^^^ d) + 0x6ED9EBA1
  else if t < 60 then ((b &&& c) ||| (b &&& d) ||| (c &&& d)) + 0x8F1BBCDC
  else (b ^^^ c ^^^ d) + 0xCA62C1D6

/-- Round `t` with its word of the schedule. -/
def round (s : State) (t : Nat) (w : UInt32) : State :=
  ⟨rotate s.a 5 + mix t s.b s.c s.d + s.e + w, s.a, rotate s.b 30, s.c, s.d⟩

/-- The rounds from `t` on. -/
def rounds (s : State) (t : Nat) : List UInt32 → State
  | [] => s
  | w :: ws => rounds (round s t w) (t + 1) ws

/-- One block: the result of its rounds is added to the state. -/
def compress (s : State) (block : Octets) : State :=
  let r := rounds s 0 (schedule block)
  ⟨s.a + r.a, s.b + r.b, s.c + r.c, s.d + r.d, s.e + r.e⟩

/-! ## 3. The digest -/

/-- The first `n` blocks of padded octets. -/
def absorb : Nat → State → Octets → State
  | 0, s, _ => s
  | n + 1, s, bs => absorb n (compress s (bs.take 64)) (bs.drop 64)

/-- The five words as octets. -/
def State.octets (s : State) : Octets :=
  [s.a, s.b, s.c, s.d, s.e].flatMap fun w => Octets.bigEndian 4 w.toNat

/-- The digest of a message. -/
def digest (message : Octets) : Octets :=
  let padded := pad message
  (absorb (padded.length / 64) .start padded).octets

/-- **A digest has twenty octets.** -/
@[simp] theorem length_digest (message : Octets) : (digest message).length = 20 := by
  simp [digest, State.octets]

end Muxwire.Digest.Sha1
