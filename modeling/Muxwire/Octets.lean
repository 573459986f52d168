import Muxwire.Power

/-!
# Octets

Byte strings and the whole numbers written in them, most significant octet first.

* `bigEndian w n` is the `w` octets of `n`, and `ofBigEndian` reads them back:
  `ofBigEndian_bigEndian` and `bigEndian_ofBigEndian` say that the two are inverse on numbers
  below `256 ^ w`.
* `splitExact? n bs` cuts off exactly `n` octets without measuring what follows them;
  `splitExact?_eq` gives it as a test on the length.
-/

namespace Muxwire

/-- Octets are a byte string as it stands on the wire. -/
abbrev Octets := List UInt8

namespace Octets

/-! ## 1. Numbers in a fixed width -/

/-- The `w` octets of `n`, most significant first; higher bits of `n` are dropped. -/
def bigEndian : Nat → Nat → Octets
  | 0, _ => []
  | w + 1, n => UInt8.ofNat (n / 256 ^ w) :: bigEndian w n

/-- The number that big-endian octets stand for. -/
def ofBigEndian (bs : Octets) : Nat :=
  bs.foldl (fun n b => n * 256 + b.toNat) 0

@[simp] theorem length_bigEndian (w n : Nat) : (bigEndian w n).length = w := by
  induction w with
  | zero => rfl
  | succ w ih => simp [bigEndian, ih]

theorem foldl_ofBigEndian (bs : Octets) (n : Nat) :
    bs.foldl (fun n b => n * 256 + b.toNat) n = n * 256 ^ bs.length + ofBigEndian bs := by
  induction bs generalizing n with
  | nil => simp [ofBigEndian]
  | cons b bs ih =>
    have h := ih b.toNat
    simp only [ofBigEndian] at h ih ⊢
    simp only [List.foldl_cons, List.length_cons, Nat.zero_mul, Nat.zero_add]
    rw [ih, h, Nat.pow_succ, Nat.add_mul]
    have : n * 256 * 256 ^ bs.length = n * (256 ^ bs.length * 256) := by
      rw [Nat.mul_assoc, Nat.mul_comm 256]
    omega

@[simp] theorem ofBigEndian_nil : ofBigEndian [] = 0 := rfl

theorem ofBigEndian_cons (b : UInt8) (bs : Octets) :
    ofBigEndian (b :: bs) = b.toNat * 256 ^ bs.length + ofBigEndian bs := by
  have h := foldl_ofBigEndian bs b.toNat
  simpa [ofBigEndian] using h

theorem ofBigEndian_lt (bs : Octets) : ofBigEndian bs < 256 ^ bs.length := by
  induction bs with
  | nil => simp
  | cons b bs ih =>
    rw [ofBigEndian_cons, List.length_cons, Nat.pow_succ]
    have hb : b.toNat + 1 ≤ 256 := b.toNat_lt
    have := Nat.mul_le_mul_right (256 ^ bs.length) hb
    rw [Nat.add_mul, Nat.one_mul] at this
    rw [Nat.mul_comm (256 ^ bs.length)]
    omega

/-- **Writing a number in a width reads back as the number modulo that width.** -/
theorem ofBigEndian_bigEndian (w n : Nat) : ofBigEndian (bigEndian w n) = n % 256 ^ w := by
  induction w with
  | zero => simp [bigEndian, Nat.mod_one]
  | succ w ih =>
    rw [bigEndian, ofBigEndian_cons, ih, length_bigEndian, Nat.pow_succ, Nat.mod_mul,
      UInt8.toNat_ofNat']
    simp only [Nat.reducePow]
    rw [Nat.mul_comm, Nat.add_comm]

theorem ofBigEndian_bigEndian_of_lt {w n : Nat} (h : n < 256 ^ w) :
    ofBigEndian (bigEndian w n) = n := by
  rw [ofBigEndian_bigEndian, Nat.mod_eq_of_lt h]

theorem bigEndian_add_mul (w n k : Nat) : bigEndian w (k * 256 ^ w + n) = bigEndian w n := by
  induction w generalizing k with
  | zero => rfl
  | succ w ih =>
    have hk : k * 256 ^ (w + 1) = (k * 256) * 256 ^ w := by
      rw [Nat.pow_succ, Nat.mul_comm (256 ^ w), Nat.mul_assoc]
    simp only [bigEndian, hk, ih]
    congr 1
    apply UInt8.toNat_inj.1
    simp only [UInt8.toNat_ofNat', Nat.reducePow]
    rw [Nat.add_comm, Nat.add_mul_div_right _ _ (Nat.pow_pos (by decide))]
    omega

/-- **Every byte string is the big-endian form of the number it stands for.** -/
theorem bigEndian_ofBigEndian (bs : Octets) : bigEndian bs.length (ofBigEndian bs) = bs := by
  induction bs with
  | nil => rfl
  | cons b bs ih =>
    rw [List.length_cons, bigEndian, ofBigEndian_cons, bigEndian_add_mul, ih]
    congr 1
    apply UInt8.toNat_inj.1
    have hlt := ofBigEndian_lt bs
    have hb := b.toNat_lt
    rw [UInt8.toNat_ofNat', Nat.add_comm, Nat.add_mul_div_right _ _ (Nat.pow_pos (by decide)),
      Nat.div_eq_of_lt hlt]
    simp only [Nat.reducePow, Nat.zero_add]
    omega

/-! ## 2. Cutting off a front -/

/-- Moves `n` octets from `bs` onto the reversed front `acc`; `none` if they are not there. -/
def splitExactOnto? : Nat → Octets → Octets → Option (Octets × Octets)
  | 0, acc, bs => some (acc.reverse, bs)
  | _ + 1, _, [] => none
  | n + 1, acc, b :: bs => splitExactOnto? n (b :: acc) bs

/-- The first `n` octets and the rest, or `none` when fewer than `n` are there. -/
def splitExact? (n : Nat) (bs : Octets) : Option (Octets × Octets) :=
  splitExactOnto? n [] bs

theorem splitExactOnto?_eq (n : Nat) (acc bs : Octets) :
    splitExactOnto? n acc bs =
      if n ≤ bs.length then some (acc.reverse ++ bs.take n, bs.drop n) else none := by
  induction n generalizing acc bs with
  | zero => simp [splitExactOnto?]
  | succ n ih =>
    cases bs with
    | nil => simp [splitExactOnto?]
    | cons b bs => simp [splitExactOnto?, ih]

/-- **The cut succeeds exactly when enough octets are there.** -/
theorem splitExact?_eq (n : Nat) (bs : Octets) :
    splitExact? n bs = if n ≤ bs.length then some (bs.take n, bs.drop n) else none := by
  simp [splitExact?, splitExactOnto?_eq]

/-- A front of known length is cut off again. -/
theorem splitExact?_append (front rest : Octets) :
    splitExact? front.length (front ++ rest) = some (front, rest) := by
  simp [splitExact?_eq]

theorem length_of_splitExact? {n : Nat} {bs front rest : Octets}
    (h : splitExact? n bs = some (front, rest)) : bs.length = n + rest.length := by
  rw [splitExact?_eq] at h
  split at h
  · cases h
    simp only [List.length_drop]
    omega
  · cases h

/-- The number in the first `w` octets, and the rest. -/
def readNumber? (w : Nat) (bs : Octets) : Option (Nat × Octets) :=
  (splitExact? w bs).map fun (front, rest) => (ofBigEndian front, rest)

/-- **A number written in `w` octets is read back from in front of anything.** -/
theorem readNumber?_bigEndian {w n : Nat} (h : n < 256 ^ w) (rest : Octets) :
    readNumber? w (bigEndian w n ++ rest) = some (n, rest) := by
  have hs := splitExact?_append (bigEndian w n) rest
  rw [length_bigEndian] at hs
  simp [readNumber?, hs, ofBigEndian_bigEndian_of_lt h]

end Octets

end Muxwire
