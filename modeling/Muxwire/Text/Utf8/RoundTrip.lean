import Muxwire.Text.Utf8

/-!
# Strings read back

`decode?_encode`: a string is read back from its octets, and nothing in them is a fault, so that
`lossy_encode` says the same of the tolerant reading. Both follow from `scan_utf8EncodeChar`, which
reads one character in front of anything.
-/

namespace Muxwire.Text.Utf8

/-! ## 1. One octet -/

theorem toNat_ofNat_of_lt {n : Nat} (h : n < 256) : (UInt8.ofNat n).toNat = n := by
  rw [UInt8.toNat_ofNat']
  omega

/-- What an octet given as a number begins. -/
theorem start_ofNat {n : Nat} (h : n < 256) : start (UInt8.ofNat n) =
    if n < 0x80 then ([some (Char.ofNat n)], none)
    else if n < 0xC2 then ([none], none)
    else if n < 0xE0 then ([], some ⟨1, 0x80, 0xBF, n - 0xC0⟩)
    else if n = 0xE0 then ([], some ⟨2, 0xA0, 0xBF, 0⟩)
    else if n = 0xED then ([], some ⟨2, 0x80, 0x9F, 0xD⟩)
    else if n < 0xF0 then ([], some ⟨2, 0x80, 0xBF, n - 0xE0⟩)
    else if n = 0xF0 then ([], some ⟨3, 0x90, 0xBF, 0⟩)
    else if n < 0xF4 then ([], some ⟨3, 0x80, 0xBF, n - 0xF0⟩)
    else if n = 0xF4 then ([], some ⟨3, 0x80, 0x8F, 4⟩)
    else ([none], none) := by
  simp only [start, UInt8.lt_iff_toNat_lt, ← UInt8.toNat_inj, toNat_ofNat_of_lt h,
    UInt8.reduceToNat]

/-- An octet that is due and not the last one. -/
theorem scan_inner {d n k m : Nat} {low high : UInt8} (lo : low.toNat ≤ n) (hi : n ≤ high.toNat)
    (code : k * 64 + (n - 0x80) = m) (found : List (Option Char)) (bs : Octets) :
    scan (some ⟨d + 2, low, high, k⟩) found (UInt8.ofNat n :: bs) =
      scan (some ⟨d + 1, 0x80, 0xBF, m⟩) found bs := by
  have hn : (UInt8.ofNat n).toNat = n :=
    toNat_ofNat_of_lt (Nat.lt_of_le_of_lt hi high.toNat_lt)
  have hd : ¬ d + 2 ≤ 1 := by omega
  simp [scan, feed, UInt8.le_iff_toNat_le, hn, lo, hi, hd, code]

/-- The last octet that is due. -/
theorem scan_last {n k m : Nat} {low high : UInt8} (lo : low.toNat ≤ n) (hi : n ≤ high.toNat)
    (code : k * 64 + (n - 0x80) = m) (found : List (Option Char)) (bs : Octets) :
    scan (some ⟨1, low, high, k⟩) found (UInt8.ofNat n :: bs) =
      scan none (some (Char.ofNat m) :: found) bs := by
  have hn : (UInt8.ofNat n).toNat = n :=
    toNat_ofNat_of_lt (Nat.lt_of_le_of_lt hi high.toNat_lt)
  simp [scan, feed, UInt8.le_iff_toNat_le, hn, lo, hi, code]

/-! ## 2. One character -/

/-- An octet that begins a character of more than one octet. -/
theorem scan_start {n : Nat} {p : Partial} (h : start (UInt8.ofNat n) = ([], some p))
    (found : List (Option Char)) (bs : Octets) :
    scan none found (UInt8.ofNat n :: bs) = scan (some p) found bs := by
  simp [scan, feed, h]

/-- Two octets after the first. -/
theorem scan_two {k v : Nat} {low high : UInt8} (lo : low.toNat ≤ v / 64 % 64 + 128)
    (hi : v / 64 % 64 + 128 ≤ high.toNat) (code : v / 4096 = k) (found : List (Option Char))
    (bs : Octets) :
    scan (some ⟨2, low, high, k⟩) found
        (UInt8.ofNat (v / 64 % 64 + 128) :: UInt8.ofNat (v % 64 + 128) :: bs) =
      scan none (some (Char.ofNat v) :: found) bs := by
  rw [scan_inner (d := 0) (m := v / 64) lo hi (by omega),
    scan_last (m := v) (by simp) (by simp; omega) (by omega)]

/-- Three octets after the first. -/
theorem scan_three {k v : Nat} {low high : UInt8} (lo : low.toNat ≤ v / 4096 % 64 + 128)
    (hi : v / 4096 % 64 + 128 ≤ high.toNat) (code : v / 262144 = k) (found : List (Option Char))
    (bs : Octets) :
    scan (some ⟨3, low, high, k⟩) found (UInt8.ofNat (v / 4096 % 64 + 128) ::
        UInt8.ofNat (v / 64 % 64 + 128) :: UInt8.ofNat (v % 64 + 128) :: bs) =
      scan none (some (Char.ofNat v) :: found) bs := by
  rw [scan_inner (d := 1) (m := v / 4096) lo hi (by omega),
    scan_two (by simp) (by simp; omega) rfl]

/-- **A character's octets are read as that character**, in front of anything. -/
theorem scan_utf8EncodeChar (c : Char) (found : List (Option Char)) (bs : Octets) :
    scan none found (String.utf8EncodeChar c ++ bs) = scan none (some c :: found) bs := by
  have valid : c.val.toNat < 0xD800 ∨ (0xDFFF < c.val.toNat ∧ c.val.toNat < 0x110000) := c.valid
  have same : Char.ofNat c.val.toNat = c := Char.ofNat_toNat c
  unfold String.utf8EncodeChar
  generalize c.val.toNat = v at valid same
  dsimp only
  split
  · have first := start_ofNat (n := v) (by omega)
    rw [if_pos (by omega)] at first
    simp [scan, feed, first, same]
  split
  · have first := start_ofNat (n := v / 64 % 32 + 192) (by omega)
    rw [if_neg (by omega), if_neg (by omega), if_pos (by omega)] at first
    rw [List.cons_append, List.cons_append, List.nil_append, scan_start first,
      scan_last (m := v) (by simp) (by simp; omega) (by omega), same]
  split
  · have first := start_ofNat (n := v / 4096 % 16 + 224) (by omega)
    rw [if_neg (by omega), if_neg (by omega), if_neg (by omega)] at first
    rw [List.cons_append, List.cons_append, List.cons_append, List.nil_append]
    split at first
    · rw [scan_start first, scan_two (by simp; omega) (by simp; omega) (by omega), same]
    split at first
    · rw [scan_start first, scan_two (by simp) (by simp; omega) (by omega), same]
    · rw [if_pos (by omega)] at first
      rw [scan_start first, scan_two (by simp) (by simp; omega) (by omega), same]
  · have first := start_ofNat (n := v / 262144 % 8 + 240) (by omega)
    rw [if_neg (by omega), if_neg (by omega), if_neg (by omega), if_neg (by omega),
      if_neg (by omega), if_neg (by omega)] at first
    rw [List.cons_append, List.cons_append, List.cons_append, List.cons_append, List.nil_append]
    split at first
    · rw [scan_start first, scan_three (by simp; omega) (by simp; omega) (by omega), same]
    split at first
    · rw [scan_start first, scan_three (by simp) (by simp; omega) (by omega), same]
    · rw [if_pos (by omega)] at first
      rw [scan_start first, scan_three (by simp) (by simp; omega) (by omega), same]

/-! ## 3. Strings -/

/-- Characters in a row, in front of anything. -/
theorem scan_encode (cs : List Char) (found : List (Option Char)) (bs : Octets) :
    scan none found (cs.flatMap String.utf8EncodeChar ++ bs) =
      scan none ((cs.map some).reverse ++ found) bs := by
  induction cs generalizing found with
  | nil => rfl
  | cons c cs ih =>
    rw [List.flatMap_cons, List.append_assoc, scan_utf8EncodeChar, ih]
    simp

/-- The pieces of a string's octets are its characters. -/
theorem pieces_encode (s : String) : pieces (encode s) = s.toList.map some := by
  have := scan_encode s.toList [] []
  simp only [List.append_nil] at this
  simp [pieces, encode, this, scan]

/-- **What is written is read back.** -/
theorem decode?_encode (s : String) : decode? (encode s) = some s := by
  simp [decode?, pieces_encode, List.filterMap_map, Function.comp_def]

/-- Valid octets are read the same with and without tolerance. -/
theorem lossy_encode (s : String) : lossy (encode s) = s := by
  simp [lossy, pieces_encode, Function.comp_def]

end Muxwire.Text.Utf8
