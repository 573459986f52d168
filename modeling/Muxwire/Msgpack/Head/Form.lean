import Muxwire.Msgpack.Head

/-!
# Every form of a head

The format leaves a writer the choice of the width of a number or a length, and of the sign under
which a non-negative integer goes.

* `Head.Form h octets` -- the octets are a form of the head.
* **`Head.Form.read`** -- every form of a head is read as that head, in front of anything.
* `Head.form_write` -- the shortest form is one of them. The one condition is that the format can
  express the head (`Head.Fits`): a length has at most four octets.
-/

namespace Muxwire.Msgpack

/-! ## 1. Forms -/

/-- The marker of an unsigned number. -/
def unsignedMarker : Width → UInt8
  | .one => 0xcc
  | .two => 0xcd
  | .four => 0xce
  | .eight => 0xcf

/-- The marker of a number in two's complement. -/
def signedMarker : Width → UInt8
  | .one => 0xd0
  | .two => 0xd1
  | .four => 0xd2
  | .eight => 0xd3

/-- The marker announces a length of this kind in that many octets. -/
inductive Announces : UInt8 → Width → (Nat → Head) → Prop where
  | bin8 : Announces 0xc4 .one .bin
  | bin16 : Announces 0xc5 .two .bin
  | bin32 : Announces 0xc6 .four .bin
  | ext8 : Announces 0xc7 .one .ext
  | ext16 : Announces 0xc8 .two .ext
  | ext32 : Announces 0xc9 .four .ext
  | str8 : Announces 0xd9 .one .str
  | str16 : Announces 0xda .two .str
  | str32 : Announces 0xdb .four .str
  | array16 : Announces 0xdc .two .array
  | array32 : Announces 0xdd .four .array
  | map16 : Announces 0xde .two .map
  | map32 : Announces 0xdf .four .map

/-- The octet is the marker of an extension of this fixed length. -/
inductive FixedExt : UInt8 → Nat → Prop where
  | one : FixedExt 0xd4 1
  | two : FixedExt 0xd5 2
  | four : FixedExt 0xd6 4
  | eight : FixedExt 0xd7 8
  | sixteen : FixedExt 0xd8 16

namespace Head

/-- The lengths that a head can announce are below 2^32. -/
def Fits : Head → Prop
  | .str n | .bin n | .array n | .map n | .ext n => n < 2 ^ 32
  | _ => True

/-- The octets are a form of the head. The reserved head has none. -/
inductive Form : Head → Octets → Prop where
  | nil : Form .nil [0xc0]
  | no : Form (.bool false) [0xc2]
  | yes : Form (.bool true) [0xc3]
  | fixPositive {n : WireInt} (low : 0 ≤ n.val) (high : n.val < 0x80) :
      Form (.int n) [UInt8.ofNat n.val.toNat]
  | fixNegative {n : WireInt} (low : -0x20 ≤ n.val) (high : n.val < 0) :
      Form (.int n) [UInt8.ofNat (n.val + 0x100).toNat]
  | unsigned {n : WireInt} (w : Width) (low : 0 ≤ n.val) (high : n.val < 256 ^ w.octets) :
      Form (.int n) (withNumber (unsignedMarker w) w.octets n.val.toNat)
  /-- Two's complement: a number of this form may be positive, too. -/
  | signed {n : WireInt} (w : Width) (low : -256 ^ w.octets ≤ 2 * n.val)
      (high : 2 * n.val < 256 ^ w.octets) :
      Form (.int n) (withNumber (signedMarker w) w.octets (n.val % 256 ^ w.octets).toNat)
  | f32 (word : UInt32) : Form (.f32 word) (withNumber 0xca 4 word.toNat)
  | f64 (word : UInt64) : Form (.f64 word) (withNumber 0xcb 8 word.toNat)
  | fixStr {n : Nat} (h : n < 32) : Form (.str n) [UInt8.ofNat (0xa0 + n)]
  | fixArray {n : Nat} (h : n < 16) : Form (.array n) [UInt8.ofNat (0x90 + n)]
  | fixMap {n : Nat} (h : n < 16) : Form (.map n) [UInt8.ofNat (0x80 + n)]
  | fixExt {marker : UInt8} {n : Nat} (h : FixedExt marker n) : Form (.ext n) [marker]
  | announced {marker : UInt8} {w : Width} {head : Nat → Head} {n : Nat}
      (h : Announces marker w head) (fits : n < 256 ^ w.octets) :
      Form (head n) (withNumber marker w.octets n)

/-! ## 2. One marker -/

/-- A marker from `c0` to `df` is read by its place among them. -/
theorem read_marker {k : Nat} (h : k < 32) (rest : Octets) :
    read (UInt8.ofNat (0xc0 + k) :: rest) = readMarked k rest := by
  have hb : (UInt8.ofNat (0xc0 + k)).toNat = 0xc0 + k := by
    rw [UInt8.toNat_ofNat']
    omega
  simp only [read, hb]
  rw [if_neg (by omega), if_neg (by omega), if_neg (by omega), if_neg (by omega),
    if_pos (by omega), Nat.add_sub_cancel_left]

/-- A number behind the marker that asks for it is read back. -/
theorem read_withNumber {k : Nat} {w : Width} {n : Nat} {head : Nat → Head} (hk : k < 32)
    (hm : readMarked k = number w head) (hn : n < 256 ^ w.octets) (rest : Octets) :
    read (withNumber (UInt8.ofNat (0xc0 + k)) w.octets n ++ rest) = .ok (head n, rest) := by
  rw [withNumber, List.cons_append, read_marker hk, hm]
  simp [number, Octets.readNumber?_bigEndian hn]

/-- The same for a number that stands for an integer. -/
theorem read_unsigned {k : Nat} {w : Width} {n : WireInt} (hk : k < 32)
    (hm : readMarked k = number w fun n => .int (.ofUnsigned w n)) (nonneg : 0 ≤ n.val)
    (fits : n.val.toNat < 256 ^ w.octets) (rest : Octets) :
    read (withNumber (UInt8.ofNat (0xc0 + k)) w.octets n.val.toNat ++ rest)
      = .ok (.int n, rest) := by
  rw [read_withNumber hk hm fits, WireInt.ofUnsigned_toNat nonneg fits]

/-- One octet, read by its range. -/
theorem read_short {base n : Nat} (rest : Octets) (hb : base + n < 0x100) :
    read (UInt8.ofNat (base + n) :: rest) =
      if base + n < 0x80 then .ok (.int (.ofUnsigned .one (base + n)), rest)
      else if base + n < 0x90 then .ok (.map (base + n - 0x80), rest)
      else if base + n < 0xa0 then .ok (.array (base + n - 0x90), rest)
      else if base + n < 0xc0 then .ok (.str (base + n - 0xa0), rest)
      else if base + n < 0xe0 then readMarked (base + n - 0xc0) rest
      else .ok (.int (.ofSigned .one (base + n)), rest) := by
  have : (UInt8.ofNat (base + n)).toNat = base + n := by
    rw [UInt8.toNat_ofNat']
    omega
  simp only [read, this]

/-! ## 3. Read in every form -/

/-- A number in two's complement is read as the integer it stands for. -/
theorem ofSigned_emod {w : Width} {n : WireInt} (low : -256 ^ w.octets ≤ 2 * n.val)
    (high : 2 * n.val < 256 ^ w.octets) :
    WireInt.ofSigned w (n.val % 256 ^ w.octets).toNat = n := by
  apply WireInt.ext
  have pos : (0 : Int) < 256 ^ w.octets := by cases w <;> decide
  have hn : ((n.val % 256 ^ w.octets).toNat : Int) = n.val % 256 ^ w.octets :=
    Int.toNat_of_nonneg (Int.emod_nonneg _ (Int.ne_of_gt pos))
  have hm := Int.emod_bmod n.val (256 ^ w.octets)
  simp only [Int.natCast_pow, Int.cast_ofNat_Int] at hm
  simp only [WireInt.ofSigned, hn, hm]
  apply Int.bmod_eq_of_le <;> cases w <;> simp only [Width.octets] at low high ⊢ <;> omega

/-- A length is read behind each of its markers. -/
theorem read_announced {marker : UInt8} {w : Width} {head : Nat → Head} {n : Nat}
    (h : Announces marker w head) (fits : n < 256 ^ w.octets) (rest : Octets) :
    read (withNumber marker w.octets n ++ rest) = .ok (head n, rest) := by
  cases h with
  | bin8 => exact read_withNumber (k := 4) (by decide) rfl fits rest
  | bin16 => exact read_withNumber (k := 5) (by decide) rfl fits rest
  | bin32 => exact read_withNumber (k := 6) (by decide) rfl fits rest
  | ext8 => exact read_withNumber (k := 7) (by decide) rfl fits rest
  | ext16 => exact read_withNumber (k := 8) (by decide) rfl fits rest
  | ext32 => exact read_withNumber (k := 9) (by decide) rfl fits rest
  | str8 => exact read_withNumber (k := 25) (by decide) rfl fits rest
  | str16 => exact read_withNumber (k := 26) (by decide) rfl fits rest
  | str32 => exact read_withNumber (k := 27) (by decide) rfl fits rest
  | array16 => exact read_withNumber (k := 28) (by decide) rfl fits rest
  | array32 => exact read_withNumber (k := 29) (by decide) rfl fits rest
  | map16 => exact read_withNumber (k := 30) (by decide) rfl fits rest
  | map32 => exact read_withNumber (k := 31) (by decide) rfl fits rest

/-- An unsigned number is read behind the marker of each width that holds it. -/
theorem read_unsignedMarker {w : Width} {n : WireInt} (low : 0 ≤ n.val)
    (high : n.val < 256 ^ w.octets) (rest : Octets) :
    read (withNumber (unsignedMarker w) w.octets n.val.toNat ++ rest) = .ok (.int n, rest) := by
  have fits : n.val.toNat < 256 ^ w.octets := by
    cases w <;> simp only [Width.octets] at high ⊢ <;> omega
  cases w with
  | one => exact read_unsigned (k := 12) (by decide) rfl low fits rest
  | two => exact read_unsigned (k := 13) (by decide) rfl low fits rest
  | four => exact read_unsigned (k := 14) (by decide) rfl low fits rest
  | eight => exact read_unsigned (k := 15) (by decide) rfl low fits rest

/-- A number in two's complement is read behind the marker of each width that holds it. -/
theorem read_signedMarker {w : Width} {n : WireInt} (low : -256 ^ w.octets ≤ 2 * n.val)
    (high : 2 * n.val < 256 ^ w.octets) (rest : Octets) :
    read (withNumber (signedMarker w) w.octets (n.val % 256 ^ w.octets).toNat ++ rest)
      = .ok (.int n, rest) := by
  have fits : (n.val % 256 ^ w.octets).toNat < 256 ^ w.octets := by
    cases w <;> simp only [Width.octets] <;> omega
  have read_at {k : Nat} (hk : k < 32)
      (hm : readMarked k = number w fun n => .int (.ofSigned w n)) :
      read (withNumber (UInt8.ofNat (0xc0 + k)) w.octets (n.val % 256 ^ w.octets).toNat ++ rest)
        = .ok (.int n, rest) := by
    rw [read_withNumber hk hm fits, ofSigned_emod low high]
  cases w with
  | one => exact read_at (k := 16) (by decide) rfl
  | two => exact read_at (k := 17) (by decide) rfl
  | four => exact read_at (k := 18) (by decide) rfl
  | eight => exact read_at (k := 19) (by decide) rfl

/-- **Every form of a head is read as that head, in front of anything.** -/
theorem Form.read {h : Head} {octets : Octets} (form : Form h octets) (rest : Octets) :
    Head.read (octets ++ rest) = .ok (h, rest) := by
  cases form with
  | nil => exact read_marker (k := 0) (by decide) rest
  | no => exact read_marker (k := 2) (by decide) rest
  | yes => exact read_marker (k := 3) (by decide) rest
  | @fixPositive n low high =>
    have fits : n.val.toNat < 256 ^ Width.one.octets := by simp only [Width.octets]; omega
    have small : 0 + n.val.toNat < 0x80 := by omega
    have hr := read_short rest (by omega : 0 + n.val.toNat < 0x100)
    rw [if_pos small, Nat.zero_add, WireInt.ofUnsigned_toNat low fits] at hr
    exact hr
  | @fixNegative n low high =>
    have hs := WireInt.ofSigned_toNat (w := .one) high (by simp only [Width.octets]; omega)
    simp only [Width.octets, Int.reducePow] at hs
    have hr := read_short rest (by omega : 0 + (n.val + 0x100).toNat < 0x100)
    rw [if_neg (by omega), if_neg (by omega), if_neg (by omega), if_neg (by omega),
      if_neg (by omega), Nat.zero_add, hs] at hr
    exact hr
  | unsigned w low high => exact read_unsignedMarker low high rest
  | signed w low high => exact read_signedMarker low high rest
  | f32 word =>
    have hr := read_withNumber (k := 10) (w := .four) (by decide) rfl word.toNat_lt rest
    rw [UInt32.ofNat_toNat] at hr
    exact hr
  | f64 word =>
    have hr := read_withNumber (k := 11) (w := .eight) (by decide) rfl word.toNat_lt rest
    rw [UInt64.ofNat_toNat] at hr
    exact hr
  | fixStr h =>
    rw [List.cons_append, List.nil_append, read_short rest (by omega), if_neg (by omega),
      if_neg (by omega), if_neg (by omega), if_pos (by omega), Nat.add_sub_cancel_left]
  | fixArray h =>
    rw [List.cons_append, List.nil_append, read_short rest (by omega), if_neg (by omega),
      if_neg (by omega), if_pos (by omega), Nat.add_sub_cancel_left]
  | fixMap h =>
    rw [List.cons_append, List.nil_append, read_short rest (by omega), if_neg (by omega),
      if_pos (by omega), Nat.add_sub_cancel_left]
  | fixExt h =>
    cases h with
    | one => exact read_marker (k := 20) (by decide) rest
    | two => exact read_marker (k := 21) (by decide) rest
    | four => exact read_marker (k := 22) (by decide) rest
    | eight => exact read_marker (k := 23) (by decide) rest
    | sixteen => exact read_marker (k := 24) (by decide) rest
  | announced h fits => exact read_announced h fits rest

/-! ## 4. What is written -/

/-- The shortest form of an integer is one of its forms. -/
theorem form_writeInt (n : WireInt) : Form (.int n) (writeInt n.val) := by
  have low := n.low
  have high := n.high
  -- a negative number is taken modulo the width by adding it once
  have wrapped {w : Width} (neg : n.val < 0) (fits : -256 ^ w.octets ≤ 2 * n.val) :
      Form (.int n) (withNumber (signedMarker w) w.octets (n.val + 256 ^ w.octets).toNat) := by
    have he : n.val % 256 ^ w.octets = n.val + 256 ^ w.octets := by
      cases w <;> simp only [Width.octets] at fits ⊢ <;> omega
    have form := Form.signed w fits (by cases w <;> simp only [Width.octets] <;> omega)
    rw [he] at form
    exact form
  unfold writeInt
  by_cases nonneg : 0 ≤ n.val
  · rw [if_pos nonneg]
    dsimp only
    split
    · exact .fixPositive nonneg (by omega)
    split
    · exact .unsigned .one nonneg (by simp only [Width.octets]; omega)
    split
    · exact .unsigned .two nonneg (by simp only [Width.octets]; omega)
    split
    · exact .unsigned .four nonneg (by simp only [Width.octets]; omega)
    · exact .unsigned .eight nonneg (by simp only [Width.octets]; omega)
  · have neg : n.val < 0 := Int.not_le.mp nonneg
    rw [if_neg nonneg]
    split
    · exact .fixNegative ‹_› neg
    split
    · exact wrapped (w := .one) neg (by simp only [Width.octets]; omega)
    split
    · exact wrapped (w := .two) neg (by simp only [Width.octets]; omega)
    split
    · exact wrapped (w := .four) neg (by simp only [Width.octets]; omega)
    · exact wrapped (w := .eight) neg (by simp only [Width.octets]; omega)

/-- The two longer forms of a length are forms of it. -/
theorem form_writeLength {two four : UInt8} {head : Nat → Head} {n : Nat}
    (h2 : Announces two .two head) (h4 : Announces four .four head) (fits : n < 2 ^ 32) :
    Form (head n) (writeLength n two four) := by
  unfold writeLength
  split
  · exact .announced h2 ‹_›
  · exact .announced h4 (by simp only [Width.octets]; omega)

/-- **The shortest form of a head is one of its forms.** -/
theorem form_shortest {h : Head} (fits : h.Fits) (meant : h ≠ .reserved) : Form h h.shortest := by
  cases h with
  | nil => exact .nil
  | reserved => exact absurd rfl meant
  | bool b =>
    cases b
    · exact .no
    · exact .yes
  | int n => exact form_writeInt n
  | f32 word => exact .f32 word
  | f64 word => exact .f64 word
  | str n =>
    simp only [shortest]
    split
    · exact .fixStr ‹_›
    split
    · exact .announced .str8 ‹_›
    · exact form_writeLength .str16 .str32 fits
  | bin n =>
    simp only [shortest]
    split
    · exact .announced .bin8 ‹_›
    · exact form_writeLength .bin16 .bin32 fits
  | array n =>
    simp only [shortest]
    split
    · exact .fixArray ‹_›
    · exact form_writeLength .array16 .array32 fits
  | map n =>
    simp only [shortest]
    split
    · exact .fixMap ‹_›
    · exact form_writeLength .map16 .map32 fits
  | ext n =>
    simp only [shortest]
    split
    · subst n
      exact .fixExt .one
    split
    · subst n
      exact .fixExt .two
    split
    · subst n
      exact .fixExt .four
    split
    · subst n
      exact .fixExt .eight
    split
    · subst n
      exact .fixExt .sixteen
    split
    · exact .announced .ext8 ‹_›
    · exact form_writeLength .ext16 .ext32 fits

/-- A length that a marker can announce is not cut. -/
theorem narrow_of_fits {h : Head} (fits : h.Fits) : h.narrow = h := by
  cases h with
  | str n | bin n | array n | map n | ext n => exact congrArg _ (Nat.mod_eq_of_lt fits)
  | _ => rfl

/-- **A head that a marker can announce goes out in one of its forms.** -/
theorem form_write {h : Head} (fits : h.Fits) (meant : h ≠ .reserved) : Form h h.write := by
  rw [write, narrow_of_fits fits]
  exact form_shortest fits meant

/-- **A head is read back from what is written of it, in front of anything.** -/
theorem read_write {h : Head} (fits : h.Fits) (rest : Octets) :
    read (h.write ++ rest) = .ok (h, rest) := by
  by_cases meant : h = .reserved
  · subst meant
    exact read_marker (k := 1) (by decide) rest
  · exact (form_write fits meant).read rest

end Head

end Muxwire.Msgpack
