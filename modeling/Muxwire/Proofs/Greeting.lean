import Mathlib.Data.List.DropRight
import Muxwire.Proofs.Handshake
import Muxwire.Text.Utf8.RoundTrip

/-!
# What a greeting says

A greeting says a version and a salt with room to spare: the version is padded at its end, and the
text of the salt has fillers anywhere.

* `Greets` -- 128 octets that say a version and a salt; `exists_greets_iff` tells which can be said.
* **`read_greeting`** -- what is said is read, in whatever pieces it comes, and nothing behind it is
  taken. For any 128 octets, a version that is read has no padding at its end, and a salt that is
  read is the one whose text is in the field.
-/

namespace Muxwire.Wire.Greeting

open Client Text

/-! ## 1. Padding -/

/-- The characters that a version line does not end in. -/
def paddingChars : List Char :=
  [Char.ofNat 0, ' ', '\n']

theorem isPadding_iff {c : Char} : isPadding c = true ↔ c ∈ paddingChars := by
  have nul : c.toNat = 0 ↔ c = Char.ofNat 0 := by
    constructor
    · intro h
      rw [← h, Char.ofNat_toNat]
    · rintro rfl
      rfl
  simp [isPadding, paddingChars, nul, or_assoc]

/-- A text that ends in none of them. -/
def Unpadded (t : String) : Prop :=
  ∀ c ∈ t.toList.getLast?, c ∉ paddingChars

/-- Padding at the end is cut off. -/
theorem rdropWhile_append {cs pad : List Char} (h : ∀ c ∈ cs.getLast?, c ∉ paddingChars)
    (hp : ∀ c ∈ pad, c ∈ paddingChars) : (cs ++ pad).rdropWhile isPadding = cs := by
  induction pad using List.reverseRecOn with
  | nil =>
    rw [List.append_nil, List.rdropWhile_eq_self_iff]
    intro some last
    exact h _ (List.getLast?_eq_some_getLast some) (isPadding_iff.mp last)
  | append_singleton pad c ih =>
    obtain ⟨front, last⟩ := List.forall_mem_append.mp hp
    have last : isPadding c = true := isPadding_iff.mpr (last c (List.mem_singleton_self c))
    rw [← List.append_assoc, List.rdropWhile_concat_pos isPadding (cs ++ pad) c last]
    exact ih front

/-- **Trimming is the inverse of padding**: padding at the end is all that it cuts off. -/
theorem trimPadding_eq_iff {s t : String} : trimPadding s = t ↔
    Unpadded t ∧ ∃ pad : List Char, (∀ c ∈ pad, c ∈ paddingChars) ∧ s = t ++ String.ofList pad := by
  constructor
  · rintro rfl
    have text : (trimPadding s).toList = s.toList.rdropWhile isPadding := String.toList_ofList
    refine ⟨?last, s.toList.rtakeWhile isPadding, ?padding, ?whole⟩
    case last =>
      intro c hc
      rw [text] at hc
      obtain ⟨some, rfl⟩ := List.mem_getLast?_eq_getLast hc
      exact fun padding => s.toList.rdropWhile_last_not _ some (isPadding_iff.mpr padding)
    case padding => exact fun c hc => isPadding_iff.mp (List.mem_rtakeWhile_imp hc)
    case whole =>
      apply String.toList_inj.mp
      rw [String.toList_append, String.toList_ofList, text, List.rdropWhile_append_rtakeWhile]
  · rintro ⟨last, pad, padding, rfl⟩
    have cut := rdropWhile_append last padding
    apply String.toList_inj.mp
    rw [← cut, trimPadding, String.toList_ofList, String.toList_append, String.toList_ofList]
    rfl

/-- Padding is written as one octet a character. -/
theorem lossy_append_padding (t : String) {pad : Octets}
    (h : ∀ b ∈ pad, b ∈ ([0, 32, 10] : Octets)) : ∃ cs : List Char, (∀ c ∈ cs, c ∈ paddingChars)
      ∧ Utf8.lossy (Utf8.encode t ++ pad) = t ++ String.ofList cs := by
  have written : ∀ b ∈ ([0, 32, 10] : Octets), Char.ofNat b.toNat ∈ paddingChars
      ∧ String.utf8EncodeChar (Char.ofNat b.toNat) = [b] := by
    simp only [List.forall_mem_cons, List.not_mem_nil, false_imp_iff, implies_true, and_true]
    exact ⟨⟨by decide, rfl⟩, ⟨by decide, rfl⟩, by decide, rfl⟩
  refine ⟨pad.map fun b => Char.ofNat b.toNat, ?padding, ?read⟩
  case padding =>
    exact List.forall_mem_map.mpr fun b hb => (written b (h b hb)).1
  case read =>
    -- the padding is the octets of a text, too, so all of it is one text
    have octets : pad = (pad.map fun b => Char.ofNat b.toNat).flatMap String.utf8EncodeChar := by
      rw [List.flatMap_map]
      calc pad = pad.flatMap fun b => [b] := by rw [List.flatMap_singleton']
        _ = _ := List.flatMap_congr fun b hb => (written b (h b hb)).2.symm
    have whole : Utf8.encode (t ++ String.ofList (pad.map fun b => Char.ofNat b.toNat))
        = Utf8.encode t ++ pad := by
      simp only [Utf8.encode, String.toList_append, String.toList_ofList, List.flatMap_append,
        ← octets]
    rw [← whole, Utf8.lossy_encode]

/-! ## 2. Fillers -/

/-- The octets that may stand anywhere in the field of a salt: NUL and ASCII whitespace. -/
def fillers : Octets :=
  [0, 9, 10, 12, 13, 32]

/-- A field that is a text with fillers put in anywhere. -/
inductive Spaced : Octets → Octets → Prop where
  | nil : Spaced [] []
  /-- The field goes on with the next octet of the text. -/
  | text (b : UInt8) {text field : Octets} (h : Spaced text field) : Spaced (b :: text) (b :: field)
  /-- The field goes on with a filler. -/
  | filler {b : UInt8} {text field : Octets} (put : b ∈ fillers) (h : Spaced text field) :
      Spaced text (b :: field)

/-- A text without fillers is what is left of the field without them. -/
theorem Spaced.filter_eq {text field : Octets} (h : Spaced text field)
    (clean : ∀ b ∈ text, b ∉ fillers) : field.filter (fun b => b ∉ fillers) = text := by
  induction h with
  | nil => rfl
  | text b _ ih =>
    obtain ⟨first, rest⟩ := List.forall_mem_cons.mp clean
    rw [List.filter_cons_of_pos (by simpa using first), ih rest]
  | filler put _ ih =>
    rw [List.filter_cons_of_neg (by simpa using put), ih clean]

/-- Every field is a text without fillers that was spaced out. -/
theorem spaced_filter (field : Octets) : Spaced (field.filter fun b => b ∉ fillers) field := by
  induction field with
  | nil => exact .nil
  | cons b field ih =>
    by_cases put : b ∈ fillers
    · rw [List.filter_cons_of_neg (by simpa using put)]
      exact .filler put ih
    · rw [List.filter_cons_of_pos (by simpa using put)]
      exact .text b ih

theorem Spaced.length_le {text field : Octets} (h : Spaced text field) :
    text.length ≤ field.length := by
  induction h with
  | nil => exact Nat.le_refl 0
  | text b _ ih => exact Nat.succ_le_succ ih
  | filler _ _ ih => exact Nat.le_succ_of_le ih

theorem spaced_append_fillers (text : Octets) (n : Nat) :
    Spaced text (text ++ List.replicate n 32) := by
  induction text with
  | nil =>
    induction n with
    | zero => exact .nil
    | succ n ih => exact .filler (by decide) ih
  | cons b text ih => exact .text b ih

theorem symbol_notMem_fillers (n : Nat) : Base64.symbol n ∉ fillers := by
  by_cases h : n < 64
  · have all : ∀ i : Fin 64, Base64.symbol i.val ∉ fillers := by decide
    exact all ⟨n, h⟩
  · have last : Base64.symbol n = 47 := by
      unfold Base64.symbol
      rw [if_neg (by omega), if_neg (by omega), if_neg (by omega), if_neg (by omega)]
      rfl
    rw [last]
    decide

/-- **No text in base 64 has a filler.** -/
theorem notMem_fillers_of_mem_encode (salt : Octets) :
    ∀ b ∈ Base64.encode salt, b ∉ fillers := by
  have padding : Base64.padding ∉ fillers := by decide
  induction salt using Base64.encode.induct with
  | case1 => exact fun _ h => absurd h List.not_mem_nil
  | case2 a => simp [Base64.encode, symbol_notMem_fillers, padding]
  | case3 a b => simp [Base64.encode, symbol_notMem_fillers, padding]
  | case4 a b c rest ih =>
    simp only [Base64.encode, List.forall_mem_cons, symbol_notMem_fillers, not_false_eq_true,
      true_and]
    exact ih

/-! ## 3. Greetings -/

/-- Octets that greet with a version and a salt. -/
structure Greets (version : String) (salt raw : Octets) : Prop where
  size : raw.length = 128
  /-- The version, which does not end like padding, is padded to 64 octets. -/
  unpadded : Unpadded version
  padded : ∃ pad : Octets, (∀ b ∈ pad, b ∈ ([0, 32, 10] : Octets))
    ∧ raw.take 64 = Utf8.encode version ++ pad
  /-- The text of the salt is filled up to 44 octets. Another 20 follow. -/
  filled : Spaced (Base64.encode salt) ((raw.drop 64).take 44)

/-- **A version and a salt can be said exactly if they fit.** -/
theorem exists_greets_iff {version : String} {salt : Octets} : (∃ raw, Greets version salt raw) ↔
    Unpadded version ∧ (Utf8.encode version).length ≤ 64 ∧ salt.length ≤ 33 := by
  have text : (Base64.encode salt).length = (salt.length + 2) / 3 * 4 := Base64.length_encode salt
  constructor
  · rintro ⟨raw, size, unpadded, ⟨pad, -, front⟩, filled⟩
    have shorter : (Utf8.encode version ++ pad).length ≤ 64 := by
      rw [← front, List.length_take]
      omega
    have fits : (Base64.encode salt).length ≤ 44 := by
      have := filled.length_le
      rw [List.length_take] at this
      omega
    rw [List.length_append] at shorter
    exact ⟨unpadded, by omega, by omega⟩
  · rintro ⟨unpadded, front, fits⟩
    let pad : Octets := List.replicate (64 - (Utf8.encode version).length) 32
    let fill : Octets := List.replicate (44 - (Base64.encode salt).length) 32
    have versionSize : (Utf8.encode version ++ pad).length = 64 := by
      simp only [pad, List.length_append, List.length_replicate]
      omega
    have saltSize : (Base64.encode salt ++ fill).length = 44 := by
      simp only [fill, List.length_append, List.length_replicate]
      omega
    refine ⟨(Utf8.encode version ++ pad) ++ ((Base64.encode salt ++ fill) ++ List.replicate 20 32),
      ?size, unpadded, ⟨pad, ?padding, ?front⟩, ?filled⟩
    case size => rw [List.length_append, versionSize, List.length_append, saltSize]; rfl
    case padding =>
      intro b hb
      rw [List.eq_of_mem_replicate hb]
      decide
    case front => exact List.take_left' versionSize
    case filled =>
      rw [List.drop_left' versionSize, List.take_left' saltSize]
      exact spaced_append_fillers _ _

/-- What is read of 128 octets. -/
structure Reads (raw : Octets) : Prop where
  /-- In front of anything, and in whatever pieces they come, they are taken from the stream, and
  nothing else is. -/
  taken : ∀ (s : Source) rest, s.octets = raw ++ rest →
    ∃ s', read s = (.ok (ofOctets raw), s') ∧ s'.octets = rest ∧ s'.ending = s.ending
  /-- What they say is read. -/
  said : ∀ version salt, Greets version salt raw →
    (ofOctets raw).versionLine = version ∧ (ofOctets raw).decodedSalt = .ok salt
  /-- The version has no padding at its end, and nothing but padding was cut off. -/
  unpadded : Unpadded (ofOctets raw).versionLine
  trimmed : ∃ pad : List Char, (∀ c ∈ pad, c ∈ paddingChars)
    ∧ Utf8.lossy (raw.take 64) = (ofOctets raw).versionLine ++ String.ofList pad
  /-- A salt is read exactly if its text is what the field is without its fillers. -/
  salt : ∀ salt, (ofOctets raw).decodedSalt = .ok salt ↔ Base64.encode salt = saltText raw
  spaced : Spaced (saltText raw) ((raw.drop 64).take 44)
  /-- Fields that differ in more than fillers are never read as the same salt. -/
  injective : ∀ (raw' : Octets) salt, raw'.length = 128 → (ofOctets raw).decodedSalt = .ok salt →
    (ofOctets raw').decodedSalt = .ok salt → saltText raw = saltText raw'

theorem decodedSalt_eq_ok_iff {raw salt : Octets} (size : raw.length = 128) :
    (ofOctets raw).decodedSalt = .ok salt ↔ Base64.encode salt = saltText raw := by
  have field := decodedSalt_ofOctets raw
  rw [← size, List.take_length] at field
  rw [field, eq_comm (a := Base64.encode salt), ← Base64.decode_eq_ok_iff]
  cases Base64.decode (saltText raw) <;> simp [Except.mapError]

/-- **What a greeting says is read as it was said, and whatever is read was said that way.** -/
theorem read_greeting {raw : Octets} (size : raw.length = 128) : Reads raw := by
  have trimmed := trimPadding_eq_iff.mp (rfl : trimPadding (Utf8.lossy (raw.take 64)) = _)
  have decoded (salt : Octets) := @decodedSalt_eq_ok_iff raw salt size
  refine ⟨?taken, ?said, trimmed.1, trimmed.2, decoded, spaced_filter _, ?injective⟩
  case taken =>
    intro s rest octets
    have long : 128 ≤ s.octets.length := by
      rw [octets, List.length_append]
      omega
    obtain ⟨s', read, left, ending⟩ := read_of_le long
    rw [octets, List.take_left' size] at read
    rw [octets, List.drop_left' size] at left
    exact ⟨s', read, left, ending⟩
  case said =>
    rintro version salt ⟨-, unpadded, ⟨pad, padding, front⟩, filled⟩
    obtain ⟨cs, chars, lossy⟩ := lossy_append_padding version padding
    rw [← front] at lossy
    have text : saltText raw = Base64.encode salt :=
      filled.filter_eq (notMem_fillers_of_mem_encode salt)
    exact ⟨trimPadding_eq_iff.mpr ⟨unpadded, cs, chars, lossy⟩, (decoded salt).mpr text.symm⟩
  case injective =>
    intro raw' salt size' one other
    rw [← (decoded salt).mp one, ← (decodedSalt_eq_ok_iff size').mp other]

/-- A greeting whose salt is broken over two lines. -/
def brokenGreeting : Octets :=
  Utf8.encode "Tarantool 3.0.0" ++ 0 :: (List.replicate 47 32 ++ 10
    :: ([65, 81, 73, 68, 13, 10, 66, 65, 61, 61] ++ List.replicate 54 0))

/-- Two pieces of it are read as what it says, and the octet behind it stays. -/
theorem read_greeting_broken : Greets "Tarantool 3.0.0" [1, 2, 3, 4] brokenGreeting
    ∧ ∃ s', read ⟨[brokenGreeting.take 70, brokenGreeting.drop 70 ++ [206]], .eof⟩
        = (.ok (ofOctets brokenGreeting), s') ∧ s'.octets = [206]
      ∧ (ofOctets brokenGreeting).versionLine = "Tarantool 3.0.0"
      ∧ (ofOctets brokenGreeting).decodedSalt = .ok [1, 2, 3, 4] := by
  have size : brokenGreeting.length = 128 := rfl
  have text : saltText brokenGreeting = Base64.encode [1, 2, 3, 4] := by decide +kernel
  have unpadded : Unpadded "Tarantool 3.0.0" := by
    intro c last
    have last : some '0' = some c := last
    cases last
    decide
  have greets : Greets "Tarantool 3.0.0" [1, 2, 3, 4] brokenGreeting :=
    ⟨size, unpadded, ⟨0 :: (List.replicate 47 32 ++ [10]), by simp, rfl⟩,
      text ▸ spaced_filter ((brokenGreeting.drop 64).take 44)⟩
  have octets : Source.octets ⟨[brokenGreeting.take 70, brokenGreeting.drop 70 ++ [206]], .eof⟩
      = brokenGreeting ++ [206] := by
    simp only [Source.octets, List.flatten_cons, List.flatten_nil, List.append_nil,
      ← List.append_assoc, List.take_append_drop]
  have reads := read_greeting size
  obtain ⟨s', read, left, -⟩ := reads.taken _ [206] octets
  obtain ⟨version, salt⟩ := reads.said _ _ greets
  exact ⟨greets, s', read, left, version, salt⟩

end Muxwire.Wire.Greeting
