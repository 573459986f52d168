import Muxwire.Proofs.FrameLimits
import Muxwire.Proofs.Response

/-!
# The header of a request, read as a map

The header is put together octet by octet, with the code as one of them. An octet below 128 is a
number by itself. Any other one is a marker, which has its number, if there is one at all, in the
octets behind it.

* `Head.int_of_read_marker` -- the numbers that such a marker can give.
* `natField?_of_marker` -- in a header it does not give its own, since the key of the sync follows.
* `ReadsBack`, `Misread` -- the header is the map of code and sync, and the answer with the two, or
  has not the code.
* **`requestHeader_reads`** -- it is the first for the codes below 128, and the second for all
  others. `requestHeader_misread` is one of these.
-/

namespace Muxwire.Msgpack

/-! ## 1. Numbers behind a marker -/

namespace Head

theorem of_number {w : Width} {head : Nat → Head} {octets rest : Octets} {h : Head}
    (hr : number w head octets = .ok (h, rest)) :
    ∃ m, Octets.readNumber? w.octets octets = some (m, rest) ∧ h = head m := by
  unfold number at hr
  split at hr
  · cases hr
    exact ⟨_, ‹_›, rfl⟩
  · cases hr

/-- **An integer behind a marker is a number of some width**, with a sign or without. -/
theorem int_of_readMarked {k : Nat} {octets rest : Octets} {n : WireInt}
    (h : readMarked k octets = .ok (.int n, rest)) :
    ∃ w m, Octets.readNumber? w.octets octets = some (m, rest)
      ∧ (n = .ofUnsigned w m ∨ n = .ofSigned w m) := by
  unfold readMarked at h
  split at h
  all_goals try cases h
  all_goals
    obtain ⟨m, hm, he⟩ := of_number h
    try simp only [reduceCtorEq] at he
  -- what is left are the markers of integers, four without a sign and four with one
  iterate 4 · exact ⟨_, m, hm, .inl (Head.int.inj he)⟩
  iterate 4 · exact ⟨_, m, hm, .inr (Head.int.inj he)⟩

/-- An integer that an octet from 128 gives is negative, or a number behind it. -/
theorem int_of_read_marker {marker : UInt8} {octets rest : Octets} {n : WireInt}
    (large : 128 ≤ marker) (h : read (marker :: octets) = .ok (.int n, rest)) :
    n.val < 0 ∨ ∃ w m, Octets.readNumber? w.octets octets = some (m, rest)
      ∧ (n = .ofUnsigned w m ∨ n = .ofSigned w m) := by
  have low : ¬ marker.toNat < 0x80 := Nat.not_lt.mpr large
  have high := marker.toNat_lt
  rw [read] at h
  simp only [low, if_false] at h
  split at h
  · cases h
  split at h
  · cases h
  split at h
  · cases h
  split at h
  · exact .inr (int_of_readMarked h)
  · refine .inl ?_
    rw [← Head.int.inj (Prod.mk.inj (Except.ok.inj h)).1]
    simp only [WireInt.ofSigned, Width.octets, Int.bmod_def]
    split <;> omega

end Head

/-- A number that begins with the octet 1 has half of its highest bit clear: it is as great as its
width makes it, and less than half of what the width can hold. -/
theorem readNumber?_one {k m : Nat} {octets rest : Octets}
    (h : Octets.readNumber? (k + 1) (1 :: octets) = some (m, rest)) :
    256 ^ k ≤ m ∧ m < 2 * 256 ^ k := by
  rw [Octets.readNumber?, Octets.splitExact?_eq] at h
  split at h
  · rename_i enough
    cases h
    have length : (octets.take k).length = k := by
      rw [List.length_take]
      exact Nat.min_eq_left (Nat.le_of_succ_le_succ enough)
    have less := Octets.ofBigEndian_lt (octets.take k)
    rw [List.take_succ_cons, Octets.ofBigEndian_cons, length]
    rw [length] at less
    simp only [UInt8.reduceToNat, Nat.one_mul]
    omega
  · cases h

/-- Less than half of what a width can hold is the same with a sign and without. -/
theorem val_of_lt_half {w : Width} {m : Nat} (h : 2 * m < 256 ^ w.octets) :
    (WireInt.ofUnsigned w m).val = m ∧ (WireInt.ofSigned w m).val = m := by
  simp only [WireInt.ofUnsigned, WireInt.ofSigned]
  constructor
  · rw [Nat.mod_eq_of_lt (by omega)]
  · rw [Int.bmod_def, ← Int.natCast_emod, Nat.mod_eq_of_lt (by omega)]
    exact if_pos (by omega)

/-- **An octet from 128 in front of the octet 1 does not give its own number.** -/
theorem val_ne_of_marker {marker : UInt8} {octets rest : Octets} {n : WireInt}
    (large : 128 ≤ marker) (h : Head.read (marker :: 1 :: octets) = .ok (.int n, rest)) :
    n.val ≠ marker.toNat := by
  have low : 128 ≤ marker.toNat := large
  have high := marker.toNat_lt
  rcases Head.int_of_read_marker large h with negative | ⟨w, m, hm, hn⟩
  · omega
  · have apart : m ≠ marker.toNat ∧ 2 * m < 256 ^ w.octets := by
      obtain ⟨k, hk⟩ : ∃ k, w.octets = k + 1 := by cases w <;> exact ⟨_, rfl⟩
      rw [hk] at hm
      have bounds := readNumber?_one hm
      rw [hk]
      -- the number has one octet, and is 1, or it has more, and is above every octet
      cases k with
      | zero => omega
      | succ k =>
        have above : 256 ≤ 256 ^ (k + 1) := Nat.le_pow (Nat.succ_pos k)
        omega
    have vals := val_of_lt_half apart.2
    rcases hn with rfl | rfl
    · rw [vals.1]
      omega
    · rw [vals.2]
      omega

/-! ## 2. Parts of what was read -/

theorem prefix_of_readMany {ε α : Type} {item : Reader ε α} {n : Nat} {found items : List α}
    {octets rest : Octets} (h : readMany item n found octets = .ok (items, rest)) :
    found.reverse <+: items := by
  induction n generalizing found octets with
  | zero =>
    cases h
    exact List.prefix_refl _
  | succ n ih =>
    rw [readMany] at h
    split at h
    · have further := ih h
      rw [List.reverse_cons] at further
      exact (List.prefix_append ..).trans further
    · cases h

/-- The first of several items was read first. -/
theorem first_of_readMany {ε α : Type} {item : Reader ε α} {n : Nat} {items : List α}
    {octets rest : Octets} (h : readMany item (n + 1) [] octets = .ok (items, rest)) :
    ∃ first behind more, item octets = .ok (first, behind) ∧ items = first :: more := by
  rw [readMany] at h
  split at h
  · rename_i first behind hi
    obtain ⟨more, he⟩ := prefix_of_readMany h
    exact ⟨first, behind, more, hi, he.symm⟩
  · cases h

theorem of_readPair {ε α β : Type} {first : Reader ε α} {second : Reader ε β} {a : α} {b : β}
    {octets rest : Octets} (h : readPair first second octets = .ok ((a, b), rest)) :
    ∃ middle, first octets = .ok (a, middle) ∧ second middle = .ok (b, rest) := by
  unfold readPair at h
  split at h
  · cases h
  · split at h
    · cases h
    · cases h
      exact ⟨_, ‹_›, ‹_›⟩

/-- A value that is an integer is read from its head alone. -/
theorem head_of_readWithin_int {b : Nat} {octets rest : Octets} {n : WireInt}
    (h : Value.readWithin (b + 1) octets = .ok (.int n, rest)) :
    Head.read octets = .ok (.int n, rest) := by
  rw [Value.readWithin] at h
  cases hh : Head.read octets with
  | error e =>
    rw [hh] at h
    cases h
  | ok p =>
    obtain ⟨head, behind⟩ := p
    rw [hh] at h
    cases head with
    | int m =>
      cases h
      rfl
    | nil | reserved | bool | f32 | f64 => cases h
    | str k | bin k =>
      simp only [bind, Except.bind] at h
      split at h <;> cases h
    | ext k =>
      simp only [Value.readExtension, bind, Except.bind] at h
      split at h
      · cases h
      split at h
      · cases h
      · split at h <;> cases h
    | array k | map k =>
      cases b with
      | zero => cases h
      | succ inner =>
        simp only [bind, Except.bind] at h
        split at h <;> cases h

end Muxwire.Msgpack

namespace Muxwire.Wire

open Msgpack

/-! ## 3. The map in front of a body -/

/-- Such an octet does not give its own number where a value is due, either. -/
theorem not_isNumber_of_marker {marker : UInt8} {b : Nat} {octets rest : Octets} {v : Value}
    (large : 128 ≤ marker) (h : Value.readWithin (b + 1) (marker :: 1 :: octets) = .ok (v, rest)) :
    ¬ IsNumber v marker.toNat := by
  intro number
  obtain ⟨n, rfl, same⟩ := number
  exact val_ne_of_marker large (head_of_readWithin_int h) same

/-- **A header with such a code is not read as a map with that code**, whatever the body. -/
theorem natField?_of_marker {code : UInt8} {sync : UInt32} {body rest : Octets} {header : Value}
    (large : 128 ≤ code) (h : Value.read (requestHeader code sync ++ body) = .ok (header, rest)) :
    natField? header .code ≠ some code.toNat := by
  change Value.readWithin (1022 + 2) (0x82 :: 0 :: code :: 1 :: lengthMarker ::
    (Octets.bigEndian 4 sync.toNat ++ body)) = _ at h
  have head : Head.read (0x82 :: 0 :: code :: 1 :: lengthMarker ::
      (Octets.bigEndian 4 sync.toNat ++ body))
    = .ok (.map 2, 0 :: code :: 1 :: lengthMarker :: (Octets.bigEndian 4 sync.toNat ++ body)) := rfl
  rw [Value.readWithin, head] at h
  simp only [bind, Except.bind] at h
  split at h
  · cases h
  · rename_i p hp
    cases h
    obtain ⟨entry, behind, more, first, entries⟩ := first_of_readMany hp
    obtain ⟨key, v⟩ := entry
    obtain ⟨middle, hk, hv⟩ := of_readPair first
    cases (readWithin_small (b := 1021) (by decide) _).symm.trans hk
    have other := not_isNumber_of_marker large hv
    have here : First (.map p.1) Key.code.toNat v :=
      ⟨[], _, more, by rw [entries]; rfl, nat?_eq_some_iff.mp (nat?_natValue _), nofun⟩
    intro found
    obtain ⟨v', hfirst, number⟩ := natField?_eq_some_iff.mp found
    rw [hfirst.unique here] at number
    exact other number

/-! ## 4. The answer that a header is -/

namespace Response

/-- **A body is decoded as the response that its two values mean**, and as no other. -/
theorem decode_eq_ok_iff {octets : Octets} {header : Value} {payload : Option Value} {r : Response}
    (hr : readValues octets = .ok (header, payload)) :
    decode octets = .ok r ↔ Means header payload r := by
  rcases ofValues_cases header payload with ⟨code, sync, hc, hs, he⟩ | ⟨lacks, fault, he⟩
  · have means : Means header payload (described header payload code sync) :=
      described_means hc hs
    simp only [decode, hr, he, Except.ok.injEq]
    constructor
    · intro same
      exact same ▸ means
    · exact means.unique
  · simp only [decode, hr, he, reduceCtorEq, false_iff]
    intro means
    obtain ⟨hc, hs⟩ := means.admissible
    exact lacks.elim (fun h => h hc) (fun h => h hs)

theorem readValues_of_decode {octets : Octets} {r : Response} (h : decode octets = .ok r) :
    ∃ header payload, readValues octets = .ok (header, payload) := by
  unfold decode at h
  split at h
  · cases h
  · exact ⟨_, _, ‹_›⟩

/-- The header of the two values is the first value. -/
theorem read_of_readValues {octets : Octets} {header : Value} {payload : Option Value}
    (h : readValues octets = .ok (header, payload)) :
    ∃ rest, Value.read octets = .ok (header, rest) := by
  unfold readValues at h
  cases first : Value.read octets with
  | error e =>
    rw [first] at h
    cases h
  | ok p =>
    obtain ⟨v, rest⟩ := p
    rw [first] at h
    simp only [bind, Except.bind] at h
    split at h
    · cases h
      exact ⟨rest, rfl⟩
    · split at h
      · cases h
      · cases h
        exact ⟨rest, rfl⟩

/-- **The map of a code and a sync, alone, means the two.** The code has no bit for an error. -/
theorem headerValue_means (code : UInt8) (sync : UInt32) :
    Means (headerValue code.toUInt64 sync) none ⟨sync, code.toUInt32, none, none, none⟩ := by
  have header : IsHeader code.toUInt64 sync (headerValue code.toUInt64 sync) := .codeFirst
  have clear : code.toUInt32.toNat.testBit 15 = false := by
    refine Nat.testBit_lt_two_pow ?_
    have := code.toNat_lt
    rw [UInt8.toNat_toUInt32]
    omega
  refine ⟨?code, ?sync, ?schemaVersion, ?failed, ?succeeded⟩
  case code =>
    have code_eq := header.code_eq
    rw [UInt8.toNat_toUInt64, ← UInt8.toNat_toUInt32] at code_eq
    exact natField?_eq_some_iff.mp code_eq
  case sync => exact natField?_eq_some_iff.mp header.sync_eq
  case schemaVersion =>
    intro n
    refine ⟨nofun, fun h => ?_⟩
    have found : natField? _ .schemaVersion = some n.toNat := natField?_eq_some_iff.mpr h
    rw [header.schemaVersion_eq] at found
    cases found
  case failed => exact fun set => absurd (clear.symm.trans set) nofun
  case succeeded =>
    refine fun _ => ⟨rfl, fun v => ⟨nofun, fun h => ?_⟩⟩
    obtain ⟨p, none, -⟩ := h
    cases none

end Response

/-! ## 5. Which headers are read as what they are -/

/-- A header is read as a map of code and sync, and as the answer with the two. -/
structure ReadsBack (code : UInt8) (sync : UInt32) (body : Octets) : Prop where
  /-- The map is the first value of the frame, and the body is what follows it. -/
  map : ∃ frame, build code sync body = .ok frame
    ∧ Value.read (frame.drop 5) = .ok (headerValue code.toUInt64 sync, body)
  /-- The header alone is an answer without an error. -/
  answer : Response.decode (requestHeader code sync)
    = .ok ⟨sync, code.toUInt32, none, none, none⟩

/-- A header is not read as a map with its code, whatever it is read as. -/
structure Misread (code : UInt8) (sync : UInt32) (body : Octets) : Prop where
  map : ∀ frame header rest, build code sync body = .ok frame →
    Value.read (frame.drop 5) = .ok (header, rest) → natField? header .code ≠ some code.toNat
  answer : ∀ r, Response.decode (requestHeader code sync) = .ok r → r.code ≠ code.toUInt32

variable {code : UInt8} {sync : UInt32} {body : Octets}

theorem readsBack_of_small (fits : 9 + body.length ≤ 2 ^ 30) (small : code < 128) :
    ReadsBack code sync body := by
  constructor
  case map =>
    refine ⟨_, build_eq_ok_iff.mpr ⟨fits, rfl⟩, ?_⟩
    rw [drop_frameOf]
    exact read_requestHeader small sync body
  case answer =>
    have values : Response.readValues (requestHeader code sync)
        = .ok (headerValue code.toUInt64 sync, none) := by
      have first := read_requestHeader small sync []
      rw [List.append_nil] at first
      exact Response.readValues_front first
    exact (Response.decode_eq_ok_iff values).mpr (Response.headerValue_means code sync)

theorem misread_of_large (large : 128 ≤ code) : Misread code sync body := by
  constructor
  case map =>
    intro frame header rest built h
    obtain ⟨-, rfl⟩ := build_eq_ok_iff.mp built
    rw [drop_frameOf] at h
    exact natField?_of_marker large h
  case answer =>
    intro r h same
    obtain ⟨header, payload, values⟩ := Response.readValues_of_decode h
    obtain ⟨rest, first⟩ := Response.read_of_readValues values
    rw [← List.append_nil (requestHeader code sync)] at first
    have means := (Response.decode_eq_ok_iff values).mp h
    have found : natField? header .code = some r.code.toNat := natField?_eq_some_iff.mpr means.code
    rw [same, UInt8.toNat_toUInt32] at found
    exact natField?_of_marker large first found

/-- **The header of a request that fits a frame is read as the map of code and sync for the codes
below 128**, and for no other as a map with its code. -/
theorem requestHeader_reads (code : UInt8) (sync : UInt32) (body : Octets)
    (fits : 9 + body.length ≤ 2 ^ 30) :
    (code < 128 ↔ ReadsBack code sync body) ∧ (128 ≤ code ↔ Misread code sync body) := by
  have apart (reads : ReadsBack code sync body) (misread : Misread code sync body) : False :=
    misread.answer _ reads.answer rfl
  refine ⟨⟨readsBack_of_small fits, fun reads => ?_⟩, ⟨misread_of_large, fun misread => ?_⟩⟩
  · exact UInt8.not_le.mp fun large => apart reads (misread_of_large large)
  · exact UInt8.not_lt.mp fun small => apart (readsBack_of_small fits small) misread

/-- The greatest code that is a number by itself, in front of an empty map. -/
theorem requestHeader_reads_127 : 9 + [(0x80 : UInt8)].length ≤ 2 ^ 30
    ∧ Response.decode (requestHeader 127 0xffffffff)
      = .ok ⟨0xffffffff, 127, none, none, none⟩ := by
  have fits : 9 + [(0x80 : UInt8)].length ≤ 2 ^ 30 := by decide
  exact ⟨fits, ((requestHeader_reads 127 0xffffffff [0x80] fits).1.mp (by decide)).answer⟩

/-- **The code 205 is the marker of a number of two octets**, which takes the key of the sync for
its second one: the frame that was built has the code 462 and the sync 5, and two octets of its
header are left in front of the body. -/
theorem requestHeader_misread :
    build 205 0x01050000 [] = .ok [0xce, 0, 0, 0, 9, 0x82, 0, 0xcd, 1, 0xce, 1, 5, 0, 0]
      ∧ Value.read [0x82, 0, 0xcd, 1, 0xce, 1, 5, 0, 0]
        = .ok (.map [(natValue 0, natValue 462), (natValue 1, natValue 5)], [0, 0])
      ∧ Response.decode (requestHeader 205 0x01050000) = .ok ⟨5, 462, none, none, none⟩
      ∧ ¬ ReadsBack 205 0x01050000 [] := by
  have first : Value.read [0x82, 0, 0xcd, 1, 0xce, 1, 5, 0, 0]
      = .ok (.map [(natValue 0, natValue 462), (natValue 1, natValue 5)], [0, 0]) := by
    simp [Value.read, Value.fullBudget, Value.readWithin, Head.read, readMany, readPair, bind,
      Except.bind, pure, Except.pure, Head.readMarked, Head.number, Octets.readNumber?,
      Octets.splitExact?, Octets.splitExactOnto?, Octets.ofBigEndian, Width.octets, natValue]
    decide
  -- the first of the two octets is the payload then, and no map
  have values : Response.readValues (requestHeader 205 0x01050000)
      = .ok (.map [(natValue 0, natValue 462), (natValue 1, natValue 5)], some (natValue 0)) := by
    have second : Value.read [0, 0] = .ok (natValue 0, [0]) := readWithin_small (by decide) [0]
    change Response.readValues [0x82, 0, 0xcd, 1, 0xce, 1, 5, 0, 0] = _
    simp only [Response.readValues, first, second, bind, Except.bind]
    rfl
  have other : Response.decode (requestHeader 205 0x01050000) = .ok ⟨5, 462, none, none, none⟩ := by
    rw [Response.decode, values]
    rfl
  refine ⟨rfl, first, other, fun reads => ?_⟩
  have same := Except.ok.inj (other.symm.trans reads.answer)
  exact absurd (congrArg Response.sync same) (by decide)

end Muxwire.Wire
