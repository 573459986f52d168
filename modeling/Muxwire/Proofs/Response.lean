import Mathlib.Data.Nat.Bitwise
import Muxwire.Msgpack.Form
import Muxwire.Proofs.Headers
import Muxwire.Text.Utf8.Valid

/-!
# What a response says

A response is told by what the two values of its body mean, whatever the form in which they were
written.

* `First m k v` -- of the entries of the map `m` whose key is the number `k`, the first has the
  value `v`; `lookup?_eq_some_iff` finds exactly this one.
* `IsBody header payload body` -- the body is a header in any form, alone or with a payload in any
  form and whatever follows it.
* `Means header payload r` -- the response says what header and payload say. `Means.unique`: one
  response at most does.
* **`Response.decode_decodesAs`** -- every body is decoded as the response that it means, or, if
  its header has no admissible code or no admissible sync, is an error of the protocol.
-/

namespace Muxwire.Wire

open Msgpack

/-! ## 1. Entries of a map -/

/-- The value is this non-negative integer. -/
def IsNumber (v : Value) (n : Nat) : Prop :=
  ∃ w : WireInt, v = .int w ∧ w.val = n

/-- The first entry of the map under the key has this value. -/
def First (m : Value) (key : Nat) (v : Value) : Prop :=
  ∃ before k after, m = .map (before ++ (k, v) :: after) ∧ IsNumber k key
    ∧ ∀ entry ∈ before, ¬ IsNumber entry.1 key

/-- The first entry of the map under the key is this non-negative integer. -/
def NumberAt (m : Value) (key n : Nat) : Prop :=
  ∃ v, First m key v ∧ IsNumber v n

/-- There is a payload, and it has this value first under the key. -/
def FirstOf (payload : Option Value) (key : Nat) (v : Value) : Prop :=
  ∃ p, payload = some p ∧ First p key v

theorem nat?_eq_some_iff {v : Value} {n : Nat} : v.nat? = some n ↔ IsNumber v n := by
  constructor
  · intro h
    cases v with
    | int w =>
      simp only [Value.nat?, WireInt.toNat?] at h
      split at h
      · cases h
        exact ⟨w, rfl, (Int.toNat_of_nonneg ‹_›).symm⟩
      · cases h
    | _ => cases h
  · rintro ⟨w, rfl, hw⟩
    rw [Value.nat?, WireInt.toNat?, hw, if_pos (Int.natCast_nonneg n), Int.toNat_natCast]

/-- **A lookup finds the first entry.** -/
theorem lookup?_eq_some_iff {m v : Value} {key : Nat} : m.lookup? key = some v ↔ First m key v := by
  have matched (k : Value) : (k.nat? == some key) = true ↔ IsNumber k key := by
    rw [beq_iff_eq, nat?_eq_some_iff]
  have passed (k : Value) : (!(k.nat? == some key)) = true ↔ ¬ IsNumber k key := by
    rw [Bool.not_eq_true', ← Bool.not_eq_true, matched]
  constructor
  · intro h
    cases m with
    | map entries =>
      obtain ⟨⟨k, v'⟩, hfind, hv⟩ := Option.bind_eq_some_iff.mp h
      cases hv
      obtain ⟨hk, before, after, rfl, hbefore⟩ := List.find?_eq_some_iff_append.mp hfind
      exact ⟨before, k, after, rfl, (matched k).mp hk,
        fun entry he => (passed entry.1).mp (hbefore entry he)⟩
    | _ => cases h
  · rintro ⟨before, k, after, rfl, hk, hbefore⟩
    have hfind : (before ++ (k, v) :: after).find? (fun entry => entry.1.nat? == some key)
        = some (k, v) :=
      List.find?_eq_some_iff_append.mpr ⟨(matched k).mpr hk, before, after, rfl,
        fun entry he => (passed entry.1).mpr (hbefore entry he)⟩
    exact Option.bind_eq_some_iff.mpr ⟨(k, v), hfind, rfl⟩

/-- There is one first entry at most. -/
theorem First.unique {m v v' : Value} {key : Nat} (h : First m key v) (h' : First m key v') :
    v = v' :=
  Option.some.inj ((lookup?_eq_some_iff.mpr h).symm.trans (lookup?_eq_some_iff.mpr h'))

theorem natField?_eq_some_iff {m : Value} {key : Key} {n : Nat} :
    natField? m key = some n ↔ NumberAt m key.toNat n := by
  simp only [natField?, field?, Option.bind_eq_some_iff, lookup?_eq_some_iff, nat?_eq_some_iff,
    NumberAt]

theorem NumberAt.unique {m : Value} {key n n' : Nat} (h : NumberAt m key n)
    (h' : NumberAt m key n') : n = n' := by
  obtain ⟨v, hv, hn⟩ := h
  obtain ⟨v', hv', hn'⟩ := h'
  obtain rfl := hv.unique hv'
  exact Option.some.inj ((nat?_eq_some_iff.mpr hn).symm.trans (nat?_eq_some_iff.mpr hn'))

/-- A number of the format has 64 bits. -/
theorem NumberAt.lt {m : Value} {key n : Nat} (h : NumberAt m key n) : n < 2 ^ 64 := by
  obtain ⟨-, -, w, -, hw⟩ := h
  have high := w.high
  omega

theorem firstOf_iff {payload : Option Value} {key : Key} {v : Value} :
    payload.bind (field? · key) = some v ↔ FirstOf payload key.toNat v := by
  simp only [field?, Option.bind_eq_some_iff, lookup?_eq_some_iff, FirstOf]

theorem text?_eq_some_iff {v : Value} {s : String} : v.text? = some s ↔ v = Value.text s := by
  constructor
  · intro h
    cases v with
    | str octets => rw [Value.text, Text.Utf8.decode?_eq_some_iff.mp h]
    | _ => cases h
  · rintro rfl
    exact Value.text?_text s

/-! ## 2. The error bit -/

/-- The bit of an error in a code is bit 15. -/
theorem toNat_and_errorFlag (code : UInt32) :
    (code &&& errorFlag).toNat = (code.toNat.testBit 15).toNat * 2 ^ 15 := by
  have flag : errorFlag.toNat = 2 ^ 15 := rfl
  rw [UInt32.toNat_and, flag, Nat.and_two_pow]

theorem and_errorFlag_ne_zero {code : UInt32} :
    code &&& errorFlag ≠ 0 ↔ code.toNat.testBit 15 = true := by
  rw [Ne, ← UInt32.toNat_inj, toNat_and_errorFlag]
  cases code.toNat.testBit 15 <;> decide

/-- A code that has it is greater by it than the code without. -/
theorem toNat_and_not_errorFlag {code : UInt32} (h : code.toNat.testBit 15 = true) :
    (code &&& ~~~errorFlag).toNat + 2 ^ 15 = code.toNat := by
  have bit : (code &&& errorFlag).toNat = 2 ^ 15 := by
    rw [toNat_and_errorFlag, h]
    rfl
  -- the two parts of the code have no bit in common, so that their sum is the code
  have apart : (code.toBitVec &&& ~~~errorFlag.toBitVec) &&& (code.toBitVec &&& errorFlag.toBitVec)
      = 0#32 := by
    ext i
    rw [BitVec.getElem_and, BitVec.getElem_and, BitVec.getElem_and, BitVec.getElem_not,
      BitVec.getElem_zero]
    cases code.toBitVec[i] <;> cases errorFlag.toBitVec[i] <;> rfl
  have whole : (code.toBitVec &&& ~~~errorFlag.toBitVec) + (code.toBitVec &&& errorFlag.toBitVec)
      = code.toBitVec := by
    rw [BitVec.add_eq_or_of_and_eq_zero _ _ apart]
    ext i
    rw [BitVec.getElem_or, BitVec.getElem_and, BitVec.getElem_and, BitVec.getElem_not]
    cases code.toBitVec[i] <;> cases errorFlag.toBitVec[i] <;> rfl
  have sum := BitVec.toNat_add_of_and_eq_zero apart
  rw [whole] at sum
  rw [← bit]
  exact sum.symm

/-! ## 3. The meaning of a response -/

/-- What is told of an error: the text that the payload has for it, or that there is none. -/
inductive Message (payload : Option Value) : String → Prop where
  | said {s : String} (h : FirstOf payload 0x31 (Value.text s)) : Message payload s
  | unsaid (h : ∀ s, ¬ FirstOf payload 0x31 (Value.text s)) : Message payload "unknown error"

/-- The response says what its header and its payload say. -/
structure Means (header : Value) (payload : Option Value) (r : Response) : Prop where
  code : NumberAt header 0x00 r.code.toNat
  sync : NumberAt header 0x01 r.sync.toNat
  schemaVersion : ∀ n : UInt64, r.schemaVersion = some n ↔ NumberAt header 0x05 n.toNat
  failed : r.code.toNat.testBit 15 = true → r.data = none
    ∧ ∃ e, r.error = some e ∧ e.code.toNat + 2 ^ 15 = r.code.toNat ∧ Message payload e.message
  succeeded : r.code.toNat.testBit 15 = false → r.error = none
    ∧ ∀ v, r.data = some v ↔ FirstOf payload 0x30 v

theorem Message.iff {payload : Option Value} {s : String} :
    Message payload s
      ↔ ((payload.bind (field? · .error)).bind Value.text?).getD Response.unknownError = s := by
  have found (t : String) : (payload.bind (field? · .error)).bind Value.text? = some t
      ↔ FirstOf payload 0x31 (Value.text t) := by
    rw [Option.bind_eq_some_iff]
    constructor
    · rintro ⟨v, hv, ht⟩
      obtain rfl := text?_eq_some_iff.mp ht
      exact firstOf_iff.mp hv
    · exact fun h => ⟨_, firstOf_iff.mpr h, Value.text?_text t⟩
  cases hm : (payload.bind (field? · .error)).bind Value.text? with
  | none =>
    have unsaid (t : String) : ¬ FirstOf payload 0x31 (Value.text t) := by
      intro h
      rw [(found t).mpr h] at hm
      cases hm
    constructor
    · intro h
      cases h with
      | said h => exact absurd h (unsaid s)
      | unsaid => rfl
    · rintro rfl
      exact .unsaid unsaid
  | some t =>
    have said := (found t).mp hm
    constructor
    · intro h
      cases h with
      | said h =>
        rw [(found s).mpr h] at hm
        exact (Option.some.inj hm).symm
      | unsaid h => exact absurd said (h t)
    · rintro rfl
      exact .said said

/-- **One response at most says what a header and a payload say.** -/
theorem Means.unique {header : Value} {payload : Option Value} {r r' : Response}
    (h : Means header payload r) (h' : Means header payload r') : r = r' := by
  have code : r.code = r'.code :=
    UInt32.toNat_inj.mp (h.code.unique h'.code)
  have sync : r.sync = r'.sync :=
    UInt32.toNat_inj.mp (h.sync.unique h'.sync)
  have schemaVersion : r.schemaVersion = r'.schemaVersion :=
    Option.ext fun n => (h.schemaVersion n).trans (h'.schemaVersion n).symm
  have rest : r.data = r'.data ∧ r.error = r'.error := by
    cases bit : r.code.toNat.testBit 15 with
    | true =>
      obtain ⟨hd, e, he, hc, hm⟩ := h.failed bit
      obtain ⟨hd', e', he', hc', hm'⟩ := h'.failed (code ▸ bit)
      have same : e = e' := by
        cases e
        cases e'
        dsimp only at hc hc' hm hm'
        rw [← code] at hc'
        rw [ServerError.mk.injEq]
        exact ⟨UInt32.toNat_inj.mp (Nat.add_right_cancel (hc.trans hc'.symm)),
          (Message.iff.mp hm).symm.trans (Message.iff.mp hm')⟩
      rw [hd, hd', he, he', same]
      exact ⟨rfl, rfl⟩
    | false =>
      obtain ⟨he, hd⟩ := h.succeeded bit
      obtain ⟨he', hd'⟩ := h'.succeeded (code ▸ bit)
      exact ⟨Option.ext fun v => (hd v).trans (hd' v).symm, he.trans he'.symm⟩
  cases r
  cases r'
  rw [Response.mk.injEq]
  exact ⟨sync, code, schemaVersion, rest.1, rest.2⟩

/-! ## 4. Decoding -/

/-- The body is a header, alone or with a payload and whatever follows it. -/
inductive IsBody (header : Value) : Option Value → Octets → Prop where
  | bare {front : Octets} (h : header.Form front) : IsBody header none front
  | full {payload : Value} {front octets trailing : Octets} (h : header.Form front)
      (hp : payload.Form octets) : IsBody header (some payload) (front ++ (octets ++ trailing))

/-- The header has an admissible number under the key. -/
def Admissible (header : Value) (key : Nat) : Prop :=
  ∃ n, n < 2 ^ 32 ∧ NumberAt header key n

/-- Only a header with an admissible code and an admissible sync has a meaning. -/
theorem Means.admissible {header : Value} {payload : Option Value} {r : Response}
    (h : Means header payload r) : Admissible header 0x00 ∧ Admissible header 0x01 :=
  ⟨⟨_, r.code.toNat_lt, h.code⟩, ⟨_, r.sync.toNat_lt, h.sync⟩⟩

/-- What decoding comes to: the response that header and payload mean, or an error of the
protocol. -/
structure DecodesAs (header : Value) (payload : Option Value) (result : Except Error Response) :
    Prop where
  ok_iff : ∀ r, result = .ok r ↔ Means header payload r
  protocol_iff : (∃ text, result = .error (.protocol text))
    ↔ ¬ Admissible header 0x00 ∨ ¬ Admissible header 0x01
  total : (∃ r, result = .ok r) ∨ ∃ text, result = .error (.protocol text)

namespace Response

/-- The response with this code and this sync that header and payload mean. -/
def described (header : Value) (payload : Option Value) (code sync : UInt32) : Response :=
  let schemaVersion := (natField? header .schemaVersion).map UInt64.ofNat
  if code &&& errorFlag ≠ 0 then
    let message := (payload.bind (field? · .error)).bind Value.text?
    { sync, code, schemaVersion, data := none
      error := some ⟨code &&& ~~~errorFlag, message.getD unknownError⟩ }
  else
    { sync, code, schemaVersion, data := payload.bind (field? · .data), error := none }

theorem schemaVersion_iff {header : Value} {n : UInt64} :
    (natField? header .schemaVersion).map UInt64.ofNat = some n
      ↔ NumberAt header 0x05 n.toNat := by
  constructor
  · intro h
    obtain ⟨k, hk, rfl⟩ := Option.map_eq_some_iff.mp h
    have hn := natField?_eq_some_iff.mp hk
    rw [UInt64.toNat_ofNat_of_lt' hn.lt]
    exact hn
  · intro h
    have hk : natField? header .schemaVersion = some n.toNat := natField?_eq_some_iff.mpr h
    rw [hk, Option.map_some, UInt64.ofNat_toNat]

/-- It says what header and payload say, if code and sync are theirs. -/
theorem described_means {header : Value} {payload : Option Value} {code sync : UInt32}
    (hc : NumberAt header 0x00 code.toNat) (hs : NumberAt header 0x01 sync.toNat) :
    Means header payload (described header payload code sync) := by
  unfold described
  by_cases bit : code.toNat.testBit 15 = true
  · rw [if_pos (and_errorFlag_ne_zero.mpr bit)]
    refine ⟨hc, hs, fun n => schemaVersion_iff, ?_, ?_⟩
    · intro _
      exact ⟨rfl, _, rfl, toNat_and_not_errorFlag bit, Message.iff.mpr rfl⟩
    · intro clear
      exact absurd (bit.symm.trans clear) nofun
  · rw [if_neg (fun h => bit (and_errorFlag_ne_zero.mp h))]
    refine ⟨hc, hs, fun n => schemaVersion_iff, ?_, ?_⟩
    · exact fun set => absurd set bit
    · exact fun _ => ⟨rfl, fun v => firstOf_iff⟩

/-- Values are a response exactly if the header has an admissible code and an admissible sync. -/
theorem ofValues_cases (header : Value) (payload : Option Value) :
    (∃ code sync : UInt32, NumberAt header 0x00 code.toNat ∧ NumberAt header 0x01 sync.toNat
        ∧ ofValues header payload = .ok (described header payload code sync))
      ∨ ((¬ Admissible header 0x00 ∨ ¬ Admissible header 0x01)
        ∧ ∃ fault, ofValues header payload = .error fault) := by
  have missing {key : Key} (h : natField? header key = none) : ¬ Admissible header key.toNat := by
    rintro ⟨n, -, hn⟩
    rw [natField?_eq_some_iff.mpr hn] at h
    cases h
  have outOfRange {key : Key} {n : Nat} (h : natField? header key = some n) (hn : 2 ^ 32 ≤ n) :
      ¬ Admissible header key.toNat := by
    rintro ⟨n', lt, hn'⟩
    have same := (natField?_eq_some_iff.mp h).unique hn'
    omega
  have word {key : Key} {n : Nat} (h : natField? header key = some n) (hn : ¬ 2 ^ 32 ≤ n) :
      NumberAt header key.toNat (UInt32.ofNat n).toNat := by
    rw [UInt32.toNat_ofNat_of_lt' (Nat.not_le.mp hn)]
    exact natField?_eq_some_iff.mp h
  -- the four faults in the order in which they are looked for
  cases hc : natField? header .code with
  | none =>
    refine .inr ⟨.inl (missing hc), .noCode, ?_⟩
    rw [ofValues, hc]
  | some code =>
    cases hs : natField? header .sync with
    | none =>
      refine .inr ⟨.inr (missing hs), .noSync, ?_⟩
      rw [ofValues, hc, hs]
    | some sync =>
      by_cases syncLong : 2 ^ 32 ≤ sync
      · refine .inr ⟨.inr (outOfRange hs syncLong), .syncOutOfRange sync, ?_⟩
        simp only [ofValues, hc, hs, syncLong, if_true]
        rfl
      by_cases codeLong : 2 ^ 32 ≤ code
      · refine .inr ⟨.inl (outOfRange hc codeLong), .codeOutOfRange code, ?_⟩
        simp only [ofValues, hc, hs, syncLong, codeLong, if_true, if_false]
        rfl
      refine .inl ⟨UInt32.ofNat code, UInt32.ofNat sync, word hc codeLong, word hs syncLong, ?_⟩
      simp only [ofValues, hc, hs, syncLong, codeLong, if_false, described]
      split <;> rfl

/-- The values of a body are read, whatever their form. -/
theorem readValues_eq {header : Value} {payload : Option Value} {body : Octets}
    (form : IsBody header payload body) (hh : header.need ≤ Value.fullBudget)
    (hp : ∀ p, payload = some p → p.need ≤ Value.fullBudget) :
    readValues body = .ok (header, payload) := by
  cases form with
  | bare h =>
    have hread := h.read hh []
    rw [List.append_nil] at hread
    exact readValues_front hread
  | @full p front octets trailing h hpay =>
    have hread := h.read hh (octets ++ trailing)
    have hread' := hpay.read (hp p rfl) trailing
    have more : (octets ++ trailing).isEmpty = false := by
      rw [List.isEmpty_eq_false_iff]
      exact List.append_ne_nil_of_left_ne_nil hpay.ne_nil trailing
    rw [readValues, hread]
    simp only [bind, Except.bind, more, hread']
    rfl

/-- **Every body is decoded as the response that it means**, whatever the form of its values. -/
theorem decode_decodesAs {header : Value} {payload : Option Value} {body : Octets}
    (form : IsBody header payload body) (hh : header.need ≤ Value.fullBudget)
    (hp : ∀ p, payload = some p → p.need ≤ Value.fullBudget) :
    DecodesAs header payload (decode body) := by
  have hread := readValues_eq form hh hp
  rcases ofValues_cases header payload with ⟨code, sync, hc, hs, hv⟩ | ⟨hbad, fault, hv⟩
  · have means : Means header payload _ := described_means hc hs
    have hd : decode body = .ok (described header payload code sync) := by
      rw [decode, hread]
      dsimp only
      rw [hv]
    rw [hd]
    refine ⟨?_, ?_, .inl ⟨_, rfl⟩⟩
    · intro r
      constructor
      · intro h
        cases h
        exact means
      · exact fun h => congrArg Except.ok (means.unique h)
    · constructor
      · rintro ⟨text, h⟩
        cases h
      · rintro (h | h)
        · exact absurd means.admissible.1 h
        · exact absurd means.admissible.2 h
  · have hd : decode body = .error (.protocol fault.message) := by
      rw [decode, hread]
      dsimp only
      rw [hv]
    rw [hd]
    refine ⟨?_, ⟨fun _ => hbad, fun _ => ⟨_, rfl⟩⟩, .inr ⟨_, rfl⟩⟩
    intro r
    constructor
    · intro h
      cases h
    · intro h
      rcases hbad with hc | hs
      · exact absurd h.admissible.1 hc
      · exact absurd h.admissible.2 hs

/-- The same for a failure in forms that no writer of the shortest would choose: the length of the
header in two octets, its sync in two's complement and given twice, the length of the message apart
from the marker, and one octet behind the payload. -/
theorem decode_longForms :
    decode ([0xde, 0, 3, 1, 0xd3, 0, 0, 0, 0, 0, 0, 0, 7, 0xd0, 0, 0xcd, 0x80, 3, 1, 9]
        ++ ([0x81, 0xcc, 0x31, 0xd9, 2, 0x6e, 0x6f] ++ [0xff]))
      = .ok ⟨7, 0x8003, none, none, some ⟨3, "no"⟩⟩ := by
  have header : (Value.map [(natValue 1, natValue 7), (natValue 0, natValue 0x8003),
      (natValue 1, natValue 9)]).Form
      [0xde, 0, 3, 1, 0xd3, 0, 0, 0, 0, 0, 0, 0, 7, 0xd0, 0, 0xcd, 0x80, 3, 1, 9] := by
    have one : (natValue 1).Form [1] := .int (.fixPositive (by decide) (by decide))
    have seven : (natValue 7).Form [0xd3, 0, 0, 0, 0, 0, 0, 0, 7] :=
      .int (.signed .eight (by decide) (by decide))
    have zero : (natValue 0).Form [0xd0, 0] := .int (.signed .one (by decide) (by decide))
    have code : (natValue 0x8003).Form [0xcd, 0x80, 3] :=
      .int (.unsigned .two (by decide) (by decide))
    have nine : (natValue 9).Form [9] := .int (.fixPositive (by decide) (by decide))
    have front : (Head.map 3).Form [0xde, 0, 3] := .announced .map16 (by decide)
    exact @Value.Form.map _ [0xde, 0, 3] _ front
      (.cons one seven (.cons zero code (.cons one nine .nil)))
  have payload : (Value.map [(natValue 0x31, Value.text "no")]).Form
      [0x81, 0xcc, 0x31, 0xd9, 2, 0x6e, 0x6f] := by
    have key : (natValue 0x31).Form [0xcc, 0x31] := .int (.unsigned .one (by decide) (by decide))
    have two : (Head.str 2).Form [0xd9, 2] := .announced .str8 (by decide)
    have message : (Value.text "no").Form [0xd9, 2, 0x6e, 0x6f] :=
      @Value.Form.str [0x6e, 0x6f] [0xd9, 2] two
    have front : (Head.map 1).Form [0x81] := .fixMap (by decide)
    exact @Value.Form.map _ [0x81] _ front (.cons key message .nil)
  have means : Means (.map [(natValue 1, natValue 7), (natValue 0, natValue 0x8003),
      (natValue 1, natValue 9)]) (some (.map [(natValue 0x31, Value.text "no")]))
      ⟨7, 0x8003, none, none, some ⟨3, "no"⟩⟩ := by
    refine ⟨?_, ?_, ?_, ?_, ?_⟩
    · exact ⟨natValue 0x8003, lookup?_eq_some_iff.mp rfl, _, rfl, rfl⟩
    · exact ⟨natValue 7, lookup?_eq_some_iff.mp rfl, _, rfl, rfl⟩
    · intro n
      refine ⟨nofun, ?_⟩
      rintro ⟨v, hv, -⟩
      cases lookup?_eq_some_iff.mpr hv
    · intro _
      exact ⟨rfl, _, rfl, rfl, .said ⟨_, rfl, lookup?_eq_some_iff.mp rfl⟩⟩
    · exact nofun
  refine ((decode_decodesAs (.full header payload) (by decide) ?_).ok_iff _).mpr means
  rintro p ⟨⟩
  decide

end Response

end Muxwire.Wire
