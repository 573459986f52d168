import Muxwire.Proofs.FrameStream.Reading
import Muxwire.Proofs.Response

/-!
# What requests carry

The frame of a call or of an evaluation is read back as what was put into it.

* `Value.fits_of_length` -- a value whose octets are less than 2^32 has no length that the format
  cannot express.
* `encodeList_array`, `encodeList_ne_array` -- of the dynamic values, arrays and nothing else are
  argument lists.
* `Named.read_body` -- the body of a request holds two values and nothing more: header and map.
* **`Named.lossless`** -- an array that is not nested too deeply goes out in one frame, from which
  everything is read back, and comes back from a server that echoes it; anything but an array is
  refused.
-/

namespace Muxwire.Msgpack

/-! ## 1. Markers of arrays -/

theorem isArrayMarker_ofNat {k : Nat} (h : k < 0x100) :
    Arguments.isArrayMarker (UInt8.ofNat k) = true
      ↔ (0x90 ≤ k ∧ k ≤ 0x9f) ∨ k = 0xdc ∨ k = 0xdd := by
  have hk : (UInt8.ofNat k).toNat = k := by
    rw [UInt8.toNat_ofNat']
    omega
  simp only [Arguments.isArrayMarker, Bool.or_eq_true, Bool.and_eq_true, decide_eq_true_eq,
    UInt8.le_iff_toNat_le, ← UInt8.toNat_inj, hk]
  exact or_assoc

/-- The octets begin with a marker that is the marker of an array, or is none. -/
def BeginsArray (octets : Octets) (array : Bool) : Prop :=
  ∃ marker tail, octets = marker :: tail ∧ Arguments.isArrayMarker marker = array

theorem BeginsArray.append {octets : Octets} {array : Bool} (h : BeginsArray octets array)
    (more : Octets) : BeginsArray (octets ++ more) array := by
  obtain ⟨marker, tail, rfl, hm⟩ := h
  exact ⟨marker, tail ++ more, rfl, hm⟩

/-- An octet of its own, told by its number. -/
theorem beginsArray_octet {k : Nat} (h : k < 0x100) (other : k < 0x90 ∨ 0xa0 ≤ k)
    (h16 : k ≠ 0xdc) (h32 : k ≠ 0xdd) : BeginsArray [UInt8.ofNat k] false := by
  refine ⟨_, [], rfl, ?_⟩
  rw [← Bool.not_eq_true, isArrayMarker_ofNat h]
  omega

namespace Head

/-- The shortest form of an array begins with the marker of one. -/
theorem beginsArray_array (n : Nat) : BeginsArray (Head.array n).write true := by
  simp only [write, narrow, shortest, writeLength]
  split
  · exact ⟨_, [], rfl, (isArrayMarker_ofNat (by omega)).mpr (.inl (by omega))⟩
  split
  · exact ⟨_, _, rfl, rfl⟩
  · exact ⟨_, _, rfl, rfl⟩

theorem beginsArray_writeInt (n : WireInt) : BeginsArray (writeInt n.val) false := by
  unfold writeInt
  dsimp only
  split
  · split
    · exact beginsArray_octet (by omega) (by omega) (by omega) (by omega)
    repeat' split
    all_goals exact ⟨_, _, rfl, rfl⟩
  · split
    · exact beginsArray_octet (by omega) (by omega) (by omega) (by omega)
    repeat' split
    all_goals exact ⟨_, _, rfl, rfl⟩

/-- **The shortest form of any other head begins with none.** -/
theorem beginsArray_of_ne {h : Head} (other : ∀ n, h ≠ .array n) : BeginsArray h.write false := by
  cases h with
  | nil => exact ⟨_, _, rfl, rfl⟩
  | reserved => exact ⟨_, _, rfl, rfl⟩
  | bool b => cases b <;> exact ⟨_, _, rfl, rfl⟩
  | int n => exact beginsArray_writeInt n
  | f32 word => exact ⟨_, _, rfl, rfl⟩
  | f64 word => exact ⟨_, _, rfl, rfl⟩
  | str n =>
    simp only [write, narrow, shortest, writeLength]
    split
    · exact beginsArray_octet (by omega) (by omega) (by omega) (by omega)
    repeat' split
    all_goals exact ⟨_, _, rfl, rfl⟩
  | bin n =>
    simp only [write, narrow, shortest, writeLength]
    repeat' split
    all_goals exact ⟨_, _, rfl, rfl⟩
  | array n => exact absurd rfl (other n)
  | map n =>
    simp only [write, narrow, shortest, writeLength]
    split
    · exact beginsArray_octet (by omega) (by omega) (by omega) (by omega)
    repeat' split
    all_goals exact ⟨_, _, rfl, rfl⟩
  | ext n =>
    simp only [write, narrow, shortest, writeLength]
    repeat' split
    all_goals exact ⟨_, _, rfl, rfl⟩

end Head

namespace Value

theorem beginsArray_encode_array (items : List Value) : BeginsArray (array items).encode true := by
  rw [encode_array]
  exact (Head.beginsArray_array _).append _

/-- The octets of a value that is no array do not begin with the marker of one. -/
theorem beginsArray_encode_of_ne {v : Value} (other : ∀ items, v ≠ .array items) :
    BeginsArray v.encode false := by
  -- the value begins with a head of its own kind
  have headed {h : Head} {content : Octets} (he : v.encode = h.write ++ content)
      (hh : ∀ n, h ≠ .array n) : BeginsArray v.encode false := by
    rw [he]
    exact (Head.beginsArray_of_ne hh).append content
  have scalar {h : Head} (he : v.encode = h.write) (hh : ∀ n, h ≠ .array n) :
      BeginsArray v.encode false := by
    rw [he]
    exact Head.beginsArray_of_ne hh
  cases v with
  | nil => exact scalar (h := .nil) (by simp [encode, emit]) nofun
  | bool b => exact scalar (h := .bool b) (by simp [encode, emit]) nofun
  | int n => exact scalar (h := .int n) (by simp [encode, emit]) nofun
  | f32 word => exact scalar (h := .f32 word) (by simp [encode, emit]) nofun
  | f64 word => exact scalar (h := .f64 word) (by simp [encode, emit]) nofun
  | str octets =>
    refine headed (encode_str octets) ?_
    split <;> exact nofun
  | bin octets => exact headed (encode_bin octets) nofun
  | array items => exact absurd rfl (other items)
  | map entries => exact headed (encode_map entries) nofun
  | ext type octets => exact headed (encode_ext type octets) nofun

/-! ## 2. Lengths -/

/-- A value has at least one octet. -/
theorem length_encode_pos (v : Value) : 0 < v.encode.length := by
  have begins : ∃ array, BeginsArray v.encode array := by
    by_cases h : ∃ items, v = .array items
    · obtain ⟨items, rfl⟩ := h
      exact ⟨true, beginsArray_encode_array items⟩
    · exact ⟨false, beginsArray_encode_of_ne (fun items hv => h ⟨items, hv⟩)⟩
  obtain ⟨-, marker, tail, he, -⟩ := begins
  rw [he]
  exact Nat.succ_pos _

theorem length_le_flatMap (vs : List Value) : vs.length ≤ (vs.flatMap encode).length := by
  induction vs with
  | nil => exact Nat.le_refl 0
  | cons v vs ih =>
    have pos := length_encode_pos v
    rw [List.flatMap_cons, List.length_append, List.length_cons]
    omega

theorem length_le_flatMap_entries (es : List (Value × Value)) :
    es.length ≤ (es.flatMap fun e => encode e.1 ++ encode e.2).length := by
  induction es with
  | nil => exact Nat.le_refl 0
  | cons e es ih =>
    have pos := length_encode_pos e.1
    rw [List.flatMap_cons, List.length_append, List.length_append, List.length_cons]
    omega

mutual

/-- **A value of less than 2^32 octets has no length that the format cannot express.** -/
theorem fits_of_length : ∀ v : Value, v.encode.length < 2 ^ 32 → v.Fits
  | .nil, _ | .bool _, _ | .int _, _ | .f32 _, _ | .f64 _, _ => trivial
  | .str octets, h => by
    rw [encode_str, List.length_append] at h
    exact Nat.lt_of_le_of_lt (Nat.le_add_left _ _) h
  | .bin octets, h => by
    rw [encode_bin, List.length_append] at h
    exact Nat.lt_of_le_of_lt (Nat.le_add_left _ _) h
  | .ext type octets, h => by
    rw [encode_ext, List.length_append, List.length_cons] at h
    show octets.length < 2 ^ 32
    omega
  | .array items, h => by
    rw [encode_array, List.length_append] at h
    have count := length_le_flatMap items
    exact ⟨by omega, fitsAll_of_length items (by omega)⟩
  | .map entries, h => by
    rw [encode_map, List.length_append] at h
    have count := length_le_flatMap_entries entries
    exact ⟨by omega, fitsEntries_of_length entries (by omega)⟩

theorem fitsAll_of_length : ∀ vs : List Value, (vs.flatMap encode).length < 2 ^ 32 → FitsAll vs
  | [], _ => trivial
  | v :: vs, h => by
    rw [List.flatMap_cons, List.length_append] at h
    exact ⟨fits_of_length v (by omega), fitsAll_of_length vs (by omega)⟩

theorem fitsEntries_of_length : ∀ es : List (Value × Value),
    (es.flatMap fun e => encode e.1 ++ encode e.2).length < 2 ^ 32 → FitsEntries es
  | [], _ => trivial
  | (k, v) :: es, h => by
    rw [List.flatMap_cons, List.length_append, List.length_append] at h
    dsimp only at h
    exact ⟨⟨fits_of_length k (by omega), fits_of_length v (by omega)⟩,
      fitsEntries_of_length es (by omega)⟩

end

end Value

/-! ## 3. Argument lists -/

namespace Arguments

theorem encode_ofValue (v : Value) : (ofValue v).encode = .ok v.encode := by
  simp [ofValue, ofDatum, encode, Datum.encode, Datum.emit, Value.encode]

/-- An array is an argument list as it is. -/
theorem encodeList_array (items : List Value) :
    (ofValue (.array items)).encodeList = .ok (Value.array items).encode := by
  obtain ⟨marker, tail, he, hm⟩ := Value.beginsArray_encode_array items
  have list : ¬ (marker = 0xc0 ∧ (ofValue (.array items)).contentless = true) := nofun
  rw [encodeList, encode_ofValue, he]
  simp only [bind, Except.bind, list, hm, if_false, if_true]

/-- Any other value is refused by an error of the query. -/
theorem encodeList_of_ne {v : Value} (other : ∀ items, v ≠ .array items) :
    ∃ text, (ofValue v).encodeList = .error (.query text) := by
  obtain ⟨marker, tail, he, hm⟩ := Value.beginsArray_encode_of_ne other
  have list : ¬ (marker = 0xc0 ∧ (ofValue v).contentless = true) := nofun
  rw [encodeList, encode_ofValue, he]
  simp only [bind, Except.bind, list, hm, if_false]
  exact ⟨_, rfl⟩

end Arguments

end Muxwire.Msgpack

namespace Muxwire.Request

open Msgpack Wire

/-! ## 4. Calls and evaluations -/

/-- The two requests that name something and hand over arguments. -/
inductive Named where
  | call
  | eval
  deriving DecidableEq, Repr

namespace Named

/-- The query. -/
def query (kind : Named) (name : String) (args : Value) : Query :=
  match kind with
  | .call => .call name (.ofValue args)
  | .eval => .eval name (.ofValue args)

/-- The code in its header. -/
def code : Named → UInt64
  | .call => 10
  | .eval => 8

/-- The key of the name in its body. -/
def nameKey : Named → UInt64
  | .call => 0x22
  | .eval => 0x27

/-- The map behind the header. -/
def bodyValue (kind : Named) (name : String) (args : Value) : Value :=
  .map [(natValue kind.nameKey, .text name), (natValue 0x21, args)]

variable {kind : Named} {name : String}

/-- The octets behind the header of a request with an array. -/
def bodyOctets (kind : Named) (name : String) (args : Value) : Octets :=
  (Head.map 2).write ++ (UInt8.ofNat kind.nameKey.toNat :: Query.textOctets name
    ++ (0x21 :: args.encode))

theorem appendBody_query (items : List Value) (space : String) :
    (kind.query name (.array items)).appendBody space []
      = ⟨kind.bodyOctets name (.array items), none⟩ := by
  have list := Arguments.encodeList_array items
  cases kind with
  | call => simp [query, Query.appendBody, Query.namedBody, list, Query.appendAll, bodyOctets,
      nameKey, Key.octet, Key.toNat, bind, Except.bind, pure, Except.pure]
  | eval => simp [query, Query.appendBody, Query.namedBody, list, Query.appendAll, bodyOctets,
      nameKey, Key.octet, Key.toNat, bind, Except.bind, pure, Except.pure]

theorem code_query (kind : Named) (name : String) (args : Value) :
    (kind.query name args).code < 128
    ∧ (kind.query name args).code.toUInt64 = kind.code := by
  have ten : (10 : UInt8) < 128 := by decide
  have eight : (8 : UInt8) < 128 := by decide
  cases kind with
  | call => exact ⟨ten, rfl⟩
  | eval => exact ⟨eight, rfl⟩

theorem requestBody_query (items : List Value) (sync : UInt32) (space : String) :
    requestBody (kind.query name (.array items)) sync space
      = requestHeader (kind.query name (.array items)).code sync
        ++ kind.bodyOctets name (.array items) := by
  rw [requestBody, appendBody_query]

/-- They are a form of the map, but for the text that is none. -/
theorem form_bodyOctets {args : Value} (hn : (Value.text name).Fits) (ha : args.Fits) :
    (kind.bodyValue name args.sanitize).Form (kind.bodyOctets name args) := by
  have key : (natValue kind.nameKey).Form [UInt8.ofNat kind.nameKey.toNat] := by
    cases kind <;> exact .int (.fixPositive (by decide) (by decide))
  have tuple : (natValue 0x21).Form [0x21] := .int (.fixPositive (by decide) (by decide))
  have text := Value.form_encode (.text name) hn
  rw [Value.sanitize_text] at text
  have entries := Value.FormEntries.cons key text (.cons tuple (Value.form_encode args ha) .nil)
  have two : (Head.map 2).Form (Head.map 2).write := .fixMap (by decide)
  rw [List.append_nil] at entries
  exact .map two entries

/-- **The body of a request holds header and map, and nothing more.** -/
theorem read_body {items : List Value} {sync : UInt32} {space : String}
    (nested : (Value.array items).cost + 2 ≤ Value.fullBudget)
    (fits : (requestBody (kind.query name (.array items)) sync space).length ≤ maxBody) :
    ∃ rest, Value.read (requestBody (kind.query name (.array items)) sync space)
        = .ok (headerValue kind.code sync, rest)
      ∧ Value.read rest = .ok (kind.bodyValue name (Value.array items).sanitize, []) := by
  obtain ⟨hlt, hcode⟩ := code_query kind name (.array items)
  rw [requestBody_query] at fits ⊢
  refine ⟨kind.bodyOctets name (.array items), ?_, ?_⟩
  · rw [read_requestHeader hlt, hcode]
  · simp only [bodyOctets, maxBody, Query.textOctets, List.length_append, List.length_cons] at fits
    have hn : (Value.text name).Fits := Value.fits_of_length _ (by omega)
    have ha : (Value.array items).Fits := Value.fits_of_length _ (by omega)
    have form : (kind.bodyValue name _).Form _ := form_bodyOctets hn ha
    have need : (kind.bodyValue name (Value.array items).sanitize).need ≤ Value.fullBudget := by
      have hs := Value.need_sanitize (.array items)
      have full : Value.fullBudget = 1024 := rfl
      simp only [bodyValue, Value.need, Value.needEntries, natValue, Value.text]
      omega
    have hread := form.read need []
    rw [List.append_nil] at hread
    exact hread

/-- What a frame carries: its body, and in it the header and the map of name and arguments. -/
structure Carries (kind : Named) (name : String) (args : Value) (sync : UInt32)
    (frame body : Octets) : Prop where
  /-- The body is read from the frame, whatever the pieces in which that comes, and nothing is left
  unread. -/
  body_read : ∀ s : Source, s.octets = frame →
    s.readFrame.1 = .ok body ∧ s.readFrame.2.octets = []
  /-- The two values are read from the body, and nothing is left unread. -/
  values_read : ∃ rest, Value.read body = .ok (headerValue kind.code sync, rest)
    ∧ Value.read rest = .ok (kind.bodyValue name args, [])

/-- The value is the data of every reply without an error that brings it. -/
def Echoed (v : Value) : Prop :=
  ∀ header reply, IsBody header (some (dataValue v)) reply → header.need ≤ Value.fullBudget →
    (∃ code, code < 2 ^ 32 ∧ code.testBit 15 = false ∧ NumberAt header 0x00 code) →
    Admissible header 0x01 →
    ∃ r, Response.decode reply = .ok r ∧ r.error = none ∧ r.data = some v

theorem echoed_of_need {v : Value} (need : v.need + 2 ≤ Value.fullBudget) : Echoed v := by
  rintro header reply form hh ⟨code, lt, bit, hcode⟩ hsync
  have hp (p : Value) (h : some (dataValue v) = some p) : p.need ≤ Value.fullBudget := by
    cases h
    have one := v.need_pos
    simp only [dataValue, Value.need, Value.needEntries, natValue]
    omega
  have decodes := Response.decode_decodesAs form hh hp
  rcases decodes.total with ⟨r, hr⟩ | failed
  · have means := (decodes.ok_iff r).mp hr
    have same : r.code.toNat = code := means.code.unique hcode
    obtain ⟨none, data⟩ := means.succeeded (same ▸ bit)
    have here : FirstOf (some (dataValue v)) 0x30 v := ⟨_, rfl, lookup?_eq_some_iff.mp rfl⟩
    exact ⟨r, hr, none, (data v).mpr here⟩
  · rcases decodes.protocol_iff.mp failed with h | h
    · exact absurd ⟨code, lt, hcode⟩ h
    · exact absurd hsync h

/-- What packing a call or an evaluation comes to. -/
structure Lossless (kind : Named) (name : String) (args : Value) (sync : UInt32) (space : String) :
    Prop where
  /-- An array that is not nested too deeply goes out in a frame that fits, with every string that
  is not valid UTF-8 made a binary of the same octets, and comes back if it is echoed. -/
  carried : ∀ items, args = .array items → args.cost + 2 ≤ Value.fullBudget →
    (requestBody (kind.query name args) sync space).length ≤ maxBody →
    ∃ frame body, (kind.query name args).pack sync space = .ok frame
      ∧ Carries kind name args.sanitize sync frame body ∧ Echoed args.sanitize
  /-- Anything but an array is refused. -/
  refused : (∀ items, args ≠ .array items) →
    ∃ text, (kind.query name args).pack sync space = .error (.query text)

/-- **Calls and evaluations are lossless.** -/
theorem lossless (kind : Named) (name : String) (args : Value) (sync : UInt32) (space : String) :
    Lossless kind name args sync space := by
  refine ⟨?_, ?_⟩
  · rintro items rfl nested fits
    have hpack : (kind.query name (.array items)).pack sync space
        = .ok (frameOf (requestBody (kind.query name (.array items)) sync space)) := by
      refine Query.pack_eq_ok_iff.mpr ⟨?_, fits, rfl⟩
      rw [appendBody_query]
    have hf : Fits (requestBody (kind.query name (.array items)) sync space) := by
      refine ⟨?_, fits⟩
      rw [length_requestBody, headerSize]
      omega
    refine ⟨_, _, hpack, ⟨?_, read_body nested fits⟩, echoed_of_need ?_⟩
    · intro s hs
      have hread := (Source.readFrame_eq s).1
      rw [hs, ← List.append_nil (frameOf _), split_frameOf hf] at hread
      exact ⟨congrArg Prod.fst hread, congrArg Prod.snd hread⟩
    · rw [Value.need_sanitize]
      exact nested
  · intro other
    obtain ⟨text, list⟩ := Arguments.encodeList_of_ne other
    have failed : ((kind.query name args).appendBody space []).failure = some (.query text) := by
      cases kind <;> simp [query, Query.appendBody, Query.namedBody, list, Query.appendAll, bind,
        Except.bind]
    refine ⟨text, ?_⟩
    rw [Query.pack_eq, failed]
    rfl

/-- The same for a list of one string that is not valid UTF-8, as a key inside it. -/
theorem lossless_notText : ∃ frame body,
    (eval.query "return ..." (.array [.map [(.str [0xff], .nil)]])).pack 7 "" = .ok frame
      ∧ Carries .eval "return ..." (.array [.map [(.bin [0xff], .nil)]]) 7 frame body
      ∧ Echoed (.array [.map [(.bin [0xff], .nil)]]) := by
  have nested : (Value.array [.map [(.str [0xff], .nil)]]).cost + 2 ≤ Value.fullBudget := by decide
  have fits : (requestBody (eval.query "return ..." (.array [.map [(.str [0xff], .nil)]])) 7
      "").length ≤ maxBody := by decide
  exact (lossless .eval "return ..." (.array [.map [(.str [0xff], .nil)]]) 7 "").carried _ rfl
    nested fits

end Named

end Muxwire.Request
