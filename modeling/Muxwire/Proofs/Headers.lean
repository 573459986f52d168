import Muxwire.Msgpack.RoundTrip
import Muxwire.Proofs.Pack
import Muxwire.Wire.Response

/-!
# What headers say

* `read_requestHeader` -- a server that reads a request as MessagePack finds the map of code and
  sync in front of the body, if the code is below 128; so it reads the sync that was packed
  (`syncOf?_requestBody`).
* `IsReply.decode` -- a reply of the header `{0: 0, 1: sync}` and the payload `{0x30: v}`, in
  whatever form it was written, is the response with that sync and `v`.
* `isReply_replyBody` -- the shortest form of such a reply is one.
-/

namespace Muxwire.Wire

open Msgpack Request

/-- The value of a number. -/
def natValue (n : UInt64) : Value :=
  .int (.ofNat n)

@[simp] theorem nat?_natValue (n : UInt64) : (natValue n).nat? = some n.toNat := by
  simp [natValue, Value.nat?, WireInt.toNat?, WireInt.ofNat]

/-- The map of a code and a sync. -/
def headerValue (code : UInt64) (sync : UInt32) : Value :=
  .map [(natValue 0, natValue code), (natValue 1, natValue sync.toUInt64)]

/-- The same map, whose entries have no order. -/
inductive IsHeader (code : UInt64) (sync : UInt32) : Value → Prop where
  | codeFirst : IsHeader code sync (headerValue code sync)
  | syncFirst : IsHeader code sync
      (.map [(natValue 1, natValue sync.toUInt64), (natValue 0, natValue code)])

namespace IsHeader

variable {code : UInt64} {sync : UInt32} {header : Value}

theorem code_eq (h : IsHeader code sync header) : natField? header .code = some code.toNat := by
  cases h <;> simp [natField?, field?, headerValue, Value.lookup?, Value.entries?, Key.toNat]

theorem sync_eq (h : IsHeader code sync header) : natField? header .sync = some sync.toNat := by
  cases h <;> simp [natField?, field?, headerValue, Value.lookup?, Value.entries?, Key.toNat]

theorem schemaVersion_eq (h : IsHeader code sync header) :
    natField? header .schemaVersion = none := by
  cases h <;> simp [natField?, field?, headerValue, Value.lookup?, Value.entries?, Key.toNat]

end IsHeader

/-! ## 1. Requests -/

theorem readWithin_int {b : Nat} {octets rest : Octets} {n : WireInt}
    (h : Head.read octets = .ok (.int n, rest)) :
    Value.readWithin (b + 1) octets = .ok (.int n, rest) := by
  simp [Value.readWithin, h, bind, Except.bind, pure, Except.pure]

theorem ofUnsigned_one (k : UInt8) : WireInt.ofUnsigned .one k.toNat = .ofNat k.toUInt64 := by
  apply WireInt.ext
  have small : k.toNat % 256 ^ 1 = k.toNat := Nat.mod_eq_of_lt k.toNat_lt
  show ((k.toNat % 256 ^ 1 : Nat) : Int) = (k.toUInt64.toNat : Nat)
  rw [small, UInt8.toNat_toUInt64]

theorem ofUnsigned_four (n : UInt32) : WireInt.ofUnsigned .four n.toNat = .ofNat n.toUInt64 := by
  apply WireInt.ext
  have small : n.toNat % 256 ^ 4 = n.toNat := Nat.mod_eq_of_lt n.toNat_lt
  show ((n.toNat % 256 ^ 4 : Nat) : Int) = (n.toUInt64.toNat : Nat)
  rw [small, UInt32.toNat_toUInt64]

/-- An octet below 128 is read as its number. -/
theorem readWithin_small {b : Nat} {k : UInt8} (h : k < 128) (rest : Octets) :
    Value.readWithin (b + 1) (k :: rest) = .ok (natValue k.toUInt64, rest) := by
  have hk : k.toNat < 0x80 := h
  have hr : Head.read (k :: rest) = .ok (.int (.ofUnsigned .one k.toNat), rest) := by
    simp only [Head.read, hk, if_true]
  rw [readWithin_int hr, ofUnsigned_one, natValue]

/-- A sync in four octets is read as its number. -/
theorem readWithin_sync {b : Nat} (sync : UInt32) (rest : Octets) :
    Value.readWithin (b + 1) (lengthMarker :: (Octets.bigEndian 4 sync.toNat ++ rest))
      = .ok (natValue sync.toUInt64, rest) := by
  have hr : Head.read (lengthMarker :: (Octets.bigEndian 4 sync.toNat ++ rest))
      = .ok (.int (.ofUnsigned .four sync.toNat), rest) :=
    Head.read_withNumber (k := 14) (w := .four) (by decide) rfl sync.toNat_lt rest
  rw [readWithin_int hr, ofUnsigned_four, natValue]

theorem readPair_of_ok {α β : Type} {first : Reader ReadFault α} {second : Reader ReadFault β}
    {octets middle rest : Octets} {a : α} {b : β} (ha : first octets = .ok (a, middle))
    (hb : second middle = .ok (b, rest)) :
    readPair first second octets = .ok ((a, b), rest) := by
  simp [readPair, ha, hb]

/-- **The header in front of a request body is the map of its code and its sync.** -/
theorem read_requestHeader {code : UInt8} (h : code < 128) (sync : UInt32) (rest : Octets) :
    Value.read (requestHeader code sync ++ rest)
      = .ok (headerValue code.toUInt64 sync, rest) := by
  have first : readPair (Value.readWithin 1022) (Value.readWithin 1022)
      (0 :: code :: 1 :: lengthMarker :: (Octets.bigEndian 4 sync.toNat ++ rest))
      = .ok ((natValue 0, natValue code.toUInt64),
          1 :: lengthMarker :: (Octets.bigEndian 4 sync.toNat ++ rest)) :=
    readPair_of_ok (readWithin_small (b := 1021) (by decide) _) (readWithin_small (b := 1021) h _)
  have second : readPair (Value.readWithin 1022) (Value.readWithin 1022)
      (1 :: lengthMarker :: (Octets.bigEndian 4 sync.toNat ++ rest))
      = .ok ((natValue 1, natValue sync.toUInt64), rest) :=
    readPair_of_ok (readWithin_small (b := 1021) (by decide) _)
      (readWithin_sync (b := 1021) sync rest)
  have head : Head.read (0x82 :: 0 :: code :: 1 :: lengthMarker ::
      (Octets.bigEndian 4 sync.toNat ++ rest))
      = .ok (.map 2, 0 :: code :: 1 :: lengthMarker ::
        (Octets.bigEndian 4 sync.toNat ++ rest)) := rfl
  show Value.readWithin (1022 + 2) (0x82 :: 0 :: code :: 1 :: lengthMarker ::
    (Octets.bigEndian 4 sync.toNat ++ rest)) = _
  rw [Value.readWithin, head]
  simp only [bind, Except.bind, readMany, first, second]
  rfl

/-- The sync that whoever reads a request as MessagePack finds in its header. -/
def syncOf? (request : Octets) : Option Nat :=
  match Value.read request with
  | .ok (header, _) => natField? header .sync
  | .error _ => none

/-- **A server reads the sync that was packed.** -/
theorem syncOf?_requestBody {q : Query} (h : q.code < 128) (sync : UInt32) (space : String) :
    syncOf? (requestBody q sync space) = some sync.toNat := by
  rw [syncOf?, requestBody, read_requestHeader h]
  exact IsHeader.codeFirst.sync_eq

/-! ## 2. Replies -/

/-- A header alone has no payload. -/
theorem Response.readValues_front {front : Octets} {header : Value}
    (hh : Value.read front = .ok (header, [])) : readValues front = .ok (header, none) := by
  rw [readValues, hh]
  rfl

/-- The map that brings a value. -/
def dataValue (v : Value) : Value :=
  .map [(natValue 0x30, v)]

/-- The answer that a reply without an error means. -/
def dataResponse (sync : UInt32) (v : Value) : Response :=
  ⟨sync, 0, none, some v, none⟩

/-- The body is a reply of the header `{0: 0, 1: sync}` and the payload `{0x30: v}`. -/
def IsReply (sync : UInt32) (v : Value) (body : Octets) : Prop :=
  ∃ header, IsHeader 0 sync header
    ∧ Response.readValues body = .ok (header, some (dataValue v))

/-- **A reply is the response with its sync and its value**, in whatever form it was written. -/
theorem IsReply.decode {body : Octets} {sync : UInt32} {v : Value} (h : IsReply sync v body) :
    Response.decode body = .ok (dataResponse sync v) := by
  obtain ⟨header, hh, h⟩ := h
  have hd : field? (dataValue v) .data = some v := by
    simp [field?, dataValue, Value.lookup?, Value.entries?, Key.toNat]
  have hs : ¬ 2 ^ 32 ≤ sync.toNat := Nat.not_le.mpr sync.toNat_lt
  simp only [Response.decode, h, Response.ofValues, hh.code_eq, hh.sync_eq, hh.schemaVersion_eq,
    bind, Except.bind, hs, if_false]
  simp [hd, dataResponse, pure, Except.pure]

theorem one_le_cost (v : Value) : 1 ≤ v.cost := by
  cases v with
  | str octets =>
    rw [Value.cost]
    split <;> omega
  | _ => simp [Value.cost]

/-- The shortest form of a reply. -/
def replyBody (sync : UInt32) (v : Value) : Octets :=
  (headerValue 0 sync).encode ++ (dataValue v).encode

/-- **The shortest form of a reply is one**, for every value that is not nested too deeply and has
no text that is none. -/
theorem isReply_replyBody {v : Value} (sync : UInt32) (fits : v.Fits)
    (cost : v.cost + 2 ≤ Value.fullBudget) (clean : v.sanitize = v) :
    IsReply sync v (replyBody sync v) := by
  refine ⟨headerValue 0 sync, .codeFirst, ?_⟩
  have hf : (headerValue 0 sync).Fits := by
    simp [headerValue, natValue, Value.Fits, Value.FitsEntries]
  have hc : (headerValue 0 sync).cost ≤ Value.fullBudget := by
    simp [headerValue, natValue, Value.cost, Value.costEntries, Value.fullBudget]
  have header := Value.read_encode hf hc (dataValue v).encode
  have pf : (dataValue v).Fits := by
    simp [dataValue, natValue, Value.Fits, Value.FitsEntries, fits]
  have pc : (dataValue v).cost ≤ Value.fullBudget := by
    simp only [dataValue, natValue, Value.cost, Value.costEntries]
    have : 1 ≤ v.cost := one_le_cost v
    omega
  have payload := Value.read_encode pf pc []
  have shown : (dataValue v).encode.isEmpty = false := by
    rw [dataValue, Value.encode_map]
    rfl
  rw [List.append_nil] at payload
  simp only [Response.readValues, replyBody, header, payload, bind, Except.bind, shown]
  simp [headerValue, dataValue, natValue, Value.sanitize, Value.sanitizeEntries, clean, pure,
    Except.pure]

end Muxwire.Wire
