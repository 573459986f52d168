import Muxwire.Error
import Muxwire.Text.Hex

/-!
# Frames

A frame is a length prefix and a body. The prefix is the octet `ce` and the length of the body in
four octets, most significant first.

* `Prefix.encode` and `Prefix.decode` are the prefix. A length is at least 1 and at most
  `maxBody`.
* `requestHeader` is the fixed map `{0: code, 1: sync}` in front of every request body.
* `build` puts prefix, header and body together; `announcedLength` is its test of the size, which
  needs the length of the body alone.
* `split` takes the first frame off octets that may go on or may still be arriving.
-/

namespace Muxwire.Wire

/-! ## 1. Numbers of the protocol -/

/-- The first octet of a frame: the MessagePack marker of a four-octet number. -/
def lengthMarker : UInt8 := 0xce

/-- The length of the prefix. -/
def prefixSize : Nat := 5

/-- The length of a request header. -/
def headerSize : Nat := 9

/-- The greatest length of a body. -/
def maxBody : Nat := 2 ^ 30

/-- The keys of headers and bodies. -/
inductive Key where
  | code | sync | schemaVersion | tuple | functionName | userName | expression | data | error
  deriving DecidableEq, Repr

/-- The number of a key. -/
def Key.toNat : Key → Nat
  | .code => 0x00
  | .sync => 0x01
  | .schemaVersion => 0x05
  | .tuple => 0x21
  | .functionName => 0x22
  | .userName => 0x23
  | .expression => 0x27
  | .data => 0x30
  | .error => 0x31

/-- A key as one octet: every key is a single-octet integer. -/
def Key.octet (k : Key) : UInt8 :=
  UInt8.ofNat k.toNat

/-- The codes of the requests that this library packs. -/
inductive RequestCode where
  | auth | eval | call | ping
  deriving DecidableEq, Repr

/-- The octet of a request code. -/
def RequestCode.octet : RequestCode → UInt8
  | .auth => 7
  | .eval => 8
  | .call => 10
  | .ping => 64

/-! ## 2. The length prefix -/

/-- What is wrong with a prefix. -/
inductive PrefixFault where
  | wrongMarker (octet : UInt8)
  | emptyBody
  | bodyTooLong (length : Nat)
  deriving DecidableEq, Repr

/-- The wording of a prefix fault. -/
def PrefixFault.message : PrefixFault → String
  | .wrongMarker b => "Wrong length marker 0x" ++ String.ofList (Text.Hex.octet b)
  | .emptyBody => "Frame body should not be 0 length"
  | .bodyTooLong n => s!"Frame body size {n} exceeds maximum {maxBody}"

/-- The prefix of a body of `length` octets. -/
def encodePrefix (length : UInt32) : Octets :=
  lengthMarker :: Octets.bigEndian 4 length.toNat

/-- The length in a marker and its four octets. -/
def decodePrefix (marker : UInt8) (length : Octets) : Except PrefixFault Nat :=
  let n := Octets.ofBigEndian length
  if marker ≠ lengthMarker then .error (.wrongMarker marker)
  else if n = 0 then .error .emptyBody
  else if maxBody < n then .error (.bodyTooLong n)
  else .ok n

@[simp] theorem length_encodePrefix (n : UInt32) : (encodePrefix n).length = prefixSize := by
  simp [encodePrefix, prefixSize]

/-- **The prefix of an admissible length is read as that length.** -/
theorem decodePrefix_bigEndian {n : Nat} (pos : 0 < n) (le : n ≤ maxBody) :
    decodePrefix lengthMarker (Octets.bigEndian 4 n) = .ok n := by
  have hn : n < 256 ^ 4 := by simp only [maxBody] at le; omega
  have h0 : n ≠ 0 := by omega
  simp [decodePrefix, Octets.ofBigEndian_bigEndian_of_lt hn, h0, Nat.not_lt.2 le]

/-! ## 3. Request frames -/

/-- The map `{0: code, 1: sync}` with the code in one octet and the sync in four. -/
def requestHeader (code : UInt8) (sync : UInt32) : Octets :=
  [0x82, Key.code.octet, code, Key.sync.octet, lengthMarker] ++ Octets.bigEndian 4 sync.toNat

@[simp] theorem length_requestHeader (code : UInt8) (sync : UInt32) :
    (requestHeader code sync).length = headerSize := by
  simp [requestHeader, headerSize]

/-- The length that the prefix of a request announces for a body of `n` octets after the header. -/
def announcedLength (n : Nat) : Except Error UInt32 :=
  if headerSize + n ≤ maxBody then .ok (UInt32.ofNat (headerSize + n))
  else .error (.protocol s!"request body of {n} bytes is too large")

/-- The frame of a request. -/
def build (code : UInt8) (sync : UInt32) (body : Octets) : Except Error Octets :=
  (announcedLength body.length).map fun n =>
    encodePrefix n ++ (requestHeader code sync ++ body)

/-! ## 4. The first frame of a stream -/

/-- What the octets of a stream, as far as they are there, begin with. -/
inductive Split where
  /-- A whole frame: its body, and what follows. -/
  | frame (body rest : Octets)
  /-- A prefix that announces no body, and what follows the prefix. -/
  | bad (fault : PrefixFault) (rest : Octets)
  /-- The beginning of a frame at most. -/
  | incomplete
  deriving DecidableEq, Repr

/-- Takes the first frame off. -/
def split (bs : Octets) : Split :=
  match Octets.splitExact? prefixSize bs with
  | none => .incomplete
  | some (front, rest) =>
    match decodePrefix (front.headD 0) front.tail with
    | .error fault => .bad fault rest
    | .ok n =>
      match Octets.splitExact? n rest with
      | none => .incomplete
      | some (body, rest) => .frame body rest

/-- A frame taken off takes its prefix with it. -/
theorem length_of_split_frame {bs body rest : Octets} (h : split bs = .frame body rest) :
    prefixSize + rest.length ≤ bs.length := by
  unfold split at h
  split at h
  · cases h
  · rename_i hf
    have := Octets.length_of_splitExact? hf
    split at h
    · cases h
    · split at h
      · cases h
      · rename_i hb
        have := Octets.length_of_splitExact? hb
        cases h
        omega

/-- A bad prefix is taken off, too. -/
theorem length_of_split_bad {bs rest : Octets} {fault : PrefixFault}
    (h : split bs = .bad fault rest) : bs.length = prefixSize + rest.length := by
  unfold split at h
  split at h
  · cases h
  · rename_i hf
    have := Octets.length_of_splitExact? hf
    split at h
    · cases h
      exact this
    · split at h <;> cases h

end Muxwire.Wire
