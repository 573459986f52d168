import Muxwire.Proofs.FrameStream.Reading

/-!
# The longest frame

Whoever builds a frame and whoever reads it test its length apart from each other, one in machine
words and with the header still to come, the other in the four octets of the prefix.

* `announcedWord` -- the test of the builder in machine words: an addition that may leave the range
  of the word, and a cut to four octets. **`announcedWord_eq`** says that it is the test in numbers
  for every word, so that nothing wraps around.
* `build_eq_ok_iff`, `build_eq_error_iff` -- when a frame is built, and which.
* `Readable` -- what a frame that was built is to its reader.
* **`build_agrees`** -- what can be built can be read, and is read as it was built; what cannot be
  built is an error of the protocol.
-/

namespace Muxwire.Wire

/-! ## 1. Machine words -/

/-- The sum of two words. One that left the range of the word is smaller than either. -/
def checkedAdd (m n : USize) : Option USize :=
  if m + n < m then none else some (m + n)

/-- A word in four octets, if it is in their range. -/
def narrow? (n : USize) : Option UInt32 :=
  if n.toNat < UInt32.size then some n.toUInt32 else none

/-- The length that the prefix of a request announces for a body of `n` octets after the header. -/
def announcedWord (n : USize) : Except Error UInt32 :=
  match ((checkedAdd (USize.ofNat headerSize) n).bind narrow?).filter (·.toNat ≤ maxBody) with
  | some length => .ok length
  | none => .error (.protocol s!"request body of {n.toNat} bytes is too large")

theorem toNat_add_word (m n : USize) : (m + n).toNat = (m.toNat + n.toNat) % USize.size :=
  USize.toNat_add m n

/-- **The sum is there exactly if it is the sum of the numbers.** -/
theorem checkedAdd_eq_some_iff {m n sum : USize} :
    checkedAdd m n = some sum ↔ sum.toNat = m.toNat + n.toNat := by
  have hm := m.toNat_lt_size
  have hn := n.toNat_lt_size
  have hs := sum.toNat_lt_size
  have wrapped := toNat_add_word m n
  by_cases inside : m.toNat + n.toNat < USize.size
  · rw [Nat.mod_eq_of_lt inside] at wrapped
    have kept : ¬ m + n < m := by
      rw [USize.lt_iff_toNat_lt, wrapped]
      omega
    rw [checkedAdd, if_neg kept, Option.some.injEq, ← USize.toNat_inj, wrapped]
    exact eq_comm
  · -- a sum beyond the range comes out as what it is beyond it, which is less than either part
    rw [Nat.mod_eq_sub_mod (Nat.not_lt.mp inside), Nat.mod_eq_of_lt (by omega)] at wrapped
    have lost : m + n < m := by
      rw [USize.lt_iff_toNat_lt, wrapped]
      omega
    rw [checkedAdd, if_pos lost]
    exact ⟨nofun, fun h => absurd hs (by omega)⟩

theorem narrow?_eq_some_iff {n : USize} {cut : UInt32} :
    narrow? n = some cut ↔ cut.toNat = n.toNat := by
  unfold narrow?
  by_cases inside : n.toNat < UInt32.size
  · have same : n.toUInt32.toNat = n.toNat := by
      rw [USize.toNat_toUInt32]
      exact Nat.mod_eq_of_lt inside
    rw [if_pos inside, Option.some.injEq, ← UInt32.toNat_inj, same]
    exact eq_comm
  · rw [if_neg inside]
    exact ⟨nofun, fun h => absurd (h ▸ cut.toNat_lt) inside⟩

theorem toNat_headerWord : (USize.ofNat headerSize).toNat = headerSize :=
  USize.toNat_ofNat_of_lt' (Nat.lt_of_lt_of_le (by decide) USize.le_size)

/-- The words between cut a length off exactly if it is none of an admissible body. -/
theorem announced_eq_some_iff {n : USize} {length : UInt32} :
    ((checkedAdd (USize.ofNat headerSize) n).bind narrow?).filter (·.toNat ≤ maxBody) = some length
      ↔ length.toNat = headerSize + n.toNat ∧ headerSize + n.toNat ≤ maxBody := by
  simp only [Option.filter_eq_some_iff, Option.bind_eq_some_iff, checkedAdd_eq_some_iff,
    narrow?_eq_some_iff, toNat_headerWord, decide_eq_true_eq]
  constructor
  · intro h
    obtain ⟨⟨sum, added, cut⟩, most⟩ := h
    omega
  · intro h
    obtain ⟨same, most⟩ := h
    have inside : headerSize + n.toNat < USize.size := by
      have word : 2 ^ 32 ≤ USize.size := USize.le_size
      simp only [maxBody] at most
      omega
    have sum : (USize.ofNat (headerSize + n.toNat)).toNat = headerSize + n.toNat :=
      USize.toNat_ofNat_of_lt' inside
    exact ⟨⟨USize.ofNat (headerSize + n.toNat), sum, by omega⟩, by omega⟩

/-- **The test in machine words is the test in numbers**, for every word there is. -/
theorem announcedWord_eq (n : USize) : announcedWord n = announcedLength n.toNat := by
  unfold announcedWord announcedLength
  by_cases fits : headerSize + n.toNat ≤ maxBody
  · have length : (UInt32.ofNat (headerSize + n.toNat)).toNat = headerSize + n.toNat := by
      refine UInt32.toNat_ofNat_of_lt' ?_
      simp only [maxBody] at fits
      simp only [UInt32.size]
      omega
    rw [announced_eq_some_iff.mpr ⟨length, fits⟩, if_pos fits]
  · rw [if_neg fits]
    split
    · rename_i length found
      exact absurd (announced_eq_some_iff.mp found).2 fits
    · rfl

/-! ## 2. What is built -/

variable {code : UInt8} {sync : UInt32} {body frame : Octets}

/-- **A frame is built exactly if header and body are no longer than a body may be**, and it is the
frame of the two. -/
theorem build_eq_ok_iff : build code sync body = .ok frame
    ↔ 9 + body.length ≤ 2 ^ 30 ∧ frame = frameOf (requestHeader code sync ++ body) := by
  have most : maxBody = 2 ^ 30 := rfl
  have header : headerSize = 9 := rfl
  rw [build, announcedLength, frameOf, List.length_append, length_requestHeader, most, header]
  by_cases fits : 9 + body.length ≤ 2 ^ 30
  · rw [if_pos fits]
    show Except.ok _ = _ ↔ _
    rw [Except.ok.injEq, eq_comm]
    exact ⟨fun h => ⟨fits, h⟩, And.right⟩
  · rw [if_neg fits]
    constructor
    · intro h
      cases h
    · intro h
      exact absurd h.1 fits

theorem build_eq_error_iff {e : Error} : build code sync body = .error e
    ↔ 2 ^ 30 < 9 + body.length
      ∧ e = .protocol s!"request body of {body.length} bytes is too large" := by
  have most : maxBody = 2 ^ 30 := rfl
  have header : headerSize = 9 := rfl
  rw [build, announcedLength, most, header]
  by_cases fits : 9 + body.length ≤ 2 ^ 30
  · rw [if_pos fits]
    exact ⟨nofun, fun h => absurd fits (Nat.not_le.mpr h.1)⟩
  · rw [if_neg fits]
    show Except.error _ = _ ↔ _
    rw [Except.error.injEq, eq_comm]
    exact ⟨fun h => ⟨Nat.not_le.mp fits, h⟩, And.right⟩

/-- A request is never too short for a frame. -/
theorem fits_request (h : 9 + body.length ≤ 2 ^ 30) : Fits (requestHeader code sync ++ body) := by
  have most : maxBody = 2 ^ 30 := rfl
  have header : headerSize = 9 := rfl
  rw [Fits, List.length_append, length_requestHeader]
  omega

/-- Code, sync and body are told from the request that they make. -/
theorem request_inj {code' : UInt8} {sync' : UInt32} {body' : Octets}
    (h : requestHeader code sync ++ body = requestHeader code' sync' ++ body') :
    code = code' ∧ sync = sync' ∧ body = body' := by
  have lengths : (requestHeader code sync).length = (requestHeader code' sync').length := by
    rw [length_requestHeader, length_requestHeader]
  obtain ⟨headers, bodies⟩ := List.append_inj h lengths
  simp only [requestHeader, List.cons_append, List.nil_append, List.cons.injEq, true_and] at headers
  obtain ⟨codes, syncs⟩ := headers
  have numbers := congrArg Octets.ofBigEndian syncs
  rw [Octets.ofBigEndian_bigEndian_of_lt sync.toNat_lt,
    Octets.ofBigEndian_bigEndian_of_lt sync'.toNat_lt] at numbers
  exact ⟨codes, UInt32.toNat_inj.mp numbers, bodies⟩

/-! ## 3. What is read -/

/-- What a frame is to its reader. -/
structure Readable (code : UInt8) (sync : UInt32) (body frame : Octets) : Prop where
  length : frame.length = 14 + body.length
  /-- The prefix announces the octets behind it. -/
  announced : Octets.ofBigEndian ((frame.drop 1).take 4) = (frame.drop 5).length
  /-- The prefix is accepted. -/
  accepted : decodePrefix (frame.headD 0) ((frame.drop 1).take 4) = .ok (frame.drop 5).length
  /-- Header and body are read, whatever the pieces in which the frame comes, and nothing of what
  follows it. -/
  read : ∀ (s : Source) (rest : Octets), s.octets = frame ++ rest →
    ∃ s', s.readFrame = (.ok (requestHeader code sync ++ body), s')
      ∧ s'.octets = rest ∧ s'.ending = s.ending

/-- The frame of a body is its prefix and the body. -/
theorem drop_frameOf (content : Octets) : (frameOf content).drop 5 = content :=
  List.drop_left' (length_encodePrefix _)

theorem take_frameOf (content : Octets) : ((frameOf content).drop 1).take 4
    = Octets.bigEndian 4 (UInt32.ofNat content.length).toNat :=
  List.take_left' (Octets.length_bigEndian 4 _)

theorem readable_frameOf (fits : 9 + body.length ≤ 2 ^ 30) :
    Readable code sync body (frameOf (requestHeader code sync ++ body)) := by
  have hf : Fits (requestHeader code sync ++ body) := fits_request fits
  have header : headerSize = 9 := rfl
  have size : prefixSize = 5 := rfl
  refine ⟨?length, ?announced, ?accepted, fun s rest hs => Source.readFrame_of_frame hf hs⟩
  case length =>
    rw [frameOf, List.length_append, length_encodePrefix, List.length_append, length_requestHeader]
    omega
  case announced =>
    rw [take_frameOf, drop_frameOf, Octets.ofBigEndian_bigEndian_of_lt (UInt32.toNat_lt _),
      hf.toNat_length]
  case accepted =>
    rw [take_frameOf, drop_frameOf, hf.toNat_length]
    exact decodePrefix_bigEndian hf.1 hf.2

/-! ## 4. Both sides -/

/-- Builder and reader agree on a request. -/
structure Agrees (code : UInt8) (sync : UInt32) (body : Octets) : Prop where
  /-- The length that is announced is the one of header and body, for every word there is; there
  is none beyond the greatest length of a body. -/
  announced : ∀ (n : USize) (length : UInt32),
    announcedWord n = .ok length ↔ 9 + n.toNat ≤ 2 ^ 30 ∧ length.toNat = 9 + n.toNat
  /-- The frame is built with that length. -/
  words : ∀ n : USize, n.toNat = body.length → build code sync body
    = (announcedWord n).map fun length => encodePrefix length ++ (requestHeader code sync ++ body)
  /-- There is a frame exactly up to the greatest length. -/
  built : (∃ frame, build code sync body = .ok frame) ↔ 9 + body.length ≤ 2 ^ 30
  /-- What was built is read as that. -/
  readable : ∀ frame, build code sync body = .ok frame → Readable code sync body frame
  /-- What was built was built of this code, this sync and this body only. -/
  injective : ∀ frame code' sync' body', build code sync body = .ok frame →
    build code' sync' body' = .ok frame → code' = code ∧ sync' = sync ∧ body' = body
  refused : ∀ e, build code sync body = .error e →
    e = .protocol s!"request body of {body.length} bytes is too large"

/-- **Builder and reader agree at the limits**: what can be built can be read, and is read as it
was built. -/
theorem build_agrees (code : UInt8) (sync : UInt32) (body : Octets) : Agrees code sync body := by
  refine ⟨?announced, ?words, ?built, ?readable, ?injective, ?refused⟩
  case announced =>
    intro n length
    have most : maxBody = 2 ^ 30 := rfl
    have header : headerSize = 9 := rfl
    rw [announcedWord_eq, announcedLength, most, header]
    by_cases fits : 9 + n.toNat ≤ 2 ^ 30
    · have word : (UInt32.ofNat (9 + n.toNat)).toNat = 9 + n.toNat := by
        refine UInt32.toNat_ofNat_of_lt' ?_
        simp only [UInt32.size]
        omega
      rw [if_pos fits, Except.ok.injEq, ← UInt32.toNat_inj, word, eq_comm]
      exact ⟨fun h => ⟨fits, h⟩, And.right⟩
    · rw [if_neg fits]
      exact ⟨nofun, fun h => absurd h.1 fits⟩
  case words =>
    intro n length
    rw [announcedWord_eq, length, build]
  case built =>
    constructor
    · intro h
      obtain ⟨frame, built⟩ := h
      exact (build_eq_ok_iff.mp built).1
    · intro fits
      exact ⟨_, build_eq_ok_iff.mpr ⟨fits, rfl⟩⟩
  case readable =>
    intro frame h
    obtain ⟨fits, rfl⟩ := build_eq_ok_iff.mp h
    exact readable_frameOf fits
  case injective =>
    intro frame code' sync' body' h h'
    obtain ⟨fits, rfl⟩ := build_eq_ok_iff.mp h
    obtain ⟨fits', same⟩ := build_eq_ok_iff.mp h'
    rw [← List.append_nil (frameOf _), ← List.append_nil (frameOf (requestHeader code' _ ++ _))]
      at same
    have request := (frameOf_append_inj (fits_request fits) (fits_request fits') same).1
    obtain ⟨codes, syncs, bodies⟩ := request_inj request
    exact ⟨codes.symm, syncs.symm, bodies.symm⟩
  case refused =>
    intro e h
    exact (build_eq_error_iff.mp h).2

/-- The same at the greatest length, and one octet beyond it. -/
theorem build_agrees_longest :
    (∃ frame, build 64 1 (List.replicate (2 ^ 30 - 9) 0) = .ok frame
      ∧ frame.length = 2 ^ 30 + 5)
    ∧ ∀ frame, build 64 1 (List.replicate (2 ^ 30 - 8) 0) ≠ .ok frame := by
  constructor
  · have agrees := build_agrees 64 1 (List.replicate (2 ^ 30 - 9) 0)
    obtain ⟨frame, built⟩ := agrees.built.mpr (by rw [List.length_replicate]; decide)
    refine ⟨frame, built, ?_⟩
    have length := (agrees.readable frame built).length
    rw [List.length_replicate] at length
    omega
  · intro frame built
    have most := (build_agrees 64 1 (List.replicate (2 ^ 30 - 8) 0)).built.mp ⟨frame, built⟩
    rw [List.length_replicate] at most
    exact absurd most (by decide)

end Muxwire.Wire
