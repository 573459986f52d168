import Muxwire.Wire.Frame

/-!
# Streams of frames

A stream of frames has one reading: `split` takes off exactly the first frame of admissible bodies
(`split_eq_frame_iff`), so that a stream of such frames which is the front of another one has the
first bodies of it (**`front_of_stream`**), wherever either is cut on its way.
-/

namespace Muxwire.Wire

/-- A body that a frame can have. -/
def Fits (body : Octets) : Prop :=
  0 < body.length ∧ body.length ≤ maxBody

instance (body : Octets) : Decidable (Fits body) :=
  inferInstanceAs (Decidable (_ ∧ _))

/-- The frame of a body. -/
def frameOf (body : Octets) : Octets :=
  encodePrefix (UInt32.ofNat body.length) ++ body

/-- The frames of several bodies, one after the other. -/
def stream (bodies : List Octets) : Octets :=
  bodies.flatMap frameOf

@[simp] theorem stream_nil : stream [] = [] := rfl

@[simp] theorem stream_cons (body : Octets) (bodies : List Octets) :
    stream (body :: bodies) = frameOf body ++ stream bodies := rfl

@[simp] theorem stream_append (front back : List Octets) :
    stream (front ++ back) = stream front ++ stream back :=
  List.flatMap_append

theorem stream_eq_flatten (bodies : List Octets) : stream bodies = (bodies.map frameOf).flatten :=
  List.flatMap_def ..

/-- The length of an admissible body fits its prefix. -/
theorem Fits.toNat_length {body : Octets} (h : Fits body) :
    (UInt32.ofNat body.length).toNat = body.length := by
  have := h.2
  simp only [maxBody] at this
  rw [UInt32.toNat_ofNat']
  omega

/-- Only the prefix of an admissible length is read. -/
theorem decodePrefix_eq_ok {marker : UInt8} {length : Octets} {n : Nat}
    (h : decodePrefix marker length = .ok n) :
    marker = lengthMarker ∧ Octets.ofBigEndian length = n ∧ 0 < n ∧ n ≤ maxBody := by
  simp only [decodePrefix] at h
  split at h
  · cases h
  · rename_i hm
    split at h
    · cases h
    · rename_i hz
      split at h
      · cases h
      · rename_i hl
        cases h
        exact ⟨Decidable.not_not.mp hm, rfl, Nat.pos_of_ne_zero hz, Nat.not_lt.mp hl⟩

/-- A frame is split off again, in front of anything. -/
theorem split_frameOf {body : Octets} (h : Fits body) (rest : Octets) :
    split (frameOf body ++ rest) = .frame body rest := by
  have hp := Octets.splitExact?_append (encodePrefix (UInt32.ofNat body.length)) (body ++ rest)
  rw [length_encodePrefix, ← List.append_assoc] at hp
  have hd := decodePrefix_bigEndian h.1 h.2
  have hb := Octets.splitExact?_append body rest
  simp only [split, frameOf, hp]
  simp only [encodePrefix, h.toNat_length, List.headD_cons, List.tail_cons, hd, hb]

theorem eq_of_splitExact? {n : Nat} {octets front rest : Octets}
    (h : Octets.splitExact? n octets = some (front, rest)) :
    octets = front ++ rest ∧ front.length = n := by
  rw [Octets.splitExact?_eq] at h
  split at h
  · rename_i enough
    cases h
    exact ⟨(List.take_append_drop n octets).symm, List.length_take_of_le enough⟩
  · cases h

/-- The octets of an admissible prefix are its marker and its length. -/
theorem eq_encodePrefix {front body : Octets} {n : Nat} (hl : front.length = prefixSize)
    (hd : decodePrefix (front.headD 0) front.tail = .ok n) (hb : body.length = n) (hf : Fits body) :
    front = encodePrefix (UInt32.ofNat body.length) := by
  cases front with
  | nil => cases hl
  | cons marker length =>
    obtain ⟨hm, hn, -⟩ := decodePrefix_eq_ok hd
    have four : length.length = 4 := Nat.succ.inj hl
    rw [encodePrefix, hf.toNat_length, hb, ← hn, ← four]
    show _ = _ :: Octets.bigEndian length.length (Octets.ofBigEndian length)
    rw [Octets.bigEndian_ofBigEndian]
    exact congrArg (· :: length) hm

/-- **What is split off is the frame of an admissible body.** -/
theorem split_eq_frame_iff {octets body rest : Octets} :
    split octets = .frame body rest ↔ Fits body ∧ octets = frameOf body ++ rest := by
  constructor
  · intro h
    unfold split at h
    split at h
    · cases h
    · rename_i front behind hs
      obtain ⟨rfl, hl⟩ := eq_of_splitExact? hs
      split at h
      · cases h
      · rename_i n hd
        split at h
        · cases h
        · rename_i hb
          cases h
          obtain ⟨rfl, hn⟩ := eq_of_splitExact? hb
          obtain ⟨-, -, pos, le⟩ := decodePrefix_eq_ok hd
          have hf : Fits body := ⟨hn ▸ pos, hn ▸ le⟩
          refine ⟨hf, ?_⟩
          rw [frameOf, ← eq_encodePrefix hl hd hn hf, List.append_assoc]
  · rintro ⟨hf, rfl⟩
    exact split_frameOf hf rest

/-- A stream is not begun by another frame than its first. -/
theorem frameOf_append_inj {body body' rest rest' : Octets} (hf : Fits body) (hf' : Fits body')
    (h : frameOf body ++ rest = frameOf body' ++ rest') : body = body' ∧ rest = rest' := by
  have hs := split_frameOf hf rest
  rw [h, split_frameOf hf' rest'] at hs
  exact ⟨(Split.frame.inj hs).1.symm, (Split.frame.inj hs).2.symm⟩

/-- **The front of a stream has its first bodies.** -/
theorem front_of_stream {bodies bodies' : List Octets} (hf : ∀ b ∈ bodies, Fits b)
    (hf' : ∀ b ∈ bodies', Fits b) (h : stream bodies <+: stream bodies') : bodies <+: bodies' := by
  induction bodies generalizing bodies' with
  | nil => exact List.nil_prefix
  | cons body bodies ih =>
    obtain ⟨rest, h⟩ := h
    rw [stream_cons, List.append_assoc] at h
    cases bodies' with
    | nil =>
      have := congrArg List.length h
      simp [frameOf, prefixSize] at this
    | cons body' bodies' =>
      rw [stream_cons] at h
      obtain ⟨rfl, htail⟩ :=
        frameOf_append_inj (hf _ List.mem_cons_self) (hf' _ List.mem_cons_self) h
      refine List.cons_prefix_cons.mpr ⟨rfl, ih (fun b hb => hf b (List.mem_cons_of_mem _ hb))
        (fun b hb => hf' b (List.mem_cons_of_mem _ hb)) ⟨rest, htail⟩⟩

end Muxwire.Wire
