import Muxwire.Proofs.FrameStream
import Muxwire.Wire.Source

/-!
# Reading a stream of frames

What comes of reading frames until one fails, for every stream, every end of it and every way of
cutting it into pieces.

* `Decomposes octets bodies rest` -- the octets are the frames of the bodies and a rest that no
  frame begins. `Decomposes.unique`: there is one way at most.
* `Stops ending rest e unread` -- what a rest and the end of the stream come to: the error, and
  what stays unread.
* `readFrame_eq` -- one frame is read as it is split off the joined pieces.
* **`readFrames_decomposes`** -- the bodies read are those of the decomposition, and the error and
  what stays unread are those of its rest. A stream of admissible bodies is read as these bodies,
  and one that was cut short as those of them whose frames are whole.
-/

namespace Muxwire.Wire

/-! ## 1. What may stand where a frame is due -/

/-- A marker and a length that announce no body, and what is wrong with them. -/
inductive BadPrefix (marker : UInt8) (length : Octets) : PrefixFault → Prop where
  | wrongMarker (hm : marker ≠ 0xce) : BadPrefix marker length (.wrongMarker marker)
  | emptyBody (hm : marker = 0xce) (hz : Octets.ofBigEndian length = 0) :
      BadPrefix marker length .emptyBody
  | bodyTooLong (hm : marker = 0xce) (hl : 2 ^ 30 < Octets.ofBigEndian length) :
      BadPrefix marker length (.bodyTooLong (Octets.ofBigEndian length))

theorem decodePrefix_eq_error_iff {marker : UInt8} {length : Octets} {fault : PrefixFault} :
    decodePrefix marker length = .error fault ↔ BadPrefix marker length fault := by
  have one : lengthMarker = 0xce := rfl
  have most : maxBody = 2 ^ 30 := rfl
  unfold decodePrefix
  rw [one, most]
  constructor
  · intro h
    dsimp only at h
    split at h
    · rename_i hm
      cases h
      exact .wrongMarker hm
    · rename_i hm
      have hm := Decidable.not_not.mp hm
      split at h
      · rename_i hz
        cases h
        exact .emptyBody hm hz
      · split at h
        · rename_i hl
          cases h
          exact .bodyTooLong hm hl
        · cases h
  · intro h
    cases h with
    | wrongMarker hm => exact if_pos hm
    | emptyBody hm hz =>
      rw [if_neg (Decidable.not_not.mpr hm), if_pos hz]
    | bodyTooLong hm hl =>
      have hz : Octets.ofBigEndian length ≠ 0 := by omega
      rw [if_neg (Decidable.not_not.mpr hm), if_neg hz, if_pos hl]

/-- The error of a stream that ends before the next frame is whole. -/
inductive Closes : Ending → Error → Prop where
  | eof : Closes .eof .connectionClosed
  | unexpectedEof {fault : IoFault} (h : fault.kind = .unexpectedEof) :
      Closes (.fault fault) .connectionClosed
  | fault {fault : IoFault} (h : fault.kind ≠ .unexpectedEof) : Closes (.fault fault) (.io fault)

theorem closes_iff {ending : Ending} {e : Error} :
    Closes ending e ↔ Source.closedAt ending = e := by
  constructor
  · intro h
    cases h with
    | eof => rfl
    | unexpectedEof h => exact if_pos h
    | fault h => exact if_neg h
  · rintro rfl
    cases ending with
    | eof => exact .eof
    | fault fault =>
      by_cases h : fault.kind = .unexpectedEof
      · rw [Source.closedAt, if_pos h]
        exact .unexpectedEof h
      · rw [Source.closedAt, if_neg h]
        exact .fault h

/-- What the reading comes to at a rest that no frame begins: its error, and what stays unread. -/
inductive Stops (ending : Ending) : Octets → Error → Octets → Prop where
  /-- Five octets that are no prefix are taken off. -/
  | badPrefix {marker : UInt8} {length after : Octets} {fault : PrefixFault}
      (four : length.length = 4) (bad : BadPrefix marker length fault) :
      Stops ending (marker :: (length ++ after)) (.protocol fault.message) after
  /-- Fewer than five octets are lost. -/
  | short {rest : Octets} {e : Error} (h : rest.length < 5) (closed : Closes ending e) :
      Stops ending rest e []
  /-- A frame that is cut short is lost. -/
  | cut {n : UInt32} {begun : Octets} {e : Error} (pos : 0 < n.toNat) (le : n.toNat ≤ 2 ^ 30)
      (h : begun.length < n.toNat) (closed : Closes ending e) :
      Stops ending (encodePrefix n ++ begun) e []

/-! ## 2. The three ways to split -/

theorem split_eq_bad_iff {octets rest : Octets} {fault : PrefixFault} :
    split octets = .bad fault rest
      ↔ ∃ marker length, length.length = 4 ∧ BadPrefix marker length fault
        ∧ octets = marker :: (length ++ rest) := by
  constructor
  · intro h
    unfold split at h
    split at h
    · cases h
    · rename_i front behind hs
      obtain ⟨rfl, hl⟩ := eq_of_splitExact? hs
      split at h
      · rename_i hd
        cases h
        cases front with
        | nil => cases hl
        | cons marker length =>
          exact ⟨marker, length, Nat.succ.inj hl, decodePrefix_eq_error_iff.mp hd, rfl⟩
      · split at h <;> cases h
  · rintro ⟨marker, length, four, bad, rfl⟩
    have hs := Octets.splitExact?_append (marker :: length) rest
    have hl : (marker :: length).length = prefixSize := congrArg Nat.succ four
    have hd := decodePrefix_eq_error_iff.mpr bad
    rw [hl, List.cons_append] at hs
    simp only [split, hs, List.headD_cons, List.tail_cons, hd]

/-- A prefix that is read is the one of an admissible length. -/
theorem eq_encodePrefix_of_ok {front : Octets} {n : Nat} (hl : front.length = prefixSize)
    (hd : decodePrefix (front.headD 0) front.tail = .ok n) :
    front = encodePrefix (UInt32.ofNat n) ∧ (UInt32.ofNat n).toNat = n ∧ 0 < n ∧ n ≤ 2 ^ 30 := by
  obtain ⟨-, -, pos, le⟩ := decodePrefix_eq_ok hd
  have fits : Fits (List.replicate n 0) := by
    rw [Fits, List.length_replicate]
    exact ⟨pos, le⟩
  have he := eq_encodePrefix hl hd List.length_replicate fits
  have hn := fits.toNat_length
  rw [List.length_replicate] at he hn
  exact ⟨he, hn, pos, le⟩

theorem split_eq_incomplete_iff {octets : Octets} :
    split octets = .incomplete
      ↔ octets.length < 5 ∨ ∃ (n : UInt32) (begun : Octets), 0 < n.toNat ∧ n.toNat ≤ 2 ^ 30
        ∧ begun.length < n.toNat ∧ octets = encodePrefix n ++ begun := by
  constructor
  · intro h
    unfold split at h
    split at h
    · rename_i hs
      rw [Octets.splitExact?_eq] at hs
      split at hs
      · cases hs
      · rename_i hl
        exact .inl (Nat.not_le.mp hl)
    · rename_i front behind hs
      obtain ⟨rfl, hl⟩ := eq_of_splitExact? hs
      split at h
      · cases h
      · rename_i n hd
        obtain ⟨rfl, hn, pos, le⟩ := eq_encodePrefix_of_ok hl hd
        split at h
        · rename_i hb
          rw [Octets.splitExact?_eq] at hb
          split at hb
          · cases hb
          · rename_i hlt
            refine .inr ⟨UInt32.ofNat n, behind, ?_⟩
            rw [hn]
            exact ⟨pos, le, Nat.not_le.mp hlt, rfl⟩
        · cases h
  · rintro (hl | ⟨n, begun, pos, le, hlt, rfl⟩)
    · have hs : ¬ prefixSize ≤ octets.length := Nat.not_le.mpr hl
      simp only [split, Octets.splitExact?_eq, hs, if_false]
    · have hs := Octets.splitExact?_append (encodePrefix n) begun
      rw [length_encodePrefix] at hs
      have hd : decodePrefix lengthMarker (Octets.bigEndian 4 n.toNat) = .ok n.toNat :=
        decodePrefix_bigEndian pos le
      have hb : Octets.splitExact? n.toNat begun = none := by
        rw [Octets.splitExact?_eq, if_neg (Nat.not_le.mpr hlt)]
      simp only [split, hs]
      simp only [encodePrefix, List.headD_cons, List.tail_cons, hd, hb]

/-- **Where the reading stops is told by the split of the rest.** -/
theorem stops_iff {ending : Ending} {rest unread : Octets} {e : Error} :
    Stops ending rest e unread
      ↔ (∃ fault, split rest = .bad fault unread ∧ e = .protocol fault.message)
        ∨ (split rest = .incomplete ∧ Source.closedAt ending = e ∧ unread = []) := by
  constructor
  · intro h
    cases h with
    | badPrefix four bad => exact .inl ⟨_, split_eq_bad_iff.mpr ⟨_, _, four, bad, rfl⟩, rfl⟩
    | short h closed =>
      exact .inr ⟨split_eq_incomplete_iff.mpr (.inl h), closes_iff.mp closed, rfl⟩
    | cut pos le h closed =>
      exact .inr ⟨split_eq_incomplete_iff.mpr (.inr ⟨_, _, pos, le, h, rfl⟩),
        closes_iff.mp closed, rfl⟩
  · rintro (⟨fault, hs, rfl⟩ | ⟨hs, hc, rfl⟩)
    · obtain ⟨marker, length, four, bad, rfl⟩ := split_eq_bad_iff.mp hs
      exact .badPrefix four bad
    · have closed := closes_iff.mpr hc
      rcases split_eq_incomplete_iff.mp hs with h | ⟨n, begun, pos, le, h, rfl⟩
      · exact .short h closed
      · exact .cut pos le h closed

/-- The rest and the end of the stream tell the error and what stays unread. -/
theorem Stops.unique {ending : Ending} {rest unread unread' : Octets} {e e' : Error}
    (h : Stops ending rest e unread) (h' : Stops ending rest e' unread') :
    e = e' ∧ unread = unread' := by
  rcases stops_iff.mp h with ⟨fault, hs, rfl⟩ | ⟨hs, rfl, rfl⟩
  · rcases stops_iff.mp h' with ⟨fault', hs', rfl⟩ | ⟨hs', -, -⟩
    · rw [hs] at hs'
      cases hs'
      exact ⟨rfl, rfl⟩
    · rw [hs] at hs'
      cases hs'
  · rcases stops_iff.mp h' with ⟨fault', hs', -⟩ | ⟨-, rfl, rfl⟩
    · rw [hs] at hs'
      cases hs'
    · exact ⟨rfl, rfl⟩

/-! ## 3. Decompositions -/

/-- The octets are the frames of the bodies and a rest that no frame begins. -/
structure Decomposes (octets : Octets) (bodies : List Octets) (rest : Octets) : Prop where
  fits : ∀ body ∈ bodies, Fits body
  octets_eq : octets = stream bodies ++ rest
  stuck : ∀ body after, Fits body → rest ≠ frameOf body ++ after

/-- The frames that stand in front of a stream are the first of it. -/
theorem Decomposes.front {octets rest : Octets} {read bodies : List Octets}
    (h : Decomposes octets read rest) (fits : ∀ body ∈ bodies, Fits body)
    (hp : stream bodies <+: octets) : bodies <+: read := by
  obtain ⟨fits', rfl, stuck⟩ := h
  induction bodies generalizing read with
  | nil => exact List.nil_prefix
  | cons body bodies ih =>
    obtain ⟨behind, he⟩ := hp
    rw [stream_cons, List.append_assoc] at he
    have hf := fits body List.mem_cons_self
    cases read with
    | nil => exact absurd he.symm (stuck _ _ hf)
    | cons body' read =>
      rw [stream_cons, List.append_assoc] at he
      obtain ⟨rfl, htail⟩ := frameOf_append_inj hf (fits' _ List.mem_cons_self) he
      refine List.cons_prefix_cons.mpr ⟨rfl, ih ?_ ?_ ⟨behind, htail⟩⟩
      · exact fun b hb => fits b (List.mem_cons_of_mem _ hb)
      · exact fun b hb => fits' b (List.mem_cons_of_mem _ hb)

/-- **There is one decomposition at most.** -/
theorem Decomposes.unique {octets rest rest' : Octets} {bodies bodies' : List Octets}
    (h : Decomposes octets bodies rest) (h' : Decomposes octets bodies' rest') :
    bodies = bodies' ∧ rest = rest' := by
  have le : bodies <+: bodies' := h'.front h.fits (h.octets_eq ▸ List.prefix_append _ _)
  have ge : bodies' <+: bodies := h.front h'.fits (h'.octets_eq ▸ List.prefix_append _ _)
  have same : bodies = bodies' := le.eq_of_length_le ge.length_le
  subst same
  exact ⟨rfl, List.append_cancel_left (h.octets_eq.symm.trans h'.octets_eq)⟩

/-- A rest at which the reading stops is begun by no frame. -/
theorem Stops.stuck {ending : Ending} {rest unread : Octets} {e : Error}
    (h : Stops ending rest e unread) (body after : Octets) (hf : Fits body) :
    rest ≠ frameOf body ++ after := by
  rintro rfl
  have hs := split_frameOf hf after
  rcases stops_iff.mp h with ⟨fault, hb, -⟩ | ⟨hb, -⟩
  · rw [hs] at hb
    cases hb
  · rw [hs] at hb
    cases hb

/-! ## 4. Reading -/

/-- What reading gives for a split, at the end of a stream: a body or a fault, and what is left. -/
def Split.read (ending : Ending) : Split → Except Source.FrameFault Octets × Octets
  | .frame body rest => (.ok body, rest)
  | .bad fault rest => (.error (.badPrefix fault), rest)
  | .incomplete => (.error (.ended ending), [])

namespace Source

/-- **One frame is read as it is split off the joined pieces**, and the end of the stream stays. -/
theorem readFrame_eq (s : Source) :
    (s.readFrame.1, s.readFrame.2.octets) = (split s.octets).read s.ending
      ∧ s.readFrame.2.ending = s.ending := by
  obtain ⟨hfront, hrest, hend⟩ := readExact_eq prefixSize s
  unfold readFrame split
  rw [Octets.splitExact?_eq]
  cases hp : s.readExact prefixSize with
  | mk result s₁ =>
    rw [hp] at hfront hrest hend
    dsimp only at hfront hrest hend
    by_cases enough : prefixSize ≤ s.octets.length
    · rw [if_pos enough] at hfront ⊢
      subst hfront
      dsimp only
      cases hd : decodePrefix ((s.octets.take prefixSize).headD 0)
          (s.octets.take prefixSize).tail with
      | error fault => exact ⟨congrArg (Prod.mk _) hrest, hend⟩
      | ok n =>
        obtain ⟨hbody, hleft, hend₂⟩ := readExact_eq n s₁
        dsimp only
        rw [Octets.splitExact?_eq]
        cases hb : s₁.readExact n with
        | mk result s₂ =>
          rw [hb] at hbody hleft hend₂
          dsimp only at hbody hleft hend₂
          rw [hrest] at hbody hleft
          by_cases whole : n ≤ (s.octets.drop prefixSize).length
          · rw [if_pos whole] at hbody ⊢
            subst hbody
            exact ⟨congrArg (Prod.mk _) hleft, hend₂.trans hend⟩
          · rw [if_neg whole, hend] at hbody
            rw [if_neg whole]
            subst hbody
            have gone : (s.octets.drop prefixSize).drop n = [] :=
              List.drop_eq_nil_of_le (Nat.le_of_lt (Nat.not_le.mp whole))
            exact ⟨congrArg (Prod.mk _) (hleft.trans gone), hend₂.trans hend⟩
    · rw [if_neg enough] at hfront ⊢
      subst hfront
      have gone : s.octets.drop prefixSize = [] :=
        List.drop_eq_nil_of_le (Nat.le_of_lt (Nat.not_le.mp enough))
      exact ⟨congrArg (Prod.mk _) (hrest.trans gone), hend⟩

/-- A frame that is read stood in front of what is left. -/
theorem readFrame_ok {s s' : Source} {body : Octets} (h : s.readFrame = (.ok body, s')) :
    Fits body ∧ s.octets = frameOf body ++ s'.octets ∧ s'.ending = s.ending := by
  obtain ⟨hread, hend⟩ := readFrame_eq s
  rw [h] at hread hend
  cases hs : split s.octets with
  | frame body' rest =>
    rw [hs] at hread
    cases hread
    obtain ⟨hf, he⟩ := split_eq_frame_iff.mp hs
    exact ⟨hf, he, hend⟩
  | bad fault rest =>
    rw [hs] at hread
    cases hread
  | incomplete =>
    rw [hs] at hread
    cases hread

/-- Where no frame is read, the reading stops. -/
theorem readFrame_error {s s' : Source} {fault : FrameFault}
    (h : s.readFrame = (.error fault, s')) : Stops s.ending s.octets fault.error s'.octets := by
  have hread := (readFrame_eq s).1
  rw [h] at hread
  refine stops_iff.mpr ?_
  cases hs : split s.octets with
  | frame body rest =>
    rw [hs] at hread
    cases hread
  | bad bad rest =>
    rw [hs] at hread
    cases hread
    exact .inl ⟨bad, rfl, rfl⟩
  | incomplete =>
    rw [hs] at hread
    simp only [Split.read, Prod.mk.injEq, Except.error.injEq] at hread
    obtain ⟨rfl, hu⟩ := hread
    exact .inr ⟨rfl, rfl, hu⟩

/-- The frame in front of a stream is read. -/
theorem readFrame_of_frame {s : Source} {body rest : Octets} (hf : Fits body)
    (he : s.octets = frameOf body ++ rest) :
    ∃ s', s.readFrame = (.ok body, s') ∧ s'.octets = rest ∧ s'.ending = s.ending := by
  cases hr : s.readFrame with
  | mk result s' =>
    cases result with
    | error fault => exact absurd he ((readFrame_error hr).stuck body rest hf)
    | ok body' =>
      obtain ⟨hf', he', hend⟩ := readFrame_ok hr
      obtain ⟨rfl, rfl⟩ := frameOf_append_inj hf hf' (he.symm.trans he')
      exact ⟨s', rfl, rfl, hend⟩

/-- Where the reading stops no frame is read. -/
theorem readFrame_of_stops {s : Source} {e : Error} {unread : Octets}
    (h : Stops s.ending s.octets e unread) :
    ∃ fault s', s.readFrame = (.error fault, s') ∧ fault.error = e := by
  cases hr : s.readFrame with
  | mk result s' =>
    cases result with
    | error fault => exact ⟨fault, s', rfl, ((readFrame_error hr).unique h).1⟩
    | ok body =>
      obtain ⟨hf, he, -⟩ := readFrame_ok hr
      exact absurd he (h.stuck body s'.octets hf)

/-- Reading on from any state of the loop decomposes what is left of the stream. -/
theorem readFramesOnto_eq (found : List Octets) (s : Source) :
    ∃ bodies rest, (readFramesOnto found s).1 = found.reverse ++ bodies
      ∧ (∀ body ∈ bodies, Fits body) ∧ s.octets = stream bodies ++ rest
      ∧ Stops s.ending rest (readFramesOnto found s).2.1.error
        (readFramesOnto found s).2.2.octets := by
  induction found, s using readFramesOnto.induct with
  | case1 found s fault s' h =>
    rw [readFramesOnto, h]
    exact ⟨[], s.octets, (List.append_nil _).symm, nofun, rfl, readFrame_error h⟩
  | case2 found s body s' h ih =>
    obtain ⟨bodies, rest, hb, hf, he, hstop⟩ := ih
    obtain ⟨hbody, heq, hend⟩ := readFrame_ok h
    rw [readFramesOnto, h]
    dsimp only
    refine ⟨body :: bodies, rest, ?_, ?_, ?_, hend ▸ hstop⟩
    · rw [hb, List.reverse_cons, List.append_assoc, List.singleton_append]
    · exact List.forall_mem_cons.mpr ⟨hbody, hf⟩
    · rw [heq, he, stream_cons, List.append_assoc]

/-- **The bodies read are those of a decomposition**, and the reading stops at its rest. -/
theorem exists_decomposes (s : Source) :
    ∃ rest, Decomposes s.octets s.readFrames.1 rest
      ∧ Stops s.ending rest s.readFrames.2.1.error s.readFrames.2.2.octets := by
  obtain ⟨bodies, rest, hb, hf, he, hstop⟩ := readFramesOnto_eq [] s
  have hb : s.readFrames.1 = bodies := hb
  exact ⟨rest, ⟨hb ▸ hf, hb ▸ he, hstop.stuck⟩, hstop⟩

end Source

/-! ## 5. Streams that were cut short -/

/-- A rest that the frames of admissible bodies begin with is no bad prefix. -/
theorem Stops.closes_of_prefix {ending : Ending} {rest unread : Octets} {e : Error}
    {bodies : List Octets} (h : Stops ending rest e unread) (fits : ∀ body ∈ bodies, Fits body)
    (hp : rest <+: stream bodies) : Closes ending e ∧ unread = [] := by
  rcases stops_iff.mp h with ⟨fault, hs, -⟩ | ⟨-, hc, hu⟩
  · obtain ⟨marker, length, four, bad, rfl⟩ := split_eq_bad_iff.mp hs
    obtain ⟨more, hp⟩ := hp
    rw [List.cons_append, List.append_assoc] at hp
    cases bodies with
    | nil => cases hp
    | cons body bodies =>
      rw [stream_cons] at hp
      have whole := split_frameOf (fits body List.mem_cons_self) (stream bodies)
      rw [← hp, split_eq_bad_iff.mpr ⟨marker, length, four, bad, rfl⟩] at whole
      cases whole
  · exact ⟨closes_iff.mpr hc, hu⟩

/-- Of a stream that was cut short, the frames that are whole are read. -/
theorem Decomposes.front_iff {octets rest : Octets} {read bodies front : List Octets}
    (h : Decomposes octets read rest) (fits : ∀ body ∈ bodies, Fits body)
    (hfront : front <+: bodies) : front <+: read ↔ stream front <+: octets := by
  constructor
  · rintro ⟨more, rfl⟩
    rw [h.octets_eq, stream_append, List.append_assoc]
    exact List.prefix_append _ _
  · exact h.front fun b hb => fits b (hfront.subset hb)

/-- What reading all frames of a stream comes to. -/
structure ReadsFrames (s : Source) : Prop where
  /-- The bodies that are read are the one way to decompose the stream, and the error and what
  stays unread are told by the rest and by the end. -/
  decomposes : ∃ rest,
    (∀ bodies rest', Decomposes s.octets bodies rest' ↔ bodies = s.readFrames.1 ∧ rest' = rest)
    ∧ ∀ e unread, Stops s.ending rest e unread
      ↔ e = s.readFrames.2.1.error ∧ unread = s.readFrames.2.2.octets
  /-- A stream of frames is read as their bodies. -/
  whole : ∀ bodies, (∀ body ∈ bodies, Fits body) → s.octets = stream bodies →
    s.readFrames.1 = bodies
  /-- A stream that was cut short is read as the bodies of which nothing is missing. -/
  cut : ∀ bodies, (∀ body ∈ bodies, Fits body) → s.octets <+: stream bodies →
    s.readFrames.1 <+: bodies
    ∧ ∀ front, front <+: bodies → (front <+: s.readFrames.1 ↔ stream front <+: s.octets)
  /-- Of a stream that was cut short nothing is left unread, and the error is that of its end. -/
  closes : ∀ bodies, (∀ body ∈ bodies, Fits body) → s.octets <+: stream bodies →
    Closes s.ending s.readFrames.2.1.error ∧ s.readFrames.2.2.octets = []

/-- **Every stream is read as its one decomposition**, whatever the pieces in which it comes. -/
theorem readFrames_decomposes (s : Source) : ReadsFrames s := by
  obtain ⟨rest, hd, hstop⟩ := s.exists_decomposes
  refine ⟨⟨rest, ?_, ?_⟩, ?_, ?_, ?_⟩
  · intro bodies rest'
    constructor
    · exact fun h => h.unique hd
    · rintro ⟨rfl, rfl⟩
      exact hd
  · intro e unread
    constructor
    · exact fun h => h.unique hstop
    · rintro ⟨rfl, rfl⟩
      exact hstop
  · intro bodies fits he
    have hall : Decomposes s.octets bodies [] := by
      refine ⟨fits, by rw [he, List.append_nil], ?_⟩
      intro body after _ hn
      cases hn
    exact (hd.unique hall).1
  · intro bodies fits hp
    refine ⟨front_of_stream hd.fits fits ?_, fun front => hd.front_iff fits⟩
    exact (hd.octets_eq ▸ List.prefix_append _ _).trans hp
  · intro bodies fits hp
    have hread : s.readFrames.1 <+: bodies :=
      front_of_stream hd.fits fits ((hd.octets_eq ▸ List.prefix_append _ _).trans hp)
    obtain ⟨more, rfl⟩ := hread
    rw [hd.octets_eq, stream_append] at hp
    have hrest : rest <+: stream more := (List.prefix_append_right_inj _).mp hp
    exact hstop.closes_of_prefix (fun body hb => fits body (List.mem_append_right _ hb)) hrest

end Muxwire.Wire
