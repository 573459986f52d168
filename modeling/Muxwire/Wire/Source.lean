import Muxwire.Wire.Frame

/-!
# Streams of octets

A `Source` is a stream that delivers its octets in pieces and then ends, properly or by a fault.

* `Source.readExact` collects a given number of octets over as many pieces as it takes
  (`readExact_eq`: what it returns depends on the joined pieces only).
* `Source.readFrame` reads one frame. A stream that ends before or inside a frame counts as closed.
* `Source.readFrames` reads frames until one fails.
-/

namespace Muxwire.Wire

/-- How a stream ends. -/
inductive Ending where
  | eof
  | fault (fault : IoFault)
  deriving DecidableEq, Repr

/-- A stream: the pieces still to be delivered, and the end. -/
structure Source where
  pieces : List Octets
  ending : Ending
  deriving DecidableEq, Repr

namespace Source

/-- All octets still to be delivered. -/
def octets (s : Source) : Octets :=
  s.pieces.flatten

/-- Cuts octets into pieces of `n`. The piece begun and the pieces found so far are held in
reverse; `room` octets more go into the piece begun. -/
def chunksOnto (n room : Nat) (piece : Octets) (found : List Octets) : Octets → List Octets
  | [] => (piece.reverse :: found).reverse
  | b :: bs =>
    match room with
    | 0 => chunksOnto n (n - 1) [b] (piece.reverse :: found) bs
    | room + 1 => chunksOnto n room (b :: piece) found bs

/-- A stream that delivers octets in pieces of `n`, or all at once if `n` is 0. -/
def ofOctets (bs : Octets) (n : Nat) (ending : Ending) : Source :=
  ⟨if n = 0 then [bs] else chunksOnto n n [] [] bs, ending⟩

theorem flatten_chunksOnto (n room : Nat) (piece : Octets) (found : List Octets) (bs : Octets) :
    (chunksOnto n room piece found bs).flatten = found.reverse.flatten ++ piece.reverse ++ bs := by
  induction bs generalizing room piece found with
  | nil => simp [chunksOnto]
  | cons b bs ih => cases room <;> simp [chunksOnto, ih]

/-- **Cutting into pieces loses nothing.** -/
@[simp] theorem octets_ofOctets (bs : Octets) (n : Nat) (ending : Ending) :
    (ofOctets bs n ending).octets = bs := by
  unfold ofOctets octets
  split <;> simp [flatten_chunksOnto]

/-! ## 1. A number of octets -/

/-- Collects `n` more octets behind those in `found`, which is held in reverse. -/
def collect (n : Nat) (found : Octets) : List Octets → Option Octets × List Octets
  | [] => if n = 0 then (some found.reverse, []) else (none, [])
  | piece :: pieces =>
    match Octets.splitExact? n piece with
    | some (front, back) => (some (found.reverse ++ front), back :: pieces)
    | none => collect (n - piece.length) (piece.reverse ++ found) pieces

/-- Reads exactly `n` octets. Where the stream ends first, nothing is left of it. -/
def readExact (n : Nat) (s : Source) : Except Ending Octets × Source :=
  match collect n [] s.pieces with
  | (some front, pieces) => (.ok front, { s with pieces })
  | (none, pieces) => (.error s.ending, { s with pieces })

theorem collect_eq (n : Nat) (found : Octets) (pieces : List Octets) :
    (collect n found pieces).1 =
        (if n ≤ pieces.flatten.length then some (found.reverse ++ pieces.flatten.take n) else none)
      ∧ (collect n found pieces).2.flatten = pieces.flatten.drop n := by
  induction pieces generalizing n found with
  | nil => cases n <;> simp [collect]
  | cons piece pieces ih =>
    rw [collect, Octets.splitExact?_eq]
    by_cases h : n ≤ piece.length
    · have h' : n ≤ (piece ++ pieces.flatten).length := by simp; omega
      simp only [h, if_true, List.flatten_cons, h', List.take_append_of_le_length,
        List.drop_append_of_le_length, true_and]
    · have ⟨ih₁, ih₂⟩ := ih (n - piece.length) (piece.reverse ++ found)
      simp only [h, if_false, ih₁, ih₂, List.flatten_cons, List.length_append, List.reverse_append,
        List.reverse_reverse, List.append_assoc, List.take_append, List.drop_append]
      rw [List.take_of_length_le (by omega : piece.length ≤ n),
        List.drop_of_length_le (by omega : piece.length ≤ n)]
      constructor
      · congr 1
        exact propext ⟨fun _ => by omega, fun _ => by omega⟩
      · simp

/-- **Reading depends on the joined pieces only.** -/
theorem readExact_eq (n : Nat) (s : Source) :
    (s.readExact n).1 = (if n ≤ s.octets.length then .ok (s.octets.take n) else .error s.ending)
      ∧ (s.readExact n).2.octets = s.octets.drop n
      ∧ (s.readExact n).2.ending = s.ending := by
  have ⟨h₁, h₂⟩ := collect_eq n [] s.pieces
  unfold readExact octets
  by_cases h : n ≤ s.pieces.flatten.length
  · rw [if_pos h] at h₁ ⊢
    split <;> simp_all
  · rw [if_neg h] at h₁ ⊢
    split <;> simp_all

/-! ## 2. Frames -/

/-- Why a stream gives no frame. -/
inductive FrameFault where
  | badPrefix (fault : PrefixFault)
  /-- The stream ended before or inside the frame. -/
  | ended (ending : Ending)
  deriving DecidableEq, Repr

/-- The error of a stream that ends where a frame is due. -/
def closedAt : Ending → Error
  | .eof => .connectionClosed
  | .fault fault => if fault.kind = .unexpectedEof then .connectionClosed else .io fault

/-- The error of a missing frame. -/
def FrameFault.error : FrameFault → Error
  | .badPrefix fault => .protocol fault.message
  | .ended ending => closedAt ending

/-- Reads the body of one frame. -/
def readFrame (s : Source) : Except FrameFault Octets × Source :=
  match s.readExact prefixSize with
  | (.error ending, s) => (.error (.ended ending), s)
  | (.ok front, s) =>
    match decodePrefix (front.headD 0) front.tail with
    | .error fault => (.error (.badPrefix fault), s)
    | .ok n =>
      match s.readExact n with
      | (.error ending, s) => (.error (.ended ending), s)
      | (.ok body, s) => (.ok body, s)

/-- A frame that was read has been taken off the stream. -/
theorem length_readFrame_lt {s s' : Source} {body : Octets} (h : s.readFrame = (.ok body, s')) :
    s'.octets.length < s.octets.length := by
  have p := readExact_eq prefixSize s
  unfold readFrame at h
  split at h
  · simp at h
  · rename_i front s₁ h₁
    rw [h₁] at p
    split at h
    · simp at h
    · rename_i n _
      have q := readExact_eq n s₁
      split at h
      · simp at h
      · rename_i body₂ s₂ h₂
        rw [h₂] at q
        simp only [Prod.mk.injEq, Except.ok.injEq] at h
        obtain ⟨_, rfl⟩ := h
        rw [q.2.1, p.2.1]
        by_cases hs : prefixSize ≤ s.octets.length
        · simp only [List.length_drop, prefixSize] at hs ⊢
          omega
        · have := p.1
          simp [hs] at this

/-- Reads frames until one fails: the bodies, the fault, and what is left of the stream. Bodies
read before are held in reverse. -/
def readFramesOnto (found : List Octets) (s : Source) : List Octets × FrameFault × Source :=
  match _h : s.readFrame with
  | (.error e, s') => (found.reverse, e, s')
  | (.ok body, s') => readFramesOnto (body :: found) s'
termination_by s.octets.length
decreasing_by exact length_readFrame_lt _h

/-- Reads frames until one fails. -/
def readFrames (s : Source) : List Octets × FrameFault × Source :=
  readFramesOnto [] s

end Source

end Muxwire.Wire
