import Muxwire.Power

/-!
# Syncs

A sync ties a response to its request. The counter issues them in order, from 1 up to 2^32 - 1 and
then from 1 again; 0 is never issued.
-/

namespace Muxwire.Mux

/-- The counter, as the last sync that it issued; 0 before the first. -/
structure SyncCounter where
  last : UInt32
  deriving DecidableEq, Repr, Inhabited

namespace SyncCounter

/-- A counter that has issued nothing. -/
def new : SyncCounter := ⟨0⟩

/-- The sync after the last one. -/
def following (c : SyncCounter) : UInt32 :=
  if c.last = 0xFFFFFFFF then 1 else c.last + 1

/-- Issues the next sync. -/
def next (c : SyncCounter) : UInt32 × SyncCounter :=
  (c.following, ⟨c.following⟩)

/-- The next `n` syncs, and the counter after them; those issued before are held in reverse. -/
def takeOnto (found : List UInt32) : Nat → SyncCounter → List UInt32 × SyncCounter
  | 0, c => (found.reverse, c)
  | n + 1, c => takeOnto (c.following :: found) n c.next.2

/-- The next `n` syncs. -/
def take (n : Nat) (c : SyncCounter) : List UInt32 :=
  (takeOnto [] n c).1

/-- **The next sync in numbers**: the last one modulo 2^32 - 1, plus one. -/
theorem toNat_following (c : SyncCounter) :
    c.following.toNat = c.last.toNat % (2 ^ 32 - 1) + 1 := by
  have h := c.last.toNat_lt
  unfold following
  split
  · rename_i he
    rw [he]
    rfl
  · rename_i hne
    have hlt : c.last.toNat < 2 ^ 32 - 1 := by
      have : c.last.toNat ≠ 0xFFFFFFFF := fun he => hne (UInt32.toNat_inj.1 he)
      omega
    rw [UInt32.toNat_add, Nat.mod_eq_of_lt hlt]
    simp only [UInt32.reduceToNat]
    omega

/-- No sync is zero. -/
theorem following_ne_zero (c : SyncCounter) : c.following ≠ 0 := by
  intro h
  have := toNat_following c
  rw [h] at this
  simp at this

end SyncCounter

end Muxwire.Mux
