import Muxwire.Proofs.SyncCounter

/-!
# The period of the syncs

The syncs of a counter go round through all words but 0, wherever it stands.

* `issued n` is the sync that comes after `n` others; `toNat_issued` gives it in numbers.
* `stepWord?` -- the step of the counter by a sum of words that must stay one. **`stepWord?_eq`**
  says that it always does.
* `issued_eq_iff` -- two syncs of one counter are the same exactly if they are whole periods apart.
* **`issued_cyclic`** -- all this together, with what it means for a period of syncs in a row.
-/

namespace Muxwire.Mux.SyncCounter

/-- How many syncs there are. -/
def period : Nat := 2 ^ 32 - 1

/-- The sync that is issued after `n` others. -/
def issued (c : SyncCounter) (n : Nat) : UInt32 :=
  (c.after n).next.1

/-! ## 1. One step in words -/

/-- The sum of two words, if it is a word. -/
def addWord? (m n : UInt32) : Option UInt32 :=
  if m.toNat + n.toNat < 2 ^ 32 then some (m + n) else none

/-- The sync after the last one as a sum: the greatest word counts as 0. -/
def stepWord? (last : UInt32) : Option UInt32 :=
  addWord? (if last = 0xFFFFFFFF then 0 else last) 1

/-- **The sum is always a word**, and the next sync. -/
theorem stepWord?_eq (c : SyncCounter) : stepWord? c.last = some c.following := by
  have next := toNat_following c
  have last := c.last.toNat_lt
  by_cases greatest : c.last = 0xFFFFFFFF
  · rw [stepWord?, if_pos greatest, following, if_pos greatest]
    rfl
  · have less : c.last.toNat ≠ 2 ^ 32 - 1 := fun h => greatest (UInt32.toNat_inj.mp h)
    have inside : c.last.toNat + (1 : UInt32).toNat < 2 ^ 32 := by
      simp only [UInt32.reduceToNat]
      omega
    rw [stepWord?, if_neg greatest, addWord?, if_pos inside, following, if_neg greatest]

/-! ## 2. The syncs in numbers -/

theorem issued_succ (n : Nat) (c : SyncCounter) : c.issued (n + 1) = c.next.2.issued n := by
  rw [issued, issued, after_succ]

/-- What is issued is the list of the syncs one by one. -/
theorem take_eq_map_issued (n : Nat) (c : SyncCounter) :
    c.take n = (List.range n).map c.issued := by
  induction n with
  | zero => rfl
  | succ n ih =>
    rw [take_succ_last, ih, List.range_succ, List.map_append]
    rfl

/-- **The sync after `n` others in numbers.** -/
theorem toNat_issued (n : Nat) (c : SyncCounter) :
    (c.issued n).toNat = (c.last.toNat + n) % period + 1 := by
  induction n generalizing c with
  | zero => exact toNat_following c
  | succ n ih =>
    rw [issued_succ, ih, next_snd_last, toNat_following]
    simp only [period]
    omega

/-- After the greatest sync comes 1, and after any other the next number. -/
theorem toNat_issued_succ (n : Nat) (c : SyncCounter) :
    (c.issued (n + 1)).toNat =
      if c.issued n = 0xFFFFFFFF then 1 else (c.issued n).toNat + 1 := by
  have this := toNat_issued n c
  have next := toNat_issued (n + 1) c
  simp only [period] at this next
  have greatest : c.issued n = 0xFFFFFFFF ↔ (c.issued n).toNat = 2 ^ 32 - 1 := by
    rw [← UInt32.toNat_inj]
    rfl
  split
  · rename_i h
    have h := greatest.mp h
    omega
  · rename_i h
    have h := mt greatest.mpr h
    omega

/-! ## 3. Periods -/

/-- **Two syncs are the same exactly if they are whole periods apart.** -/
theorem issued_eq_iff {m n : Nat} {c : SyncCounter} :
    c.issued m = c.issued n ↔ m % period = n % period := by
  rw [← UInt32.toNat_inj, toNat_issued, toNat_issued]
  simp only [period]
  omega

/-- Every sync comes within a period, whatever was issued before. -/
theorem exists_issued {sync : UInt32} (h : sync ≠ 0) (m : Nat) (c : SyncCounter) :
    ∃ n, n < period ∧ c.issued (m + n) = sync := by
  have positive : sync.toNat ≠ 0 := fun he => h (UInt32.toNat_inj.mp he)
  have small := sync.toNat_lt
  refine ⟨(sync.toNat - 1 + (period - (c.last.toNat + m) % period)) % period, ?_, ?_⟩
  · exact Nat.mod_lt _ (by decide)
  · rw [← UInt32.toNat_inj, toNat_issued]
    simp only [period]
    omega

/-- How the syncs of a counter follow each other. -/
structure Cyclic (c : SyncCounter) : Prop where
  /-- The counter takes one step for each sync that it issues. -/
  stepped : c.after 0 = c ∧ ∀ n, c.after (n + 1) = (c.after n).next.2
  /-- Syncs are issued one by one. -/
  listed : ∀ n, c.take n = (List.range n).map c.issued
  /-- Each sync is issued by a sum that is a word. -/
  inRange : ∀ n, stepWord? (c.after n).last = some (c.issued n)
  /-- The `n`-th sync, counted from 1, has this number. -/
  number : ∀ n, 1 ≤ n →
    (c.issued (n - 1)).toNat = (c.last.toNat + n - 1) % (2 ^ 32 - 1) + 1
  /-- No sync is 0. -/
  nonzero : ∀ n, c.issued n ≠ 0
  /-- Each sync is the one before it plus one, but for the 1 after the greatest word. -/
  successor : ∀ n, (c.issued (n + 1)).toNat =
    if c.issued n = 0xFFFFFFFF then 1 else (c.issued n).toNat + 1
  /-- From anywhere on, the next `2^32 - 1` syncs are all different. -/
  distinct : ∀ m i j, i < 2 ^ 32 - 1 → j < 2 ^ 32 - 1 → c.issued (m + i) = c.issued (m + j) → i = j
  /-- From anywhere on, the next `2^32 - 1` syncs are all the words but 0. -/
  covering : ∀ m sync, sync ≠ 0 ↔ ∃ i, i < 2 ^ 32 - 1 ∧ c.issued (m + i) = sync
  /-- Each sync is issued again after `2^32 - 1` of them. -/
  again : ∀ n, c.issued (n + (2 ^ 32 - 1)) = c.issued n
  /-- No sync is issued again before that. -/
  notBefore : ∀ n k, 0 < k → k < 2 ^ 32 - 1 → c.issued (n + k) ≠ c.issued n

/-- **The syncs go round through all words but 0**, wherever the counter stands. -/
theorem issued_cyclic (c : SyncCounter) : Cyclic c := by
  have nonzero (n : Nat) : c.issued n ≠ 0 := (c.after n).following_ne_zero
  refine ⟨?stepped, ?listed, ?inRange, ?number, nonzero, ?successor, ?distinct, ?covering, ?again,
    ?notBefore⟩
  case stepped => exact ⟨after_zero c, fun n => after_succ_last n c⟩
  case listed => exact fun n => take_eq_map_issued n c
  case inRange => exact fun n => stepWord?_eq (c.after n)
  case number =>
    intro n first
    rw [toNat_issued, period, Nat.add_sub_assoc first]
  case successor => exact fun n => toNat_issued_succ n c
  case distinct =>
    intro m i j hi hj same
    have apart := issued_eq_iff.mp same
    simp only [period] at apart
    omega
  case covering =>
    intro m sync
    constructor
    · exact fun h => exists_issued h m c
    · rintro ⟨i, -, rfl⟩
      exact nonzero (m + i)
  case again =>
    intro n
    exact issued_eq_iff.mpr (Nat.add_mod_right n period)
  case notBefore =>
    intro n k pos less same
    have apart := issued_eq_iff.mp same
    simp only [period] at apart
    omega

/-- From the last sync but one. -/
example : (⟨0xFFFFFFFE⟩ : SyncCounter).take 3 = [0xFFFFFFFF, 1, 2] := rfl

end Muxwire.Mux.SyncCounter
