import Mathlib.Data.List.Nodup
import Mathlib.Data.List.Range
import Muxwire.Mux.SyncCounter

/-!
# What the counter issues

* `take_eq` -- the syncs in numbers: the `k`-th sync after the last one is
  `(last + k) % (2^32 - 1) + 1`, so the counter goes through a period of `2^32 - 1` syncs.
* **`nodup_take`** -- within one period no sync is issued twice, wherever the counter stands.
-/

namespace Muxwire.Mux.SyncCounter

/-- The counter after `n` more syncs. -/
def after (n : Nat) (c : SyncCounter) : SyncCounter :=
  (takeOnto [] n c).2

@[simp] theorem next_snd_last (c : SyncCounter) : c.next.2.last = c.following := rfl

theorem takeOnto_eq (found : List UInt32) (n : Nat) (c : SyncCounter) :
    takeOnto found n c = (found.reverse ++ c.take n, c.after n) := by
  induction n generalizing found c with
  | zero => simp [takeOnto, take, after]
  | succ n ih =>
    show takeOnto (c.following :: found) n c.next.2
      = (found.reverse ++ (takeOnto [c.following] n c.next.2).1,
        (takeOnto [c.following] n c.next.2).2)
    rw [ih, ih, List.reverse_cons, List.append_assoc]
    rfl

@[simp] theorem take_zero (c : SyncCounter) : c.take 0 = [] := rfl

@[simp] theorem after_zero (c : SyncCounter) : c.after 0 = c := rfl

theorem take_succ (n : Nat) (c : SyncCounter) :
    c.take (n + 1) = c.following :: c.next.2.take n := by
  show (takeOnto [c.following] n c.next.2).1 = _
  rw [takeOnto_eq]
  rfl

theorem after_succ (n : Nat) (c : SyncCounter) : c.after (n + 1) = c.next.2.after n := by
  show (takeOnto [c.following] n c.next.2).2 = _
  rw [takeOnto_eq]

/-- One more sync is the one after the counter's last. -/
theorem take_succ_last (n : Nat) (c : SyncCounter) :
    c.take (n + 1) = c.take n ++ [(c.after n).following] := by
  induction n generalizing c with
  | zero => rw [take_succ]; rfl
  | succ n ih => rw [take_succ, ih, take_succ n, after_succ, List.cons_append]

theorem after_succ_last (n : Nat) (c : SyncCounter) : c.after (n + 1) = (c.after n).next.2 := by
  induction n generalizing c with
  | zero => rw [after_succ]; rfl
  | succ n ih => rw [after_succ, ih, after_succ n]

/-- **The syncs in numbers.** -/
theorem take_eq (n : Nat) (c : SyncCounter) :
    c.take n =
      (List.range n).map fun k => UInt32.ofNat ((c.last.toNat + k) % (2 ^ 32 - 1) + 1) := by
  induction n generalizing c with
  | zero => rfl
  | succ n ih =>
    rw [take_succ, ih, List.range_succ_eq_map, List.map_cons, List.map_map, next_snd_last,
      toNat_following]
    congr 1
    · apply UInt32.toNat_inj.1
      rw [toNat_following, UInt32.toNat_ofNat']
      omega
    · refine List.map_congr_left ?_
      intro k _
      show UInt32.ofNat _ = UInt32.ofNat _
      congr 1
      omega

@[simp] theorem length_take (n : Nat) (c : SyncCounter) : (c.take n).length = n := by
  rw [take_eq, List.length_map, List.length_range]

/-- **Within one period no sync is issued twice.** -/
theorem nodup_take {n : Nat} (c : SyncCounter) (h : n ≤ 2 ^ 32 - 1) : (c.take n).Nodup := by
  rw [take_eq]
  refine List.Nodup.map_on (fun i hi j hj he => ?_) List.nodup_range
  rw [List.mem_range] at hi hj
  have hn := congrArg UInt32.toNat he
  simp only [UInt32.toNat_ofNat'] at hn
  omega

/-- No sync is zero. -/
theorem ne_zero_of_mem_take {n : Nat} {c : SyncCounter} {sync : UInt32}
    (h : sync ∈ c.take n) : sync ≠ 0 := by
  induction n generalizing c with
  | zero => exact absurd h List.not_mem_nil
  | succ n ih =>
    rw [take_succ] at h
    rcases List.mem_cons.mp h with rfl | h
    · exact c.following_ne_zero
    · exact ih h

end Muxwire.Mux.SyncCounter
