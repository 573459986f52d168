import Mathlib.Data.List.Nodup
import Muxwire.Proofs.Standing

/-!
# The ledger and the standings

`Book l standing known` -- a ledger says what the standings say: the slot of a known ticket holds
the replies of its standing, and the table lists exactly who waits, each sync once. Every operation
of the ledger keeps this, for the standings after it:

* `Book.finish`, `Book.failAll` -- replies to whoever waits;
* `Book.deliver`, `Book.register` -- a queued submission is answered, or goes on the table;
* `Book.enlist` -- one more ticket is known;
* `Book.openSlot`, `Book.deliver_new`, `Book.abandon` -- what concerns nobody on the book.
-/

namespace Muxwire.Mux

open Wire

namespace Ledger

/-! ## 1. The operations on their own -/

@[simp] theorem length_deliver (t : Ticket) (r : Reply) (l : Ledger) :
    (l.deliver t r).slots.length = l.slots.length := by
  simp [deliver]

@[simp] theorem waiting_deliver (t : Ticket) (r : Reply) (l : Ledger) :
    (l.deliver t r).waiting = l.waiting := rfl

@[simp] theorem length_openSlot (l : Ledger) : l.openSlot.2.slots.length = l.slots.length + 1 := by
  simp [openSlot]

@[simp] theorem length_abandon (t : Ticket) (l : Ledger) :
    (l.abandon t).slots.length = l.slots.length := by
  simp [abandon]

/-- A ticket without a slot has no replies. -/
theorem deliveries_of_length_le {l : Ledger} {t : Ticket} (h : l.slots.length ≤ t) :
    l.deliveries t = [] := by
  simp [deliveries, List.getElem?_eq_none h]

theorem mem_of_ticket? {l : Ledger} {sync : UInt32} {t : Ticket} (h : l.ticket? sync = some t) :
    (sync, t) ∈ l.waiting := by
  obtain ⟨front, back, hl, -⟩ := List.lookup_eq_some_iff.mp h
  rw [hl]
  exact List.mem_append_right _ List.mem_cons_self

/-- A sync that is on the table once is found with its ticket. -/
theorem ticket?_eq_some_iff {l : Ledger} (keys : (l.waiting.map Prod.fst).Nodup) {sync : UInt32}
    {t : Ticket} : l.ticket? sync = some t ↔ (sync, t) ∈ l.waiting := by
  constructor
  · exact mem_of_ticket?
  · intro h
    cases hf : l.ticket? sync with
    | none =>
      have := List.lookup_eq_none_iff.mp hf (sync, t) h
      simp at this
    | some u =>
      have := List.inj_on_of_nodup_map keys h (mem_of_ticket? hf) rfl
      cases this
      rfl

/-- Finishing takes the sync off the table. -/
theorem waiting_finish (sync : UInt32) (r : Reply) (l : Ledger) :
    (l.finish sync r).2.waiting = l.waiting.filter (·.1 != sync) := by
  unfold finish
  split
  · rfl
  · rename_i h
    refine (List.filter_eq_self.mpr fun entry he => ?_).symm
    have := List.lookup_eq_none_iff.mp h entry he
    simpa [bne, BEq.comm] using this

@[simp] theorem length_finish (sync : UInt32) (r : Reply) (l : Ledger) :
    (l.finish sync r).2.slots.length = l.slots.length := by
  unfold finish
  split <;> simp [strike]

/-- Finishing delivers to the ticket on the table and to no other. -/
theorem deliveries_finish (sync : UInt32) (r : Reply) (l : Ledger) (t : Ticket) :
    (l.finish sync r).2.deliveries t =
      if l.ticket? sync = some t ∧ t < l.slots.length then l.deliveries t ++ [r]
      else l.deliveries t := by
  unfold finish
  split
  · rename_i u hu
    rw [deliveries_deliver, hu]
    by_cases h : t = u
    · subst h
      simp [strike, deliveries]
    · have : ¬ u = t := fun e => h e.symm
      simp [h, this, strike, deliveries]
  · rename_i h
    simp [h]

/-- An answer of yes takes one entry off the table. -/
theorem size_finish {l : Ledger} (keys : (l.waiting.map Prod.fst).Nodup) (sync : UInt32)
    (r : Reply) : (l.finish sync r).1.toNat + (l.finish sync r).2.size = l.size := by
  have parts := List.length_eq_length_filter_add (l := l.waiting) (·.1 == sync)
  have struck : (l.waiting.filter (·.1 == sync)).length = (l.finish sync r).1.toNat := by
    have count : (l.waiting.filter (·.1 == sync)).length = (l.waiting.map Prod.fst).count sync := by
      rw [List.count, List.countP_map, List.countP_eq_length_filter]
      rfl
    rw [count, finish_fst]
    cases hf : l.ticket? sync with
    | some t =>
      have listed : sync ∈ l.waiting.map Prod.fst := List.mem_map_of_mem (mem_of_ticket? hf)
      exact List.count_eq_one_of_mem keys listed
    | none =>
      refine List.count_eq_zero_of_not_mem ?_
      intro listed
      obtain ⟨entry, he, same⟩ := List.mem_map.mp listed
      have other := List.lookup_eq_none_iff.mp hf entry he
      simp [same] at other
  rw [size, size, waiting_finish, parts, struck]
  rfl

/-- A delivery touches no other slot. -/
theorem slot_deliver_of_ne {t u : Ticket} (h : u ≠ t) (r : Reply) (l : Ledger) :
    (l.deliver t r).slots[u]? = l.slots[u]? := by
  simp [deliver, Ne.symm h]

/-- Finishing a sync touches no slot but that of the ticket that waits for it. -/
theorem slot_finish_of_ne {sync : UInt32} {u : Ticket} {l : Ledger}
    (h : l.ticket? sync ≠ some u) (r : Reply) :
    (l.finish sync r).2.slots[u]? = l.slots[u]? := by
  unfold finish
  split
  · rename_i t ht
    have other : u ≠ t := by
      rintro rfl
      exact h ht
    exact slot_deliver_of_ne other r _
  · rfl

/-- Nobody is evicted for a sync that nobody waits for. -/
theorem evict_of_free {sync : UInt32} {l : Ledger} (h : l.ticket? sync = none) (e : Error) :
    l.evict sync e = (false, l) := by
  simp [evict, finish, h]

theorem length_deliverAll (e : Error) (ts : List Ticket) (l : Ledger) :
    (l.deliverAll e ts).slots.length = l.slots.length := by
  induction ts generalizing l with
  | nil => rfl
  | cons t ts ih => exact (ih _).trans (length_deliver ..)

theorem waiting_deliverAll (e : Error) (ts : List Ticket) (l : Ledger) :
    (l.deliverAll e ts).waiting = l.waiting := by
  induction ts generalizing l with
  | nil => rfl
  | cons t ts ih => exact ih _

@[simp] theorem length_failAll (e : Error) (l : Ledger) :
    (l.failAll e).2.slots.length = l.slots.length :=
  length_deliverAll ..

theorem waiting_failAll (e : Error) (l : Ledger) : (l.failAll e).2.waiting = [] :=
  waiting_deliverAll ..

/-- Delivering to several tickets delivers once to each. -/
theorem deliveries_deliverAll (e : Error) {ts : List Ticket} (once : ts.Nodup) (l : Ledger)
    (t : Ticket) :
    (l.deliverAll e ts).deliveries t =
      if t ∈ ts ∧ t < l.slots.length then l.deliveries t ++ [.error e] else l.deliveries t := by
  induction ts generalizing l with
  | nil => simp [deliverAll]
  | cons u ts ih =>
    obtain ⟨hu, hts⟩ := List.nodup_cons.mp once
    show ((l.deliver u (.error e)).deliverAll e ts).deliveries t = _
    rw [ih hts, length_deliver, deliveries_deliver]
    by_cases h : t = u
    · subst h
      simp [hu]
    · simp [h]

end Ledger

/-! ## 2. The book -/

/-- The ledger says what the standings of the known tickets say. -/
structure Book (l : Ledger) (standing : Ticket → Standing) (known : List Ticket) : Prop where
  /-- A slot holds the replies of its standing. -/
  filled : ∀ t ∈ known, l.deliveries t = (standing t).replies
  /-- The table lists who waits. -/
  table : ∀ sync t, (sync, t) ∈ l.waiting ↔ standing t = .waiting sync
  /-- No sync is on the table twice. -/
  keys : (l.waiting.map Prod.fst).Nodup
  /-- Only known tickets wait. -/
  listed : ∀ sync t, standing t = .waiting sync → t ∈ known
  /-- Known tickets have slots. -/
  range : ∀ t ∈ known, t < l.slots.length

namespace Book

variable {l : Ledger} {standing : Ticket → Standing} {known : List Ticket}

theorem empty : Book .empty (fun _ => .queued) [] :=
  ⟨nofun, fun _ _ => ⟨nofun, nofun⟩, List.nodup_nil, nofun, nofun⟩

theorem congr {standing' : Ticket → Standing} (b : Book l standing known)
    (h : ∀ t, standing' t = standing t) : Book l standing' known := by
  have : standing' = standing := funext h
  exact this ▸ b

theorem ticket?_iff (b : Book l standing known) {sync : UInt32} {t : Ticket} :
    l.ticket? sync = some t ↔ standing t = .waiting sync := by
  rw [Ledger.ticket?_eq_some_iff b.keys, b.table]

/-- Nobody waits twice. -/
theorem nodup_tickets (b : Book l standing known) : (l.waiting.map Prod.snd).Nodup := by
  refine List.Nodup.map_on (fun x hx y hy he => ?_) (List.Nodup.of_map _ b.keys)
  obtain ⟨i, t⟩ := x
  obtain ⟨j, u⟩ := y
  cases he
  have hi := (b.table i t).mp hx
  rw [(b.table j t).mp hy] at hi
  cases hi
  rfl

/-- **Finishing** replies to whoever waits for the sync. -/
theorem finish (b : Book l standing known) (sync : UInt32) (r : Reply) :
    Book (l.finish sync r).2
      (fun t => (standing t).receive fun i => if sync = i then some r else none) known where
  filled t ht := by
    rw [Ledger.deliveries_finish, b.filled t ht]
    by_cases h : l.ticket? sync = some t
    · rw [if_pos ⟨h, b.range t ht⟩, b.ticket?_iff.mp h]
      simp [Standing.receive]
    · rw [if_neg fun h' => h h'.1]
      cases hs : standing t with
      | queued => rfl
      | settled r' => rfl
      | waiting i =>
        have other : sync ≠ i := by
          rintro rfl
          exact h (b.ticket?_iff.mpr hs)
        rw [Standing.receive_waiting_of_none (if_neg other)]
  table i t := by
    rw [Ledger.waiting_finish, List.mem_filter, b.table, Standing.receive_eq_waiting_iff]
    refine and_congr_right ?_
    intro _
    by_cases h : sync = i
    · simp [h]
    · simp [h, Ne.symm h]
  keys := by
    rw [Ledger.waiting_finish]
    exact b.keys.sublist (List.Sublist.map _ List.filter_sublist)
  listed i t h := b.listed i t (Standing.receive_eq_waiting_iff.mp h).1
  range t ht := by
    rw [Ledger.length_finish]
    exact b.range t ht

/-- **Failing all** gives everyone who waits the error. -/
theorem failAll (b : Book l standing known) (e : Error) :
    Book (l.failAll e).2 (fun t => (standing t).receive fun _ => some (.error e)) known where
  filled t ht := by
    show (Ledger.deliverAll e (l.waiting.map Prod.snd) _).deliveries t = _
    rw [Ledger.deliveries_deliverAll e b.nodup_tickets]
    show (if _ ∧ t < l.slots.length then l.deliveries t ++ _ else l.deliveries t) = _
    rw [b.filled t ht]
    cases hs : standing t with
    | waiting i =>
      have hm : t ∈ l.waiting.map Prod.snd := List.mem_map_of_mem ((b.table i t).mpr hs)
      rw [if_pos ⟨hm, b.range t ht⟩]
      rfl
    | _ =>
      rw [if_neg]
      · rfl
      · rintro ⟨hm, -⟩
        obtain ⟨⟨i, u⟩, hw, rfl⟩ := List.mem_map.mp hm
        have := (b.table i u).mp hw
        rw [hs] at this
        cases this
  table i t := by
    show _ ∈ (Ledger.deliverAll e _ _).waiting ↔ _
    rw [Ledger.waiting_deliverAll, Standing.receive_eq_waiting_iff]
    simp
  keys := by
    show ((Ledger.deliverAll e _ _).waiting.map Prod.fst).Nodup
    rw [Ledger.waiting_deliverAll]
    exact List.nodup_nil
  listed i t h := b.listed i t (Standing.receive_eq_waiting_iff.mp h).1
  range t ht := by
    rw [Ledger.length_failAll]
    exact b.range t ht

/-- **A delivery** answers who was queued. -/
theorem deliver (b : Book l standing known) {t : Ticket} (ht : t ∈ known)
    (hq : standing t = .queued) (r : Reply) :
    Book (l.deliver t r) (fun u => if u = t then .settled r else standing u) known where
  filled u hu := by
    rw [Ledger.deliveries_deliver, b.filled u hu]
    by_cases h : u = t
    · subst h
      simp [hq, b.range u hu]
    · simp [h]
  table i u := by
    rw [Ledger.waiting_deliver, b.table]
    by_cases h : u = t
    · subst h
      simp [hq]
    · simp [h]
  keys := b.keys
  listed i u h := by
    by_cases he : u = t
    · exact he ▸ ht
    · rw [if_neg he] at h
      exact b.listed i u h
  range u hu := by
    rw [Ledger.length_deliver]
    exact b.range u hu

/-- **Registering** puts who was queued on the table, under a sync that is not on it. -/
theorem register (b : Book l standing known) {t : Ticket} (ht : t ∈ known)
    (hq : standing t = .queued) {sync : UInt32} (free : ∀ u, standing u ≠ .waiting sync) :
    Book (l.register sync t) (fun u => if u = t then .waiting sync else standing u) known where
  filled u hu := by
    show l.deliveries u = _
    rw [b.filled u hu]
    by_cases h : u = t
    · subst h
      simp [hq]
    · simp [h]
  table i u := by
    show _ ∈ (sync, t) :: l.waiting ↔ _
    rw [List.mem_cons, b.table]
    by_cases h : u = t
    · subst h
      simp [hq, eq_comm]
    · simp [h]
  keys := by
    show (sync :: l.waiting.map Prod.fst).Nodup
    refine List.nodup_cons.mpr ⟨?_, b.keys⟩
    intro h
    obtain ⟨⟨i, u⟩, hw, rfl⟩ := List.mem_map.mp h
    exact free u ((b.table i u).mp hw)
  listed i u h := by
    by_cases he : u = t
    · exact he ▸ ht
    · rw [if_neg he] at h
      exact b.listed i u h
  range := b.range

/-- An empty slot whose ticket is queued may become known. -/
theorem enlist (b : Book l standing known) {t : Ticket} (ht : t < l.slots.length)
    (he : l.deliveries t = []) (hq : standing t = .queued) : Book l standing (known ++ [t]) where
  filled u hu := by
    rcases List.mem_append.mp hu with hu | hu
    · exact b.filled u hu
    · cases List.mem_singleton.mp hu
      rw [he, hq]
      rfl
  table := b.table
  keys := b.keys
  listed i u h := List.mem_append_left _ (b.listed i u h)
  range u hu := by
    rcases List.mem_append.mp hu with hu | hu
    · exact b.range u hu
    · cases List.mem_singleton.mp hu
      exact ht

/-- A new slot is nobody's yet. -/
theorem openSlot (b : Book l standing known) : Book l.openSlot.2 standing known where
  filled t ht := by rw [Ledger.deliveries_openSlot, b.filled t ht]
  table := b.table
  keys := b.keys
  listed := b.listed
  range t ht := by
    rw [Ledger.length_openSlot]
    exact Nat.lt_succ_of_lt (b.range t ht)

/-- A delivery to a slot that is nobody's is not on the book. -/
theorem deliver_new (b : Book l standing known) (r : Reply) :
    Book (l.openSlot.2.deliver l.slots.length r) standing known where
  filled t ht := by
    have other : ¬ t = l.slots.length := Nat.ne_of_lt (b.range t ht)
    rw [Ledger.deliveries_deliver, if_neg fun h => other h.1, b.openSlot.filled t ht]
  table := b.table
  keys := b.keys
  listed := b.listed
  range t ht := by
    rw [Ledger.length_deliver]
    exact b.openSlot.range t ht

theorem abandon (b : Book l standing known) (t : Ticket) :
    Book (l.abandon t) standing known where
  filled u hu := by rw [Ledger.deliveries_abandon, b.filled u hu]
  table := b.table
  keys := b.keys
  listed := b.listed
  range u hu := by
    rw [Ledger.length_abandon]
    exact b.range u hu

end Book

end Muxwire.Mux
