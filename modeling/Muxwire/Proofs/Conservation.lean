import Muxwire.Proofs.Book

/-!
# What goes on the table comes off it once

The operations of the ledger, in any order and any number. A sync may come off the table and go on
it again for another ticket; callers take slots and stop waiting in between; and the table is
cleared in any order of its entries.

* `Reached ops l` -- the operations, from the empty ledger on, leave this one. A sync is put on the
  table only while it is not on it, and a ticket only once.
* `Op.settles?` -- the reply that an operation brings to whoever waits for a sync. What became of a
  ticket is read off the operations alone (`standing_of_insert`).
* `clear_eq_failAll` -- the order of the entries does not matter.
* `Sound` -- the ledger says what the operations say, and the replies and the entries of the table
  are together as many as the tickets that went on it. `Reached.sound`: every operation keeps this.
* `Removes`, `RemovesAll` -- what each operation that takes tickets off does, and what it leaves.
* **`Reached.conserved`** -- every ticket that went on the table is on it, or has got the one reply
  of the operation that took it off.
-/

namespace Muxwire.Mux

open Wire

namespace Ledger

/-! ## 1. Operations -/

/-- Gives up everyone on the table, one after another. -/
def clear (order : List (UInt32 × Ticket)) (e : Error) (l : Ledger) : Nat × Ledger :=
  (l.size, ({ l with waiting := [] } : Ledger).deliverAll e (order.map Prod.snd))

/-- What is done to the ledger, and by its callers. -/
inductive Op where
  | openSlot
  | abandon (t : Ticket)
  | insert (sync : UInt32) (t : Ticket)
  | complete (r : Response)
  | evict (sync : UInt32) (e : Error)
  | failAll (e : Error)

/-- The ticket that an operation puts on the table. -/
def Op.inserted? : Op → Option Ticket
  | .insert _ t => some t
  | _ => none

/-- The reply that an operation brings to whoever waits for `sync`, if it brings one. -/
def Op.settles? (sync : UInt32) : Op → Option Reply
  | .complete r => if r.sync = sync then some (.ok r) else none
  | .evict other e => if other = sync then some (.error e) else none
  | .failAll e => some (.error e)
  | _ => none

/-- The tickets that were put on the table, first to last. -/
def inserted (ops : List Op) : List Ticket :=
  ops.filterMap Op.inserted?

/-- The operations leave this ledger, from the empty one on. Whoever puts a ticket on the table has
taken its slot and gives it away with that. -/
inductive Reached : List Op → Ledger → Prop where
  | start : Reached [] .empty
  | openSlot {ops : List Op} {l : Ledger} (h : Reached ops l) :
      Reached (ops ++ [.openSlot]) l.openSlot.2
  | abandon {ops : List Op} {l : Ledger} (h : Reached ops l) (t : Ticket) :
      Reached (ops ++ [.abandon t]) (l.abandon t)
  | insert {ops : List Op} {l : Ledger} {sync : UInt32} {t : Ticket} (h : Reached ops l)
      (free : l.ticket? sync = none) (opened : t < l.slots.length) (unused : t ∉ inserted ops) :
      Reached (ops ++ [.insert sync t]) (l.register sync t)
  | complete {ops : List Op} {l : Ledger} (h : Reached ops l) (r : Response) :
      Reached (ops ++ [.complete r]) (l.complete r).2
  | evict {ops : List Op} {l : Ledger} (h : Reached ops l) (sync : UInt32) (e : Error) :
      Reached (ops ++ [.evict sync e]) (l.evict sync e).2
  /-- The entries come in any order. -/
  | failAll {ops : List Op} {l : Ledger} {order : List (UInt32 × Ticket)} (h : Reached ops l)
      (e : Error) (any : order.Perm l.waiting) :
      Reached (ops ++ [.failAll e]) (l.clear order e).2

@[simp] theorem inserted_concat (ops : List Op) (op : Op) :
    inserted (ops ++ [op]) = inserted ops ++ op.inserted?.toList := by
  cases h : op.inserted? <;> simp [inserted, h]

/-! ## 2. What became of a ticket -/

/-- The standing of a ticket after one more operation. -/
def Op.next (t : Ticket) (st : Standing) : Op → Standing
  | .insert sync u => if u = t then .waiting sync else st
  | op => st.receive op.settles?

/-- What became of a ticket. -/
def standing (ops : List Op) (t : Ticket) : Standing :=
  ops.foldl (Op.next t) .queued

variable {ops before after : List Op} {l : Ledger} {sync : UInt32} {t : Ticket}

theorem standing_concat (ops : List Op) (op : Op) (t : Ticket) :
    standing (ops ++ [op]) t = op.next t (standing ops t) :=
  List.foldl_concat ..

theorem next_of_ne {op : Op} (h : op.inserted? ≠ some t) (st : Standing) :
    op.next t st = st.receive op.settles? := by
  cases op with
  | insert sync u =>
    have other : u ≠ t := fun he => h (congrArg some he)
    rw [Op.next, if_neg other]
    exact (Standing.receive_none st).symm
  | _ => rfl

/-- **As long as a ticket is not put on the table, the first reply for its sync counts.** -/
theorem foldl_next_of_notMem (h : t ∉ inserted ops) (st : Standing) :
    ops.foldl (Op.next t) st = st.receive fun sync => ops.findSome? (Op.settles? sync) := by
  induction ops generalizing st with
  | nil => exact (Standing.receive_none st).symm
  | cons op ops ih =>
    have other : op.inserted? ≠ some t := by
      intro he
      exact h (List.mem_filterMap.mpr ⟨op, List.mem_cons_self, he⟩)
    have rest : t ∉ inserted ops := by
      intro hm
      obtain ⟨op', ho, he⟩ := List.mem_filterMap.mp hm
      exact h (List.mem_filterMap.mpr ⟨op', List.mem_cons_of_mem _ ho, he⟩)
    rw [List.foldl_cons, ih rest, next_of_ne other, Standing.receive_receive]
    congr 1
    funext sync
    rw [List.findSome?_cons]
    cases op.settles? sync <;> rfl

/-- Whoever was put on the table once waits, or has the first reply that came for its sync from
then on. -/
theorem standing_of_insert (once : (inserted (before ++ .insert sync t :: after)).Nodup) :
    standing (before ++ .insert sync t :: after) t
      = (Standing.waiting sync).receive fun i => after.findSome? (Op.settles? i) := by
  have later : t ∉ inserted after := by
    have split : inserted (before ++ .insert sync t :: after)
        = inserted before ++ t :: inserted after := by
      simp [inserted, Op.inserted?]
    rw [split] at once
    exact (List.nodup_cons.mp (List.nodup_append.mp once).2.1).1
  rw [standing, List.foldl_append, List.foldl_cons, foldl_next_of_notMem later, Op.next, if_pos rfl]

/-- Whoever was never put on the table has got nothing. -/
theorem standing_eq_queued_iff : standing ops t = .queued ↔ t ∉ inserted ops := by
  induction ops using List.reverseRecOn with
  | nil => exact ⟨fun _ => List.not_mem_nil, fun _ => rfl⟩
  | append_singleton ops op ih =>
    rw [standing_concat, inserted_concat, List.mem_append, not_or, ← ih]
    by_cases h : op.inserted? = some t
    · cases op with
      | insert sync u =>
        cases h
        simp [Op.next, Op.inserted?]
      | _ => cases h
    · rw [next_of_ne h, Standing.receive_eq_queued_iff]
      simp [h]

/-! ## 3. The order of the entries -/

theorem deliver_comm (t u : Ticket) (r : Reply) (l : Ledger) :
    (l.deliver t r).deliver u r = (l.deliver u r).deliver t r := by
  by_cases h : t = u
  · rw [h]
  · rw [deliver, deliver, deliver, deliver, List.modify_modify_ne _ _ _ h]

theorem deliverAll_perm {ts us : List Ticket} (h : ts.Perm us) (e : Error) (l : Ledger) :
    l.deliverAll e ts = l.deliverAll e us :=
  h.foldl_eq' (fun t _ u _ l => deliver_comm t u (.error e) l) l

/-- **Everyone is given up whatever the order.** -/
theorem clear_eq_failAll {order : List (UInt32 × Ticket)} (any : order.Perm l.waiting)
    (e : Error) : l.clear order e = l.failAll e := by
  rw [clear, deliverAll_perm (any.map Prod.snd)]
  rfl

/-! ## 4. The number of replies -/

/-- The number of replies in all slots. -/
def delivered (l : Ledger) : Nat :=
  (l.slots.flatMap (·.deliveries)).length

@[simp] theorem delivered_openSlot (l : Ledger) : l.openSlot.2.delivered = l.delivered := by
  rw [delivered, openSlot, List.flatMap_append, List.length_append]
  rfl

@[simp] theorem delivered_abandon (t : Ticket) (l : Ledger) :
    (l.abandon t).delivered = l.delivered := by
  by_cases h : t < l.slots.length
  · obtain ⟨front, s, back, hs, -, modified⟩ :=
      List.exists_of_modify (fun s : Slot => { s with abandoned := true }) h
    rw [delivered, abandon, modified, delivered, hs, List.flatMap_append, List.flatMap_append,
      List.flatMap_cons, List.flatMap_cons]
  · rw [abandon, List.modify_eq_self (Nat.not_lt.mp h)]

theorem delivered_deliver (h : t < l.slots.length) (r : Reply) :
    (l.deliver t r).delivered = l.delivered + 1 := by
  obtain ⟨front, s, back, hs, -, modified⟩ :=
    List.exists_of_modify (fun s : Slot => { s with deliveries := s.deliveries ++ [r] }) h
  rw [delivered, deliver, modified, delivered, hs]
  simp only [List.flatMap_append, List.flatMap_cons, List.length_append, List.length_singleton]
  omega

theorem delivered_deliverAll (e : Error) {ts : List Ticket} (h : ∀ t ∈ ts, t < l.slots.length) :
    (l.deliverAll e ts).delivered = l.delivered + ts.length := by
  induction ts generalizing l with
  | nil => rfl
  | cons t ts ih =>
    have range := h t List.mem_cons_self
    have rest : ∀ u ∈ ts, u < (l.deliver t (.error e)).slots.length := by
      intro u hu
      rw [length_deliver]
      exact h u (List.mem_cons_of_mem _ hu)
    show ((l.deliver t (.error e)).deliverAll e ts).delivered = _
    rw [ih rest, delivered_deliver range, List.length_cons]
    omega

/-- **Finishing takes an entry off the table for every reply that it puts into a slot.** -/
theorem delivered_finish (keys : (l.waiting.map Prod.fst).Nodup)
    (range : ∀ entry ∈ l.waiting, entry.2 < l.slots.length) (sync : UInt32) (r : Reply) :
    (l.finish sync r).2.delivered + (l.finish sync r).2.size = l.delivered + l.size := by
  have size := size_finish keys sync r
  have delivered : (l.finish sync r).2.delivered = l.delivered + (l.finish sync r).1.toNat := by
    unfold finish
    cases hf : l.ticket? sync with
    | none => rfl
    | some t =>
      have slot : t < (l.strike sync).slots.length := range _ (mem_of_ticket? hf)
      exact delivered_deliver slot r
  omega

/-- Giving everyone up takes an entry off the table for every reply, too. -/
theorem delivered_failAll (range : ∀ entry ∈ l.waiting, entry.2 < l.slots.length) (e : Error) :
    (l.failAll e).2.delivered + (l.failAll e).2.size = l.delivered + l.size := by
  have slots : ∀ t ∈ l.waiting.map Prod.snd, t < l.slots.length := by
    intro t ht
    obtain ⟨entry, he, rfl⟩ := List.mem_map.mp ht
    exact range entry he
  have delivered := delivered_deliverAll (l := { l with waiting := [] }) e slots
  have emptied : (l.failAll e).2.size = 0 := congrArg List.length (waiting_failAll e l)
  rw [List.length_map] at delivered
  rw [emptied]
  exact delivered

/-! ## 5. What every operation keeps -/

/-- The ledger agrees with the operations. -/
structure Sound (ops : List Op) (l : Ledger) : Prop where
  book : Book l (standing ops) (List.range l.slots.length)
  /-- No ticket was put on the table twice. -/
  once : (inserted ops).Nodup
  /-- Every ticket that was put on the table has a slot. -/
  opened : ∀ t ∈ inserted ops, t < l.slots.length
  /-- What went on the table is on it, or was answered. -/
  balance : (inserted ops).length = l.delivered + l.size

namespace Sound

theorem range (s : Sound ops l) : ∀ entry ∈ l.waiting, entry.2 < l.slots.length := by
  intro entry he
  have waits := (s.book.table entry.1 entry.2).mp he
  exact s.book.range _ (s.book.listed _ _ waits)

/-- An operation that puts nobody on the table. -/
theorem concat {op : Op} {l' : Ledger} (s : Sound ops l) (nobody : op.inserted? = none)
    (book : Book l' (fun t => (standing ops t).receive op.settles?) (List.range l'.slots.length))
    (length : l.slots.length ≤ l'.slots.length)
    (balance : l'.delivered + l'.size = l.delivered + l.size) : Sound (ops ++ [op]) l' := by
  have same : inserted (ops ++ [op]) = inserted ops := by
    rw [inserted_concat, nobody]
    exact List.append_nil _
  refine ⟨book.congr fun t => ?_, same ▸ s.once, ?_, ?_⟩
  · rw [standing_concat, next_of_ne (by rw [nobody]; exact nofun)]
  · intro t ht
    rw [same] at ht
    exact Nat.lt_of_lt_of_le (s.opened t ht) length
  · rw [same, balance]
    exact s.balance

theorem finish {op : Op} {r : Reply} (s : Sound ops l) (nobody : op.inserted? = none)
    (settles : ∀ i, op.settles? i = if sync = i then some r else none) :
    Sound (ops ++ [op]) (l.finish sync r).2 := by
  have length := length_finish sync r l
  have book := s.book.finish sync r
  rw [← length, ← funext settles] at book
  exact s.concat nobody book (Nat.le_of_eq length.symm) (delivered_finish s.book.keys s.range ..)

end Sound

/-- **Every operation keeps the ledger in agreement.** -/
theorem Reached.sound (h : Reached ops l) : Sound ops l := by
  induction h with
  | start =>
    exact ⟨.empty, List.nodup_nil, nofun, rfl⟩
  | @openSlot ops l h s =>
    have last : l.slots.length < l.openSlot.2.slots.length := by
      rw [length_openSlot]
      exact Nat.lt_succ_self _
    have empty : l.openSlot.2.deliveries l.slots.length = [] := by
      rw [deliveries_openSlot]
      exact deliveries_of_length_le (Nat.le_refl _)
    have unused : standing ops l.slots.length = .queued :=
      standing_eq_queued_iff.mpr fun ht => Nat.lt_irrefl _ (s.opened _ ht)
    have book := s.book.openSlot.enlist last empty unused
    have range : List.range l.openSlot.2.slots.length
        = List.range l.slots.length ++ [l.slots.length] := by
      rw [length_openSlot, List.range_succ]
    rw [← range] at book
    refine s.concat rfl (book.congr fun t => Standing.receive_none _) (Nat.le_of_lt last) ?_
    rw [delivered_openSlot]
    rfl
  | @abandon ops l h t s =>
    have length := length_abandon t l
    have book := s.book.abandon t
    rw [← length] at book
    refine s.concat rfl (book.congr fun t => Standing.receive_none _) (Nat.le_of_eq length.symm) ?_
    rw [delivered_abandon]
    rfl
  | @insert ops l sync t h free opened unused s =>
    have queued : standing ops t = .queued := standing_eq_queued_iff.mpr unused
    have nobody : ∀ u, standing ops u ≠ .waiting sync := by
      intro u hu
      rw [s.book.ticket?_iff.mpr hu] at free
      cases free
    have added : inserted (ops ++ [.insert sync t]) = inserted ops ++ [t] := inserted_concat ..
    refine ⟨?book, ?once, ?opened, ?balance⟩
    case book =>
      refine (s.book.register (List.mem_range.mpr opened) queued nobody).congr fun u => ?_
      rw [standing_concat, Op.next]
      simp only [eq_comm]
    case once =>
      rw [added]
      refine List.nodup_append.mpr ⟨s.once, List.nodup_singleton t, fun u hu v hv he => unused ?_⟩
      rw [← List.mem_singleton.mp hv, ← he]
      exact hu
    case opened =>
      intro u hu
      rw [added] at hu
      rcases List.mem_append.mp hu with hu | hu
      · exact s.opened u hu
      · cases List.mem_singleton.mp hu
        exact opened
    case balance =>
      have before := s.balance
      have delivered : (l.register sync t).delivered = l.delivered := rfl
      have size : (l.register sync t).size = l.size + 1 := rfl
      rw [added, List.length_append, List.length_singleton, delivered, size]
      omega
  | @complete ops l h r s => exact s.finish rfl fun _ => rfl
  | @evict ops l h sync e s => exact s.finish rfl fun _ => rfl
  | @failAll ops l order h e any s =>
    have length := length_failAll e l
    have book := s.book.failAll e
    rw [← length] at book
    rw [clear_eq_failAll any]
    exact s.concat rfl book (Nat.le_of_eq length.symm) (delivered_failAll s.range e)

/-! ## 6. What the operations do -/

/-- What it is to take a sync off the table for a reply. -/
structure Removes (l : Ledger) (sync : UInt32) (r : Reply) (result : Bool × Ledger) : Prop where
  /-- The answer is whether the sync was on the table. -/
  answer : result.1 = true ↔ ∃ t, (sync, t) ∈ l.waiting
  /-- If it was not, nothing changes. -/
  missed : (∀ t, (sync, t) ∉ l.waiting) → result = (false, l)
  /-- If it was, its ticket gets the reply, which is its only one. -/
  given : ∀ t, (sync, t) ∈ l.waiting → l.deliveries t = [] ∧ result.2.deliveries t = [r]
  /-- No other slot changes. -/
  others : ∀ t, (sync, t) ∉ l.waiting → result.2.slots[t]? = l.slots[t]?
  table : ∀ other t, (other, t) ∈ result.2.waiting ↔ (other, t) ∈ l.waiting ∧ other ≠ sync

/-- What it is to give everyone up. -/
structure RemovesAll (l : Ledger) (e : Error) (result : Nat × Ledger) : Prop where
  answer : result.1 = l.size
  table : result.2.waiting = []
  /-- Everyone on the table gets the error, which is the only reply. -/
  given : ∀ sync t, (sync, t) ∈ l.waiting → l.deliveries t = [] ∧ result.2.deliveries t = [.error e]
  /-- No other slot changes. -/
  others : ∀ t, (∀ sync, (sync, t) ∉ l.waiting) → result.2.slots[t]? = l.slots[t]?
  /-- The order of the entries does not matter. -/
  order : ∀ order : List (UInt32 × Ticket), order.Perm l.waiting → l.clear order e = result

theorem slot_deliverAll_of_notMem {ts : List Ticket} (h : t ∉ ts) (e : Error) (l : Ledger) :
    (l.deliverAll e ts).slots[t]? = l.slots[t]? := by
  induction ts generalizing l with
  | nil => rfl
  | cons u ts ih =>
    rw [List.mem_cons, not_or] at h
    show ((l.deliver u (.error e)).deliverAll e ts).slots[t]? = _
    rw [ih h.2, slot_deliver_of_ne h.1]

namespace Sound

/-- Whoever is on the table has got nothing. -/
theorem deliveries_of_mem (s : Sound ops l) (h : (sync, t) ∈ l.waiting) : l.deliveries t = [] := by
  rw [s.book.filled t (List.mem_range.mpr (s.range _ h)), (s.book.table sync t).mp h]
  rfl

theorem removes (s : Sound ops l) (sync : UInt32) (r : Reply) :
    Removes l sync r (l.finish sync r) := by
  have found {t : Ticket} : l.ticket? sync = some t ↔ (sync, t) ∈ l.waiting :=
    ticket?_eq_some_iff s.book.keys
  refine ⟨?answer, ?missed, ?given, ?others, ?table⟩
  case answer =>
    rw [finish_fst, Option.isSome_iff_exists]
    exact exists_congr fun t => found
  case missed =>
    intro none
    have free : l.ticket? sync = Option.none :=
      Option.eq_none_iff_forall_ne_some.mpr fun t h => none t (found.mp h)
    rw [Ledger.finish, free]
  case given =>
    intro t h
    have empty := s.deliveries_of_mem h
    rw [deliveries_finish, if_pos ⟨found.mpr h, s.range _ h⟩, empty]
    exact ⟨rfl, rfl⟩
  case others =>
    intro t h
    exact slot_finish_of_ne (fun hf => h (found.mp hf)) r
  case table =>
    intro other t
    rw [waiting_finish, List.mem_filter, bne_iff_ne]

theorem removesAll (s : Sound ops l) (e : Error) : RemovesAll l e (l.failAll e) := by
  refine ⟨rfl, waiting_failAll e l, ?given, ?others, fun order any => clear_eq_failAll any e⟩
  case given =>
    intro sync t h
    have empty := s.deliveries_of_mem h
    have listed : t ∈ l.waiting.map Prod.snd := List.mem_map_of_mem h
    have filled : (l.failAll e).2.deliveries t = l.deliveries t ++ [.error e] :=
      (deliveries_deliverAll e s.book.nodup_tickets { l with waiting := [] } t).trans
        (if_pos ⟨listed, s.range _ h⟩)
    rw [filled, empty]
    exact ⟨rfl, rfl⟩
  case others =>
    intro t h
    have unlisted : t ∉ l.waiting.map Prod.snd := by
      intro listed
      obtain ⟨entry, he, rfl⟩ := List.mem_map.mp listed
      exact h entry.1 he
    exact slot_deliverAll_of_notMem unlisted e { l with waiting := [] }

end Sound

/-! ## 7. Conservation -/

/-- What holds of a ledger after operations. -/
structure Conserved (ops : List Op) (l : Ledger) : Prop where
  /-- No slot has more than one reply. -/
  once : ∀ t, (l.deliveries t).length ≤ 1
  /-- One has whoever went on the table and is not on it. -/
  received : ∀ t, l.deliveries t ≠ [] ↔ t ∈ inserted ops ∧ ∀ sync, (sync, t) ∉ l.waiting
  balance : (inserted ops).length = l.delivered + l.size
  /-- The reply is the first that was brought for the sync from then on, if there was one. -/
  given : ∀ before sync t after, ops = before ++ .insert sync t :: after →
    l.deliveries t = (after.findSome? (Op.settles? sync)).toList
  /-- On the table, where no sync is twice, is exactly whom no reply was brought for. -/
  table : ∀ sync t, (sync, t) ∈ l.waiting ↔ ∃ before after,
    ops = before ++ .insert sync t :: after ∧ after.findSome? (Op.settles? sync) = none
  keys : (l.waiting.map Prod.fst).Nodup
  /-- Every operation that comes next does what it should. -/
  complete : ∀ r : Response, Removes l r.sync (.ok r) (l.complete r)
  evict : ∀ sync e, Removes l sync (.error e) (l.evict sync e)
  failAll : ∀ e, RemovesAll l e (l.failAll e)

namespace Sound

theorem deliveries_eq (s : Sound ops l) (t : Ticket) :
    l.deliveries t = (standing ops t).replies := by
  by_cases known : t < l.slots.length
  · exact s.book.filled t (List.mem_range.mpr known)
  · have unused : t ∉ inserted ops := fun ht => known (s.opened t ht)
    rw [deliveries_of_length_le (Nat.not_lt.mp known), standing_eq_queued_iff.mpr unused]
    rfl

/-- Who waits for a sync was put on the table under it, and nothing was brought for it since. -/
theorem standing_eq_waiting_iff (s : Sound ops l) : standing ops t = .waiting sync
    ↔ ∃ before after, ops = before ++ .insert sync t :: after
      ∧ after.findSome? (Op.settles? sync) = none := by
  constructor
  · intro waits
    have listed : t ∈ inserted ops := by
      by_contra unused
      rw [standing_eq_queued_iff.mpr unused] at waits
      cases waits
    obtain ⟨op, hop, ht⟩ := List.mem_filterMap.mp listed
    cases op with
    | insert other u =>
      cases ht
      obtain ⟨before, after, rfl⟩ := List.append_of_mem hop
      rw [standing_of_insert s.once, Standing.receive_eq_waiting_iff] at waits
      obtain ⟨same, unanswered⟩ := waits
      cases same
      exact ⟨before, after, rfl, unanswered⟩
    | _ => cases ht
  · intro h
    obtain ⟨before, after, rfl, unanswered⟩ := h
    rw [standing_of_insert s.once]
    exact Standing.receive_waiting_of_none unanswered

end Sound

/-- **Every ticket that went on the table is on it, or has got the one reply of the operation that
took it off**, after any operations. -/
theorem Reached.conserved (h : Reached ops l) : Conserved ops l := by
  have s := h.sound
  refine ⟨?once, ?received, s.balance, ?given, ?table, s.book.keys, fun r => s.removes _ _,
    fun sync e => s.removes _ _, s.removesAll⟩
  case once =>
    intro t
    rw [s.deliveries_eq]
    cases standing ops t with
    | queued | waiting => exact Nat.zero_le 1
    | settled => exact Nat.le_refl 1
  case received =>
    intro t
    have unused : standing ops t = .queued ↔ t ∉ inserted ops := standing_eq_queued_iff
    rw [s.deliveries_eq]
    simp only [s.book.table]
    cases hs : standing ops t with
    | queued => simpa using unused.mp hs
    | waiting sync => simp
    | settled r =>
      have listed : t ∈ inserted ops := by
        by_contra missing
        rw [unused.mpr missing] at hs
        cases hs
      simp [listed]
  case given =>
    intro before sync t after split
    subst split
    rw [s.deliveries_eq, standing_of_insert s.once, Standing.receive]
    cases after.findSome? (Op.settles? sync) <;> rfl
  case table =>
    intro sync t
    rw [s.book.table, s.standing_eq_waiting_iff]

/-- The sync 7 goes on the table three times. The first ticket gets its response, the second, whose
caller is gone by then, the error of an eviction, and the third the one for all. -/
theorem conserved_again : ∃ l, Reached [.openSlot, .openSlot, .openSlot, .insert 7 2,
      .complete ⟨7, 0, none, none, none⟩, .insert 7 0, .abandon 0, .evict 7 .connectionClosed,
      .insert 7 1, .failAll (.query "x")] l
    ∧ l.deliveries 2 = [.ok ⟨7, 0, none, none, none⟩]
    ∧ l.deliveries 0 = [.error .connectionClosed]
    ∧ l.deliveries 1 = [.error (.query "x")] ∧ l.delivered + l.size = 3 := by
  have slots : Reached [.openSlot, .openSlot, .openSlot] _ :=
    Reached.start.openSlot.openSlot.openSlot
  have answered : Reached [.openSlot, .openSlot, .openSlot, .insert 7 2,
      .complete ⟨7, 0, none, none, none⟩] _ :=
    (slots.insert rfl (by decide) (by decide)).complete _
  have evicted : Reached [.openSlot, .openSlot, .openSlot, .insert 7 2,
      .complete ⟨7, 0, none, none, none⟩, .insert 7 0, .abandon 0, .evict 7 .connectionClosed] _ :=
    ((answered.insert rfl (by decide) (by decide)).abandon 0).evict 7 _
  have run : Reached [.openSlot, .openSlot, .openSlot, .insert 7 2,
      .complete ⟨7, 0, none, none, none⟩, .insert 7 0, .abandon 0, .evict 7 .connectionClosed,
      .insert 7 1, .failAll (.query "x")] _ :=
    (evicted.insert rfl (by decide) (by decide)).failAll _ (List.Perm.refl _)
  have holds := Reached.conserved run
  refine ⟨_, run, ?_, ?_, ?_, holds.balance.symm⟩
  · exact holds.given [.openSlot, .openSlot, .openSlot] 7 2 _ rfl
  · exact holds.given [.openSlot, .openSlot, .openSlot, .insert 7 2,
      .complete ⟨7, 0, none, none, none⟩] 7 0 _ rfl
  · exact holds.given [.openSlot, .openSlot, .openSlot, .insert 7 2,
      .complete ⟨7, 0, none, none, none⟩, .insert 7 0, .abandon 0, .evict 7 .connectionClosed]
      7 1 _ rfl

end Ledger

end Muxwire.Mux
