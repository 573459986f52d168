import Muxwire.Wire.Response

/-!
# The ledger of replies

Every request has a reply slot on which its caller waits, known by a ticket. The ledger keeps all
slots, and which tickets wait for a response with which sync.

* `deliver` puts a reply into a slot. A slot lists everything that was ever put in, so that "at
  most one reply" is a statement about the ledger. A caller sees the first reply, unless it has
  stopped waiting.
* `register`, `complete`, `evict` and `failAll` keep the table of syncs. Each of the last three
  delivers to exactly the tickets that it takes off the table.
* `deliveries` and `ticket?` are the views of the two parts; the laws beside the operations say what
  each does to them (`deliveries_deliver`, `ticket?_strike`).
-/

namespace Muxwire.Mux

open Wire

/-- What a caller gets. -/
abbrev Reply := Except Error Response

/-- The number of a reply slot. -/
abbrev Ticket := Nat

/-- A reply slot: what was put in, first to last, and whether its caller has stopped waiting. -/
structure Slot where
  deliveries : List Reply
  abandoned : Bool

/-- What the caller of a slot has got. -/
def Slot.reply? (s : Slot) : Option Reply :=
  if s.abandoned then none else s.deliveries.head?

/-- All slots by ticket, and the table of syncs that are waited for, latest first. -/
structure Ledger where
  slots : List Slot
  waiting : List (UInt32 × Ticket)

namespace Ledger

/-- A ledger without entries. -/
def empty : Ledger :=
  ⟨[], []⟩

/-! ## 1. Slots -/

/-- A new slot, and its ticket. -/
def openSlot (l : Ledger) : Ticket × Ledger :=
  (l.slots.length, { l with slots := l.slots ++ [⟨[], false⟩] })

/-- Puts a reply into a slot. -/
def deliver (t : Ticket) (r : Reply) (l : Ledger) : Ledger :=
  { l with slots := l.slots.modify t fun s => { s with deliveries := s.deliveries ++ [r] } }

/-- The caller of a slot stops waiting. -/
def abandon (t : Ticket) (l : Ledger) : Ledger :=
  { l with slots := l.slots.modify t fun s => { s with abandoned := true } }

/-- Everything put into a slot. -/
def deliveries (l : Ledger) (t : Ticket) : List Reply :=
  match l.slots[t]? with
  | some s => s.deliveries
  | none => []

/-- What the caller of a slot has got. -/
def reply? (l : Ledger) (t : Ticket) : Option Reply :=
  l.slots[t]?.bind Slot.reply?

/-- The tickets whose callers have got a reply, in ascending order. -/
def answered (l : Ledger) : List Ticket :=
  (l.slots.zipIdx.filter fun entry => entry.1.reply?.isSome).map fun entry => entry.2

/-- **A delivery goes behind all earlier ones of its slot**, and to no other slot. -/
theorem deliveries_deliver (l : Ledger) (t u : Ticket) (r : Reply) :
    (l.deliver t r).deliveries u =
      if u = t ∧ t < l.slots.length then l.deliveries u ++ [r] else l.deliveries u := by
  simp only [deliver, deliveries, List.getElem?_modify]
  by_cases h : t = u
  · subst h
    by_cases hl : t < l.slots.length <;> simp [hl]
  · have : ¬ u = t := fun e => h e.symm
    simp [h, this]

@[simp] theorem deliveries_openSlot (l : Ledger) (t : Ticket) :
    l.openSlot.2.deliveries t = l.deliveries t := by
  by_cases h : t < l.slots.length
  · simp [openSlot, deliveries, List.getElem?_append_left h]
  · have hl : l.slots.length ≤ t := Nat.le_of_not_lt h
    simp only [openSlot, deliveries, List.getElem?_append_right hl, List.getElem?_eq_none hl]
    cases t - l.slots.length <;> simp

@[simp] theorem deliveries_abandon (l : Ledger) (t u : Ticket) :
    (l.abandon t).deliveries u = l.deliveries u := by
  simp only [abandon, deliveries, List.getElem?_modify]
  by_cases h : t = u
  · subst h
    cases hs : l.slots[t]? <;> simp
  · simp [h]

/-! ## 2. The table of syncs -/

/-- The number of tickets on the table. -/
def size (l : Ledger) : Nat :=
  l.waiting.length

/-- The ticket that waits for a sync. -/
def ticket? (l : Ledger) (sync : UInt32) : Option Ticket :=
  l.waiting.lookup sync

/-- The table without a sync. -/
def strike (sync : UInt32) (l : Ledger) : Ledger :=
  { l with waiting := l.waiting.filter (·.1 != sync) }

/-- Puts a ticket on the table. The sync must not be on it already. -/
def register (sync : UInt32) (t : Ticket) (l : Ledger) : Ledger :=
  { l with waiting := (sync, t) :: l.waiting }

/-- Takes a sync off the table and delivers to its ticket; the answer is whether it was there. -/
def finish (sync : UInt32) (r : Reply) (l : Ledger) : Bool × Ledger :=
  match l.ticket? sync with
  | some t => (true, (l.strike sync).deliver t r)
  | none => (false, l)

/-- Hands a response out; the answer is whether someone waited for its sync. -/
def complete (r : Response) (l : Ledger) : Bool × Ledger :=
  l.finish r.sync (.ok r)

/-- Gives up whoever waits for a sync; the answer is whether someone did. -/
def evict (sync : UInt32) (e : Error) (l : Ledger) : Bool × Ledger :=
  l.finish sync (.error e)

/-- Delivers an error to several tickets. -/
def deliverAll (e : Error) (ts : List Ticket) (l : Ledger) : Ledger :=
  ts.foldl (fun l t => l.deliver t (.error e)) l

/-- Gives up everyone on the table; the answer is how many they were. -/
def failAll (e : Error) (l : Ledger) : Nat × Ledger :=
  (l.size, ({ l with waiting := [] } : Ledger).deliverAll e (l.waiting.map fun entry => entry.2))

theorem lookup_filter_ne (sync other : UInt32) (table : List (UInt32 × Ticket)) :
    (table.filter (·.1 != sync)).lookup other =
      if other = sync then none else table.lookup other := by
  induction table with
  | nil => simp
  | cons entry table ih =>
    obtain ⟨key, t⟩ := entry
    by_cases hk : key = sync
    · subst hk
      by_cases ho : other = key
      · subst ho
        simpa using ih
      · have hb : (other == key) = false := by simp [ho]
        simpa [List.lookup_cons, ho, hb] using ih
    · by_cases ho : other = key
      · subst ho
        simp [hk]
      · have hb : (other == key) = false := by simp [ho]
        simpa [List.lookup_cons, hk, hb] using ih

/-- **Striking a sync off takes its ticket and no other.** -/
theorem ticket?_strike (l : Ledger) (sync other : UInt32) :
    (l.strike sync).ticket? other = if other = sync then none else l.ticket? other :=
  lookup_filter_ne sync other l.waiting

/-- A sync on the table is found as the ticket registered last for it. -/
theorem ticket?_register (l : Ledger) (sync other : UInt32) (t : Ticket) :
    (l.register sync t).ticket? other = if other = sync then some t else l.ticket? other := by
  by_cases h : other = sync
  · simp [register, ticket?, h]
  · have hb : (other == sync) = false := by simp [h]
    simp [register, ticket?, List.lookup_cons, h, hb]

/-- Finishing answers whether the sync was on the table. -/
theorem finish_fst (sync : UInt32) (r : Reply) (l : Ledger) :
    (l.finish sync r).1 = (l.ticket? sync).isSome := by
  unfold finish
  split <;> simp_all

end Ledger

end Muxwire.Mux
