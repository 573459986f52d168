/-!
# Bounded queues

A queue joins a sending and a receiving side, first in, first out.

* It holds at most `capacity` items; `push` says whether an item was queued.
* Either side can go. Without the receiving side what is queued is lost and nothing is taken any
  more; without the sending side what is queued can still be taken, and then the queue is finished.
-/

namespace Muxwire.Mux

/-- A queue, with its items from the first to leave to the last. -/
structure Queue (α : Type) where
  capacity : Nat
  items : List α
  /-- Whether the sending side is there. -/
  sending : Bool
  /-- Whether the receiving side is there. -/
  receiving : Bool
  deriving Repr

/-- What became of an item that was pushed. -/
inductive Admission where
  | queued
  | full
  | closed
  deriving DecidableEq, Repr

namespace Queue

variable {α : Type}

/-- An empty queue. A capacity of zero acts as one. -/
def new (capacity : Nat) : Queue α :=
  ⟨max capacity 1, [], true, true⟩

/-- The number of items. -/
def size (q : Queue α) : Nat :=
  q.items.length

/-- Whether one side has gone, so that nothing can be pushed. -/
def isClosed (q : Queue α) : Bool :=
  !(q.sending && q.receiving)

/-- Pushes an item. -/
def push (q : Queue α) (a : α) : Admission × Queue α :=
  if q.isClosed then (.closed, q)
  else if q.size < q.capacity then (.queued, { q with items := q.items ++ [a] })
  else (.full, q)

/-- Takes the first item. -/
def pop? (q : Queue α) : Option (α × Queue α) :=
  match q.items with
  | [] => none
  | a :: items => some (a, { q with items })

/-- Whether nothing is queued and nothing will be. -/
def isFinished (q : Queue α) : Bool :=
  q.items.isEmpty && !q.sending

/-- Takes up to `n` items. -/
def takeUpTo (n : Nat) (q : Queue α) : List α × Queue α :=
  (q.items.take n, { q with items := q.items.drop n })

/-- The queue without its sending side. -/
def closeSending (q : Queue α) : Queue α :=
  { q with sending := false }

/-- The queue without its receiving side: what was queued is lost. -/
def closeReceiving (q : Queue α) : Queue α :=
  { q with receiving := false, items := [] }

/-- An item is queued exactly if both sides are there and there is room. -/
theorem push_queued_iff (q : Queue α) (a : α) :
    (q.push a).1 = .queued ↔ q.sending ∧ q.receiving ∧ q.size < q.capacity := by
  unfold push isClosed
  cases q.sending <;> cases q.receiving <;> by_cases h : q.size < q.capacity <;> simp [h]

/-- An item finds no room exactly if both sides are there and the queue has its capacity. -/
theorem push_full_iff (q : Queue α) (a : α) :
    (q.push a).1 = .full ↔ q.isClosed = false ∧ q.capacity ≤ q.size := by
  unfold push
  cases q.isClosed <;> by_cases h : q.size < q.capacity
  · simp [h, Nat.not_le.mpr h]
  · simp [h, Nat.not_lt.mp h]
  · simp
  · simp

/-- An item is turned away exactly if one side has gone. -/
theorem push_closed_iff (q : Queue α) (a : α) : (q.push a).1 = .closed ↔ q.isClosed = true := by
  unfold push
  cases q.isClosed <;> by_cases h : q.size < q.capacity <;> simp [h]

/-- A queued item stands behind all others. -/
theorem items_push_of_queued {q : Queue α} {a : α} (h : (q.push a).1 = .queued) :
    (q.push a).2.items = q.items ++ [a] := by
  have ⟨hs, hr, hc⟩ := (push_queued_iff q a).1 h
  simp [push, isClosed, hs, hr, hc]

/-- An item that is not queued leaves the queue as it was. -/
theorem push_eq_of_not_queued {q : Queue α} {a : α} (h : (q.push a).1 ≠ .queued) :
    (q.push a).2 = q := by
  unfold push at h ⊢
  split
  · rfl
  · split
    · rename_i h₁ h₂
      simp [h₁, h₂] at h
    · rfl

/-- The item taken stood in front. -/
theorem items_pop? {q r : Queue α} {a : α} (h : q.pop? = some (a, r)) : q.items = a :: r.items := by
  unfold pop? at h
  split at h
  · cases h
  · rename_i hi
    cases h
    exact hi

theorem size_pop? {q r : Queue α} {a : α} (h : q.pop? = some (a, r)) : q.size = r.size + 1 := by
  simp [size, items_pop? h]

/-! Only the items change. -/

theorem sending_push (q : Queue α) (a : α) : (q.push a).2.sending = q.sending := by
  unfold push
  split
  · rfl
  · split <;> rfl

theorem receiving_push (q : Queue α) (a : α) : (q.push a).2.receiving = q.receiving := by
  unfold push
  split
  · rfl
  · split <;> rfl

theorem capacity_push (q : Queue α) (a : α) : (q.push a).2.capacity = q.capacity := by
  unfold push
  split
  · rfl
  · split <;> rfl

theorem sending_pop? {q r : Queue α} {a : α} (h : q.pop? = some (a, r)) :
    r.sending = q.sending := by
  unfold pop? at h
  split at h
  · cases h
  · cases h
    rfl

theorem receiving_pop? {q r : Queue α} {a : α} (h : q.pop? = some (a, r)) :
    r.receiving = q.receiving := by
  unfold pop? at h
  split at h
  · cases h
  · cases h
    rfl

theorem capacity_pop? {q r : Queue α} {a : α} (h : q.pop? = some (a, r)) :
    r.capacity = q.capacity := by
  unfold pop? at h
  split at h
  · cases h
  · cases h
    rfl

/-- Nothing is taken off an empty queue. -/
theorem takeUpTo_of_nil {q : Queue α} (h : q.items = []) (n : Nat) : q.takeUpTo n = ([], q) := by
  obtain ⟨capacity, items, sending, receiving⟩ := q
  cases h
  simp [takeUpTo]

end Queue

end Muxwire.Mux
