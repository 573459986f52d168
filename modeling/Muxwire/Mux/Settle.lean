/-!
# Running until nothing moves

A stage is given by the actions that it may take, each a partial function on its states.

* `firstEnabled` takes the first action of a list that is possible.
* `settle` repeats this, at most a given number of times. `advance_settle` says which numbers
  suffice: a weight that every step lowers bounds the steps that are possible. Each stage has such
  a weight on its states.
-/

namespace Muxwire.Mux

/-- The state after the first possible action. -/
def firstEnabled {σ α : Type} (act : α → σ → Option σ) (actions : List α) (s : σ) : Option σ :=
  actions.findSome? fun a => act a s

/-- The state after up to `n` steps, fewer if no step is possible. -/
def settle {σ : Type} (advance : σ → Option σ) : Nat → σ → σ
  | 0, s => s
  | n + 1, s =>
    match advance s with
    | none => s
    | some s' => settle advance n s'

/-- A state in which nothing moves stays. -/
theorem settle_of_none {σ : Type} {advance : σ → Option σ} {s : σ} (h : advance s = none)
    (n : Nat) : settle advance n s = s := by
  cases n <;> simp [settle, h]

/-- **Nothing moves after as many steps as the weight of the state**, if every step lowers it. -/
theorem advance_settle {σ : Type} {advance : σ → Option σ} (weight : σ → Nat)
    (lower : ∀ s s', advance s = some s' → weight s' < weight s) {n : Nat} {s : σ}
    (enough : weight s ≤ n) : advance (settle advance n s) = none := by
  induction n generalizing s with
  | zero =>
    cases h : advance s with
    | none => exact h
    | some s' =>
      have := lower s s' h
      omega
  | succ n ih =>
    cases h : advance s with
    | none => rw [settle_of_none h]; exact h
    | some s' =>
      have := lower s s' h
      simp only [settle, h]
      exact ih (by omega)

/-- The first possible action is one of the actions given. -/
theorem exists_of_firstEnabled {σ α : Type} {act : α → σ → Option σ} {actions : List α} {s s' : σ}
    (h : firstEnabled act actions s = some s') : ∃ a ∈ actions, act a s = some s' :=
  List.exists_of_findSome?_eq_some h

end Muxwire.Mux
