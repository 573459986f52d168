/-!
# The intake gate

The dispatcher takes no new query while too many responses wait to be handed out. `Intake.ofSizes`
is the gate for a response queue: it is open up to a threshold of `capacity / divisor` waiting
responses, where a divisor of zero counts as one.
-/

namespace Muxwire.Mux

/-- A gate with the greatest number of waiting responses at which it is open. -/
structure Intake where
  threshold : Nat
  deriving DecidableEq, Repr

namespace Intake

/-- The gate for a queue of some capacity. -/
def ofSizes (capacity divisor : Nat) : Intake :=
  ⟨capacity / max divisor 1⟩

/-- Whether the gate is open. -/
def isOpen (g : Intake) (waiting : Nat) : Bool :=
  waiting ≤ g.threshold

theorem isOpen_iff (g : Intake) (waiting : Nat) :
    g.isOpen waiting = true ↔ waiting ≤ g.threshold := by
  simp [isOpen]

end Intake

end Muxwire.Mux
