/-!
# Stop signals

A stop signal fires once and stays fired. `trigger` tells the one call that fires it from all
others.

`SignalBoard` keeps several signals, the handles that callers hold on them, and the waiters on
them: every handle on a signal shows the same state, and a waiter is through as soon as its signal
has fired, before or after it began to wait.
-/

namespace Muxwire.Mux

/-- A signal. -/
structure StopSignal where
  fired : Bool
  deriving DecidableEq, Repr, Inhabited

namespace StopSignal

/-- A signal that has not fired. -/
def new : StopSignal := ⟨false⟩

/-- Fires the signal; the answer is whether this call did. -/
def trigger (s : StopSignal) : Bool × StopSignal :=
  (!s.fired, ⟨true⟩)

end StopSignal

/-- Signals, handles on them and waiters on them, each numbered from 0. -/
structure SignalBoard where
  signals : List StopSignal
  /-- The signal of each handle. -/
  handles : List Nat
  /-- The signal of each waiter, and whether the waiter is through. -/
  waiters : List (Nat × Bool)
  deriving DecidableEq, Repr

namespace SignalBoard

/-- One signal with one handle. -/
def new : SignalBoard :=
  ⟨[.new], [0], []⟩

/-- The number of the signal of a handle. -/
def signalOf (b : SignalBoard) (handle : Nat) : Nat :=
  b.handles.getD handle 0

/-- Whether a signal has fired. -/
def hasFired (b : SignalBoard) (signal : Nat) : Bool :=
  (b.signals.getD signal .new).fired

/-- One more handle on the signal of a handle; the answer is its number. -/
def clone (b : SignalBoard) (handle : Nat) : Nat × SignalBoard :=
  (b.handles.length, { b with handles := b.handles ++ [b.signalOf handle] })

/-- A signal of its own; the answer is the number of its handle. -/
def create (b : SignalBoard) : Nat × SignalBoard :=
  (b.handles.length,
    { b with signals := b.signals ++ [.new], handles := b.handles ++ [b.signals.length] })

/-- Fires the signal of a handle; the answer is whether this call did. -/
def trigger (b : SignalBoard) (handle : Nat) : Bool × SignalBoard :=
  let signal := b.signalOf handle
  ((b.signals.getD signal .new).trigger.1,
    { b with signals := b.signals.modify signal fun s => s.trigger.2 })

/-- Whether the signal of a handle has fired. -/
def isTriggered (b : SignalBoard) (handle : Nat) : Bool :=
  b.hasFired (b.signalOf handle)

/-- A waiter on the signal of a handle; the answer is its number. -/
def wait (b : SignalBoard) (handle : Nat) : Nat × SignalBoard :=
  (b.waiters.length, { b with waiters := b.waiters ++ [(b.signalOf handle, false)] })

/-- Lets every waiter through whose signal has fired. -/
def settle (b : SignalBoard) : SignalBoard :=
  { b with waiters := b.waiters.map fun (signal, through) => (signal, through || b.hasFired signal) }

/-- The numbers of the waiters that are through. -/
def through (b : SignalBoard) : List Nat :=
  (b.waiters.zipIdx.filter (·.1.2)).map (·.2)

end SignalBoard

end Muxwire.Mux
