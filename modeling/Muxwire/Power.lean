/-!
# Powers

A power `a ^ n` of a number is the one of the core library, in every module of this library: a
module that imports more than the core would else take it from elsewhere, and a statement about the
power would not be about the same term.
-/

namespace Muxwire

/-- The powers of the core library. -/
@[default_instance 20000]
instance (priority := 1100) corePow {α : Type} [NatPow α] : Pow α Nat :=
  instPowNat

end Muxwire
