/-
  Powers and zeros of numbers are those of the core library, also where an
  algebraic hierarchy is in scope, so that a definition is the same term for
  the program and for its theory.
-/

namespace SourceDebugger

/-- Preferred to the powers of monoids, also for numbers of unknown type. -/
@[default_instance 20000]
instance (priority := high) naturalPower {α : Type} [NatPow α] : Pow α Nat := instPowNat

instance (priority := high) wordPower : Pow UInt64 Nat := instPowUInt64Nat

instance (priority := high) naturalZero : Zero Nat := Zero.ofOfNat0

instance (priority := high) integerZero : Zero Int := Zero.ofOfNat0

end SourceDebugger
