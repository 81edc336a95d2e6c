/-!
# Powers

Bounds, masks and block sizes are powers of numbers. They are the powers of
the language itself, and stay so where a library of algebra brings powers
of its own: a bound that is defined without the library is the same bound
in a proof that uses it.
-/

namespace ClusterBlueprint

/-- Powers of natural numbers, before any that a library has. -/
@[default_instance 10001]
instance (priority := high) natPow : Pow Nat Nat := instPowNat

/-- And powers of integers. -/
@[default_instance 10001]
instance (priority := high) intPow : Pow Int Nat := instPowNat

end ClusterBlueprint
