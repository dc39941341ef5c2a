/-!
# Powers

Powers with natural exponents are those of the core library, also next to a library with powers of
its own, so that a definition with a power means the same wherever it stands.
-/

namespace FlagBinding.Number

@[default_instance 20000]
instance (priority := high) corePower {α : Type} [NatPow α] : Pow α Nat :=
  instPowNat

end FlagBinding.Number
