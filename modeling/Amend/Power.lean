/-!
# Powers

Powers of numbers are those of the core library. Other libraries bring further instances for the same
operation; here they come second, so that a power means the same in every module, whatever the module
imports.
-/

namespace Amend

/-- Powers as the core library has them. -/
@[default_instance 20000]
scoped instance (priority := 2000) corePow {α : Type} [NatPow α] : Pow α Nat := instPowNat

end Amend
