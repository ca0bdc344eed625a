/-!
Stored things: a value with its identity and a version that counts its changes.
-/

namespace JobDispatch

structure Entity (α : Type) where
  id : String
  version : Nat
  value : α
  deriving DecidableEq, Repr, Inhabited

/-- The same thing, at the same version, with another value. -/
def Entity.withValue {α : Type} (e : Entity α) (value : α) : Entity α := { e with value }

end JobDispatch
