/-!
Locks on jobs by their identities: what is locked cannot be locked again.
-/

namespace JobDispatch

inductive LockError where
  | alreadyLocked (id : String)
  | notLocked (id : String)
  deriving DecidableEq, Repr

def LockError.id : LockError → String
  | alreadyLocked id => id
  | notLocked id => id

def LockError.message : LockError → String
  | alreadyLocked id => "job " ++ id ++ " is already locked"
  | notLocked id => "job " ++ id ++ " was not locked"

/-- The locked identities. -/
structure Locks where
  ids : List String
  deriving DecidableEq, Repr

namespace Locks

def empty : Locks := ⟨[]⟩

def isLocked (l : Locks) (id : String) : Bool := l.ids.contains id

def lock (l : Locks) (id : String) : Except LockError Locks :=
  if l.isLocked id then .error (.alreadyLocked id) else .ok ⟨id :: l.ids⟩

def release (l : Locks) (id : String) : Except LockError Locks :=
  if l.isLocked id then .ok ⟨l.ids.erase id⟩ else .error (.notLocked id)

end Locks

end JobDispatch
