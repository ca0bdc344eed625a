/-!
The signal to shut down, as one of its receivers sees it.
-/

namespace JobDispatch

/-- `unseen` tells that the value was set since it was last looked at, and `abandoned` that nobody
can set it any more. -/
structure Watch where
  value : Bool
  unseen : Bool
  abandoned : Bool
  deriving DecidableEq, Repr

namespace Watch

def quiet : Watch := ⟨false, false, false⟩

def signal (w : Watch) (value : Bool) : Watch :=
  if w.abandoned then w else { w with value, unseen := true }

def abandon (w : Watch) : Watch := { w with abandoned := true }

/-- What a receiver learns, if there is anything to learn: whether to stop. -/
def changed? (w : Watch) : Option (Bool × Watch) :=
  if w.unseen then some (w.value, { w with unseen := false })
  else if w.abandoned then some (true, w)
  else none

end Watch

end JobDispatch
