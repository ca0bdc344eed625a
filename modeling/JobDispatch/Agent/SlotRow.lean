import JobDispatch.Agent.Meter

/-!
Rows of slots with a meter of the idle ones. Each change of a slot is counted right away, and the
meter says when the row becomes busy as a whole, and when it becomes idle again.
-/

namespace JobDispatch

structure SlotRow (α : Type) where
  slots : List (Slot α)
  meter : IdleMeter
  deriving DecidableEq, Repr

namespace SlotRow

variable {α : Type}

def ofSize (n : Nat) : SlotRow α := ⟨List.replicate n .empty, .ofSize n⟩

def isIdle (r : SlotRow α) : Bool := r.slots.any Slot.isIdle

/-- Reserves the slot of an index. -/
def reserve (r : SlotRow α) (i : Nat) : Except SlotError (SlotRow α × Option Edge) :=
  match r.slots[i]? with
  | none => .error .noIdleSlot
  | some s => do
    let s ← s.reserve
    let (meter, edge) := r.meter.less
    return (⟨r.slots.set i s, meter⟩, edge)

/-- Reserves the first idle slot and gives its index. -/
def reserveAny (r : SlotRow α) : Except SlotError (Nat × SlotRow α × Option Edge) :=
  match r.slots.findIdx? Slot.isIdle with
  | none => .error .noIdleSlot
  | some i => do return (i, ← r.reserve i)

def feed (r : SlotRow α) (i : Nat) (a : α) : Except SlotError (SlotRow α) :=
  match r.slots[i]? with
  | none => .error .notReserved
  | some s => do return { r with slots := r.slots.set i (← s.feed a) }

def take (r : SlotRow α) (i : Nat) : Option α × SlotRow α :=
  match r.slots[i]? with
  | none => (none, r)
  | some s => (s.take.1, { r with slots := r.slots.set i s.take.2 })

def finish (r : SlotRow α) (i : Nat) : Except SlotError (SlotRow α × Option Edge) :=
  match r.slots[i]? with
  | none => .error .notRunning
  | some s => do
    let s ← s.finish
    let (meter, edge) := r.meter.more
    return (⟨r.slots.set i s, meter⟩, edge)

end SlotRow

end JobDispatch
