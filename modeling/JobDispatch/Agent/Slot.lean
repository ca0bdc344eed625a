/-!
Slots, through which one thread hands values to another, one at a time. A slot is reserved, fed
with a value, and idle again when the value is done with; the value itself is taken once.
-/

namespace JobDispatch

inductive SlotStatus where
  | idle
  | reserved
  | running
  deriving DecidableEq, Repr

inductive SlotError where
  | notIdle
  | notReserved
  | notRunning
  | noIdleSlot
  deriving DecidableEq, Repr

def SlotError.message : SlotError → String
  | notIdle => "feeder is not idle"
  | notReserved => "feeder is not reserved"
  | notRunning => "feeder is not running"
  | noIdleSlot => "no idle feeder in pool"

/-- A change that listeners are told of. -/
inductive Edge where
  | busy
  | idle
  deriving DecidableEq, Repr

structure Slot (α : Type) where
  status : SlotStatus
  value : Option α
  deriving DecidableEq, Repr

namespace Slot

variable {α : Type}

def empty : Slot α := ⟨.idle, none⟩

def isIdle (s : Slot α) : Bool := s.status == .idle

/-- Claims an idle slot. -/
def reserve (s : Slot α) : Except SlotError (Slot α) :=
  if s.status = .idle then .ok { s with status := .reserved } else .error .notIdle

/-- Puts a value into a reserved slot. -/
def feed (s : Slot α) (a : α) : Except SlotError (Slot α) :=
  if s.status = .reserved then .ok ⟨.running, some a⟩ else .error .notReserved

/-- Takes the value out of a slot, if there is one. -/
def take (s : Slot α) : Option α × Slot α := (s.value, { s with value := none })

/-- Gives a running slot back. -/
def finish (s : Slot α) : Except SlotError (Slot α) :=
  if s.status = .running then .ok empty else .error .notRunning

end Slot

end JobDispatch
