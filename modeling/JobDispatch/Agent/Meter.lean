import JobDispatch.Agent.Slot

/-!
Meters count the idle or the busy ones of several slots and notice when the last idle one goes
and the first one comes back. They count in words of 64 bits and start again at zero behind the
largest.
-/

namespace JobDispatch

structure IdleMeter where
  idle : UInt64
  deriving DecidableEq, Repr

namespace IdleMeter

def ofSize (n : Nat) : IdleMeter := ⟨UInt64.ofNat n⟩

/-- One is idle no more; if it was the last one, all are busy. -/
def less (m : IdleMeter) : IdleMeter × Option Edge :=
  (⟨m.idle - 1⟩, if m.idle = 1 then some .busy else none)

/-- One more is idle. -/
def more (m : IdleMeter) : IdleMeter × Option Edge :=
  (⟨m.idle + 1⟩, if m.idle = 0 then some .idle else none)

end IdleMeter

inductive PoolStatus where
  | accepting
  | full
  deriving DecidableEq, Repr

def PoolStatus.name : PoolStatus → String
  | accepting => "ACCEPTING"
  | full => "FULL"

structure BusyMeter where
  busy : UInt64
  size : UInt64
  deriving DecidableEq, Repr

namespace BusyMeter

def ofSize (n : Nat) : BusyMeter := ⟨0, UInt64.ofNat n⟩

def status (m : BusyMeter) : PoolStatus := if m.size ≤ m.busy then .full else .accepting

/-- One more is busy; with the last one the status becomes full. -/
def more (m : BusyMeter) : BusyMeter × Option PoolStatus :=
  ({ m with busy := m.busy + 1 }, if m.busy + 1 = m.size then some .full else none)

/-- One is busy no more. -/
def less (m : BusyMeter) : BusyMeter × Option PoolStatus :=
  ({ m with busy := m.busy - 1 }, if m.busy = m.size then some .accepting else none)

end BusyMeter

end JobDispatch
