import JobDispatch.Agent.Slot

/-!
Workers: a thread that processes what is fed to a slot, one submission after the other, until it
is told to stop. Submitting and working are given step by step, so that the steps of several
threads can be mixed in every way.
-/

namespace JobDispatch

structure Submission (α : Type) where
  item : α
  reason : String
  deriving DecidableEq, Repr

/-- How the processing of an item ends. -/
inductive Outcome where
  | finished
  | failed
  | panicked
  deriving DecidableEq, Repr

/-- What lets a thread make its next step. -/
inductive Turn where
  | go
  /-- the time that it waits is over -/
  | late
  /-- the processing of its item has ended -/
  | processed (o : Outcome)
  /-- a thread that it wants to start cannot be had, for the reason that the system gives -/
  | noThread (cause : String)
  deriving DecidableEq, Repr

/-- How far a thread is with submitting something to a worker. -/
inductive Submitter (α : Type) where
  | reserving (s : Submission α)
  | feeding (s : Submission α)
  | accepted
  /-- the worker is busy, and gives the item back -/
  | refused (item : α)
  deriving DecidableEq, Repr

variable {α : Type}

/-- The next step of a submission at the worker's slot. -/
def Submitter.step (slot : Slot (Submission α)) :
    Submitter α → Option (Slot (Submission α) × Submitter α)
  | reserving s =>
    match slot.reserve with
    | .ok slot => some (slot, feeding s)
    | .error _ => some (slot, refused s.item)
  | feeding s =>
    match slot.feed s with
    | .ok slot => some (slot, accepted)
    | .error _ => some (slot, refused s.item)
  | accepted => none
  | refused _ => none

/-- How far the thread of a worker is. After it was told to stop it looks into its slot for a
last time. -/
inductive WorkerAt (α : Type) where
  | looking
  | waiting
  | holding (s : Submission α) (last : Bool)
  | freeing (last : Bool)
  | lastLook
  | ended
  deriving DecidableEq, Repr

namespace WorkerAt

/-- The next step of a worker's thread; `keepsOn` tells that nobody told it to stop. -/
def step (keepsOn : Bool) (slot : Slot (Submission α)) :
    WorkerAt α → Turn → Option (Slot (Submission α) × WorkerAt α)
  | looking, .go => some (slot, if keepsOn then waiting else lastLook)
  | waiting, .go =>
    match slot.take with
    | (some s, slot) => some (slot, holding s false)
    | (none, _) => none
  | waiting, .late =>
    match slot.value with
    | none => some (slot, looking)
    | some _ => none
  | holding _ last, .processed _ => some (slot, freeing last)
  | freeing last, .go =>
    let after := if last then ended else looking
    match slot.finish with
    | .ok slot => some (slot, after)
    | .error _ => some (slot, after)
  | lastLook, .go =>
    match slot.take with
    | (some s, slot) => some (slot, holding s true)
    | (none, slot) => some (slot, ended)
  | _, _ => none

end WorkerAt

structure Worker (α : Type) where
  slot : Slot (Submission α)
  keepsOn : Bool
  deriving DecidableEq, Repr

namespace Worker

def ready : Worker α := ⟨.empty, true⟩

def isIdle (w : Worker α) : Bool := w.slot.isIdle

def stop (w : Worker α) : Worker α := { w with keepsOn := false }

/-- Both steps of a submission, without anything in between. -/
def submit (w : Worker α) (s : Submission α) : Except α (Worker α) :=
  match Submitter.step w.slot (.reserving s) with
  | some (slot, .feeding s) =>
    match Submitter.step slot (.feeding s) with
    | some (slot, .accepted) => .ok { w with slot }
    | _ => .error s.item
  | _ => .error s.item

/-- What a worker's thread needs for its next step when nobody else does anything. -/
def turn (process : Submission α → Outcome) : WorkerAt α → Turn
  | .holding s _ => .processed (process s)
  | _ => .go

/-- Lets a worker's thread make up to `steps` steps, and gives what it processed meanwhile. -/
def drive (process : Submission α → Outcome) :
    Nat → WorkerAt α → Worker α → List (Submission α) × Worker α
  | 0, _, w => ([], w)
  | steps + 1, p, w =>
    match p.step w.keepsOn w.slot (turn process p) with
    | none => ([], w)
    | some (slot, q) =>
      let (done, w) := drive process steps q { w with slot }
      match p with
      | .holding s _ => (s :: done, w)
      | _ => (done, w)

/-- The most steps that a worker's thread makes after it was told to stop. -/
def lastSteps : Nat := 4

/-- Tells a worker to stop and runs its thread to the end. -/
def stopAndRun (w : Worker α) (process : Submission α → Outcome) :
    List (Submission α) × Worker α :=
  drive process lastSteps .looking w.stop

end Worker

end JobDispatch
