import JobDispatch.Agent.Worker
import Mathlib.Tactic.SplitIfs

/-!
Moves at a slot: all that a step of a submission and a step of a worker's thread can be, each said
once.
-/

namespace JobDispatch

variable {α : Type}

/-- Whether a submission reserved the slot that it has to feed. -/
def Submitter.isFeeding : Submitter α → Bool
  | feeding _ => true
  | _ => false

/-- All that a step of a submission can be, at a slot. -/
inductive Submitter.Move (slot : Slot (Submission α)) :
    Submitter α → Slot (Submission α) → Submitter α → Prop
  | reserves (s : Submission α) (idle : slot.status = .idle) :
      Move slot (.reserving s) { slot with status := .reserved } (.feeding s)
  | feeds (s : Submission α) (reserved : slot.status = .reserved) :
      Move slot (.feeding s) ⟨.running, some s⟩ .accepted
  | turnedAway (s : Submission α) (taken : slot.status ≠ .idle) :
      Move slot (.reserving s) slot (.refused s.item)
  | lost (s : Submission α) (other : slot.status ≠ .reserved) :
      Move slot (.feeding s) slot (.refused s.item)

theorem Submitter.step_move {slot slot' : Slot (Submission α)} {sub sub' : Submitter α}
    (h : sub.step slot = some (slot', sub')) : Move slot sub slot' sub' := by
  cases sub with
  | reserving s =>
    by_cases idle : slot.status = .idle
    · simp only [step, Slot.reserve, if_pos idle] at h
      cases h
      exact .reserves s idle
    · simp only [step, Slot.reserve, if_neg idle] at h
      cases h
      exact .turnedAway s idle
  | feeding s =>
    by_cases reserved : slot.status = .reserved
    · simp only [step, Slot.feed, if_pos reserved] at h
      cases h
      exact .feeds s reserved
    · simp only [step, Slot.feed, if_neg reserved] at h
      cases h
      exact .lost s reserved
  | accepted => cases h
  | refused a => cases h

/-- All that a step of a worker's thread can be, at a slot and with a turn. -/
inductive WorkerAt.Move (keepsOn : Bool) (slot : Slot (Submission α)) (turn : Turn) :
    WorkerAt α → Slot (Submission α) → WorkerAt α → Prop
  | looks : Move keepsOn slot turn .looking slot (if keepsOn then .waiting else .lastLook)
  | rests (nothing : slot.value = none) : Move keepsOn slot turn .waiting slot .looking
  | takes (s : Submission α) (last : Bool) (fed : slot.value = some s) :
      Move keepsOn slot turn (if last then .lastLook else .waiting) { slot with value := none }
        (.holding s last)
  | leaves (nothing : slot.value = none) : Move keepsOn slot turn .lastLook slot .ended
  | processes (s : Submission α) (last : Bool) (o : Outcome) (ended : turn = .processed o) :
      Move keepsOn slot turn (.holding s last) slot (.freeing last)
  | frees (last : Bool) (running : slot.status = .running) :
      Move keepsOn slot turn (.freeing last) .empty (if last then .ended else .looking)
  | keeps (last : Bool) (other : slot.status ≠ .running) :
      Move keepsOn slot turn (.freeing last) slot (if last then .ended else .looking)

theorem WorkerAt.step_move {keepsOn : Bool} {slot slot' : Slot (Submission α)} {turn : Turn}
    {w w' : WorkerAt α} (h : w.step keepsOn slot turn = some (slot', w')) :
    Move keepsOn slot turn w slot' w' := by
  cases w with
  | looking =>
    cases turn <;> cases h
    exact .looks
  | waiting =>
    cases turn with
    | go =>
      cases fed : slot.value with
      | none => simp [step, Slot.take, fed] at h
      | some s =>
        simp only [step, Slot.take, fed, Option.some.injEq, Prod.mk.injEq] at h
        obtain ⟨rfl, rfl⟩ := h
        exact .takes s false fed
    | late =>
      cases nothing : slot.value with
      | none =>
        simp only [step, nothing, Option.some.injEq, Prod.mk.injEq] at h
        obtain ⟨rfl, rfl⟩ := h
        exact .rests nothing
      | some s => simp [step, nothing] at h
    | _ => cases h
  | holding s last =>
    cases turn with
    | processed o =>
      cases h
      exact .processes s last o rfl
    | _ => cases h
  | freeing last =>
    cases turn <;> simp only [step, Slot.finish, reduceCtorEq] at h
    by_cases running : slot.status = .running
    · rw [if_pos running] at h
      cases h
      exact .frees last running
    · rw [if_neg running] at h
      cases h
      exact .keeps last running
  | lastLook =>
    cases turn <;> simp only [step, reduceCtorEq] at h
    cases fed : slot.value with
    | none =>
      have untouched : ({ slot with value := none } : Slot (Submission α)) = slot := by rw [← fed]
      simp only [Slot.take, fed, Option.some.injEq, Prod.mk.injEq] at h
      obtain ⟨rfl, rfl⟩ := h
      rw [untouched]
      exact .leaves fed
    | some s =>
      simp only [Slot.take, fed, Option.some.injEq, Prod.mk.injEq] at h
      obtain ⟨rfl, rfl⟩ := h
      exact .takes s true fed
  | ended => cases h

end JobDispatch
