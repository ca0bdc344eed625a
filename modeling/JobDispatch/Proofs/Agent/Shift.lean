import JobDispatch.Proofs.Agent.Slot
import JobDispatch.Proofs.Counting

/-!
Shifts of a worker: one thread runs it while any number of calls submit to it and tell it to stop,
with the steps of all of them mixed in every way. What is accepted is processed in its turn, one
item after the other, and nothing that was accepted before the stop is left behind.
-/

namespace JobDispatch

variable {α : Type}

/-- What is seen of a worker; a call that submits something is known by its position. -/
inductive WorkerMark (α : Type) where
  | reserved (call : Nat)
  | accepted (call : Nat) (s : Submission α)
  | refused (call : Nat) (item : α)
  | begun (s : Submission α)
  | processed (s : Submission α) (o : Outcome)
  | freed
  | stopped

namespace WorkerMark

/-- Whether a mark is about the call at a position. -/
def ofCall (k : Nat) : WorkerMark α → Bool
  | reserved j => j == k
  | accepted j _ => j == k
  | refused j _ => j == k
  | _ => false

/-- Whether a mark is about the thread that runs the worker. -/
def isWork : WorkerMark α → Bool
  | begun _ => true
  | processed _ _ => true
  | freed => true
  | _ => false

def isStop : WorkerMark α → Bool
  | stopped => true
  | _ => false

def accepted? : WorkerMark α → Option (Nat × Submission α)
  | accepted k s => some (k, s)
  | _ => none

def processed? : WorkerMark α → Option (Submission α × Outcome)
  | processed s o => some (s, o)
  | _ => none

/-- All that is seen of a submission from its beginning to the slot that is free again. -/
def round : Submission α × Outcome → List (WorkerMark α)
  | (s, o) => [begun s, processed s o, freed]

end WorkerMark

/-- The submissions that were accepted, with their calls. -/
def acceptedIn (log : List (WorkerMark α)) : List (Nat × Submission α) :=
  log.filterMap WorkerMark.accepted?

def processedIn (log : List (WorkerMark α)) : List (Submission α × Outcome) :=
  log.filterMap WorkerMark.processed?

/-- What was seen before somebody told the worker to stop. -/
def beforeStop (log : List (WorkerMark α)) : List (WorkerMark α) :=
  log.takeWhile fun m => !m.isStop

theorem acceptedIn_append (log more : List (WorkerMark α)) :
    acceptedIn (log ++ more) = acceptedIn log ++ acceptedIn more :=
  List.filterMap_append

theorem processedIn_append (log more : List (WorkerMark α)) :
    processedIn (log ++ more) = processedIn log ++ processedIn more :=
  List.filterMap_append

/-- After a stop nothing that is seen came before it. -/
theorem beforeStop_append {log : List (WorkerMark α)} (h : ∃ m ∈ log, m.isStop = true)
    (more : List (WorkerMark α)) : beforeStop (log ++ more) = beforeStop log := by
  induction log with
  | nil => simp at h
  | cons m log ih =>
    cases stop : m.isStop with
    | true => simp [beforeStop, stop]
    | false =>
      have later : ∃ m ∈ log, m.isStop = true := by simpa [stop] using h
      simpa [beforeStop, stop] using ih later

theorem acceptedIn_beforeStop (log : List (WorkerMark α)) :
    (acceptedIn (beforeStop log)).map Prod.snd <+: (acceptedIn log).map Prod.snd :=
  ((List.takeWhile_prefix _).filterMap _).map _

/-- What is seen of a call that came to a place. -/
def Submitter.marks (k : Nat) (s : Submission α) : Submitter α → List (WorkerMark α)
  | reserving _ => []
  | feeding _ => [.reserved k]
  | accepted => [.accepted k s]
  | refused a => [.refused k a]

/-- All that can be seen of a call that submits something, and how far it is then: it reserves the
slot and is accepted, or it is refused and has its item back. -/
inductive Submitter.Trail (k : Nat) (s : Submission α) :
    Submitter α → List (WorkerMark α) → Prop
  | reserving : Trail k s (.reserving s) []
  | feeding : Trail k s (.feeding s) [.reserved k]
  | accepted : Trail k s .accepted [.reserved k, .accepted k s]
  | refused : Trail k s (.refused s.item) [.refused k s.item]

namespace WorkerAt

/-- What is seen of a worker's thread that leaves a place for another one. -/
def marks (slot : Slot (Submission α)) (turn : Turn) :
    WorkerAt α → WorkerAt α → List (WorkerMark α)
  | holding s _, _ =>
    match turn with
    | .processed o => [.processed s o]
    | _ => []
  | freeing _, _ => if slot.status = .running then [.freed] else []
  | _, holding s _ => [.begun s]
  | _, _ => []

/-- What a worker's thread took out of its slot and still processes. -/
def held : WorkerAt α → Option (Submission α)
  | holding s _ => some s
  | _ => none

/-- Whether a worker's thread took something out of its slot, which it did not give back yet. -/
def isBusy : WorkerAt α → Bool
  | holding _ _ => true
  | freeing _ => true
  | _ => false

/-- Whether a worker's thread looked into its slot for the last time. -/
def hasLooked : WorkerAt α → Bool
  | holding _ last => last
  | freeing last => last
  | ended => true
  | _ => false

/-- The marks of a worker's thread are those of whole rounds, but for the last one, if the thread
is busy with it. -/
def Rounds (work : List (WorkerMark α)) (done : List (Submission α × Outcome)) :
    WorkerAt α → Prop
  | holding s _ => work = done.flatMap WorkerMark.round ++ [.begun s]
  | freeing _ => work ++ [.freed] = done.flatMap WorkerMark.round
  | _ => work = done.flatMap WorkerMark.round

/-- A slot runs while there is a value in it, or the thread of its worker is busy with the value;
never both. -/
def Fits (slot : Slot (Submission α)) (w : WorkerAt α) : Prop :=
  slot.value.isSome.toNat + w.isBusy.toNat = if slot.status = .running then 1 else 0

end WorkerAt

structure SubmitCall (α : Type) where
  s : Submission α
  at_ : Submitter α

inductive ShiftEvent (α : Type) where
  | submits (s : Submission α)
  | moves (call : Nat)
  | works (turn : Turn)
  | stops

/-- A worker, the thread that runs it, the calls that submit to it, and what was seen so far. -/
structure Shift (α : Type) where
  worker : Worker α
  runner : WorkerAt α
  calls : List (SubmitCall α)
  log : List (WorkerMark α)

namespace Shift

def start : Shift α := ⟨.ready, .looking, [], []⟩

/-- What an event makes of a shift; a step that cannot be made changes nothing. -/
def react (x : Shift α) : ShiftEvent α → Shift α
  | .submits s => { x with calls := x.calls ++ [⟨s, .reserving s⟩] }
  | .moves k =>
    match x.calls[k]? with
    | none => x
    | some c =>
      match c.at_.step x.worker.slot with
      | none => x
      | some (slot, at_) => { x with
          worker := { x.worker with slot }
          calls := x.calls.set k ⟨c.s, at_⟩
          log := x.log ++ at_.marks k c.s }
  | .works turn =>
    match x.runner.step x.worker.keepsOn x.worker.slot turn with
    | none => x
    | some (slot, runner) => { x with
        worker := { x.worker with slot }
        runner
        log := x.log ++ x.runner.marks x.worker.slot turn runner }
  | .stops => { x with worker := x.worker.stop, log := x.log ++ [.stopped] }

def run (es : List (ShiftEvent α)) : Shift α := es.foldl react start

/-- What is promised of a worker, at any moment of a shift. -/
structure Orderly (x : Shift α) : Prop where
  /-- a call that reserved the slot is not refused, and one that is refused has its own item -/
  trails : ∀ (k : Nat) (c : SubmitCall α), x.calls[k]? = some c →
    Submitter.Trail k c.s c.at_ (x.log.filter (·.ofCall k))
  feeds : ∀ (k : Nat) (c : SubmitCall α), x.calls[k]? = some c → c.at_.isFeeding = true →
    ∃ slot, c.at_.step x.worker.slot = some (slot, .accepted)
  refusals : ∀ (k : Nat) (c d : SubmitCall α) (a : α), x.calls[k]? = some c →
    (x.react (.moves k)).calls[k]? = some d → d ≠ c → d.at_ = .refused a →
      a = c.s.item ∧ (x.react (.moves k)).worker = x.worker ∧
        (x.react (.moves k)).runner = x.runner ∧
          ∀ j, j ≠ k → (x.react (.moves k)).calls[j]? = x.calls[j]?
  /-- one item after the other, each until its slot is free again -/
  rounds : x.runner.Rounds (x.log.filter WorkerMark.isWork) (processedIn x.log)
  /-- no call is accepted twice, and what is accepted is processed in this order -/
  once : ((acceptedIn x.log).map Prod.fst).Nodup
  order : (acceptedIn x.log).map Prod.snd =
    (processedIn x.log).map Prod.fst ++ x.runner.held.toList ++ x.worker.slot.value.toList
  /-- nothing that was accepted before the stop is left when the thread ends -/
  caught : x.runner = .ended →
    (acceptedIn (beforeStop x.log)).map Prod.snd <+: (processedIn x.log).map Prod.fst

/-- What every step keeps of a shift. At a reserved slot there is one call that feeds it, and a
running slot is fed, or its value is with the thread of the worker. -/
structure Kept (x : Shift α) : Prop where
  trails : ∀ (k : Nat) (c : SubmitCall α), x.calls[k]? = some c →
    Submitter.Trail k c.s c.at_ (x.log.filter (·.ofCall k))
  fresh : ∀ k, x.calls.length ≤ k → x.log.filter (·.ofCall k) = []
  reserved : x.calls.countP (·.at_.isFeeding) = if x.worker.slot.status = .reserved then 1 else 0
  fits : x.runner.Fits x.worker.slot
  rounds : x.runner.Rounds (x.log.filter WorkerMark.isWork) (processedIn x.log)
  once : ((acceptedIn x.log).map Prod.fst).Nodup
  order : (acceptedIn x.log).map Prod.snd =
    (processedIn x.log).map Prod.fst ++ x.runner.held.toList ++ x.worker.slot.value.toList
  told : x.worker.keepsOn = false ∨ x.runner = .lastLook ∨ x.runner.hasLooked = true →
    ∃ m ∈ x.log, m.isStop = true
  caught : x.runner.hasLooked = true → (acceptedIn (beforeStop x.log)).map Prod.snd <+:
    (processedIn x.log).map Prod.fst ++ x.runner.held.toList

end Shift

section

variable {m : WorkerMark α}

theorem WorkerMark.ofCall_of_isWork (h : m.isWork = true) (k : Nat) : m.ofCall k = false := by
  cases m <;> first | rfl | cases h

theorem WorkerMark.accepted?_of_isWork (h : m.isWork = true) : m.accepted? = none := by
  cases m <;> first | rfl | cases h

theorem WorkerAt.isWork_of_mem_marks {slot : Slot (Submission α)} {turn : Turn}
    {w w' : WorkerAt α} (h : m ∈ w.marks slot turn w') : m.isWork = true := by
  unfold marks at h
  split at h
  · split at h <;> simp_all [WorkerMark.isWork]
  · split_ifs at h <;> simp_all [WorkerMark.isWork]
  · simp_all [WorkerMark.isWork]
  · simp at h

variable (k : Nat) (s : Submission α) (sub : Submitter α)

theorem Submitter.filter_isWork_marks : (sub.marks k s).filter WorkerMark.isWork = [] := by
  cases sub <;> rfl

theorem Submitter.processedIn_marks : processedIn (sub.marks k s) = [] := by
  cases sub <;> rfl

theorem Submitter.filter_ofCall_marks (j : Nat) :
    (sub.marks k s).filter (·.ofCall j) = if j = k then sub.marks k s else [] := by
  by_cases same : j = k
  · subst same
    cases sub <;> simp [marks, WorkerMark.ofCall]
  · have other : (k == j) = false := beq_false_of_ne (Ne.symm same)
    cases sub <;> simp [marks, WorkerMark.ofCall, other, same]

/-- A call that makes a step leaves a longer trail. -/
theorem Submitter.Move.trail {k : Nat} {s : Submission α} {slot slot' : Slot (Submission α)}
    {sub sub' : Submitter α} (move : Move slot sub slot' sub')
    (reserved : sub.isFeeding = true → slot.status = .reserved) {trail : List (WorkerMark α)}
    (h : Trail k s sub trail) : Trail k s sub' (trail ++ sub'.marks k s) := by
  cases move with
  | reserves t =>
    cases h
    exact .feeding
  | feeds t =>
    cases h
    exact .accepted
  | turnedAway t =>
    cases h
    exact .refused
  | lost t other =>
    -- nobody takes a reserved slot from the call that reserved it
    exact absurd (reserved rfl) other

end

section

variable {slot : Slot (Submission α)} {w : WorkerAt α} {last : Bool}

theorem WorkerAt.Fits.free (h : Fits slot w) (other : slot.status ≠ .running) :
    slot.value = none ∧ w.isBusy = false := by
  rw [Fits, if_neg other] at h
  obtain ⟨value, busy⟩ := Nat.add_eq_zero_iff.mp h
  exact ⟨by simpa using value, by simpa using busy⟩

theorem WorkerAt.Fits.running (h : Fits slot (.freeing last)) : slot.status = .running := by
  by_contra other
  cases (h.free other).2

theorem WorkerAt.Fits.nothing (h : Fits slot (.freeing last)) : slot.value = none := by
  have running := h.running
  rw [Fits, if_pos running] at h
  cases value : slot.value <;> simp [value, isBusy] at h ⊢

end

namespace Submitter.Move

variable {slot slot' : Slot (Submission α)} {sub sub' : Submitter α} {k : Nat} {s : Submission α}

theorem fits (h : Move slot sub slot' sub') {w : WorkerAt α} (fits : w.Fits slot) :
    w.Fits slot' := by
  cases h with
  | reserves t idle => simpa [WorkerAt.Fits, idle] using fits
  | feeds t reserved =>
    have free := fits.free (by simp [reserved])
    simp [WorkerAt.Fits, free]
  | turnedAway | lost => exact fits

/-- A call feeds the slot as long as it is reserved. -/
theorem feeding (h : Move slot sub slot' sub')
    (reserved : sub.isFeeding = true → slot.status = .reserved) {n n' : Nat}
    (before : n = if slot.status = .reserved then 1 else 0)
    (count : n' + sub.isFeeding.toNat = n + sub'.isFeeding.toNat) :
    n' = if slot'.status = .reserved then 1 else 0 := by
  cases h with
  | reserves t idle => simpa [idle, isFeeding, before] using count
  | feeds t feeds => simpa [feeds, isFeeding, before] using count
  | turnedAway t taken => simpa [isFeeding, before] using count
  | lost t other => exact absurd (reserved rfl) other

/-- What is accepted lies in the slot then. -/
theorem order (h : Move slot sub slot' sub') {w : WorkerAt α} (fits : w.Fits slot)
    {trail : List (WorkerMark α)} (own : Trail k s sub trail) :
    slot'.value.toList = slot.value.toList ++ (acceptedIn (sub'.marks k s)).map Prod.snd := by
  cases h with
  | feeds t reserved =>
    cases own
    have free := fits.free (by simp [reserved])
    rw [free.1]
    rfl
  | reserves | turnedAway | lost => exact (List.append_nil _).symm

/-- A call that is accepted was not accepted before. -/
theorem once (h : Move slot sub slot' sub') {log : List (WorkerMark α)}
    (own : Trail k s sub (log.filter (·.ofCall k)))
    (once : ((acceptedIn log).map Prod.fst).Nodup) :
    ((acceptedIn (log ++ sub'.marks k s)).map Prod.fst).Nodup := by
  rw [acceptedIn_append, List.map_append]
  cases h with
  | feeds t =>
    have new : k ∉ (acceptedIn log).map Prod.fst := by
      -- its trail, as far as it feeds, has no mark that it is accepted
      intro old
      obtain ⟨⟨j, t⟩, ht, rfl⟩ := List.mem_map.mp old
      obtain ⟨m, hm, accepted⟩ := List.mem_filterMap.mp ht
      cases m <;> cases accepted
      have trail : .accepted j t ∈ log.filter (·.ofCall j) :=
        List.mem_filter.mpr ⟨hm, beq_self_eq_true j⟩
      generalize log.filter _ = marks at own trail
      cases own
      simp at trail
    refine List.nodup_append.mpr ⟨once, List.nodup_singleton k, ?_⟩
    intro a ha b hb same
    obtain rfl := List.mem_singleton.mp hb
    exact new (same ▸ ha)
  | reserves | turnedAway | lost => exact (congrArg List.Nodup (List.append_nil _)).mpr once

theorem untouched {a : α} (h : Move slot sub slot' (.refused a)) : slot' = slot := by
  cases h <;> rfl

end Submitter.Move

namespace WorkerAt.Move

variable {keepsOn : Bool} {slot slot' : Slot (Submission α)} {turn : Turn} {w w' : WorkerAt α}

theorem marks_takes (s : Submission α) (last : Bool) :
    (if last then lastLook else waiting).marks slot turn (.holding s last) = [.begun s] := by
  cases last <;> rfl

theorem reserved_iff (h : Move keepsOn slot turn w slot' w') :
    slot'.status = .reserved ↔ slot.status = .reserved := by
  cases h with
  | frees last running => simp [running, Slot.empty]
  | _ => rfl

theorem fits (h : Move keepsOn slot turn w slot' w') (fits : Fits slot w) : Fits slot' w' := by
  cases h with
  | looks => cases keepsOn <;> exact fits
  | takes s last fed => cases last <;> simpa [Fits, fed, isBusy] using fits
  | rests | leaves | processes => exact fits
  | frees last => cases last <;> rfl
  | keeps last other => exact absurd fits.running other

theorem rounds (h : Move keepsOn slot turn w slot' w') (fits : Fits slot w)
    {work : List (WorkerMark α)} {done : List (Submission α × Outcome)}
    (rounds : w.Rounds work done) :
    w'.Rounds (work ++ w.marks slot turn w') (done ++ processedIn (w.marks slot turn w')) := by
  cases h with
  | looks => cases keepsOn <;> simpa [marks, Rounds, processedIn] using rounds
  | takes s last fed =>
    have idle : work = done.flatMap WorkerMark.round := by cases last <;> exact rounds
    have none : processedIn [WorkerMark.begun s] = [] := rfl
    rw [marks_takes, none, List.append_nil, idle]
    rfl
  | rests | leaves => simpa [marks, Rounds, processedIn] using rounds
  | processes s last o ended =>
    subst ended
    simp only [marks, Rounds] at rounds ⊢
    rw [rounds]
    simp [processedIn, WorkerMark.processed?, WorkerMark.round]
  | frees last running =>
    have marked : marks slot turn (.freeing last) (if last then ended else looking) = [.freed] := by
      cases last <;> exact if_pos running
    have none : processedIn [(WorkerMark.freed : WorkerMark α)] = [] := rfl
    have whole : work ++ [.freed] = done.flatMap WorkerMark.round := rounds
    rw [marked, none, List.append_nil, whole]
    cases last <;> rfl
  | keeps last other => exact absurd fits.running other

/-- What is processed was held, and what is held was in the slot. -/
theorem order (h : Move keepsOn slot turn w slot' w') (fits : Fits slot w) :
    (processedIn (w.marks slot turn w')).map Prod.fst ++ w'.held.toList ++ slot'.value.toList =
      w.held.toList ++ slot.value.toList := by
  cases h with
  | looks => cases keepsOn <;> rfl
  | takes s last fed =>
    have none : processedIn [WorkerMark.begun s] = [] := rfl
    rw [marks_takes, none, fed]
    cases last <;> rfl
  | rests | leaves => rfl
  | processes s last o ended =>
    subst ended
    rfl
  | frees last running =>
    rw [fits.nothing]
    cases last <;> simp [marks, running, processedIn, WorkerMark.processed?, held, Slot.empty]
  | keeps last other => exact absurd fits.running other

/-- A thread that looks for the last time takes all that there is, and what it processes after
that it held. -/
theorem last (h : Move keepsOn slot turn w slot' w') (looked : w'.hasLooked = true) :
    w = .lastLook ∧ slot'.value = none ∨ w.hasLooked = true ∧
      (processedIn (w.marks slot turn w')).map Prod.fst ++ w'.held.toList = w.held.toList := by
  cases h with
  | looks => cases keepsOn <;> cases looked
  | takes s last fed =>
    cases last with
    | true => exact .inl ⟨rfl, rfl⟩
    | false => cases looked
  | rests => cases looked
  | leaves nothing => exact .inl ⟨rfl, nothing⟩
  | processes s last o ended =>
    subst ended
    exact .inr ⟨looked, rfl⟩
  | frees last running =>
    cases last with
    | true => exact .inr ⟨rfl, by simp [marks, running, processedIn, WorkerMark.processed?, held]⟩
    | false => cases looked
  | keeps last other =>
    cases last with
    | true => exact .inr ⟨rfl, by simp [marks, other, processedIn, held]⟩
    | false => cases looked

/-- A thread looks for the last time only if the worker was told to stop. -/
theorem told (h : Move keepsOn slot turn w slot' w')
    (looks : w' = .lastLook ∨ w'.hasLooked = true) :
    keepsOn = false ∨ w = .lastLook ∨ w.hasLooked = true := by
  cases h with
  | looks => cases keepsOn <;> simp_all [hasLooked]
  | takes s last => cases last <;> simp_all [hasLooked]
  | rests => simp [hasLooked] at looks
  | leaves => exact .inr (.inl rfl)
  | processes s last => exact .inr (.inr (by simpa [hasLooked] using looks))
  | frees last | keeps last => cases last <;> simp_all [hasLooked]

end WorkerAt.Move

namespace Shift

theorem kept_start : (start : Shift α).Kept where
  trails := by simp [start]
  fresh := by simp [start]
  reserved := rfl
  fits := rfl
  rounds := rfl
  once := List.nodup_nil
  order := rfl
  told := by simp [start, Worker.ready, WorkerAt.hasLooked]
  caught := by simp [start, WorkerAt.hasLooked]

variable {x : Shift α}

theorem Kept.submits (h : x.Kept) (s : Submission α) : (x.react (.submits s)).Kept where
  trails k c hk := by
    by_cases hlt : k < x.calls.length
    · rw [react, List.getElem?_append_left hlt] at hk
      exact h.trails k c hk
    · have new := h.fresh k (by omega)
      rw [react, List.getElem?_append_right (by omega), List.getElem?_singleton] at hk
      split_ifs at hk
      cases hk
      rw [react, new]
      exact .reserving
  fresh k hk := h.fresh k (by simp only [react, List.length_append] at hk; omega)
  reserved := by
    simp only [react, List.countP_append, h.reserved]
    rfl
  fits := h.fits
  rounds := h.rounds
  once := h.once
  order := h.order
  told := h.told
  caught := h.caught

theorem Kept.stops (h : x.Kept) : (x.react .stops).Kept where
  trails k c hk := by simpa [react, WorkerMark.ofCall] using h.trails k c hk
  fresh k hk := by simpa [react, WorkerMark.ofCall] using h.fresh k hk
  reserved := h.reserved
  fits := h.fits
  rounds := by
    have none : processedIn [(WorkerMark.stopped : WorkerMark α)] = [] := rfl
    simpa [react, WorkerMark.isWork, processedIn_append, none] using h.rounds
  once := by
    have none : acceptedIn [(WorkerMark.stopped : WorkerMark α)] = [] := rfl
    simpa [react, acceptedIn_append, none] using h.once
  order := by
    have none : acceptedIn [(WorkerMark.stopped : WorkerMark α)] = [] := rfl
    have none' : processedIn [(WorkerMark.stopped : WorkerMark α)] = [] := rfl
    simpa [react, acceptedIn_append, none, processedIn_append, none', Worker.stop] using h.order
  told _ := ⟨.stopped, by simp [react], rfl⟩
  caught looked := by
    have none' : processedIn [(WorkerMark.stopped : WorkerMark α)] = [] := rfl
    have told := h.told (.inr (.inr looked))
    simpa [react, beforeStop_append told, processedIn_append, none'] using h.caught looked

/-- A step of the worker's thread. -/
theorem Kept.works {old slot : Slot (Submission α)} {keepsOn : Bool} {w w' : WorkerAt α}
    {calls : List (SubmitCall α)} {log : List (WorkerMark α)} {turn : Turn}
    (h : Kept ⟨⟨old, keepsOn⟩, w, calls, log⟩) (move : WorkerAt.Move keepsOn old turn w slot w') :
    Kept ⟨⟨slot, keepsOn⟩, w', calls, log ++ w.marks old turn w'⟩ := by
  have rounds := move.rounds h.fits h.rounds
  have order := move.order h.fits
  have last := move.last
  have work (m : WorkerMark α) (hm : m ∈ w.marks old turn w') := WorkerAt.isWork_of_mem_marks hm
  generalize w.marks old turn w' = more at *
  have ofCall (k : Nat) : (log ++ more).filter (·.ofCall k) = log.filter (·.ofCall k) := by
    have none : more.filter (·.ofCall k) = [] := List.filter_eq_nil_iff.mpr fun m hm => by
      simp [WorkerMark.ofCall_of_isWork (work m hm)]
    rw [List.filter_append, none, List.append_nil]
  have accepted : acceptedIn (log ++ more) = acceptedIn log := by
    have none : acceptedIn more = [] := List.filterMap_eq_nil_iff.mpr fun m hm =>
      WorkerMark.accepted?_of_isWork (work m hm)
    rw [acceptedIn_append, none, List.append_nil]
  have taken : (acceptedIn log).map Prod.snd = (processedIn (log ++ more)).map Prod.fst ++
      w'.held.toList ++ slot.value.toList := by
    rw [processedIn_append, List.map_append, List.append_assoc, List.append_assoc,
      ← List.append_assoc _ w'.held.toList, order, ← List.append_assoc]
    exact h.order
  refine ⟨?_, ?_, ?_, move.fits h.fits, ?_, ?_, ?_, ?_, ?_⟩
  · intro k c hk
    rw [ofCall]
    exact h.trails k c hk
  · intro k hk
    rw [ofCall]
    exact h.fresh k hk
  · simp only [move.reserved_iff]
    exact h.reserved
  · rw [List.filter_append, List.filter_eq_self.mpr work, processedIn_append]
    exact rounds
  · rw [accepted]
    exact h.once
  · rw [accepted]
    exact taken
  · intro told
    obtain ⟨m, hm, stop⟩ := h.told (told.elim .inl move.told)
    exact ⟨m, List.mem_append_left _ hm, stop⟩
  · intro looked
    rw [beforeStop_append (h.told (move.told (.inr looked)))]
    rcases last looked with ⟨rfl, nothing⟩ | ⟨looked, same⟩
    · -- this was the last look: the slot is empty, so that all that was accepted is taken
      have all := acceptedIn_beforeStop log
      rwa [taken, nothing, Option.toList_none, List.append_nil] at all
    · have caught := h.caught looked
      rwa [← same, ← List.append_assoc, ← List.map_append, ← processedIn_append] at caught

/-- A step of a call. -/
theorem Kept.moves {old slot : Slot (Submission α)} {keepsOn : Bool} {w : WorkerAt α}
    {calls : List (SubmitCall α)} {log : List (WorkerMark α)} {k : Nat} {s : Submission α}
    {sub sub' : Submitter α} (h : Kept ⟨⟨old, keepsOn⟩, w, calls, log⟩)
    (hk : calls[k]? = some ⟨s, sub⟩) (move : Submitter.Move old sub slot sub') :
    Kept ⟨⟨slot, keepsOn⟩, w, calls.set k ⟨s, sub'⟩, log ++ sub'.marks k s⟩ := by
  have hlt := (List.getElem?_eq_some_iff.mp hk).1
  have trail : Submitter.Trail k s sub (log.filter (·.ofCall k)) := h.trails k _ hk
  have before : calls.countP (·.at_.isFeeding) = if old.status = .reserved then 1 else 0 :=
    h.reserved
  have reserved (feeding : sub.isFeeding = true) : old.status = .reserved := by
    have one : 0 < calls.countP (·.at_.isFeeding) :=
      List.countP_pos_iff.mpr ⟨_, List.mem_of_getElem? hk, feeding⟩
    by_contra other
    rw [if_neg other] at before
    omega
  have processed : processedIn (log ++ sub'.marks k s) = processedIn log := by
    rw [processedIn_append, Submitter.processedIn_marks, List.append_nil]
  refine ⟨?_, ?_, ?_, move.fits h.fits, ?_, move.once trail h.once, ?_, ?_, ?_⟩
  · intro j c hj
    rw [List.filter_append, Submitter.filter_ofCall_marks]
    by_cases same : j = k
    · subst same
      rw [List.getElem?_set_self hlt] at hj
      cases hj
      rw [if_pos rfl]
      exact move.trail reserved trail
    · rw [List.getElem?_set_ne (Ne.symm same)] at hj
      rw [if_neg same, List.append_nil]
      exact h.trails j c hj
  · intro j hj
    simp only [List.length_set] at hj
    rw [List.filter_append, Submitter.filter_ofCall_marks, if_neg (by omega), List.append_nil]
    exact h.fresh j hj
  · exact move.feeding reserved before (countP_set_getElem? _ hk ⟨s, sub'⟩)
  · rw [List.filter_append, Submitter.filter_isWork_marks, List.append_nil, processed]
    exact h.rounds
  · rw [acceptedIn_append, List.map_append, processed, move.order h.fits trail,
      ← List.append_assoc]
    exact congrArg (· ++ _) h.order
  · intro told
    obtain ⟨m, hm, stop⟩ := h.told told
    exact ⟨m, List.mem_append_left _ hm, stop⟩
  · intro looked
    rw [beforeStop_append (h.told (.inr (.inr looked))), processed]
    exact h.caught looked

theorem Kept.react (h : x.Kept) (e : ShiftEvent α) : (x.react e).Kept := by
  obtain ⟨⟨slot, keepsOn⟩, w, calls, log⟩ := x
  cases e with
  | submits s => exact h.submits s
  | moves k =>
    simp only [Shift.react]
    split
    · exact h
    · next c hk =>
      split
      · exact h
      · next step => exact h.moves hk (Submitter.step_move step)
  | works turn =>
    simp only [Shift.react]
    split
    · exact h
    · next step => exact h.works (WorkerAt.step_move step)
  | stops => exact h.stops

theorem kept_run (es : List (ShiftEvent α)) : (run es).Kept := by
  unfold run
  generalize hx : (start : Shift α) = x
  have first : x.Kept := hx ▸ kept_start
  clear hx
  induction es generalizing x with
  | nil => exact first
  | cons e es ih => exact ih (x.react e) (first.react e)

/-- A call that finds the slot reserved for it is accepted. -/
theorem Kept.feeds (h : x.Kept) {k : Nat} {c : SubmitCall α} (hk : x.calls[k]? = some c)
    (feeding : c.at_.isFeeding = true) :
    ∃ slot, c.at_.step x.worker.slot = some (slot, .accepted) := by
  have one : 0 < x.calls.countP (·.at_.isFeeding) :=
    List.countP_pos_iff.mpr ⟨c, List.mem_of_getElem? hk, feeding⟩
  have reserved : x.worker.slot.status = .reserved := by
    by_contra other
    have none := h.reserved
    rw [if_neg other] at none
    omega
  cases at_ : c.at_ with
  | feeding s => simp [Submitter.step, Slot.feed, reserved]
  | _ => simp [at_, Submitter.isFeeding] at feeding

/-- A call that is refused has its item back, and nothing else changed. -/
theorem Kept.refusals (h : x.Kept) {k : Nat} {c d : SubmitCall α} {a : α}
    (hk : x.calls[k]? = some c) (hd : (x.react (.moves k)).calls[k]? = some d) (moved : d ≠ c)
    (refused : d.at_ = .refused a) :
    a = c.s.item ∧ (x.react (.moves k)).worker = x.worker ∧
      (x.react (.moves k)).runner = x.runner ∧
        ∀ j, j ≠ k → (x.react (.moves k)).calls[j]? = x.calls[j]? := by
  have own : a = d.s.item := by
    have trail := (h.react (.moves k)).trails k d hd
    rw [refused] at trail
    generalize List.filter _ _ = marks, d.s = s at trail
    cases trail
    rfl
  cases step : c.at_.step x.worker.slot with
  | none =>
    simp only [Shift.react, hk, step] at hd
    exact absurd (Option.some.inj hd).symm moved
  | some r =>
    obtain ⟨slot, at_⟩ := r
    have hlt := (List.getElem?_eq_some_iff.mp hk).1
    simp only [Shift.react, hk, step, List.getElem?_set_self hlt, Option.some.injEq] at hd ⊢
    subst hd
    obtain rfl : at_ = .refused a := refused
    have same := (Submitter.step_move step).untouched
    exact ⟨own, by rw [same], trivial, fun j hj => List.getElem?_set_ne (Ne.symm hj)⟩

end Shift

end JobDispatch
