import JobDispatch.Agent.Slot
import JobDispatch.Proofs.Counting
import Mathlib.Data.List.Induction

/-!
Values handed over at a slot. Any number of threads reserve the slot, feed it, wait for what was fed
and give the slot back, each of them at any time. What succeeds at the slot goes in rounds: it is
reserved, fed, perhaps relieved of its value, and given back.
-/

namespace JobDispatch

variable {α : Type}

/-- What a thread calls at a slot. -/
inductive SlotCall (α : Type) where
  | reserve
  | feed (a : α)
  /-- waits until there is a value, or until its time is over -/
  | wait
  | finish

/-- What comes of a call. -/
inductive SlotReply (α : Type) where
  | done
  | took (a : α)
  /-- the time was over before there was a value -/
  | nothing
  | refused (e : SlotError)
  /-- a value that could not be fed comes back -/
  | returned (a : α) (e : SlotError)

def SlotReply.fails : SlotReply α → Bool
  | done => false
  | took _ => false
  | _ => true

/-- A call that succeeded, by its position among all calls. -/
inductive SlotMark (α : Type) where
  | reserved (call : Nat)
  | fed (call : Nat) (a : α)
  | took (call : Nat) (a : α)
  | freed (call : Nat)

namespace SlotMark

def call : SlotMark α → Nat
  | reserved k => k
  | fed k _ => k
  | took k _ => k
  | freed k => k

def isReserved : SlotMark α → Bool
  | reserved _ => true
  | _ => false

def isFed : SlotMark α → Bool
  | fed _ _ => true
  | _ => false

def isFreed : SlotMark α → Bool
  | freed _ => true
  | _ => false

def fed? : SlotMark α → Option α
  | fed _ a => some a
  | _ => none

def took? : SlotMark α → Option α
  | took _ a => some a
  | _ => none

/-- What can come next at a slot. -/
inductive Follows : SlotMark α → SlotMark α → Prop
  | feeds (i j : Nat) (a : α) : Follows (reserved i) (fed j a)
  | takes (j k : Nat) (a : α) : Follows (fed j a) (took k a)
  | drops (j l : Nat) (a : α) : Follows (fed j a) (freed l)
  | frees (k l : Nat) (a : α) : Follows (took k a) (freed l)
  | reserves (l i : Nat) : Follows (freed l) (reserved i)

end SlotMark

namespace SlotCall

/-- What comes of a call at a slot in its next step. A call that waits makes no step as long as
there is no value and its time is not over. -/
def step (slot : Slot α) (late : Bool) : SlotCall α → Option (Slot α × SlotReply α)
  | reserve =>
    match slot.reserve with
    | .ok slot => some (slot, .done)
    | .error e => some (slot, .refused e)
  | feed a =>
    match slot.feed a with
    | .ok slot => some (slot, .done)
    | .error e => some (slot, .returned a e)
  | wait =>
    match slot.take with
    | (some a, slot) => some (slot, .took a)
    | (none, slot) => if late then some (slot, .nothing) else none
  | finish =>
    match slot.finish with
    | .ok slot => some (slot, .done)
    | .error e => some (slot, .refused e)

/-- The marks that a call leaves by what came of it. -/
def marks (k : Nat) : SlotCall α → SlotReply α → List (SlotMark α)
  | reserve, .done => [.reserved k]
  | feed a, .done => [.fed k a]
  | wait, .took a => [.took k a]
  | finish, .done => [.freed k]
  | _, _ => []

/-- All that a step of a call can be, at a slot. -/
inductive Move (slot : Slot α) : SlotCall α → Slot α → SlotReply α → Prop
  | reserves (idle : slot.status = .idle) :
      Move slot .reserve { slot with status := .reserved } .done
  | turnedAway (taken : slot.status ≠ .idle) : Move slot .reserve slot (.refused .notIdle)
  | feeds (a : α) (reserved : slot.status = .reserved) :
      Move slot (.feed a) ⟨.running, some a⟩ .done
  | givesBack (a : α) (other : slot.status ≠ .reserved) :
      Move slot (.feed a) slot (.returned a .notReserved)
  | takes (a : α) (fed : slot.value = some a) :
      Move slot .wait { slot with value := none } (.took a)
  | rests (nothing : slot.value = none) : Move slot .wait slot .nothing
  | frees (running : slot.status = .running) : Move slot .finish .empty .done
  | keeps (other : slot.status ≠ .running) : Move slot .finish slot (.refused .notRunning)

theorem step_move {slot slot' : Slot α} {late : Bool} {c : SlotCall α} {r : SlotReply α}
    (h : c.step slot late = some (slot', r)) : Move slot c slot' r := by
  cases c with
  | reserve =>
    by_cases idle : slot.status = .idle
    · simp only [step, Slot.reserve, if_pos idle] at h
      cases h
      exact .reserves idle
    · simp only [step, Slot.reserve, if_neg idle] at h
      cases h
      exact .turnedAway idle
  | feed a =>
    by_cases reserved : slot.status = .reserved
    · simp only [step, Slot.feed, if_pos reserved] at h
      cases h
      exact .feeds a reserved
    · simp only [step, Slot.feed, if_neg reserved] at h
      cases h
      exact .givesBack a reserved
  | wait =>
    obtain ⟨status, value⟩ := slot
    cases value with
    | some a =>
      cases h
      exact .takes a rfl
    | none =>
      cases late <;> cases h
      exact .rests rfl
  | finish =>
    by_cases running : slot.status = .running
    · simp only [step, Slot.finish, if_pos running] at h
      cases h
      exact .frees running
    · simp only [step, Slot.finish, if_neg running] at h
      cases h
      exact .keeps running

/-- The marks that a call leaves are its own. -/
theorem call_of_mem_marks {k : Nat} {c : SlotCall α} {r : SlotReply α} {m : SlotMark α}
    (h : m ∈ c.marks k r) : m.call = k := by
  cases c <;> cases r <;> simp only [marks, List.mem_singleton, List.not_mem_nil] at h
  all_goals
    subst h
    rfl

theorem filter_marks_self (k : Nat) (c : SlotCall α) (r : SlotReply α) :
    (c.marks k r).filter (fun m => m.call == k) = c.marks k r := by
  refine List.filter_eq_self.mpr ?_
  intro m hm
  simpa using call_of_mem_marks hm

theorem filter_marks_of_ne {j k : Nat} (ne : j ≠ k) (c : SlotCall α) (r : SlotReply α) :
    (c.marks k r).filter (fun m => m.call == j) = [] := by
  refine List.filter_eq_nil_iff.mpr ?_
  intro m hm
  simpa [call_of_mem_marks hm] using Ne.symm ne

end SlotCall

inductive HandoffEvent (α : Type) where
  | enters (c : SlotCall α)
  | moves (call : Nat) (late : Bool)

/-- A slot, all calls there with what came of them, and those that succeeded in their order. -/
structure Handoff (α : Type) where
  slot : Slot α
  calls : List (SlotCall α × Option (SlotReply α))
  log : List (SlotMark α)

namespace Handoff

def start : Handoff α := ⟨.empty, [], []⟩

/-- What an event makes of a slot and its calls; a step that cannot be made changes nothing. -/
def react (x : Handoff α) : HandoffEvent α → Handoff α
  | .enters c => { x with calls := x.calls ++ [(c, none)] }
  | .moves k late =>
    match x.calls[k]? with
    | some (c, none) =>
      match c.step x.slot late with
      | some (slot, r) => ⟨slot, x.calls.set k (c, some r), x.log ++ c.marks k r⟩
      | none => x
    | _ => x

def run (es : List (HandoffEvent α)) : Handoff α := es.foldl react start

/-- What is promised of a slot, whatever calls were made there. -/
structure Exact (x : Handoff α) : Prop where
  /-- a value is held only while the slot is running -/
  held : x.slot.value ≠ none → x.slot.status = .running
  /-- each feed belongs to the reservation right before it -/
  belongs : ∀ before k a after, x.log = before ++ .fed k a :: after →
    ∃ i, before.getLast? = some (.reserved i)
  /-- between two feeds the slot is given back once, and reserved once again -/
  between : ∀ before k a among l b after,
    x.log = before ++ .fed k a :: (among ++ .fed l b :: after) →
      (∀ m ∈ among, m.isFed = false) →
        among.countP SlotMark.isFreed = 1 ∧ among.countP SlotMark.isReserved = 1
  /-- values are handed out in the order in which they were fed, each at most once -/
  inOrder : (x.log.filterMap SlotMark.took?).Sublist (x.log.filterMap SlotMark.fed?)
  /-- a value is handed out only right after it was fed, before the slot is given back -/
  current : ∀ before k a after, x.log = before ++ .took k a :: after →
    ∃ j, before.getLast? = some (.fed j a)
  /-- a call is told of what it did at the slot, and of nothing else -/
  told : ∀ k c r, x.calls[k]? = some (c, r) →
    x.log.filter (fun m => m.call == k) = (r.map (c.marks k)).getD []

/-- The slot as the last call that succeeded left it. -/
def slotAfter : Option (SlotMark α) → Slot α
  | some (.reserved _) => ⟨.reserved, none⟩
  | some (.fed _ a) => ⟨.running, some a⟩
  | some (.took _ _) => ⟨.running, none⟩
  | _ => .empty

/-- What can come next at a slot, or first. -/
def Next (last : Option (SlotMark α)) (m : SlotMark α) : Prop :=
  match last with
  | none => ∃ i, m = .reserved i
  | some l => l.Follows m

/-- What all runs keep. -/
structure Kept (x : Handoff α) : Prop where
  slot : x.slot = slotAfter x.log.getLast?
  chain : ∀ before m after, x.log = before ++ m :: after → Next before.getLast? m
  known : ∀ m ∈ x.log, m.call < x.calls.length
  told : ∀ k c r, x.calls[k]? = some (c, r) →
    x.log.filter (fun m => m.call == k) = (r.map (c.marks k)).getD []

section

variable {slot : Slot α} {c : SlotCall α} {r : SlotReply α} {last : Option (SlotMark α)}

/-- What a call leaves behind at a slot comes next, and accounts for the slot. -/
theorem next_of_move {k : Nat} (h : c.Move (slotAfter last) slot r) :
    (c.marks k r = [] ∧ slot = slotAfter last) ∨
      ∃ m, c.marks k r = [m] ∧ Next last m ∧ slot = slotAfter (some m) := by
  have idle (free : (slotAfter last).status = .idle) : Next last (.reserved k) ∧
      ({ slotAfter last with status := .reserved } : Slot α) = ⟨.reserved, none⟩ := by
    cases last with
    | none => exact ⟨⟨k, rfl⟩, rfl⟩
    | some l =>
      cases l with
      | freed l => exact ⟨.reserves l k, rfl⟩
      | _ => cases free
  cases h with
  | reserves free => exact .inr ⟨_, rfl, (idle free).1, (idle free).2⟩
  | turnedAway | givesBack | rests | keeps => exact .inl ⟨rfl, rfl⟩
  | feeds a reserved =>
    refine .inr ⟨_, rfl, ?_, rfl⟩
    cases last with
    | none => cases reserved
    | some l =>
      cases l with
      | reserved i => exact .feeds i k a
      | _ => cases reserved
  | takes a fed =>
    refine .inr ⟨_, rfl, ?_⟩
    cases last with
    | none => cases fed
    | some l =>
      cases l with
      | fed j b =>
        cases fed
        exact ⟨.takes j k _, rfl⟩
      | _ => cases fed
  | frees running =>
    refine .inr ⟨_, rfl, ?_, rfl⟩
    cases last with
    | none => cases running
    | some l =>
      cases l with
      | fed j b => exact .drops j k b
      | took j b => exact .frees j k b
      | _ => cases running

end

/-- A mark that comes next goes on with a row of marks. -/
theorem chain_concat {log : List (SlotMark α)} {m : SlotMark α}
    (h : ∀ before n after, log = before ++ n :: after → Next before.getLast? n)
    (next : Next log.getLast? m) (before : List (SlotMark α)) (n : SlotMark α)
    (after : List (SlotMark α)) (split : log ++ [m] = before ++ n :: after) :
    Next before.getLast? n := by
  rcases split_snoc split with ⟨rfl, rfl, -⟩ | ⟨after, -, old⟩
  · exact next
  · exact h before n after old

theorem kept_start : (start : Handoff α).Kept where
  slot := rfl
  chain before m after h := by simp [start] at h
  known m hm := by cases hm
  told k c r hk := by simp [start] at hk

variable {x : Handoff α}

theorem Kept.enter (h : x.Kept) (c : SlotCall α) : (x.react (.enters c)).Kept where
  slot := h.slot
  chain := h.chain
  known m hm := by
    have known := h.known m hm
    simp only [react, List.length_append, List.length_singleton]
    omega
  told k d r hk := by
    rcases getElem?_concat_cases hk with old | ⟨rfl, new⟩
    · exact h.told k d r old
    · obtain ⟨rfl, rfl⟩ := Prod.mk.inj new
      refine List.filter_eq_nil_iff.mpr ?_
      intro m hm
      have known := h.known m hm
      simp only [beq_iff_eq]
      omega

theorem Kept.move (h : x.Kept) {k : Nat} {c : SlotCall α} {slot : Slot α} {r : SlotReply α}
    (call : x.calls[k]? = some (c, none)) (move : c.Move x.slot slot r) :
    (⟨slot, x.calls.set k (c, some r), x.log ++ c.marks k r⟩ : Handoff α).Kept := by
  have inside := (List.getElem?_eq_some_iff.mp call).1
  rw [h.slot] at move
  refine ⟨?_, ?_, ?_, ?_⟩
  · rcases next_of_move (k := k) move with ⟨nothing, same⟩ | ⟨m, one, -, same⟩
    · rw [nothing, List.append_nil]
      exact same
    · rw [one, List.getLast?_concat]
      exact same
  · rcases next_of_move (k := k) move with ⟨nothing, -⟩ | ⟨m, one, next, -⟩
    · rw [nothing, List.append_nil]
      exact h.chain
    · rw [one]
      exact chain_concat h.chain next
  · intro m hm
    rw [List.length_set]
    rcases List.mem_append.mp hm with hm | hm
    · exact h.known m hm
    · rw [SlotCall.call_of_mem_marks hm]
      exact inside
  · intro j d s hj
    rw [List.filter_append]
    by_cases same : j = k
    · subst same
      rw [List.getElem?_set_self inside] at hj
      obtain ⟨rfl, rfl⟩ := Prod.mk.inj (Option.some.inj hj)
      rw [h.told j c none call, SlotCall.filter_marks_self]
      rfl
    · rw [List.getElem?_set_ne (Ne.symm same)] at hj
      rw [h.told j d s hj, SlotCall.filter_marks_of_ne same, List.append_nil]

/-- A call that has come to nothing yet makes a move, or nothing happens. -/
theorem react_moves (x : Handoff α) (k : Nat) (late : Bool) : x.react (.moves k late) = x ∨
    ∃ c slot r, x.calls[k]? = some (c, none) ∧ c.Move x.slot slot r ∧
      x.react (.moves k late) = ⟨slot, x.calls.set k (c, some r), x.log ++ c.marks k r⟩ := by
  cases call : x.calls[k]? with
  | none => exact .inl (by simp only [react, call])
  | some p =>
    obtain ⟨c, old⟩ := p
    cases old with
    | some r => exact .inl (by simp only [react, call])
    | none =>
      cases step : c.step x.slot late with
      | none => exact .inl (by simp only [react, call, step])
      | some q =>
        obtain ⟨slot, r⟩ := q
        exact .inr ⟨c, slot, r, rfl, SlotCall.step_move step, by simp only [react, call, step]⟩

theorem Kept.react (h : x.Kept) (e : HandoffEvent α) : (x.react e).Kept := by
  cases e with
  | enters c => exact h.enter c
  | moves k late =>
    rcases x.react_moves k late with none | ⟨c, slot, r, call, move, moved⟩
    · rw [none]
      exact h
    · rw [moved]
      exact h.move call move

theorem kept_run (es : List (HandoffEvent α)) : (run es).Kept := by
  induction es using List.reverseRecOn with
  | nil => exact kept_start
  | append_singleton es e ih =>
    rw [run, List.foldl_concat]
    exact ih.react e

namespace Kept

variable (h : x.Kept) {before among after : List (SlotMark α)} {k l : Nat} {a b : α}

include h

theorem held (value : x.slot.value ≠ none) : x.slot.status = .running := by
  rw [h.slot] at value ⊢
  cases last : x.log.getLast? with
  | none =>
    rw [last] at value
    exact absurd rfl value
  | some m =>
    rw [last] at value
    cases m with
    | fed k a => rfl
    | took k a => rfl
    | _ => exact absurd rfl value

theorem belongs (split : x.log = before ++ .fed k a :: after) :
    ∃ i, before.getLast? = some (.reserved i) := by
  have next := h.chain before _ after split
  cases last : before.getLast? with
  | none =>
    rw [last] at next
    obtain ⟨i, other⟩ := next
    cases other
  | some m =>
    rw [last] at next
    cases next with
    | feeds i => exact ⟨i, rfl⟩

theorem current (split : x.log = before ++ .took k a :: after) :
    ∃ j, before.getLast? = some (.fed j a) := by
  have next := h.chain before _ after split
  cases last : before.getLast? with
  | none =>
    rw [last] at next
    obtain ⟨i, other⟩ := next
    cases other
  | some m =>
    rw [last] at next
    cases next with
    | takes j => exact ⟨j, rfl⟩

/-- Of two marks next to each other one follows the other. -/
theorem follows {m n : SlotMark α} (split : x.log = before ++ m :: n :: after) : m.Follows n := by
  rw [List.append_cons] at split
  have next := h.chain (before ++ [m]) n after split
  rw [List.getLast?_concat] at next
  exact next

/-- From a slot that was given back to the next feed there is one reservation. -/
theorem among_of_freed (split : x.log = before ++ .freed k :: (among ++ .fed l b :: after))
    (none : ∀ m ∈ among, m.isFed = false) : ∃ i, among = [.reserved i] := by
  cases among with
  | nil => cases h.follows split
  | cons m among =>
    cases h.follows split with
    | reserves _ i =>
      cases among with
      | nil => exact ⟨i, rfl⟩
      | cons n among =>
        rw [List.append_cons] at split
        cases h.follows split with
        | feeds i j a => cases none (.fed j a) (by simp)

/-- From a feed to the next one the slot is given back and reserved, and nothing else happens but
that the value is taken first. -/
theorem among_of_fed (split : x.log = before ++ .fed k a :: (among ++ .fed l b :: after))
    (none : ∀ m ∈ among, m.isFed = false) :
    ∃ taken i j, among = taken ++ [.freed i, .reserved j] ∧
      (taken = [] ∨ ∃ n, taken = [.took n a]) := by
  cases among with
  | nil => cases h.follows split
  | cons m among =>
    have later := split
    rw [List.cons_append, List.append_cons] at later
    cases h.follows split with
    | drops _ i =>
      obtain ⟨j, rfl⟩ := h.among_of_freed later fun n hn => none n (List.mem_cons_of_mem _ hn)
      exact ⟨[], i, j, rfl, .inl rfl⟩
    | takes _ n =>
      cases among with
      | nil => cases h.follows later
      | cons m among =>
        have last := later
        rw [List.cons_append, List.append_cons] at last
        cases h.follows later with
        | frees _ i =>
          obtain ⟨j, rfl⟩ := h.among_of_freed last fun n hn =>
            none n (List.mem_cons_of_mem _ (List.mem_cons_of_mem _ hn))
          exact ⟨[.took n a], i, j, rfl, .inr ⟨n, rfl⟩⟩

/-- The values that are handed out after a mark are among those that were fed from it on. -/
theorem took_sublist (m : SlotMark α) (split : x.log = before ++ m :: after) :
    (after.filterMap SlotMark.took?).Sublist ((m :: after).filterMap SlotMark.fed?) := by
  induction after generalizing before m with
  | nil => exact List.nil_sublist _
  | cons n after ih =>
    have later := split
    rw [List.append_cons] at later
    have rest := ih n later
    cases h.follows split with
    | takes j k a => exact rest.cons_cons a
    | feeds i j a => exact rest
    | drops j l a => exact rest.cons a
    | frees k l a => exact rest
    | reserves l i => exact rest

theorem inOrder :
    (x.log.filterMap SlotMark.took?).Sublist (x.log.filterMap SlotMark.fed?) := by
  cases log : x.log with
  | nil => exact List.nil_sublist _
  | cons m after =>
    have split : x.log = [] ++ m :: after := log
    have rest := h.took_sublist m split
    obtain ⟨i, rfl⟩ : ∃ i, m = .reserved i := h.chain [] m after split
    exact rest

end Kept

/-- Whatever calls are made at a slot: it holds a value only while it is running, each feed belongs
to a reservation of its own, between two feeds the slot is given back once, and values are handed
out in the order in which they were fed, each at most once and before the slot is given back. A call
that fails leaves all as it is, and one that could not feed its value has it back. -/
theorem exact_run (es : List (HandoffEvent α)) : (run es).Exact ∧
    ∀ k late c r, (run es).calls[k]? = some (c, none) →
      ((run es).react (.moves k late)).calls[k]? = some (c, some r) → r.fails = true →
        ((run es).react (.moves k late)).slot = (run es).slot ∧
          ((run es).react (.moves k late)).log = (run es).log ∧
          ∀ a, c = .feed a → r = .returned a .notReserved := by
  have kept := kept_run es
  refine ⟨⟨kept.held, fun _ _ _ _ => kept.belongs, ?_, kept.inOrder, fun _ _ _ _ => kept.current,
    kept.told⟩, ?_⟩
  · intro before k a among l b after split none
    obtain ⟨taken, i, j, rfl, rfl | ⟨n, rfl⟩⟩ := kept.among_of_fed split none
    · exact ⟨rfl, rfl⟩
    · exact ⟨rfl, rfl⟩
  · intro k late c r before after fails
    rcases (run es).react_moves k late with none | ⟨d, slot, s, call, move, moved⟩
    · rw [none, before] at after
      cases after
    · have inside := (List.getElem?_eq_some_iff.mp call).1
      rw [moved] at after ⊢
      rw [List.getElem?_set_self inside] at after
      obtain ⟨rfl, same⟩ := Prod.mk.inj (Option.some.inj after)
      obtain rfl := Option.some.inj same
      cases move with
      | turnedAway => exact ⟨rfl, List.append_nil _, nofun⟩
      | givesBack b =>
        refine ⟨rfl, List.append_nil _, ?_⟩
        rintro a ⟨⟩
        rfl
      | rests => exact ⟨rfl, List.append_nil _, nofun⟩
      | keeps => exact ⟨rfl, List.append_nil _, nofun⟩
      | _ => cases fails

end Handoff

end JobDispatch
