import JobDispatch.Store.Basic

/-!
Repositories: stores whose calls can fail. What goes wrong is planned ahead, so that every course
of events is a value.
-/

namespace JobDispatch

inductive Operation where
  | create
  | retrieve
  | update
  | delete
  | all
  | search
  | deleteFrom
  deriving DecidableEq, Repr

inductive Failure where
  | notFound
  | versionConflict
  deriving DecidableEq, Repr

/-- The error of a failing call about something. -/
def Failure.error (about : String) : Failure → StoreError
  | notFound => .notFound about
  | versionConflict => .versionConflict about 7 8

/-- What is to happen at the next call of an operation: a failure, or nothing out of the
ordinary. -/
structure Planned where
  operation : Operation
  failure : Option Failure
  deriving DecidableEq, Repr

/-- A store and the plan of what goes wrong. The first entry of the plan waits for the next call
of its operation. -/
structure Repository (α : Type) where
  store : Store α
  plan : List Planned

/-- Something done with a state that gives a result or an error. -/
abbrev Action (σ ε β : Type) := ExceptT ε (StateM σ) β

namespace Action

variable {σ τ ε ε' β : Type}

/-- The result of an action, and the state afterwards. -/
def perform (a : Action σ ε β) (s : σ) : Except ε β × σ := a.run.run s

/-- An action with its errors put in other words. -/
def rephrase (f : ε → ε') (a : Action σ ε β) : Action σ ε' β :=
  ExceptT.mk do return (← a.run).mapError f

/-- An action on a part of a state. -/
def onPart (get : τ → σ) (set : σ → τ → τ) (a : Action σ ε β) : Action τ ε β :=
  ExceptT.mk fun t =>
    let (r, s) := a.perform (get t)
    (r, set s t)

end Action

namespace Repository

variable {α β : Type}

def empty (label : String) : Repository α := ⟨.empty label, []⟩

/-- Adds an entry to the end of the plan. -/
def planFor (r : Repository α) (p : Planned) : Repository α := { r with plan := r.plan ++ [p] }

/-- The failure planned for a call now, and the plan afterwards. -/
def foresee (op : Operation) : List Planned → Option Failure × List Planned
  | [] => (none, [])
  | p :: ps => if p.operation = op then (p.failure, ps) else (none, p :: ps)

/-- Calls an operation: fails without doing anything if a failure is planned for it. -/
def call (op : Operation) (about : String) (act : Store α → Except StoreError (β × Store α)) :
    Action (Repository α) StoreError β :=
  ExceptT.mk fun r =>
    let (failure, plan) := foresee op r.plan
    match failure with
    | some f => (.error (f.error about), { r with plan })
    | none =>
      match act r.store with
      | .ok (b, store) => (.ok b, ⟨store, plan⟩)
      | .error e => (.error e, { r with plan })

def create (value : α) : Action (Repository α) StoreError (Entity α) :=
  call .create "new" fun s => .ok (s.create value)

def retrieve (id : String) : Action (Repository α) StoreError (Option (Entity α)) :=
  call .retrieve id fun s => .ok (s.retrieve id, s)

def update (e : Entity α) (value : α) : Action (Repository α) StoreError (Entity α) :=
  call .update e.id fun s => s.update e value

def delete (id : String) : Action (Repository α) StoreError Unit :=
  call .delete id fun s => s.delete id

def all (start stop : Nat) : Action (Repository α) StoreError (Page (Entity α)) :=
  call .all "all" fun s => .ok (s.all start stop, s)

variable [Documented α]

def search (f : Filter) (start stop : Nat) : Action (Repository α) StoreError (Page (Entity α)) :=
  call .search "search" fun s => .ok (s.search f start stop, s)

def deleteFrom (f : Filter) : Action (Repository α) StoreError Nat :=
  call .deleteFrom "filter" fun s => .ok (s.deleteFrom f)

end Repository

end JobDispatch
