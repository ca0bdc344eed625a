import JobDispatch.Entity
import JobDispatch.Page
import JobDispatch.Query.Filter
import JobDispatch.Text.Decimal

/-!
Stores: entities in the order of their creation. A version guards each entity, so that an update
that was computed from an older value is refused.
-/

namespace JobDispatch

/-- Values with fields that filters see. -/
class Documented (α : Type) where
  document : α → Document

/-- Why a store, or a repository around it, refuses a call. -/
inductive StoreError where
  | notFound (id : String)
  | versionConflict (id : String) (expected actual : Nat)
  deriving DecidableEq, Repr

def StoreError.message : StoreError → String
  | notFound id => "entity " ++ id ++ " not found"
  | versionConflict id expected actual =>
    "entity " ++ id ++ " is at version " ++ Text.decimal actual ++ ", not " ++ Text.decimal expected

/-- `issued` counts the identities given out so far; none is given out twice. -/
structure Store (α : Type) where
  label : String
  issued : Nat
  entities : List (Entity α)

namespace Store

variable {α : Type}

def empty (label : String) : Store α := ⟨label, 0, []⟩

/-- The identity of the `n`-th entity created. -/
def idOf (label : String) (n : Nat) : String := label ++ Text.decimal n

/-- Stores a value under a new identity, at version 1. -/
def create (s : Store α) (value : α) : Entity α × Store α :=
  let e : Entity α := ⟨idOf s.label (s.issued + 1), 1, value⟩
  (e, { s with issued := s.issued + 1, entities := s.entities ++ [e] })

def retrieve (s : Store α) (id : String) : Option (Entity α) :=
  s.entities.find? fun e => e.id == id

/-- Puts an entity in the place of the first one with its identity. -/
def replace (e : Entity α) : List (Entity α) → List (Entity α)
  | [] => []
  | d :: ds => if d.id = e.id then e :: ds else d :: replace e ds

/-- Gives an entity another value, if its version is still the stored one. -/
def update (s : Store α) (e : Entity α) (value : α) : Except StoreError (Entity α × Store α) :=
  match s.retrieve e.id with
  | none => .error (.notFound e.id)
  | some stored =>
    if stored.version = e.version then
      let new : Entity α := ⟨e.id, stored.version + 1, value⟩
      .ok (new, { s with entities := replace new s.entities })
    else .error (.versionConflict e.id e.version stored.version)

def delete (s : Store α) (id : String) : Except StoreError (Unit × Store α) :=
  if s.entities.any fun e => e.id == id then
    .ok ((), { s with entities := s.entities.filter fun e => e.id != id })
  else .error (.notFound id)

def all (s : Store α) (start stop : Nat) : Page (Entity α) := Page.window s.entities start stop

variable [Documented α]

def matching (s : Store α) (f : Filter) : List (Entity α) :=
  s.entities.filter fun e => f.accepts (Documented.document e.value)

def search (s : Store α) (f : Filter) (start stop : Nat) : Page (Entity α) :=
  Page.window (s.matching f) start stop

/-- Deletes what a filter accepts and counts it. -/
def deleteFrom (s : Store α) (f : Filter) : Nat × Store α :=
  let kept := s.entities.filter fun e => !f.accepts (Documented.document e.value)
  (s.entities.length - kept.length, { s with entities := kept })

end Store

end JobDispatch
