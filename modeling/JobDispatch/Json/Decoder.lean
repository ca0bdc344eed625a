import JobDispatch.Json.Reader

/-!
Decoders: typed readings of drafts. A decoder goes through a draft from left to right and stops
at the first thing amiss, which is either a fault of the text or a value of the wrong shape.
-/

namespace JobDispatch

/-- Why a text does not decode. -/
inductive Misread where
  /-- the text is no JSON, or leaves a choice of names without one -/
  | malformed
  /-- the text has a value of another shape -/
  | misfit
  deriving DecidableEq, Repr

/-- Drafts are decoded straight from the text, or after the whole of them was taken in; the
second way lets an empty record stand for nothing behind a chosen name. -/
inductive Manner where
  | direct
  | gathered
  deriving DecidableEq, Repr

def Decoder (α : Type) : Type := Manner → Draft → Except Misread α

namespace Draft

/-- What is amiss with a draft that has another shape than the one wanted. -/
def refusal : Draft → Misread
  | broken => .malformed
  | text none => .malformed
  | number n => if n.tooLarge then .malformed else .misfit
  | _ => .misfit

mutual

/-- Whether a draft nobody looks into has been read to its end. -/
def isWhole : Draft → Bool
  | broken => false
  | list items ending => areWhole items && ending == .closed
  | record fields ending => fieldsWhole fields && ending == .closed
  | _ => true

def areWhole : List Draft → Bool
  | [] => true
  | x :: xs => isWhole x && areWhole xs

def fieldsWhole : List (Option String × Draft) → Bool
  | [] => true
  | (_, v) :: fs => isWhole v && fieldsWhole fs

end

/-- The number of containers that a text may nest where it is taken in as a whole. -/
def nestingLimit : Nat := 127

mutual

/-- Whether a draft can be taken in as a whole: every text and number has a value, and there
are at most `depth` containers around any part. -/
def canGather : Nat → Draft → Bool
  | _, broken => false
  | _, text none => false
  | _, number n => !n.tooLarge
  | 0, list _ _ => false
  | depth + 1, list items ending => itemsGather depth items && ending == .closed
  | 0, record _ _ => false
  | depth + 1, record fields ending => fieldsGather depth fields && ending == .closed
  | _, _ => true

def itemsGather : Nat → List Draft → Bool
  | _, [] => true
  | depth, x :: xs => canGather depth x && itemsGather depth xs

def fieldsGather : Nat → List (Option String × Draft) → Bool
  | _, [] => true
  | depth, (k, v) :: fs => k.isSome && canGather depth v && fieldsGather depth fs

end

end Draft

namespace Decoder

def text : Decoder String := fun _ d =>
  match d with
  | .text (some s) => .ok s
  | d => .error d.refusal

def bool : Decoder Bool := fun _ d =>
  match d with
  | .bool b => .ok b
  | d => .error d.refusal

/-- A whole number within bounds. -/
def intWithin (low high : Int) : Decoder Int := fun _ d =>
  match d with
  | .number n =>
    match n.int? with
    | some i => if low ≤ i ∧ i ≤ high then .ok i else .error .misfit
    | none => .error (Draft.number n).refusal
  | d => .error d.refusal

/-- A whole number of 64 bits with a sign. -/
def signed : Decoder Int := intWithin Text.minSigned Text.maxSigned

/-- A whole number of 64 bits without a sign. -/
def word : Decoder Nat := fun m d => (intWithin 0 Text.maxWord m d).map Int.toNat

/-- A value or nothing. -/
def option {α : Type} (value : Decoder α) : Decoder (Option α) := fun m d =>
  match d with
  | .null => .ok none
  | d => (value m d).map some

def map {α β : Type} (f : α → β) (value : Decoder α) : Decoder β := fun m d => (value m d).map f

/-- A value of a text that has one. -/
def textual {α : Type} (read : String → Option α) : Decoder α := fun m d =>
  match text m d with
  | .ok s => match read s with
    | some a => .ok a
    | none => .error .misfit
  | .error e => .error e

def list {α : Type} (value : Decoder α) : Decoder (List α) := fun m d =>
  match d with
  | .list items ending =>
    match items.mapM (value m) with
    | .ok xs => if ending = .closed then .ok xs else .error .malformed
    | .error e => .error e
  | d => .error d.refusal

/-- What may stand behind a chosen name. -/
def isNothing (m : Manner) : Draft → Except Misread Unit
  | .null => .ok ()
  | .record [] .closed => if m = .gathered then .ok () else .error .misfit
  | d => .error d.refusal

/-- One of several names, written as a text or as the only field of a record with nothing in
it. -/
def choice {α : Type} (names : List (String × α)) : Decoder α := fun m d =>
  match d with
  | .text (some s) =>
    match names.lookup s with
    | some a => .ok a
    | none => .error .misfit
  | .record ((some name, v) :: fields) ending =>
    match names.lookup name with
    | none => .error .misfit
    | some a =>
      match isNothing m v with
      | .error e => .error e
      | .ok () => if fields.isEmpty && ending == .closed then .ok a else .error .malformed
  | .record [] .nameless => .error .misfit
  | _ => .error .malformed

/-- Whether a field may be left out: never, from a record only, or from a list as well. -/
inductive Presence where
  | required
  | optional
  | defaulted
  deriving DecidableEq, Repr

/-- A field of a record of type `σ`. -/
structure Field (σ : Type) where
  name : String
  presence : Presence
  read : Decoder (σ → σ)

/-- The field of a name whose value `set` puts into a record. -/
def Field.of {σ α : Type} (name : String) (presence : Presence) (value : Decoder α)
    (set : α → σ → σ) : Field σ :=
  ⟨name, presence, map set value⟩

/-- Goes through the fields of a record in the order of the text; `seen` are the names that
stood before. -/
def readFields {σ : Type} (m : Manner) (fields : List (Field σ)) :
    List (Option String × Draft) → List String → σ → Except Misread (List String × σ)
  | [], seen, r => .ok (seen, r)
  | (none, _) :: _, _, _ => .error .malformed
  | (some name, v) :: rest, seen, r =>
    match fields.find? fun f => f.name == name with
    | none => if v.isWhole then readFields m fields rest seen r else .error .malformed
    | some f =>
      if seen.contains name then .error .misfit
      else match f.read m v with
        | .ok set => readFields m fields rest (name :: seen) (set r)
        | .error e => .error e

/-- Gives the items of a list to the fields in their order. -/
def readPositions {σ : Type} (m : Manner) (ending : Ending) :
    List (Field σ) → List Draft → σ → Except Misread σ
  | [], [], r => if ending = .closed then .ok r else .error .malformed
  | [], _ :: _, _ => .error .malformed
  | fields, [], r =>
    if ending != .closed then .error .malformed
    else if fields.all fun f => f.presence == .defaulted then .ok r else .error .misfit
  | f :: fields, v :: items, r =>
    match f.read m v with
    | .ok set => readPositions m ending fields items (set r)
    | .error e => .error e

/-- A record by the names of its fields, each at most once and unknown ones passed over, or as
the list of its fields. -/
def record {σ : Type} (start : σ) (fields : List (Field σ)) : Decoder σ := fun m d =>
  match d with
  | .record given ending =>
    match readFields m fields given [] start with
    | .error e => .error e
    | .ok (seen, r) =>
      if ending != .closed then .error .malformed
      else if fields.all fun f => f.presence != .required || seen.contains f.name then .ok r
      else .error .misfit
  | .list items ending => readPositions m ending fields items start
  | d => .error d.refusal

/-- Decodes the whole of a text. -/
def run {α : Type} (value : Decoder α) (s : String) : Except Misread α :=
  let (draft, rest) := Draft.read s.toList
  match value .direct draft with
  | .error e => .error e
  | .ok a =>
    match rest with
    | some r => if Draft.skipSpace r = [] then .ok a else .error .malformed
    | none => .error .malformed

end Decoder

end JobDispatch
