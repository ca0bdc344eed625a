import JobDispatch.Entity
import JobDispatch.Page
import JobDispatch.Wire.Basic

/-!
The JSON forms of stored things, whose value's fields stand beside the identity and the version,
and of pages.
-/

namespace JobDispatch

/-- The fields of a record besides the given ones. -/
def Json.fields : Json → List (String × Json)
  | .record fs => fs
  | _ => []

/-- The only field of a name; a second one, or none, does not fit. -/
def Draft.only (name : String) (fields : List (Option String × Draft)) : Except Misread Draft :=
  match fields.filter fun f => f.1 == some name with
  | [(_, v)] => .ok v
  | _ => .error .misfit

/-- Reads a stored thing with `outer` containers around it. Its record is taken in as a whole
and split into the identity, the version and the record of the value. -/
def Decoder.entity {α : Type} (outer : Nat) (value : Decoder α) : Decoder (Entity α) := fun _ d =>
  match d with
  | .record fields ending =>
    if !(Draft.record fields ending).canGather (Draft.nestingLimit - outer) then .error .malformed
    else do
      let id ← Decoder.text .direct (← Draft.only "id" fields)
      let version ← Decoder.word .direct (← Draft.only "version" fields)
      let others := fields.filter fun f => f.1 != some "id" && f.1 != some "version"
      let value ← value .gathered (.record others .closed)
      return ⟨id, version, value⟩
  | d => .error d.refusal

def Entity.toJson {α : Type} [Wire α] (e : Entity α) : Json :=
  .record (("id", .text e.id) :: ("version", .ofNat e.version) :: (Wire.toJson e.value).fields)

instance {α : Type} [Wire α] : Wire (Entity α) := ⟨Entity.toJson, Decoder.entity 0 Wire.decoder⟩

/-- Reads a page whose items are read by `item`. -/
def Decoder.page {α : Type} (item : Decoder α) : Decoder (Page α) :=
  Decoder.record ⟨[], 0, 0, 0⟩ [
    .of "items" .required (.list item) fun x p => { p with items := x },
    .of "start" .required .word fun x p => { p with start := x },
    .of "end" .required .word fun x p => { p with stop := x },
    .of "total" .required .word fun x p => { p with total := x }]

instance {α : Type} [Wire α] : Wire (Page (Entity α)) where
  toJson p := .record [("items", Wire.toJson p.items), ("start", .ofNat p.start),
    ("end", .ofNat p.stop), ("total", .ofNat p.total)]
  decoder := Decoder.page (Decoder.entity 2 Wire.decoder)

end JobDispatch
