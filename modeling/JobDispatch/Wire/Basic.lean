import JobDispatch.Json.Decoder
import JobDispatch.Time.Notation

/-!
Types with a JSON form: how a value is written, and how one is read back.
-/

namespace JobDispatch

class Wire (α : Type) where
  toJson : α → Json
  decoder : Decoder α

namespace Wire

variable {α : Type} [Wire α]

/-- The compact text of a value. -/
def write (a : α) : String := (toJson a).compact

/-- The value that the whole of a text stands for. -/
def read (s : String) : Except Misread α := (decoder : Decoder α).run s

/-- Reads a value that is at hand as JSON. -/
def ofJson (j : Json) : Except Misread α := decoder .direct (Draft.ofJson j)

end Wire

instance : Wire String := ⟨.text, Decoder.text⟩

instance : Wire Bool := ⟨.bool, Decoder.bool⟩

instance {α : Type} [Wire α] : Wire (Option α) :=
  ⟨Json.ofOption Wire.toJson, Decoder.option Wire.decoder⟩

instance {α : Type} [Wire α] : Wire (List α) :=
  ⟨Json.ofList Wire.toJson, Decoder.list Wire.decoder⟩

instance : Wire Time.Instant :=
  ⟨fun t => .text (toString t), Decoder.textual fun s => Time.Instant.read s.toList⟩

end JobDispatch
