import JobDispatch.Query.RunnerQuery
import JobDispatch.Runner.Request
import JobDispatch.Wire.Job

/-!
The JSON forms of runners and of what is asked about them.
-/

namespace JobDispatch

instance : Wire RunnerStatus := ⟨fun s => .text s.name, Decoder.choice RunnerStatus.names⟩

instance : Wire Competencies where
  toJson c := .record [("categories", Wire.toJson c.categories), ("names", Wire.toJson c.names)]
  decoder := .record ⟨none, none⟩ [
    .of "categories" .optional Wire.decoder fun x c => { c with categories := x },
    .of "names" .optional Wire.decoder fun x c => { c with names := x }]

instance : Wire Runtime where
  toJson r := .record [("status", Wire.toJson r.status), ("created", Wire.toJson r.created),
    ("last_ping", Wire.toJson r.lastPing)]
  decoder := .record .blank [
    .of "status" .optional Wire.decoder fun x r => { r with status := x },
    .of "created" .optional Wire.decoder fun x r => { r with created := x },
    .of "last_ping" .optional Wire.decoder fun x r => { r with lastPing := x }]

/-- The JSON form of a time to live. -/
def Json.ofTimeToLive (ttl : Option Int) : Json := .ofOption .int ttl

instance : Wire RunnerValue where
  toJson v := .record [("callback", Wire.toJson v.callback),
    ("time_to_live", .ofTimeToLive v.timeToLive), ("competencies", Wire.toJson v.competencies),
    ("runtime", Wire.toJson v.runtime)]
  decoder := .record .blank [
    .of "callback" .optional Wire.decoder fun x v => { v with callback := x },
    .of "time_to_live" .optional (.option .signed) fun x v => { v with timeToLive := x },
    .of "competencies" .optional Wire.decoder fun x v => { v with competencies := x },
    .of "runtime" .optional Wire.decoder fun x v => { v with runtime := x }]

instance : Wire RegisterRunner where
  toJson r := .record [("callback", Wire.toJson r.callback),
    ("time_to_live", .ofTimeToLive r.timeToLive), ("competencies", Wire.toJson r.competencies)]
  decoder := .record ⟨none, none, none⟩ [
    .of "callback" .optional Wire.decoder fun x r => { r with callback := x },
    .of "time_to_live" .optional (.option .signed) fun x r => { r with timeToLive := x },
    .of "competencies" .optional Wire.decoder fun x r => { r with competencies := x }]

instance : Wire RunnerStatusPatch where
  toJson p := .record [("status", Wire.toJson p.status)]
  decoder := .record ⟨.idle⟩ [.of "status" .required Wire.decoder fun x _ => ⟨x⟩]

instance : Wire RunnerCriteria where
  toJson c := .record [("category", Wire.toJson c.category), ("name", Wire.toJson c.name),
    ("runtime_status", Wire.toJson c.status)]
  decoder := .record ⟨none, none, none⟩ [
    .of "category" .optional Wire.decoder fun x c => { c with category := x },
    .of "name" .optional Wire.decoder fun x c => { c with name := x },
    .of "runtime_status" .optional Wire.decoder fun x c => { c with status := x }]

instance : Wire RunnerQuery where
  toJson q := .record [("criteria", Wire.toJson q.criteria)]
  decoder := .record ⟨[]⟩ [.of "criteria" .required Wire.decoder fun x _ => ⟨x⟩]

instance : Wire RunnerParams where
  toJson p := .present [("category", p.category.map Wire.toJson),
    ("name", p.name.map Wire.toJson), ("status", p.status.map Wire.toJson)]
  decoder := .record .blank [
    .of "category" .optional Wire.decoder fun x p => { p with category := x },
    .of "name" .optional Wire.decoder fun x p => { p with name := x },
    .of "status" .optional Wire.decoder fun x p => { p with status := x }]

end JobDispatch
