import JobDispatch.Job.Request
import JobDispatch.Query.JobQuery
import JobDispatch.Wire.Basic

/-!
The JSON forms of jobs and of what is asked about them.
-/

namespace JobDispatch

instance : Wire RunStatus := ⟨fun s => .text s.name, Decoder.choice RunStatus.names⟩

instance : Wire ExitStatus := ⟨fun s => .text s.name, Decoder.choice ExitStatus.names⟩

instance : Wire JobStatus where
  toJson s := .record [("run", Wire.toJson s.run), ("exit", Wire.toJson s.exit)]
  decoder := .record ⟨none, none⟩ [
    .of "run" .optional Wire.decoder fun x s => { s with run := x },
    .of "exit" .optional Wire.decoder fun x s => { s with exit := x }]

instance : Wire Processing where
  toJson p := .record [("submitted", Wire.toJson p.submitted), ("started", Wire.toJson p.started),
    ("finished", Wire.toJson p.finished)]
  decoder := .record ⟨none, none, none⟩ [
    .of "submitted" .optional Wire.decoder fun x p => { p with submitted := x },
    .of "started" .optional Wire.decoder fun x p => { p with started := x },
    .of "finished" .optional Wire.decoder fun x p => { p with finished := x }]

/-- Reads the record that holds an account id. -/
def Decoder.accounting : Decoder (Option String) :=
  .record none [.of "account_id" .optional Wire.decoder fun x _ => x]

instance : Wire JobValue where
  toJson v := .record [("name", Wire.toJson v.name), ("category", Wire.toJson v.category),
    ("arguments", Wire.toJson v.arguments), ("result", Wire.toJson v.result),
    ("status", Wire.toJson v.status), ("processing", Wire.toJson v.processing),
    ("accounting", .record [("account_id", Wire.toJson v.accountId)])]
  decoder := .record .blank [
    .of "name" .optional Wire.decoder fun x v => { v with name := x },
    .of "category" .optional Wire.decoder fun x v => { v with category := x },
    .of "arguments" .defaulted Wire.decoder fun x v => { v with arguments := x },
    .of "result" .optional Wire.decoder fun x v => { v with result := x },
    .of "status" .defaulted Wire.decoder fun x v => { v with status := x },
    .of "processing" .defaulted Wire.decoder fun x v => { v with processing := x },
    .of "accounting" .defaulted .accounting fun x v => { v with accountId := x }]

instance : Wire CreateJob where
  toJson r := .record [("name", Wire.toJson r.name), ("category", Wire.toJson r.category),
    ("account_id", Wire.toJson r.accountId), ("arguments", Wire.toJson r.arguments)]
  decoder := .record ⟨none, none, none, []⟩ [
    .of "name" .optional Wire.decoder fun x r => { r with name := x },
    .of "category" .optional Wire.decoder fun x r => { r with category := x },
    .of "account_id" .optional Wire.decoder fun x r => { r with accountId := x },
    .of "arguments" .defaulted Wire.decoder fun x r => { r with arguments := x }]

instance : Wire JobPatch where
  toJson p := .record [("version", .ofNat p.version), ("status", Wire.toJson p.status),
    ("result", Wire.toJson p.result)]
  decoder := .record ⟨0, none, none⟩ [
    .of "version" .required .word fun x p => { p with version := x },
    .of "status" .optional Wire.decoder fun x p => { p with status := x },
    .of "result" .optional Wire.decoder fun x p => { p with result := x }]

instance : Wire JobCriteria where
  toJson c := .record [("account_id", Wire.toJson c.accountId),
    ("category", Wire.toJson c.category), ("names", Wire.toJson c.names),
    ("run_status", Wire.toJson c.run), ("exit_status", Wire.toJson c.exit)]
  decoder := .record ⟨none, none, [], none, none⟩ [
    .of "account_id" .optional Wire.decoder fun x c => { c with accountId := x },
    .of "category" .optional Wire.decoder fun x c => { c with category := x },
    .of "names" .defaulted Wire.decoder fun x c => { c with names := x },
    .of "run_status" .optional Wire.decoder fun x c => { c with run := x },
    .of "exit_status" .optional Wire.decoder fun x c => { c with exit := x }]

instance : Wire JobQuery where
  toJson q := .record [("criteria", Wire.toJson q.criteria)]
  decoder := .record ⟨[]⟩ [.of "criteria" .required Wire.decoder fun x _ => ⟨x⟩]

/-- The fields that have a value, as JSON. -/
def Json.present (fields : List (String × Option Json)) : Json :=
  .record (fields.filterMap fun f => f.2.map fun v => (f.1, v))

instance : Wire JobParams where
  toJson p := .present [("account_id", p.accountId.map Wire.toJson),
    ("category", p.category.map Wire.toJson), ("names", p.names.map Wire.toJson),
    ("run_status", p.run.map Wire.toJson), ("exit_status", p.exit.map Wire.toJson)]
  decoder := .record .blank [
    .of "account_id" .optional Wire.decoder fun x p => { p with accountId := x },
    .of "category" .optional Wire.decoder fun x p => { p with category := x },
    .of "names" .optional Wire.decoder fun x p => { p with names := x },
    .of "run_status" .optional Wire.decoder fun x p => { p with run := x },
    .of "exit_status" .optional Wire.decoder fun x p => { p with exit := x }]

end JobDispatch
