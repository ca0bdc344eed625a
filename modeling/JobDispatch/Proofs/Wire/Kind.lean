import JobDispatch.Proofs.Wire.Runner
import JobDispatch.Wire.Verdict

/-!
The kinds of messages that the registry and those who ask it exchange. Whatever the kind, a value
whose numbers fit 64 bits is read back as it was written, so that two values are never written
alike: neither an absent list and an empty one, nor an instant and the leap second after it.
-/

namespace JobDispatch

open Wire (Faithful)

theorem Verdict.faithful (v : Verdict) : Faithful v := by
  have valid := Wire.faithful_bool v.valid
  have message := Wire.faithful_optionText v.message
  refine ⟨⟨valid.proper, message.proper, trivial⟩, fun m => ?_⟩
  exact Decoder.record_of_sets (.cons (Decoder.read_of (valid.decodes m))
    (.cons (Decoder.read_of (message.decodes m)) .nil)) (by decide) _

/-- The kinds of messages. -/
inductive Kind where
  | jobValue
  | job
  | runnerValue
  | runner
  | createJob
  | jobPatch
  | registerRunner
  | runnerStatusPatch
  | jobQuery
  | runnerQuery
  | verdict
  | jobPage
  | runnerPage
  deriving DecidableEq, Repr

namespace Kind

/-- What a message of a kind says. -/
abbrev Carrier : Kind → Type
  | jobValue => JobValue
  | job => Job
  | runnerValue => RunnerValue
  | runner => Runner
  | createJob => CreateJob
  | jobPatch => JobPatch
  | registerRunner => RegisterRunner
  | runnerStatusPatch => RunnerStatusPatch
  | jobQuery => JobQuery
  | runnerQuery => RunnerQuery
  | verdict => Verdict
  | jobPage => Page Job
  | runnerPage => Page Runner

instance : (k : Kind) → Wire k.Carrier
  | jobValue => inferInstanceAs (Wire JobValue)
  | job => inferInstanceAs (Wire Job)
  | runnerValue => inferInstanceAs (Wire RunnerValue)
  | runner => inferInstanceAs (Wire Runner)
  | createJob => inferInstanceAs (Wire CreateJob)
  | jobPatch => inferInstanceAs (Wire JobPatch)
  | registerRunner => inferInstanceAs (Wire RegisterRunner)
  | runnerStatusPatch => inferInstanceAs (Wire RunnerStatusPatch)
  | jobQuery => inferInstanceAs (Wire JobQuery)
  | runnerQuery => inferInstanceAs (Wire RunnerQuery)
  | verdict => inferInstanceAs (Wire Verdict)
  | jobPage => inferInstanceAs (Wire (Page Job))
  | runnerPage => inferInstanceAs (Wire (Page Runner))

/-- The numbers of a message fit 64 bits: versions and the bounds of pages without a sign, times to
live with one. Nothing is asked of its texts, its instants and its absent parts. -/
def Fits : (k : Kind) → k.Carrier → Prop
  | job, e => e.version ≤ Text.maxWord
  | runnerValue, v => LiveFits v.timeToLive
  | runner, e => e.version ≤ Text.maxWord ∧ LiveFits e.value.timeToLive
  | jobPatch, p => p.version ≤ Text.maxWord
  | registerRunner, r => LiveFits r.timeToLive
  | jobPage, p => p.Fits ∧ ∀ e ∈ p.items, e.version ≤ Text.maxWord
  | runnerPage, p =>
    p.Fits ∧ ∀ e ∈ p.items, e.version ≤ Text.maxWord ∧ LiveFits e.value.timeToLive
  | jobValue, _ | createJob, _ | runnerStatusPatch, _ | jobQuery, _ | runnerQuery, _
  | verdict, _ => True

theorem faithful {k : Kind} {a : k.Carrier} (h : k.Fits a) : Faithful a := by
  cases k with
  | jobValue => exact JobValue.faithful a
  | job => exact (Entity.faithful_job_iff a).mpr h
  | runnerValue => exact RunnerValue.faithful h
  | runner => exact Entity.faithful_runner h.1 h.2
  | createJob => exact CreateJob.faithful a
  | jobPatch => exact JobPatch.faithful h
  | registerRunner => exact RegisterRunner.faithful h
  | runnerStatusPatch => exact RunnerStatusPatch.faithful a
  | jobQuery => exact JobQuery.faithful a
  | runnerQuery => exact RunnerQuery.faithful a
  | verdict => exact Verdict.faithful a
  | jobPage => exact Page.faithful_jobs h.1 h.2
  | runnerPage =>
    exact Page.faithful_runners h.1 (fun e he => (h.2 e he).1) fun e he => (h.2 e he).2

/-- What is read of the text of a message is the message. -/
theorem read_back_of_fits {k : Kind} {a : k.Carrier} (h : k.Fits a) :
    Wire.read (Wire.write a) = .ok a :=
  (faithful h).read_write

/-- The first runner has the largest version and the smallest time to live, an empty list of
categories but no list of names, and was heard of in the leap second after the last instant. -/
theorem read_back_of_fits_runners :
    let leap : Time.Instant := ⟨Time.lastSecond, 1999999999, by decide⟩
    let gone : RunnerValue := ⟨some "a\"\\\n\u0001é𝄞", some Text.minSigned, some ⟨some [], none⟩,
      some ⟨some .disconnected, some .first, some leap⟩⟩
    let page : Kind.runnerPage.Carrier :=
      ⟨[⟨"", Text.maxWord, gone⟩, ⟨"R2", 0, .blank⟩], 0, Text.maxWord, 2⟩
    Kind.runnerPage.Fits page ∧ Wire.read (Wire.write page) = .ok page := by
  intro leap gone page
  have bounds : Page.Fits page := ⟨by decide, by decide, by decide⟩
  have items : ∀ e ∈ page.items, e.version ≤ Text.maxWord ∧ LiveFits e.value.timeToLive := by
    decide
  have fits : Kind.runnerPage.Fits page := ⟨bounds, items⟩
  exact ⟨fits, read_back_of_fits fits⟩

/-- Two messages of a kind are written alike only if they are the same. -/
theorem write_injective {k : Kind} {a b : k.Carrier} (ha : k.Fits a) (hb : k.Fits b)
    (same : Wire.write a = Wire.write b) : a = b := by
  have left := (faithful ha).read_write
  have right := (faithful hb).read_write
  rw [same, right] at left
  exact (Except.ok.inj left).symm

end Kind

end JobDispatch
