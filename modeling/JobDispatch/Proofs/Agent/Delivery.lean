import JobDispatch.Proofs.Agent.Post

/-!
What becomes of a job that a runner has reserved: its command ends, and the report of that is
carried to the registry. Which reports are accepted is told exactly: the registry does not read a
body of any size.
-/

namespace JobDispatch

open Http (Request Response Url)
open Http.Url (Plain)

/-- What a job comes to: its exit status, and the text that is its result. -/
structure Upshot where
  exit : ExitStatus
  result : String

namespace Programs

variable (run : Programs) (job : Job)

/-- What a job comes to when its command is called: what the command wrote, or why there is nothing
that it could have written. -/
def upshot : Upshot :=
  match job.value.arguments with
  | [] => ⟨.failure, (ProcessingError.noCommand job.id).message⟩
  | program :: args =>
    match run program args with
    | .ok e =>
      if e.status = some 0 then ⟨.success, Execution.text e.out⟩
      else ⟨.failure, Execution.text e.err⟩
    | .error e => ⟨.failure, (ProcessingError.notStarted program e).message⟩

/-- How the processor of a job ends. -/
def ends : Processed :=
  match run.process job with
  | .ok done => .finished done
  | .error e => .failed e.message

end Programs

/-- A job with the end that it came to. -/
def Upshot.shownBy (e : Upshot) (job : Job) : Job :=
  job.withValue ((job.value.withStatus .done (some e.exit)).withResult e.result)

/-- The patch that reports the end of a job. -/
def Upshot.report (e : Upshot) (job : Job) : JobPatch :=
  ⟨job.version, some (.done e.exit), some e.result⟩

/-- A job one version on, as it is stored with its end and the instant at which it came. -/
def Upshot.storedFor (e : Upshot) (job : Job) (now : Time.Instant) : Job :=
  ⟨job.id, job.version + 1,
    { (e.shownBy job).value with processing := { job.value.processing with finished := some now } }⟩

/-- Whatever the processor does, what is reported is the end of the job. -/
theorem Desk.conclude_ends {m : Type → Type} [Monad m] (d : Desk m)
    (rules : DeskRules) (run : Programs) (job : Job) :
    d.conclude rules job (run.ends job) =
      conclude.outcome <$> d.report rules ((run.upshot job).shownBy job) := by
  unfold Programs.ends Programs.upshot Programs.process
  cases job.value.arguments with
  | nil => rfl
  | cons program args =>
    cases called : run program args with
    | error e =>
      simp only [called]
      rfl
    | ok e =>
      simp only [called]
      by_cases zero : e.status = some 0
      · simp only [Execution.conclude, if_pos zero]
        rfl
      · simp only [Execution.conclude, if_neg zero]
        rfl

theorem Text.trimEnd_replicate {c : Char} (n : Nat) (h : isBlank c = false) :
    trimEnd (List.replicate n c) = List.replicate n c := by
  cases n with
  | zero => rfl
  | succ n => rw [List.replicate_succ', trimEnd_append_single _ h]

/-- A report of the end of a running job that names its version breaks no rule. -/
theorem Jobs.checkPatch_report {now : Time.Instant} {job : Job} (e : Upshot)
    (runs : job.value.status.run = some .running) :
    checkPatch now job (e.report job) = .ok (e.storedFor job now).value := by
  rw [checkPatch_eq_ok_iff]
  refine ⟨rfl, ?_, ?_⟩
  · rw [JobChange.objection_eq_none_iff]
    simp [runs, JobPatch.applyTo, Upshot.report, JobStatus.done]
  · simp [JobChange.appliedAt, runs, JobPatch.applyTo, Upshot.report, JobStatus.done,
      Upshot.storedFor, Upshot.shownBy, Entity.withValue, JobValue.withStatus, JobValue.withResult]

/-- A report that the registry reads, and after which the version of the job still fits 64 bits. -/
structure Upshot.Deliverable (u : Upshot) (job : Job) : Prop where
  small : (Wire.write (u.report job)).utf8ByteSize ≤ Http.maxBody
  next : job.version < Text.maxWord

namespace Post

variable {worded : Nat → List UInt8} {c : Client} {coming : Nat → Errand} {w w' : Post}
  {es : List RegistryEvent} {job : Job} {u : Upshot}

theorem Held.plain (held : Held es job) : Plain job.id.toList := by
  obtain ⟨n, named⟩ := Registry.stored_named es job (Store.retrieve_mem held.found).1
  rw [named]
  exact plain_idOf (by decide) (by decide) n

/-- Nobody else patches the job before the next request arrives. -/
def Alone (w : Post) (job : Job) : Prop :=
  ∀ e ∈ (w.coming 0).before, ∀ now p, e ≠ .patch now job.id p

theorem alone_of_quiet {rules : DeskRules} (quiet : ∀ n, (coming n).before = [])
    {x : Except RegistryError (Option Job)}
    (reserved : ((desk worded c).nextJob rules).run (start (Registry.run es) coming) = (x, w))
    (job : Job) : w.Alone job := by
  obtain ⟨fs, underway, -⟩ := (underway_start es coming).nextJob reserved
  obtain ⟨m, same⟩ := underway.ahead 0
  intro e he
  rw [same, quiet m] at he
  cases he

def reporting (u : Upshot) (job : Job) : Request :=
  ⟨.patch, "/jobs/".toList ++ job.id.toList, some "application/json", Wire.write (u.report job)⟩

theorem reporting_path (held : Held es job) (u : Upshot) :
    (reporting u job).path = "/jobs/".toList ++ job.id.toList := by
  have front : "/jobs/".toList.all (fun d => d != '?' && d != '#') = true := by decide
  refine List.takeWhile_eq_self_iff.mpr ?_
  intro d hd
  rcases List.mem_append.mp hd with hd | hd
  · exact List.all_eq_true.mp front d hd
  · have other := Http.Url.ne_of_isAlphanum (held.plain.2 d hd)
    simp [other '?' rfl, other '#' rfl]

/-- A report that is small enough is stored, and answered with what is stored. -/
theorem serve_small (h : Underway coming w es) (held : Held es job) (alone : w.Alone job)
    (small : (Wire.write (u.report job)).utf8ByteSize ≤ Http.maxBody) :
    ∃ registry, (Registry.serve (w.coming 0).now (reporting u job)).run w.next.registry =
        (.json 200 (u.storedFor job (w.coming 0).now), registry) ∧
      registry.jobs.store.retrieve job.id = some (u.storedFor job (w.coming 0).now) := by
  have found := Registry.stored_running held.found held.runs alone
  have type : (reporting u job).contentType = some "application/json" := rfl
  have asked := Request.json_write type small rfl (JobPatch.faithful held.fits)
  have performed := Jobs.patch_perform (w.coming 0).now job.id (u.report job)
    (Registry.stored (es ++ (w.coming 0).before))
  rw [← h.next.jobs, found] at performed
  simp only [Jobs.checkPatch_report u held.runs] at performed
  rw [Registry.serve_job rfl held.plain.slug (reporting_path held u), Registry.withBody, asked]
  refine ⟨_, Registry.reply_ok (Registry.perform_onJobs performed), ?_⟩
  change Store.retrieve (Store.put _ _) job.id = _
  rw [Store.retrieve_put, found]
  simp [Upshot.storedFor]

theorem serve_large (held : Held es job)
    (large : Http.maxBody < (Wire.write (u.report job)).utf8ByteSize) (now : Time.Instant)
    (registry : Registry) :
    (Registry.serve now (reporting u job)).run registry = (.bare 413, registry) := by
  have refused : (reporting u job).json (α := JobPatch) = .error (.bare 413) :=
    Request.json_of_tooLarge rfl large
  rw [Registry.serve_job rfl held.plain.slug (reporting_path held u), Registry.withBody, refused]
  rfl

/-- The answer to a stored report is read if and only if the version of the job fits 64 bits. -/
theorem value_stored (d : Job) :
    (Reply.value (.full 200 (bytes worded (.json 200 d))) : Except ClientError Job) =
      if d.version ≤ Text.maxWord then .ok d else .error .noValue := by
  have body : (Reply.decode? (bytes worded (.json 200 d)) : Option Job) =
      (Wire.read (Wire.write d)).toOption := Reply.decode?_utf8 (Wire.toJson d)
  split_ifs with fits
  · rw [((Entity.faithful_job_iff d).mpr fits).read_write] at body
    exact Reply.value_of_decode? rfl body
  · cases got : (Wire.read (Wire.write d) : Except Misread Job) with
    | error e =>
      rw [got] at body
      exact Reply.value_of_unread rfl body
    | ok d' => exact absurd (Entity.eq_of_read_job got).2 fits

theorem patch_deliverable (root : c.AtRoot) (h : Underway coming w es) (held : Held es job)
    (alone : w.Alone job) (deliverable : u.Deliverable job) :
    ∃ w', ((desk worded c).patch job.id (u.report job)).run w =
        (.ok (u.storedFor job (w.coming 0).now), w') ∧ w'.raised = [] ∧
      w'.registry.jobs.store.retrieve job.id = some (u.storedFor job (w.coming 0).now) := by
  obtain ⟨url, asks⟩ := Client.patchJob_request root held.plain.slug (u.report job)
  obtain ⟨registry, served, stored⟩ := serve_small h held alone deliverable.small
  have next : (u.storedFor job (w.coming 0).now).version ≤ Text.maxWord := deliverable.next
  refine ⟨{ w.next with registry }, ?_, h.calm, stored⟩
  rw [patch_run asks served]
  change (Except.mapError _ (Reply.value (.full 200 _)), _) = _
  rw [value_stored, if_pos next]
  rfl

theorem patch_undeliverable (root : c.AtRoot) (h : Underway coming w es) (held : Held es job)
    (alone : w.Alone job) (undeliverable : ¬ u.Deliverable job) :
    ∃ e w', ((desk worded c).patch job.id (u.report job)).run w = (.error e, w') ∧
      e.isTransient = false := by
  obtain ⟨url, asks⟩ := Client.patchJob_request root held.plain.slug (u.report job)
  by_cases small : (Wire.write (u.report job)).utf8ByteSize ≤ Http.maxBody
  · obtain ⟨registry, served, stored⟩ := serve_small h held alone small
    have last : ¬ (u.storedFor job (w.coming 0).now).version ≤ Text.maxWord :=
      fun next => undeliverable ⟨small, next⟩
    refine ⟨.ofClient .noValue, { w.next with registry }, ?_, rfl⟩
    rw [patch_run asks served]
    change (Except.mapError _ (Reply.value (.full 200 _)), _) = _
    rw [value_stored, if_neg last]
    rfl
  · have served := serve_large held (Nat.not_le.mp small) (w.coming 0).now w.next.registry
    exact ⟨_, _, patch_run asks served, rfl⟩

variable (rules : DeskRules)

theorem report_of_ok {d : Job}
    (patched : ((desk worded c).patch job.id (.report job.version job.value)).run w = (.ok d, w')) :
    ((desk worded c).report rules job).run w = (.ok d, w') := by
  rw [Desk.report, Desk.reportFrom.eq_def, run_bind_of_run patched]
  rfl

/-- Where another attempt is of no use, the first one is the last, and fatal. -/
theorem report_of_error {e : RegistryError}
    (patched : ((desk worded c).patch job.id (.report job.version job.value)).run w =
      (.error e, w')) (final : e.isTransient = false) :
    ∃ f, ((desk worded c).report rules job).run w =
      (.error f, { w' with raised := w'.raised ++ [f] }) := by
  refine ⟨⟨"", job.id, e.message⟩, ?_⟩
  rw [Desk.report, Desk.reportFrom.eq_def, run_bind_of_run patched]
  simp only [final, Bool.not_false, if_true]
  rfl

/-- A job that ended as its command did: it is stored so, one version on, and nothing was raised. -/
structure Delivered (w : Post) (job : Job) (u : Upshot) : Prop where
  calm : w.raised = []
  stored : ∃ now, w.registry.jobs.store.retrieve job.id = some (u.storedFor job now)

theorem conclude_deliverable (root : c.AtRoot) (h : Underway coming w es) (held : Held es job)
    (alone : w.Alone job) {run : Programs} (deliverable : (run.upshot job).Deliverable job) :
    ∃ w', ((desk worded c).conclude rules job (run.ends job)).run w = (.finished, w') ∧
      w'.Delivered job (run.upshot job) := by
  obtain ⟨w', patched, calm, stored⟩ := patch_deliverable root h held alone deliverable
  have reported : ((desk worded c).report rules ((run.upshot job).shownBy job)).run w = _ :=
    report_of_ok rules patched
  refine ⟨w', ?_, calm, _, stored⟩
  rw [Desk.conclude_ends, map_eq_pure_bind, run_bind_of_run reported]
  rfl

theorem conclude_undeliverable (root : c.AtRoot) (h : Underway coming w es) (held : Held es job)
    (alone : w.Alone job) {run : Programs} (undeliverable : ¬ (run.upshot job).Deliverable job) :
    ∃ w', ((desk worded c).conclude rules job (run.ends job)).run w = (.failed, w') ∧
      w'.raised ≠ [] := by
  obtain ⟨e, w', patched, final⟩ := patch_undeliverable root h held alone undeliverable
  obtain ⟨f, reported⟩ : ∃ f,
      ((desk worded c).report rules ((run.upshot job).shownBy job)).run w =
        (.error f, { w' with raised := w'.raised ++ [f] }) := report_of_error rules patched final
  refine ⟨{ w' with raised := w'.raised ++ [f] }, ?_, by simp⟩
  rw [Desk.conclude_ends, map_eq_pure_bind, run_bind_of_run reported]
  rfl

/-- A reserved job that nobody else patches ends as its command did, and nothing is raised, if and
only if its report is not too large for the registry and the version of the job still rises. -/
theorem delivered_iff (root : c.AtRoot) (es : List RegistryEvent)
    (coming : Nat → Errand) (run : Programs)
    (reserved : ((desk worded c).nextJob rules).run (start (Registry.run es) coming) =
      (.ok (some job), w))
    (alone : w.Alone job) :
    (((desk worded c).conclude rules job (run.ends job)).run w).2.Delivered job (run.upshot job) ↔
      (run.upshot job).Deliverable job := by
  obtain ⟨fs, underway, held⟩ := (underway_start es coming).nextJob reserved
  have held := held job rfl
  constructor
  · intro delivered
    by_contra undeliverable
    obtain ⟨w', concluded, raised⟩ :=
      conclude_undeliverable rules root underway held alone undeliverable
    rw [concluded] at delivered
    exact raised delivered.calm
  · intro deliverable
    obtain ⟨w', concluded, delivered⟩ :=
      conclude_deliverable rules root underway held alone deliverable
    rwa [concluded]

-- One job in the registry, and a runner on the same host that reserves any pending job.

def soleLaunch : List RegistryEvent := [.launch .epoch ⟨some "n", some "c", some "a", ["p"]⟩]

def soleJob : Job :=
  ⟨"J1", 2, ⟨some "n", some "c", ["p"], none, .running, ⟨some .epoch, some .epoch, none⟩, some "a"⟩⟩

def anyPending : DeskRules := ⟨⟨none, none, none, some .pending, none⟩, 1, 1, ⟨0, 0⟩⟩

/-- Every program writes a text and ends well. -/
def printing (s : List Char) : Programs := fun _ _ => .ok ⟨some 0, Text.utf8 s, []⟩

theorem upshot_printing (s : List Char) :
    (printing s).upshot soleJob = ⟨.success, String.ofList (Text.trimEnd s)⟩ := by
  change Upshot.mk .success (Execution.text (Text.utf8 s)) = _
  rw [Execution.text, Text.decodeLossy_utf8]

theorem reserves_sole : ∃ w, ((desk (fun _ => []) localhost).nextJob anyPending).run
    (start (Registry.run soleLaunch) fun _ => ⟨[], .epoch⟩) = (.ok (some soleJob), w) :=
  ⟨_, Prod.ext (by decide +kernel) rfl⟩

/-- The command writes a line, and the registry takes the report. -/
theorem delivered_iff_line : ∃ w,
    ((desk (fun _ => []) localhost).nextJob anyPending).run
        (start (Registry.run soleLaunch) fun _ => ⟨[], .epoch⟩) = (.ok (some soleJob), w) ∧
      w.Alone soleJob ∧
      (((desk (fun _ => []) localhost).conclude anyPending soleJob
        ((printing "x\n".toList).ends soleJob)).run w).2.Delivered soleJob ⟨.success, "x"⟩ := by
  obtain ⟨w, reserved⟩ := reserves_sole
  have alone := alone_of_quiet (fun _ => rfl) reserved soleJob
  have upshot : (printing "x\n".toList).upshot soleJob = ⟨.success, "x"⟩ := upshot_printing _
  have small : (Wire.write (Upshot.report ⟨.success, "x"⟩ soleJob)).utf8ByteSize ≤
      Http.maxBody := by decide +kernel
  have deliverable : ((printing "x\n".toList).upshot soleJob).Deliverable soleJob := by
    rw [upshot]
    exact ⟨small, by decide⟩
  have delivered := (delivered_iff anyPending atRoot_localhost soleLaunch _ _ reserved alone).mpr
    deliverable
  rw [upshot] at delivered
  exact ⟨w, reserved, alone, delivered⟩

/-- The command writes more than the registry takes: the report is refused, and that is fatal. -/
theorem not_delivered_flood : ∃ w,
    ((desk (fun _ => []) localhost).nextJob anyPending).run
        (start (Registry.run soleLaunch) fun _ => ⟨[], .epoch⟩) = (.ok (some soleJob), w) ∧
      w.Alone soleJob ∧
      ¬ (((desk (fun _ => []) localhost).conclude anyPending soleJob
          ((printing (List.replicate (Http.maxBody + 1) 'x')).ends soleJob)).run w).2.Delivered
        soleJob ⟨.success, String.ofList (List.replicate (Http.maxBody + 1) 'x')⟩ := by
  obtain ⟨w, reserved⟩ := reserves_sole
  have alone := alone_of_quiet (fun _ => rfl) reserved soleJob
  obtain ⟨fs, underway, held⟩ := (underway_start soleLaunch _).nextJob reserved
  have undeliverable : ¬ ((printing (List.replicate (Http.maxBody + 1) 'x')).upshot
      soleJob).Deliverable soleJob := by
    rw [upshot_printing, Text.trimEnd_replicate _ rfl]
    rintro ⟨small, -⟩
    have large := JobPatch.length_result_le (p := Upshot.report
      ⟨.success, String.ofList (List.replicate (Http.maxBody + 1) 'x')⟩ soleJob) rfl
    rw [String.toList_ofList, List.length_replicate] at large
    omega
  obtain ⟨w', concluded, raised⟩ := conclude_undeliverable anyPending atRoot_localhost underway
    (held soleJob rfl) alone undeliverable
  refine ⟨w, reserved, alone, ?_⟩
  intro delivered
  rw [concluded] at delivered
  exact raised delivered.calm

end Post

end JobDispatch
