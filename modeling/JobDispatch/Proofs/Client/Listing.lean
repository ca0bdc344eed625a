import JobDispatch.Proofs.Client.Exchange
import JobDispatch.Proofs.Http.Form
import JobDispatch.Proofs.Registry.Listing
import JobDispatch.Proofs.Wire.Runner

/-!
Listings over a client: the form that a listing asks with is read as the same criterion and the same
window, whatever stands in its texts, and the page that comes back is the one that was found.
-/

namespace JobDispatch

open Http (Form Request Url)
open Registry (exchange outcome serve reply onJobs onRunners)
open Resource (slug_jobs slug_runners)

/-- The ends of a window fit 64 bits. -/
structure Window.Fits (w : Window) : Prop where
  start : w.start ≤ Text.maxWord
  stop : w.stop ≤ Text.maxWord

namespace Http.Request

/-- A request for what is found at a path, with a form. -/
def listing (path : List Char) (f : Form) : Request :=
  ⟨.get, '/' :: (path ++ '?' :: f.encode), none, ""⟩

variable {path : List Char} {f : Form}

theorem path_listing (parts : ∀ d ∈ path, Url.isPart d = true) :
    (listing path f).path = '/' :: path := by
  have before : ∀ d ∈ '/' :: path, (d != '?' && d != '#') = true := by
    intro d hd
    rcases List.mem_cons.mp hd with rfl | hd
    · rfl
    · have part := parts d hd
      simp only [Url.isPart, Bool.and_eq_true] at part
      simp [part]
  have target : (listing path f).target = ('/' :: path) ++ '?' :: f.encode := rfl
  rw [Request.path, target, List.takeWhile_append_of_pos before,
    List.takeWhile_cons_of_neg (by decide), List.append_nil]

theorem query_listing (parts : ∀ d ∈ path, Url.isPart d = true) :
    (listing path f).query = f.encode := by
  have other (mark : Char) (hm : mark = '?' ∨ mark = '#') :
      ∀ d ∈ '/' :: path, (d != mark) = true := by
    intro d hd
    rcases List.mem_cons.mp hd with rfl | hd
    · rcases hm with rfl | rfl <;> rfl
    · have part := parts d hd
      simp only [Url.isPart, Bool.and_eq_true, bne_iff_ne] at part
      rcases hm with rfl | rfl
      · simp [part]
      · simp [part]
  have whole : ∀ d ∈ ('/' :: path) ++ '?' :: f.encode, (d != '#') = true := by
    intro d hd
    rcases List.mem_append.mp hd with hd | hd
    · exact other '#' (.inr rfl) d hd
    · rcases List.mem_cons.mp hd with rfl | hd
      · rfl
      · simpa using Form.ne_of_mem_encode hd
  have target : (listing path f).target = ('/' :: path) ++ '?' :: f.encode := rfl
  rw [Request.query, target, List.takeWhile_eq_self_iff.mpr whole,
    List.dropWhile_append_of_pos (other '?' (.inl rfl)), List.dropWhile_cons_of_neg (by decide)]
  rfl

end Http.Request

variable {c : Client} {now : Time.Instant} {reg : Registry} {worded : Nat → List UInt8}

namespace Registry

variable {r : Request} {w : Window}

theorem serve_listJobs (now : Time.Instant) {p : JobParams} (get : r.method = .get)
    (path : r.path = '/' :: "jobs".toList)
    (params : JobParams.ofForm? (Form.decode r.query) = some p)
    (window : Window.ofForm? (Form.decode r.query) = some w) :
    serve now r = reply (.json 200) JobError.response
      (onJobs (Jobs.search p.query w.start w.stop)) := by
  have resource : Resource.ofPath? r.path = some .jobs := by rw [path, Resource.ofPath?_jobs]
  rw [serve_of_path resource (by simp [get])]
  simp only [answer, get, listJobs, params, window]
  rfl

theorem serve_listRunners (now : Time.Instant) {p : RunnerParams} (get : r.method = .get)
    (path : r.path = '/' :: "runners".toList)
    (params : RunnerParams.ofForm? (Form.decode r.query) = some p)
    (window : Window.ofForm? (Form.decode r.query) = some w) :
    serve now r = reply (.json 200) RunnerError.response
      (onRunners (Runners.search p.query w.start w.stop)) := by
  have resource : Resource.ofPath? r.path = some .runners := by rw [path, Resource.ofPath?_runners]
  rw [serve_of_path resource (by simp [get])]
  simp only [answer, get, listRunners, params, window]
  rfl

/-- A page that a search gives is read back as it was written. -/
theorem Fits.faithful_jobs (fits : reg.Fits) (q : JobQuery) {start stop : Nat}
    (hstart : start ≤ Text.maxWord) :
    Wire.Faithful (reg.jobs.store.search q.filter start stop) := by
  have length : (reg.jobs.store.matching q.filter).length ≤ Text.maxWord :=
    (List.length_filter_le _ _).trans fits.jobs
  refine Page.faithful_jobs (.window length hstart) ?_
  intro e he
  have stored := List.mem_of_mem_filter (Page.mem_of_window he)
  exact (fits.jobVersions e stored).le

theorem Fits.faithful_runners (fits : reg.Fits) (q : RunnerQuery) {start stop : Nat}
    (hstart : start ≤ Text.maxWord) :
    Wire.Faithful (reg.runners.store.search q.filter start stop) := by
  have length : (reg.runners.store.matching q.filter).length ≤ Text.maxWord :=
    (List.length_filter_le _ _).trans fits.runners
  have stored {e : Runner} (he : e ∈ (reg.runners.store.search q.filter start stop).items) :
      e ∈ reg.runners.store.entities := List.mem_of_mem_filter (Page.mem_of_window he)
  refine Page.faithful_runners (.window length hstart) ?_ ?_
  · intro e he
    exact (fits.runnerVersions e (stored he)).le
  · intro e he
    exact fits.lives e (stored he)

end Registry

namespace Client

/-- The listings of a client ask for what was wanted, and give what the registry finds for it. -/
structure Lists (c : Client) (worded : Nat → List UInt8) (now : Time.Instant) (reg : Registry) :
    Prop where
  jobs : ∀ (p : JobParams) (w : Window), w.Fits → ∃ u r,
    (c.listJobs p w).request = some (u, r) ∧
    JobParams.ofForm? (Form.decode r.query) = some p ∧
    Window.ofForm? (Form.decode r.query) = some w ∧
    ((c.listJobs p w).perform (exchange worded now)).run reg =
      (outcome JobError.refusal (onJobs (Jobs.search p.query w.start w.stop))).run reg
  runners : ∀ (p : RunnerParams) (w : Window), w.Fits → ∃ u r,
    (c.listRunners p w).request = some (u, r) ∧
    RunnerParams.ofForm? (Form.decode r.query) = some p ∧
    Window.ofForm? (Form.decode r.query) = some w ∧
    ((c.listRunners p w).perform (exchange worded now)).run reg =
      (outcome RunnerError.refusal (onRunners (Runners.search p.query w.start w.stop))).run reg

/-- A form that names a window is not empty. -/
theorem window_ne_nil (f : Form) (w : Window) : f ++ w.toForm ≠ [] := by
  simp [Window.toForm]

section

variable (root : c.AtRoot) (fits : reg.Fits) {w : Window} (window : w.Fits)

include root fits window

theorem listJobs_exchange (p : JobParams) : ∃ u r,
    (c.listJobs p w).request = some (u, r) ∧
    JobParams.ofForm? (Form.decode r.query) = some p ∧
    Window.ofForm? (Form.decode r.query) = some w ∧
    ((c.listJobs p w).perform (exchange worded now)).run reg =
      (outcome JobError.refusal (onJobs (Jobs.search p.query w.start w.stop))).run reg := by
  let r := Request.listing "jobs".toList (p.toForm ++ w.toForm)
  have asks : ∃ u, (c.listJobs p w).request = some (u, r) :=
    root.requestTo_form (by simp) slug_jobs.isPart (Url.pathOf_single slug_jobs)
      (window_ne_nil _ w) .get
  obtain ⟨u, asks⟩ := asks
  have form : Form.decode r.query = p.toForm ++ w.toForm := by
    rw [Request.query_listing slug_jobs.isPart, Form.decode_encode]
  have params : JobParams.ofForm? (Form.decode r.query) = some p := by
    rw [form, JobParams.ofForm?_append]
  have range : Window.ofForm? (Form.decode r.query) = some w := by
    rw [form, Window.ofForm?_append p.names_toForm window.start window.stop]
  have served := Registry.serve_listJobs now (r := r) rfl
    (Request.path_listing slug_jobs.isPart) params range
  refine ⟨u, r, asks, params, range, ?_⟩
  refine Registry.perform_exchange asks served ?_ (Registry.value_jobError worded)
  intro page reg' performed
  obtain ⟨jobs, searched⟩ := Registry.ok_of_onJobs performed
  have success : isSuccess 200 = true := rfl
  obtain rfl := Jobs.eq_of_search searched
  exact Reply.value_json worded success (fits.faithful_jobs p.query window.start)

theorem listRunners_exchange (p : RunnerParams) : ∃ u r,
    (c.listRunners p w).request = some (u, r) ∧
    RunnerParams.ofForm? (Form.decode r.query) = some p ∧
    Window.ofForm? (Form.decode r.query) = some w ∧
    ((c.listRunners p w).perform (exchange worded now)).run reg =
      (outcome RunnerError.refusal
        (onRunners (Runners.search p.query w.start w.stop))).run reg := by
  let r := Request.listing "runners".toList (p.toForm ++ w.toForm)
  have asks : ∃ u, (c.listRunners p w).request = some (u, r) :=
    root.requestTo_form (by simp) slug_runners.isPart (Url.pathOf_single slug_runners)
      (window_ne_nil _ w) .get
  obtain ⟨u, asks⟩ := asks
  have form : Form.decode r.query = p.toForm ++ w.toForm := by
    rw [Request.query_listing slug_runners.isPart, Form.decode_encode]
  have params : RunnerParams.ofForm? (Form.decode r.query) = some p := by
    rw [form, RunnerParams.ofForm?_append]
  have range : Window.ofForm? (Form.decode r.query) = some w := by
    rw [form, Window.ofForm?_append p.names_toForm window.start window.stop]
  have served := Registry.serve_listRunners now (r := r) rfl
    (Request.path_listing slug_runners.isPart) params range
  refine ⟨u, r, asks, params, range, ?_⟩
  refine Registry.perform_exchange asks served ?_ (Registry.value_runnerError worded)
  intro page reg' performed
  obtain ⟨runners, searched⟩ := Registry.ok_of_onRunners performed
  have success : isSuccess 200 = true := rfl
  obtain rfl := Runners.eq_of_search searched
  exact Reply.value_json worded success (fits.faithful_runners p.query window.start)

end

theorem lists_atRoot (root : c.AtRoot) (fits : reg.Fits) : c.Lists worded now reg where
  jobs p _ window := listJobs_exchange root fits window p
  runners p _ window := listRunners_exchange root fits window p

/-- A name with every mark of a form in it is asked for, and nothing is found for it. -/
theorem lists_localhost :
    Post.localhost.AtRoot ∧ Registry.assorted.Fits ∧
      Post.localhost.Lists (fun _ => []) .epoch Registry.assorted ∧
      (((Post.localhost.listJobs { JobParams.blank with names := some "a&b=c +%é," } ⟨0, 9⟩).perform
        (exchange (fun _ => []) .epoch)).run Registry.assorted).1 = .ok ⟨[], 0, 0, 0⟩ := by
  have lists : Post.localhost.Lists (fun _ => []) .epoch Registry.assorted :=
    lists_atRoot Post.atRoot_localhost Registry.fits_assorted
  refine ⟨Post.atRoot_localhost, Registry.fits_assorted, lists, ?_⟩
  obtain ⟨u, r, -, -, -, listed⟩ :=
    lists.jobs { JobParams.blank with names := some "a&b=c +%é," } ⟨0, 9⟩ ⟨by decide, by decide⟩
  rw [listed]
  decide +kernel

end Client

end JobDispatch
