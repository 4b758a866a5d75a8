import DcpPlatform.Jobs.ReportRuns
import DcpPlatform.Jobs.Turns

/-!
# An ended job keeps its status

The endpoints that settle a job refuse one that is settled already. A
cancellation accepts a job that has failed or been stopped, and a report of an
image pull or of a ready endpoint never looks at the status: `InTime` excludes
these.
-/

namespace DcpPlatform.Jobs

open Foundation Option

def EndsKept (before after : Database) : Prop :=
  ∀ jobId job, before.jobs.lookup jobId = some job → job.status.isTerminal = true →
    ∃ later, after.jobs.lookup jobId = some later ∧ later.status = job.status

namespace EndsKept

theorem refl (db : Database) : EndsKept db db :=
  fun _ job found _ => ⟨job, found, rfl⟩

theorem trans {first second third : Database}
    (earlier : EndsKept first second) (later : EndsKept second third) :
    EndsKept first third := by
  intro jobId job found ended
  obtain ⟨middle, middleFound, middleStatus⟩ := earlier jobId job found ended
  rw [← middleStatus] at ended ⊢
  exact later jobId middle middleFound ended

end EndsKept

/-- The row that the action is going to rewrite has not ended. -/
def InTime (db : Database) (action : LifecycleAction) : Prop :=
  ∀ job ∈ addressed db action, IsLive job
deriving Decidable

section Turns

variable {db after : Database}

theorem Turn.endsKept {job : Job} (turn : Turn (fun _ => IsLive) job db after) :
    EndsKept db after := by
  intro jobId row found ended
  by_cases here : jobId = job.jobId
  · have same : db.jobs.lookup job.jobId = some job := turn.writes.1
    rw [here, same] at found
    cases found
    rw [here]
    cases turn with
    | noted _ status _ writes =>
      exact ⟨_, writes.row same, status⟩
    | moved _ live _ _ | settled _ live _ _ _ =>
      rw [live] at ended
      cases ended
  · exact ⟨row, (turn.others here).trans found, rfl⟩

theorem Turns.endsKept (turns : Turns (fun _ => IsLive) db after) :
    EndsKept db after := by
  induction turns with
  | refl =>
    exact EndsKept.refl db
  | tail _ turn ih =>
    obtain ⟨job, turn⟩ := turn
    exact ih.trans turn.endsKept

end Turns

section Rewritten

variable {db after : Database} {job : Job} {now : Int}

theorem updated_row {change : Job → Job} (keeps : ∀ job, (change job).jobId = job.jobId)
    (found : db.jobs.lookup job.jobId = some job) :
    (db.jobs.update job.jobId change keeps).lookup job.jobId = some (change job) := by
  rw [Table.lookup_update, if_pos rfl, found]
  rfl

theorem cancelJob_row (found : db.jobs.lookup job.jobId = some job) :
    ∃ later,
      (cancelJob db job now).jobs.lookup job.jobId = some later ∧ later.status = .cancelled := by
  obtain ⟨later, stored, status⟩ : ∃ later,
      (endAndRefund .cancelled now db job).jobs.lookup job.jobId = some later ∧
        later.status = .cancelled := by
    rw [endAndRefund, refundEnded]
    split
    · rw [Table.lookup_update, if_pos rfl, Database.book_jobs,
        updated_row (Job.setEnded_jobId .cancelled now) found]
      exact ⟨_, rfl, rfl⟩
    · exact ⟨_, updated_row (Job.setEnded_jobId .cancelled now) found, rfl⟩
  refine ⟨later, promoteNextQueuedJob_others job.providerId stored ?_, status⟩
  rw [status]
  decide

theorem postCancel_row {jobId : Nat} {reporter : Reporter}
    (named : addressed db (.cancel jobId reporter now) = some job)
    (same : db.answer (postCancel db jobId reporter now) = after) :
    job.status ≠ .cancelled ∧
      ∃ later, after.jobs.lookup job.jobId = some later ∧ later.status = .cancelled := by
  obtain ⟨found, accepts⟩ := filter_eq_some_iff.mp named
  obtain ⟨permitted, status⟩ := of_decide_eq_true accepts
  rw [postCancel, found] at same
  simp only [if_neg (not_not.mpr permitted), if_neg status] at same
  rw [← same]
  exact ⟨fun cancelled => status (Or.inr cancelled), cancelJob_row (addressed_found named)⟩

theorem postProgress_row {providerId jobId : Nat} {phase : String}
    (named : addressed db (.progress providerId jobId phase now) = some job)
    (same : db.answer (postProgress db providerId jobId phase now) = after) :
    ∃ later, after.jobs.lookup job.jobId = some later ∧ later.status = .pulling := by
  have found := addressed_found named
  simp only [addressed] at named
  split at named
  · rename_i pulls
    obtain ⟨provider, known, provided⟩ := bind_eq_some_iff.mp named
    have present : trim phase ≠ "" := by
      intro empty
      rw [empty] at pulls
      cases pulls
    rw [postProgress, if_neg present, known, provided, pulls] at same
    rw [← same]
    exact ⟨_, updated_row (Job.setProgress_jobId .pulling .pulling now) found, rfl⟩
  · cases named

variable {report : EndpointReport}

theorem podReady_row (pod : job.jobType = .interactivePod)
    (found : db.jobs.lookup job.jobId = some job)
    (accepts : AcceptsReady report job) :
    ∃ later, (db.answer (podReady db job report now)).jobs.lookup job.jobId = some later ∧
      later.status = .running := by
  obtain ⟨reached, complete⟩ := accepts
  rw [if_pos pod] at complete
  obtain ⟨jupyterKnown, sshKnown, mesh⟩ := complete
  obtain ⟨accessUrl, url⟩ := isSome_iff_exists.mp reached
  obtain ⟨jupyterHostPort, jupyter⟩ := isSome_iff_exists.mp jupyterKnown
  obtain ⟨sshHostPort, ssh⟩ := isSome_iff_exists.mp sshKnown
  rw [podReady, jupyter, ssh, mesh, url]
  exact ⟨_, updated_row (Job.setPodLive_jobId jupyterHostPort accessUrl now) found, rfl⟩

theorem serveReady_row (serve : job.jobType ≠ .interactivePod)
    (found : db.jobs.lookup job.jobId = some job)
    (accepts : AcceptsReady report job) :
    ∃ later, (db.answer (serveReady db job report now)).jobs.lookup job.jobId = some later ∧
      later.status = .running := by
  obtain ⟨reached, complete⟩ := accepts
  rw [if_neg serve] at complete
  obtain ⟨_, known, portKnown⟩ := complete
  obtain ⟨endpointUrl, url⟩ := isSome_iff_exists.mp reached
  obtain ⟨port, read⟩ := isSome_iff_exists.mp portKnown
  rw [serveReady, known, read, url]
  exact ⟨_, updated_row (Job.setServing_jobId endpointUrl now) found, rfl⟩

theorem AcceptsReady.port_isTruthy (serve : job.jobType ≠ .interactivePod)
    (accepts : AcceptsReady report job) :
    report.port.isTruthy = true := by
  have portKnown := accepts.2
  rw [if_neg serve] at portKnown
  cases known : report.port with
  | missing =>
    rw [known] at portKnown
    exact absurd portKnown.2.2 (by decide)
  | unreadable => rfl
  | number value =>
    by_cases zero : value = 0
    · rw [known, zero] at portKnown
      exact absurd portKnown.2.2 (by decide)
    · exact decide_eq_true zero

theorem postEndpointReady_row (named : addressed db (.endpointReady report now) = some job)
    (same : db.answer (postEndpointReady db report now) = after) :
    ∃ later, after.jobs.lookup job.jobId = some later ∧ later.status = .running := by
  have found := addressed_found named
  obtain ⟨reported, decided⟩ := filter_eq_some_iff.mp named
  have accepts := of_decide_eq_true decided
  rw [← same, postEndpointReady, reported, filter_some]
  by_cases pod : job.jobType = .interactivePod
  · rw [if_pos (decide_eq_true pod)]
    exact podReady_row pod found accepts
  · obtain ⟨provider, known, _⟩ := bind_eq_some_iff.mp reported
    have serve := accepts.2
    rw [if_neg pod] at serve
    rw [if_neg (fun same => pod (of_decide_eq_true same)), accepts.port_isTruthy pod, known]
    simp only [isNone_some, Bool.false_eq_true, if_false,
      Bool.true_eq_false, serve.1, ne_eq, not_true_eq_false]
    exact serveReady_row pod found accepts

theorem addressed_rewritten {action : LifecycleAction}
    (named : addressed db action = some job) (ended : job.status.isTerminal = true)
    (fires : Fires lifecycleNext db action after) :
    ∃ later, after.jobs.lookup job.jobId = some later ∧ later.status ≠ job.status := by
  cases action with
  | cancel jobId reporter now =>
    injection fires with same
    obtain ⟨uncancelled, later, stored, status⟩ := postCancel_row named same
    rw [← status] at uncancelled
    exact ⟨later, stored, uncancelled.symm⟩
  | progress providerId jobId phase now =>
    injection fires with same
    obtain ⟨later, stored, status⟩ := postProgress_row named same
    refine ⟨later, stored, ?_⟩
    intro kept
    rw [← kept, status] at ended
    cases ended
  | endpointReady report now =>
    injection fires with same
    obtain ⟨later, stored, status⟩ := postEndpointReady_row named same
    refine ⟨later, stored, ?_⟩
    intro kept
    rw [← kept, status] at ended
    cases ended
  | result | complete | jobResult | fail | enforceJobTimeouts
  | settleExpiredPods | promote =>
    cases named

end Rewritten

variable {before after : Database}

theorem endsKept_iff_inTime {action : LifecycleAction}
    (fires : Fires lifecycleNext before action after) :
    EndsKept before after ↔ InTime before action := by
  constructor
  · intro kept job named
    by_contra stopped
    have ended : job.status.isTerminal = true := by
      rw [IsLive, Bool.not_eq_false] at stopped
      exact stopped
    obtain ⟨later, stored, changed⟩ := addressed_rewritten named ended fires
    obtain ⟨row, found, same⟩ := kept job.jobId job (addressed_found named) ended
    rw [stored] at found
    injection found with equal
    rw [equal] at changed
    exact changed same
  · intro inTime
    exact (lifecycle_turns (fun _ _ live => live) inTime fires).endsKept

/-- The runs whose steps keep the status of every ended job are those that
never rewrite an ended row, and along them every job keeps the status it has
ended with. -/
theorem ended_statuses_kept_iff_inTime (start finish : Database) (actions : List LifecycleAction) :
    (Run (keeping (Fires lifecycleNext) EndsKept) start actions finish ↔
      Run (guarded (Fires lifecycleNext) InTime) start actions finish) ∧
      (Run (guarded (Fires lifecycleNext) InTime) start actions finish →
        EndsKept start finish) := by
  refine ⟨Run.keeping_iff_guarded (fun _ => True) EndsKept InTime
    (fun _ _ _ => trivial) (fun _ => endsKept_iff_inTime) trivial, ?_⟩
  intro run
  exact run.relates (fun _ => True) EndsKept EndsKept.refl
    (fun first second => first.trans second) (fun _ _ => trivial)
    (fun _ step => (endsKept_iff_inTime step.2).mpr step.1) trivial

def Database.statusOf (db : Database) (jobId : Nat) : Option JobStatus :=
  (db.jobs.lookup jobId).map Job.status

theorem EndsKept.statusOf {jobId : Nat} {status : JobStatus} (kept : EndsKept before after)
    (known : before.statusOf jobId = some status)
    (ended : status.isTerminal = true) :
    after.statusOf jobId = some status := by
  obtain ⟨job, found, same⟩ := map_eq_some_iff.mp known
  rw [← same] at ended ⊢
  obtain ⟨later, stored, status⟩ := kept jobId job found ended
  rw [Database.statusOf, stored, map_some, status]

def sampleDatabase : Database :=
  sampleSystem.db

def samplePodDatabase : Database :=
  { sampleDatabase with
    jobs := Table.empty.insertIfNew { sampleJob with jobType := .interactivePod } }

def sampleFailure : FailReport :=
  { jobId := 5
    reporter := .provider 1
    durationSeconds := .missing }

def sampleEndpoint : EndpointReport :=
  { providerId := 1
    jobId := 5
    jupyterHostPort := .number 8888
    sshHostPort := .number 2222
    meshIp := "10.8.0.7"
    port := .missing
    addressKnown := true
    url := some "https://relay/5" }

def sampleCompleted : Database :=
  { sampleDatabase with
    jobs := Table.empty.insertIfNew { sampleJob with status := .completed } }

theorem ended_statuses_kept_iff_inTime_sample :
    ∃ finish, execute lifecycleNext sampleCompleted
      [.fail sampleFailure 1000, .progress 1 5 "generating" 2000,
        .jobResult sampleJobResult 3000, .cancel 5 (.renter 2) 4000] =
        some finish ∧
      EndsKept sampleCompleted finish ∧ finish.statusOf 5 = some .completed := by
  refine exists_executed_guarded InTime (fun finish => True) (by decide +kernel) ?_
  intro finish inTime _
  have kept := (ended_statuses_kept_iff_inTime sampleCompleted finish _).2 inTime
  exact ⟨kept, kept.statusOf (by decide) rfl⟩

/-- A cancelled job is pulled again, a failed one is cancelled, and a
completed pod is made to run again. -/
theorem ended_status_changed :
    (∃ middle finish, Fires lifecycleNext sampleDatabase (.cancel 5 (.renter 2) 1000) middle ∧
      Fires lifecycleNext middle (.progress 1 5 "pulling" 2000) finish ∧
      ¬ EndsKept middle finish ∧
      finish.statusOf 5 = some .pulling) ∧
      (∃ middle finish, Fires lifecycleNext sampleDatabase (.fail sampleFailure 1000) middle ∧
        Fires lifecycleNext middle (.cancel 5 (.renter 2) 2000) finish ∧
        ¬ EndsKept middle finish ∧
        finish.statusOf 5 = some .cancelled) ∧
      ∃ middle finish, Fires lifecycleNext samplePodDatabase (.complete 5 .admin 1000) middle ∧
        Fires lifecycleNext middle (.endpointReady sampleEndpoint 2000) finish ∧
        ¬ EndsKept middle finish ∧
        finish.statusOf 5 = some .running := by
  have changed {middle finish : Database} {old new : JobStatus}
      (before : middle.statusOf 5 = some old)
      (ended : old.isTerminal = true)
      (after : finish.statusOf 5 = some new) (different : new ≠ old) :
      ¬ EndsKept middle finish ∧ finish.statusOf 5 = some new := by
    refine ⟨?_, after⟩
    intro kept
    have same := kept.statusOf before ended
    rw [after] at same
    injection same with equal
    exact different equal
  refine ⟨⟨_, _, rfl, rfl, ?_⟩, ⟨_, _, rfl, rfl, ?_⟩, ⟨_, _, rfl, rfl, ?_⟩⟩
  · exact @changed _ _ .cancelled _ (by decide +kernel) rfl (by decide +kernel) (by decide)
  · exact @changed _ _ .failed _ (by decide +kernel) rfl (by decide +kernel) (by decide)
  · exact @changed _ _ .completed _ (by decide +kernel) rfl (by decide +kernel) (by decide)

end DcpPlatform.Jobs
