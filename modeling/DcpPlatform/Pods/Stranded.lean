import DcpPlatform.Pods.GpuExclusivity
import DcpPlatform.Pods.SweepRounds

/-!
# No pod is stranded

A pod whose money is held should be cleared by some round of the sweeps when
nobody asks for it any more. The operations of the scheduler keep it so, with
the exceptions of `Undisturbed`.
-/

namespace DcpPlatform.Pods

open Foundation Table

/-! ## Money that is held -/

/-- What decides whether money is held for a pod, and since when. -/
def Job.prepayment (job : Job) :
    JobType × Int × Option Nat × Option Int × Option Int × Option Int × Option Int :=
  (job.jobType, job.costHalala, job.renterId, job.refundedAt,
    job.actualCostHalala, job.submittedAt, job.createdAt)

/-- The renter has paid for the pod and has neither been charged nor got the
money back. -/
def HoldsMoney (job : Job) : Prop :=
  job.jobType.isPod ∧ 0 < job.costHalala ∧ job.renterId.isSome ∧
    job.refundedAt = none ∧ job.actualCostHalala = none

instance : DecidablePred HoldsMoney :=
  fun _ => inferInstanceAs (Decidable (_ ∧ _))

/-- A waiting pod that was never reported live, or one that a provider has
taken and that has a timeout. -/
def Sweepable (job : Job) : Prop :=
  job.jobType = .interactivePod ∧ (job.submittedAt.or job.createdAt).isSome ∧
    (IsWaiting job ∧ Unreported job ∨ IsActive job ∧ job.timeoutAt.isSome)

/-- Money is held for no pod that has not ended, unless a sweep comes to the
pod. -/
def Attended (job : Job) : Prop :=
  HoldsMoney job → job.status.isTerminal = false → Sweepable job

theorem holdsMoney_congr {job changed : Job} (same : changed.prepayment = job.prepayment) :
    HoldsMoney changed ↔ HoldsMoney job := by
  simp only [Job.prepayment, Prod.mk.injEq] at same
  obtain ⟨jobType, cost, renter, refunded, actual, _⟩ := same
  simp [HoldsMoney, jobType, cost, renter, refunded, actual]

namespace Attended

variable {job changed : Job}

theorem of_ended (ended : job.status.isTerminal = true) : Attended job := by
  intro _ live
  rw [ended] at live
  cases live

theorem change (attended : Attended job) (same : changed.prepayment = job.prepayment)
    (live : HoldsMoney job → job.status.isTerminal = false)
    (reached : HoldsMoney job → Sweepable job →
      IsWaiting changed ∧ Unreported changed ∨ IsActive changed ∧ changed.timeoutAt.isSome) :
    Attended changed := by
  intro holds _
  have held := (holdsMoney_congr same).mp holds
  have swept := attended held (live held)
  simp only [Job.prepayment, Prod.mk.injEq] at same
  obtain ⟨jobType, _, _, _, _, submitted, created⟩ := same
  refine ⟨jobType.trans swept.1, ?_, reached held swept⟩
  rw [submitted, created]
  exact swept.2.1

end Attended

def AllAttended (db : Database) : Prop :=
  ∀ jobId job, db.jobs.lookup jobId = some job → Attended job

def KeepsAttended (before after : Database) : Prop :=
  AllAttended before → AllAttended after

namespace KeepsAttended

variable {before after : Database}

theorem of_jobs (same : after.jobs = before.jobs) : KeepsAttended before after := by
  intro attended jobId job found
  rw [same] at found
  exact attended jobId job found

theorem refl (db : Database) : KeepsAttended db db :=
  of_jobs rfl

theorem trans {first second third : Database} (earlier : KeepsAttended first second)
    (later : KeepsAttended second third) : KeepsAttended first third :=
  fun attended => later (earlier attended)

variable {change : Job → Job}

variable {db after : Database} {keeps : ∀ job, (change job).id = job.id}

theorem of_update {target : Nat}
    (row : ∀ job, db.jobs.lookup target = some job → Attended job → Attended (change job)) :
    KeepsAttended db { db with jobs := db.jobs.update target change keeps } := by
  intro attended jobId job found
  rcases lookup_of_lookup_update keeps found with ⟨here, earlier, stored, changed⟩ | ⟨_, stored⟩
  · subst here changed
    exact row earlier stored (attended jobId earlier stored)
  · exact attended jobId job stored

theorem of_updateWhere {target : Nat} {guard : Job → Prop} [DecidablePred guard] (row :
      ∀ job, db.jobs.lookup target = some job → guard job → Attended job → Attended (change job)) :
    KeepsAttended db { db with
      jobs := db.jobs.updateWhere target guard change keeps } := by
  apply of_update
  intro job found attended
  by_cases met : guard job
  · rw [if_pos met]
    exact row job found met attended
  · rw [if_neg met]
    exact attended

theorem of_map (keeps : ∀ job, (change job).id = job.id)
    (rows : after.jobs.rows = db.jobs.rows.map change)
    (row : ∀ job, job ∈ db.jobs.rows → Attended job → Attended (change job)) :
    KeepsAttended db after := by
  intro attended jobId job found
  rw [lookup_of_rows_eq_map keeps rows] at found
  obtain ⟨earlier, stored, rfl⟩ := Option.map_eq_some_iff.mp found
  exact row earlier (lookup_mem stored) (attended jobId earlier stored)

theorem of_closing {before : Database} {jobId : Nat} {row closed : Job} {payments : List Payment}
    (closing : Closing before after jobId row closed payments) :
    KeepsAttended before after := by
  intro attended other job found
  by_cases here : other = jobId
  · subst here
    rw [closing.stored] at found
    cases found
    exact Attended.of_ended closing.ended
  · rw [closing.others other here] at found
    exact attended other job found

variable {job : Job}

theorem of_settling (settling : Settling before job after) :
    KeepsAttended before after := by
  cases settling with
  | untouched => exact refl before
  | charged closing _ _ | returned closing _ _ => exact of_closing closing

theorem promoted (queued : IsWaiting job) (now : Int)
    (attended : Attended job) : Attended (job.setPromoted now) := by
  apply @Attended.change job (job.setPromoted now) attended rfl (fun _ => queued.live)
  rintro _ ⟨_, _, ⟨_, unreported⟩ | ⟨active, _⟩⟩
  · exact Or.inl ⟨isWaiting_setPromoted now job, unreported⟩
  · exact absurd queued active.not_waiting

theorem sweepClosed : SweepClosed KeepsAttended where
  reflexive := refl
  transitive := trans
  settling := fun _ settling _ => of_settling settling
  promoted := by
    intro db job now found queued
    apply of_update
    intro row rowFound attended
    rw [found] at rowFound
    cases rowFound
    exact promoted (Or.inr queued) now attended

end KeepsAttended

/-! ## The steps of the scheduler -/

def Forgotten (job : Job) : Prop :=
  HoldsMoney job ∧ HasEnded job

instance : DecidablePred Forgotten :=
  fun _ => inferInstanceAs (Decidable (_ ∧ _))

def GoneOffline (now : Int) (provider : Provider) : Prop :=
  provider.status ≠ .offline ∧ provider.isBurst = false ∧
    ∀ heartbeat ∈ provider.lastHeartbeat, providerOfflineThresholdSecs < (now - heartbeat) / 1000

def LostLiveness (staleThresholdSec now : Int) (provider : Provider) :
    Prop :=
  (provider.status = .online ∨ provider.status = .degraded) ∧ provider.isBurst = false ∧
    ∀ heartbeat ∈ provider.lastHeartbeat, heartbeat < now - staleThresholdSec * 1000

/-- Those of `POST /admin/providers/sweep-stale`. -/
def WentStale (now : Int) (provider : Provider) : Prop :=
  ∀ heartbeat ∈ provider.lastHeartbeat, datetime heartbeat ≤ datetime now - 15 * 60

instance (now : Int) : DecidablePred (GoneOffline now) :=
  fun _ => inferInstanceAs (Decidable (_ ∧ _ ∧ _))

instance (staleThresholdSec now : Int) :
    DecidablePred (LostLiveness staleThresholdSec now) :=
  fun _ => inferInstanceAs (Decidable (_ ∧ _ ∧ _))

instance (now : Int) : DecidablePred (WentStale now) :=
  fun _ => inferInstanceAs (Decidable (∀ _ ∈ _, _))

/-- The jobs a release takes from their provider: none of them is a pod whose
money is held and that was reported live. -/
def ReleasesUnreported (db : Database) (stale : Provider → Prop)
    (statuses : List JobStatus) : Prop :=
  ∀ job ∈ db.jobs.rows, HoldsMoney job → job.status ∈ statuses → (∃ provider ∈ db.providers.rows,
    stale provider ∧ job.providerId = some provider.id) →
    Unreported job

instance (db : Database) (stale : Provider → Prop) [DecidablePred stale]
    (statuses : List JobStatus) :
    Decidable (ReleasesUnreported db stale statuses) :=
  inferInstanceAs (Decidable (∀ _ ∈ _, _))

def PullsUntimed (providerId : Nat) (job : Job) : Prop :=
  HoldsMoney job ∧ job.providerId = some providerId ∧ job.timeoutAt = none

def RetriesReported (providerId : Nat) (job : Job) : Prop :=
  HoldsMoney job ∧ TransientFailure providerId job ∧ ¬ Unreported job
deriving Decidable

def PausesPod (job : Job) : Prop :=
  HoldsMoney job ∧ Pausable job
deriving Decidable

instance (providerId : Nat) : DecidablePred (PullsUntimed providerId) :=
  fun _ => inferInstanceAs (Decidable (_ ∧ _ ∧ _))

/-- No served model is launched against money, no pod that was reported live
goes back to the queue, none pulls without a timeout, none is paused, and none
that has ended with its money comes back. -/
def StrandsNone (db : Database) : SchedulerAction → Prop
  | .launch request now outlook =>
    ∀ plan ∈ (planLaunch db request now outlook.creditAllowed).toOption,
      0 < plan.quoteHalala → request.serve = false
  | .endpointReady _ jobId _ _ _ => ¬ db.jobs.changes jobId Forgotten
  | .serveReady _ jobId _ => ¬ db.jobs.changes jobId Forgotten
  | .reportProgress providerId jobId pulling _ =>
    ¬ db.jobs.changes jobId Forgotten ∧
      (pulling → ¬ db.jobs.changes jobId (PullsUntimed providerId))
  | .sweepOfflineProviders now =>
    ReleasesUnreported db (GoneOffline now) [.running, .pending, .assigned, .pulling]
  | .livenessSweep staleThresholdSec now =>
    ReleasesUnreported db (LostLiveness staleThresholdSec now) [.running, .assigned, .pulling]
  | .sweepStale now =>
    ReleasesUnreported db (WentStale now) [.running, .pending, .assigned, .pulling]
  | .retryTransient providerId jobId _ =>
    ¬ db.jobs.changes jobId (RetriesReported providerId)
  | .requeueFailed jobId _ => ¬ db.jobs.changes jobId Forgotten
  | .pause jobId => ¬ db.jobs.changes jobId PausesPod
  | _ => True

instance (db : Database) (action : SchedulerAction) :
    Decidable (StrandsNone db action) := by
  apply SchedulerAction.casesOn (motive := fun action => Decidable (StrandsNone db action)) action
  all_goals
    intros
    dsimp only [StrandsNone]
    infer_instance

/-! ## Every step keeps the rows attended to -/

variable {db : Database} {job : Job}

theorem live_of_not_forgotten {jobId : Nat} (found : db.jobs.lookup jobId = some job)
    (kept : ¬ db.jobs.changes jobId Forgotten) (holds : HoldsMoney job) :
    job.status.isTerminal = false := by
  cases status : job.status.isTerminal with
  | false => rfl
  | true => exact absurd ⟨job, found, holds, status⟩ kept

theorem Sweepable.timeout_of_not_waiting (swept : Sweepable job) (taken : ¬ IsWaiting job) :
    job.timeoutAt.isSome := by
  rcases swept.2.2 with ⟨waiting, _⟩ | ⟨_, timeout⟩
  · exact absurd waiting taken
  · exact timeout

theorem TransientFailure.active {providerId : Nat}
    (transient : TransientFailure providerId job) : IsActive job :=
  transient.2.1

theorem IsActive.live (active : IsActive job) :
    job.status.isTerminal = false := by
  rcases active with status | status | status
  all_goals
    rw [status]
    rfl

namespace KeepsAttended

theorem of_pickUpJob (db : Database) (providerId jobId : Nat) (now : Int) :
    KeepsAttended db (pickUpJob db providerId jobId now) := by
  apply of_updateWhere
  intro job _ pickable attended
  apply @Attended.change job (job.setPickedUp providerId now) attended rfl
    (fun _ => pickable.1.live)
  intro _ _
  exact Or.inr ⟨Or.inl rfl, rfl⟩

theorem of_fetchAndAssignNextJob (db : Database) (providerId : Nat) (now : Int) :
    KeepsAttended db (fetchAndAssignNextJob db providerId now) := by
  unfold fetchAndAssignNextJob
  dsimp only
  split
  · exact refl db
  · rename_i job first
    obtain ⟨selected, found⟩ := mem_select (firstBy_mem first)
    apply of_update
    intro row rowFound attended
    rw [found] at rowFound
    cases rowFound
    apply @Attended.change job (job.setAssigned now) attended rfl (fun _ => selected.2.1.live)
    intro _ _
    exact Or.inr ⟨Or.inr (Or.inl rfl), rfl⟩

variable {db : Database} {now : Int}

theorem of_endpointReady {providerId jobId jupyterHostPort : Nat} {accessUrl : String}
    (kept : ¬ db.jobs.changes jobId Forgotten) :
    KeepsAttended db (endpointReady db providerId jobId jupyterHostPort accessUrl now) := by
  apply of_updateWhere
  intro job found _ attended
  apply @Attended.change job (job.setEndpointReady jupyterHostPort accessUrl now) attended rfl
    (live_of_not_forgotten found kept)
  intro _ swept
  refine Or.inr ⟨Or.inl rfl, ?_⟩
  simp only [Job.setEndpointReady]
  split
  · rfl
  · rename_i reported
    rcases swept.2.2 with ⟨_, unreported⟩ | ⟨_, timeout⟩
    · exact absurd unreported.2 reported
    · exact timeout

variable {providerId jobId : Nat}

theorem of_serveReady (kept : ¬ db.jobs.changes jobId Forgotten) :
    KeepsAttended db (serveReady db providerId jobId now) := by
  apply of_updateWhere
  intro job found serve attended
  apply @Attended.change job (job.setServing now) attended rfl (live_of_not_forgotten found kept)
  intro _ swept
  have jobType := serve.2
  rw [swept.1] at jobType
  cases jobType

theorem of_reportProgress {pulling : Bool} (kept : ¬ db.jobs.changes jobId Forgotten)
    (timed : pulling → ¬ db.jobs.changes jobId (PullsUntimed providerId)) :
    KeepsAttended db (reportProgress db providerId jobId pulling now) := by
  unfold reportProgress
  split
  · exact refl db
  · rename_i job found
    split
    · rename_i reported
      apply of_update
      intro row rowFound attended
      rw [found] at rowFound
      cases rowFound
      apply @Attended.change job (job.setProgress _ now) attended rfl
        (live_of_not_forgotten found kept)
      intro holds swept
      by_cases pulls : pulling
      · refine Or.inr ⟨Or.inr (Or.inr ?_), ?_⟩
        · simp [Job.setProgress, progressStatus, pulls]
        · cases timeout : job.timeoutAt with
          | none =>
            exact absurd ⟨job, found, holds, reported.1, timeout⟩ (timed pulls)
          | some timeoutAt => simp [Job.setProgress, timeout]
      · have starting : job.status = .assigned ∨ job.status = .pulling :=
          reported.2.resolve_left pulls
        have active : IsActive job := Or.inr starting
        refine Or.inr ⟨Or.inl ?_, swept.timeout_of_not_waiting active.not_waiting⟩
        simp [Job.setProgress, progressStatus, pulls, starting]
    · exact refl db

theorem of_burstJobSuccess (db : Database) (jobId : Nat)
    (accessUrl : String) (durationSeconds : Nat) (now : Int) :
    KeepsAttended db (burstJobSuccess db jobId accessUrl durationSeconds now) := by
  apply of_updateWhere
  intro job _ starting attended
  apply @Attended.change job (job.setBurstReady accessUrl durationSeconds now) attended rfl
    (fun _ => starting.live)
  intro _ _
  exact Or.inr ⟨Or.inl rfl, rfl⟩

theorem of_burstJobFail (db : Database) (jobId : Nat) (now : Int) :
    KeepsAttended db (burstJobFail db jobId now) := by
  rcases burstJobFail_settling db jobId now with same | ⟨job, _, settling⟩
  · rw [same]
    exact refl db
  · exact of_settling settling

theorem of_promoteNextQueuedJob (db : Database) (providerId : Option Nat) (now : Int) :
    KeepsAttended db (promoteNextQueuedJob db providerId now) := by
  rcases promoteNextQueuedJob_cases db providerId now with same | ⟨job, found, queued, promoted⟩
  · rw [same]
    exact refl db
  · rw [promoted]
    exact sweepClosed.promoted now found queued

theorem of_releaseJobs {stale : Provider → Prop} [DecidablePred stale] {statuses : List JobStatus}
    (released : JobStatus) (retries : Nat)
    (waits : released = .pending ∨ released = .queued)
    (live : ∀ status ∈ statuses, status.isTerminal = false)
    (unreported : ReleasesUnreported db stale statuses) :
    KeepsAttended db (releaseJobs db stale statuses released retries) := by
  refine of_map ?_ rfl ?_
  · intro job
    split <;> rfl
  · intro job member attended
    split
    · rename_i met
      apply @Attended.change job (job.setReleased released retries)
        attended rfl (fun _ => live _ met.1)
      intro holds _
      exact Or.inl ⟨waits, unreported job member holds met.1 met.2⟩
    · exact attended

theorem of_migrateJob (db : Database) (jobId : Nat) (now : Int) :
    KeepsAttended db (migrateJob db jobId now) := by
  unfold migrateJob
  split
  · exact refl db
  · split
    · split
      · exact refl db
      · apply of_update
        intro job _ attended
        exact attended
    · exact refl db

theorem of_retrySweep (db : Database) (now : Int) :
    KeepsAttended db (retrySweep db now) := by
  refine of_map ?_ rfl ?_
  · intro job
    unfold updateJobForRetry
    split
    · split <;> rfl
    · rfl
  · intro job _ attended
    split
    · rename_i candidate
      unfold updateJobForRetry
      split
      · have live : job.status.isTerminal = false := by
          rcases candidate.2 with running | queued
          · rw [running.1]
            rfl
          · rw [queued.1]
            rfl
        apply @Attended.change job job.setRetried attended rfl (fun _ => live)
        intro _ swept
        exact absurd swept.1 candidate.1
      · exact Attended.of_ended rfl
    · exact attended

theorem of_retryTransient (unreported : ¬ db.jobs.changes jobId (RetriesReported providerId)) :
    KeepsAttended db (retryTransient db providerId jobId now) := by
  apply of_updateWhere
  intro job found transient attended
  apply @Attended.change job (job.setTransient now) attended rfl (fun _ => transient.active.live)
  intro holds _
  refine Or.inl ⟨Or.inl rfl, ?_⟩
  by_contra reported
  exact unreported ⟨job, found, holds, transient, reported⟩

theorem of_requeueFailed (kept : ¬ db.jobs.changes jobId Forgotten) :
    KeepsAttended db (requeueFailed db jobId now) := by
  apply of_updateWhere
  intro job found failed attended
  apply @Attended.change job (job.setRequeued now) attended rfl (live_of_not_forgotten found kept)
  intro holds _
  have ended : HasEnded job := by
    rw [HasEnded, failed]
    rfl
  exact absurd ⟨job, found, holds, ended⟩ kept

theorem of_pauseJob (unpaused : ¬ db.jobs.changes jobId PausesPod) :
    KeepsAttended db (pauseJob db jobId) := by
  apply of_updateWhere
  intro job found pausable attended
  apply @Attended.change job (job.setStatus .paused) attended rfl
    (fun holds => absurd ⟨job, found, holds, pausable⟩ unpaused)
  intro holds _
  exact absurd ⟨job, found, holds, pausable⟩ unpaused

theorem of_resumeJob (db : Database) (jobId : Nat) :
    KeepsAttended db (resumeJob db jobId) := by
  apply of_updateWhere
  intro job _ paused attended
  have live : job.status.isTerminal = false := by
    rw [paused]
    rfl
  apply @Attended.change job (job.setStatus .running) attended rfl (fun _ => live)
  rintro _ ⟨_, _, ⟨pending | queued, _⟩ | ⟨active, _⟩⟩
  · rw [paused] at pending
    cases pending
  · rw [paused] at queued
    cases queued
  · rcases active with status | status | status
    all_goals
      rw [paused] at status
      cases status

end KeepsAttended

variable {request : LaunchRequest} {now : Int}

theorem attended_podRow {plan : LaunchPlan}
    (unserved : 0 < plan.quoteHalala → request.serve = false) :
    Attended (podRow request plan now) := by
  intro holds _
  have native : request.serve = false := unserved holds.2.1
  refine ⟨?_, rfl, ?_⟩
  · simp only [podRow, native]
    rfl
  · cases burst : plan.provider.isBurst with
    | false =>
      refine Or.inl ⟨Or.inr ?_, rfl, rfl⟩
      simp [podRow, burst]
    | true =>
      refine Or.inr ⟨Or.inr (Or.inr ?_), ?_⟩ <;> simp [podRow, burst]

theorem launchPodCore_keepsAttended {outlook : LaunchOutlook}
    (strandsNone : StrandsNone db (.launch request now outlook)) :
    KeepsAttended db (launchPodCore db request now outlook).1 := by
  have landed {plan : LaunchPlan} {debited : Database}
      (planned : planLaunch db request now outlook.creditAllowed = .ok plan)
      (taken : debitQuote db request plan.quoteHalala = some debited)
      (fresh : debited.jobs.lookup (podRow request plan now).id = none) :
      KeepsAttended db { debited with
        jobs := debited.jobs.insert (podRow request plan now) fresh } := by
    have jobs := (debitQuote_eq_some (planLaunch_quote_nonneg planned) taken).1
    intro attended jobId job found
    rw [lookup_insert] at found
    by_cases here : (podRow request plan now).id = jobId
    · rw [if_pos here] at found
      cases found
      exact attended_podRow (strandsNone plan (by rw [planned]; rfl))
    · rw [if_neg here, jobs] at found
      exact attended jobId job found
  have effect := launchPodCore_effect db request now outlook
  generalize (launchPodCore db request now outlook).1 = after at effect ⊢
  cases effect with
  | refused =>
    exact KeepsAttended.refl db
  | compensated planned taken =>
    have nonneg := planLaunch_quote_nonneg planned
    apply KeepsAttended.of_jobs
    rw [(refundQuote_effect _ request nonneg).1, (debitQuote_eq_some nonneg taken).1]
  | @landed plan debited fresh planned taken =>
    exact landed planned taken fresh
  | @unspawned plan debited fresh planned taken =>
    apply (landed planned taken fresh).trans
    rcases failBurstJobAndRefund_settling _ request.jobId plan.quoteHalala request.renterId now with
      same | ⟨row, _, settling⟩
    · rw [same]
      exact KeepsAttended.refl _
    · exact KeepsAttended.of_settling settling

theorem schedule_keepsAttended {action : SchedulerAction} (strandsNone : StrandsNone db action) :
    KeepsAttended db (schedule db action) := by
  cases action with
  | launch request now outlook =>
    exact launchPodCore_keepsAttended strandsNone
  | pickUp providerId jobId now =>
    exact KeepsAttended.of_pickUpJob db providerId jobId now
  | fetchAndAssign providerId now =>
    exact KeepsAttended.of_fetchAndAssignNextJob db providerId now
  | endpointReady providerId jobId port accessUrl now =>
    exact KeepsAttended.of_endpointReady strandsNone
  | serveReady providerId jobId now =>
    exact KeepsAttended.of_serveReady strandsNone
  | reportProgress providerId jobId pulling now =>
    exact KeepsAttended.of_reportProgress strandsNone.1 strandsNone.2
  | burstSuccess jobId accessUrl durationSeconds now =>
    exact KeepsAttended.of_burstJobSuccess db jobId accessUrl durationSeconds now
  | burstFail jobId now => exact KeepsAttended.of_burstJobFail db jobId now
  | stop jobId now =>
    simp only [schedule]
    split
    · rename_i job found
      have rowId := lookup_key found
      subst rowId
      exact KeepsAttended.of_settling (stopPodCore_settling now found)
    · exact KeepsAttended.refl db
  | settleExpiredPods now =>
    exact KeepsAttended.sweepClosed.settleExpiredPods db now
  | enforceJobTimeouts now =>
    exact KeepsAttended.sweepClosed.enforceJobTimeouts db now
  | promoteNextQueuedJob providerId now =>
    exact KeepsAttended.of_promoteNextQueuedJob db (some providerId) now
  | sweepOfflineProviders now | sweepStale now =>
    exact KeepsAttended.of_releaseJobs .queued 1 (Or.inr rfl) (by decide) strandsNone
  | livenessSweep staleThresholdSec now =>
    exact KeepsAttended.of_releaseJobs .pending 0 (Or.inl rfl) (by decide) strandsNone
  | detectDisconnected now | heartbeat providerId now => exact KeepsAttended.of_jobs rfl
  | migrateJob jobId now => exact KeepsAttended.of_migrateJob db jobId now
  | retrySweep now => exact KeepsAttended.of_retrySweep db now
  | retryTransient providerId jobId now =>
    exact KeepsAttended.of_retryTransient strandsNone
  | requeueFailed jobId now =>
    exact KeepsAttended.of_requeueFailed strandsNone
  | pause jobId => exact KeepsAttended.of_pauseJob strandsNone
  | resume jobId => exact KeepsAttended.of_resumeJob db jobId

/-- In every state a run leads to whose steps strand no pod, a pod whose money
is held is cleared in time, if the pods that wait fit into one run of the
settlement sweep. -/
theorem pods_clear_in_time {start db : Database} {actions : List SchedulerAction}
    (initially : AllAttended start)
    (run : Run (guarded (Fires nextSchedule) StrandsNone) start actions db)
    {row : Job} (found : db.jobs.lookup row.id = some row)
    (holds : HoldsMoney row) (live : row.status.isTerminal = false)
    (fits : IsWaiting row → FitsOneRun db) :
    ClearsInTime db row := by
  have attended : AllAttended db := by
    refine run.invariant AllAttended ?_ initially
    rintro source target action attended ⟨strandsNone, fires⟩
    cases fires
    exact schedule_keepsAttended strandsNone attended
  obtain ⟨interactive, submitted, ⟨waiting, unreported⟩ | ⟨active, timed⟩⟩ :=
    attended row.id row found holds live
  · exact clearsInTime_of_turnsStale found
      ⟨interactive, waiting, unreported, submitted⟩ holds.2.2.2.1
      (fits waiting)
  · obtain ⟨timeoutAt, timeout⟩ := Option.isSome_iff_exists.mp timed
    exact clearsInTime_of_timeout found interactive active timeout

theorem pods_clear_in_time_sample :
    ∃ finish, Run (guarded (Fires nextSchedule) StrandsNone) sampleMachines
      [sampleLaunch 5 (.pinned 1), .pickUp 1 5 1000, .endpointReady 1 5 8888 "https://pod" 2000,
        sampleLaunch 6 (.pinned 3)] finish ∧
        (∃ row ∈ finish.jobs.rows, IsActive row ∧ ClearsInTime finish row) ∧
        ∃ row ∈ finish.jobs.rows, IsWaiting row ∧ ClearsInTime finish row := by
  refine exists_guarded_run (fun finish =>
    (∃ row ∈ finish.jobs.rows, IsActive row ∧ HoldsMoney row) ∧
    (∃ row ∈ finish.jobs.rows, IsWaiting row ∧ HoldsMoney row) ∧
    FitsOneRun finish)
    (by decide +kernel) ?_
  rintro finish run ⟨⟨live, liveMember, active, liveHolds⟩, ⟨queued, queuedMember, waiting, queuedHolds⟩, fits⟩
  have initially : AllAttended sampleMachines := by
    intro jobId job found
    cases found
  exact ⟨⟨live, liveMember, active, pods_clear_in_time initially run
    (lookup_of_mem liveMember) liveHolds active.live (fun _ => fits)⟩,
    queued, queuedMember, waiting, pods_clear_in_time initially run
    (lookup_of_mem queuedMember) queuedHolds waiting.live (fun _ =>
    fits)⟩

/-- The provider of a live pod goes offline. The pod waits with its endpoint
set, and no round of the sweeps ever clears it. -/
theorem reported_pod_stranded :
    ∃ finish row, Run (Fires nextSchedule) sampleMachines
      [sampleLaunch 5 (.pinned 1), .pickUp 1 5 1000, .endpointReady 1 5 8888 "https://pod" 2000,
        .sweepOfflineProviders 400000] finish ∧
        finish.jobs.lookup row.id = some row ∧ HoldsMoney row ∧
        row.status = .queued ∧ row.costHalala = 3600 ∧
        ¬ ClearsInTime finish row := by
  obtain ⟨finish, executed, row, member, holds, queued, cost, reported, interactive⟩ :
      ∃ finish, execute nextSchedule sampleMachines [sampleLaunch 5 (.pinned 1), .pickUp 1 5 1000,
              .endpointReady 1 5 8888 "https://pod" 2000,
              .sweepOfflineProviders 400000] = some finish ∧
          ∃ row ∈ finish.jobs.rows, HoldsMoney row ∧ row.status = .queued ∧
            row.costHalala = 3600 ∧ ¬ Unreported row ∧
            row.jobType = .interactivePod :=
    exists_of_execute_any (by decide +kernel)
  have found := lookup_of_mem member
  exact ⟨finish, row, run_of_execute executed, found, holds, queued, cost,
    not_clearsInTime_of_reported found (Or.inr queued) interactive reported⟩

end DcpPlatform.Pods
