import DcpPlatform.Pods.Launch

/-!
# Moving jobs between providers and statuses

Daemons fetching their jobs, sweeps that take the jobs of an offline provider
back, retries, recovery migrations and pauses. A recovery cycle is
`detectDisconnected` followed by a `migrateJob` for every job it finds.
-/

namespace DcpPlatform.Pods

open Foundation

/-! ## Row updates -/

namespace Job

def setAssigned (now : Int) (job : Job) : Job :=
  { job with
    status := .assigned
    assignedAt := some now
    pickedUpAt := some now
    timeoutAt := some (now + (if job.maxDurationSeconds.getD 0 = 0 then 1800
      else job.maxDurationSeconds.getD 0) * 1000) }

variable (now : Int) (job : Job)

@[simp]
theorem setAssigned_id :
    (setAssigned now job).id = job.id :=
  rfl

def setServing (now : Int) (job : Job) : Job :=
  { job with
    status := .running
    startedAt := some (job.startedAt.getD now) }

@[simp]
theorem setServing_id :
    (setServing now job).id = job.id :=
  rfl

def setReleased (status : JobStatus) (retries : Nat) (job : Job) : Job :=
  { job with
    status := status
    providerId := none
    assignedAt := none
    pickedUpAt := none
    startedAt := none
    retryCount := job.retryCount + retries }

/-- The retry sweep also clears the end and the timeout. -/
def setRetried (job : Job) : Job :=
  { job.setReleased .queued 1 with
    completedAt := none
    timeoutAt := none }

def setTransient (now : Int) (job : Job) : Job :=
  { job with
    status := .pending
    retryCount := job.retryCount + 1
    pickedUpAt := none
    assignedAt := none
    timeoutAt := some (now + (if job.maxDurationSeconds.getD 0 = 0 then 1800
      else job.maxDurationSeconds.getD 0) * 1000) }

@[simp]
theorem setTransient_id :
    (setTransient now job).id = job.id :=
  rfl

def setRequeued (now : Int) (job : Job) : Job :=
  { job with
    status := .pending
    completedAt := none
    startedAt := none
    pickedUpAt := none
    assignedAt := none
    timeoutAt := some (now + max 60 (job.maxDurationSeconds.getD 0) * 1000) }

@[simp]
theorem setRequeued_id :
    (setRequeued now job).id = job.id :=
  rfl

def setProvider (providerId : Nat) (job : Job) : Job :=
  { job with providerId := some providerId }

@[simp]
theorem setProvider_id (providerId : Nat) (job : Job) :
    (setProvider providerId job).id = job.id :=
  rfl

def setStatus (status : JobStatus) (job : Job) : Job :=
  { job with status := status }

@[simp]
theorem setStatus_id (status : JobStatus) (job : Job) :
    (setStatus status job).id = job.id :=
  rfl

end Job

def Provider.setStatus (status : ProviderStatus) (provider : Provider) :
    Provider :=
  { provider with status := status }

@[simp]
theorem Provider.setStatus_id (status : ProviderStatus) (provider : Provider) :
    (provider.setStatus status).id = provider.id :=
  rfl

def Provider.setHeartbeat (now : Int) (provider : Provider) : Provider :=
  { provider with status := .online, lastHeartbeat := some now }

@[simp]
theorem Provider.setHeartbeat_id (now : Int) (provider : Provider) :
    (provider.setHeartbeat now).id = provider.id :=
  rfl

def fetchedBefore (job other : Job) : Bool :=
  if (job.status = .pending) = (other.status = .pending) then
    promotedBefore job other
  else
    decide (job.status = .pending)

def fetchAndAssignNextJob (db : Database) (providerId : Nat) (now : Int) : Database :=
  let waiting := db.jobs.select (fun job =>
      job.providerId = some providerId ∧ IsWaiting job ∧ job.pickedUpAt = none)
  match firstBy fetchedBefore waiting with
  | none => db
  | some job =>
    { db with
      jobs := db.jobs.update job.id (Job.setAssigned now) (Job.setAssigned_id now) }

def IsServeOf (providerId : Nat) (job : Job) : Prop :=
  job.providerId = some providerId ∧ job.jobType = .vllmServe
deriving Decidable

def serveReady (db : Database) (providerId jobId : Nat) (now : Int) :
    Database :=
  { db with
    jobs := db.jobs.updateWhere jobId (IsServeOf providerId)
      (Job.setServing now) (Job.setServing_id now) }

def releaseJobs (db : Database) (stale : Provider → Prop)
    [DecidablePred stale] (statuses : List JobStatus)
    (released : JobStatus) (retries : Nat) : Database :=
  { db with
    providers := db.providers.updateAll (fun provider =>
      if stale provider then provider.setStatus .offline else provider)
      (by intro provider; split <;> rfl)
    jobs := db.jobs.updateAll (fun job =>
      if job.status ∈ statuses ∧ (∃ provider ∈ db.providers.rows,
        stale provider ∧ job.providerId = some provider.id) then
        job.setReleased released retries
      else
        job)
      (by intro job; split <;> rfl) }

def providerOfflineThresholdSecs : Int := 5 * 60

/-- A provider that never sent a heartbeat is stale as well. -/
def sweepOfflineProviders (db : Database) (now : Int) : Database :=
  releaseJobs db (fun provider =>
    provider.status ≠ .offline ∧ provider.isBurst = false ∧ ∀ heartbeat ∈ provider.lastHeartbeat,
      providerOfflineThresholdSecs < (now - heartbeat) / 1000)
    [.running, .pending, .assigned, .pulling] .queued 1

def livenessSweep (db : Database) (staleThresholdSec now : Int) :
    Database :=
  releaseJobs db (fun provider =>
    (provider.status = .online ∨ provider.status = .degraded) ∧ provider.isBurst = false ∧
      ∀ heartbeat ∈ provider.lastHeartbeat, heartbeat < now - staleThresholdSec * 1000)
    [.running, .assigned, .pulling] .pending 0

/-- `POST /admin/providers/sweep-stale`, which also sweeps burst rows. -/
def sweepStale (db : Database) (now : Int) : Database :=
  releaseJobs db (fun provider =>
    ∀ heartbeat ∈ provider.lastHeartbeat, datetime heartbeat ≤ datetime now - 15 * 60)
    [.running, .pending, .assigned, .pulling] .queued 1

def detectDisconnected (db : Database) (now : Int) : Database :=
  { db with
    providers := db.providers.updateAll (fun provider =>
      if provider.status = .online ∧ provider.isBurst = false ∧
        (∃ heartbeat ∈ provider.lastHeartbeat, heartbeat < now - 90 * 1000) then
        provider.setStatus .disconnected
      else
        provider)
      (by intro provider; split <;> rfl) }

/-- The smallest machine that is online, fresh and large enough. -/
def findBackupProvider (db : Database) (requiredVram excluded : Nat)
    (now : Int) : Option Provider :=
  firstBy (fun provider other => decide (provider.vramMib < other.vramMib))
    (db.providers.select (fun provider =>
      provider.status = .online ∧ provider.isBurst = false ∧
        (∃ heartbeat ∈ provider.lastHeartbeat, now - 90 * 1000 ≤ heartbeat) ∧
        provider.id ≠ excluded ∧ requiredVram ≤ provider.vramMib))

def Recoverable (db : Database) (job : Job) : Prop :=
  (job.status = .pending ∨ job.status = .running) ∧ ∃ provider ∈ db.providers.rows,
    job.providerId = some provider.id ∧ provider.status = .disconnected
deriving Decidable

def migrateJob (db : Database) (jobId : Nat) (now : Int) : Database :=
  match db.jobs.lookup jobId with
  | none => db
  | some job =>
    if Recoverable db job then
      match findBackupProvider db job.requiredVramMib (job.providerId.getD 0) now with
      | none => db
      | some backup =>
        { db with
          jobs := db.jobs.update jobId (Job.setProvider backup.id) (Job.setProvider_id backup.id) }
    else
      db

def RetryCandidate (now : Int) (job : Job) : Prop :=
  job.jobType ≠ .interactivePod ∧ ((job.status = .running ∧ 0 < job.durationMinutes ∧
    ∃ startedAt ∈ job.startedAt, datetime startedAt + job.durationMinutes * 60 ≤ datetime now) ∨
      (job.status = .queued ∧
        ∃ submittedAt ∈ job.submittedAt, datetime submittedAt ≤ datetime now - 30 * 60))
deriving Decidable

def allowedRetries (job : Job) : Nat :=
  if job.maxRetries = 0 then 2 else job.maxRetries

def updateJobForRetry (now : Int) (job : Job) : Job :=
  if job.retryCount < allowedRetries job then
    job.setRetried
  else
    job.setTimedOut now

/-- The candidates are read first; a retry touches only its own row. -/
def retrySweep (db : Database) (now : Int) : Database :=
  { db with
    jobs := db.jobs.updateAll (fun job =>
      if RetryCandidate now job then updateJobForRetry now job else job)
      (by
        intro job
        unfold updateJobForRetry
        split
        · split <;> rfl
        · rfl) }

/-- A report of a transient failure through `POST /:job_id/result`. -/
def TransientFailure (providerId : Nat) (job : Job) : Prop :=
  job.providerId = some providerId ∧
    (job.status = .running ∨ job.status = .assigned ∨ job.status = .pulling) ∧
    job.retryCount + 1 ≤ allowedRetries job
deriving Decidable

def retryTransient (db : Database) (providerId jobId : Nat) (now : Int) : Database :=
  { db with
    jobs := db.jobs.updateWhere jobId (TransientFailure providerId)
      (Job.setTransient now) (Job.setTransient_id now) }

def HasFailed (job : Job) : Prop :=
  job.status = .failed
deriving Decidable

def requeueFailed (db : Database) (jobId : Nat) (now : Int) : Database :=
  { db with
    jobs := db.jobs.updateWhere jobId HasFailed (Job.setRequeued now) (Job.setRequeued_id now) }

def Pausable (job : Job) : Prop :=
  (job.status = .assigned ∨ job.status = .pulling ∨
    job.status = .running) ∧ job.checkpointEnabled = true
deriving Decidable

def pauseJob (db : Database) (jobId : Nat) : Database :=
  { db with
    jobs := db.jobs.updateWhere jobId Pausable (Job.setStatus .paused) (Job.setStatus_id .paused) }

def IsPaused (job : Job) : Prop :=
  job.status = .paused
deriving Decidable

def resumeJob (db : Database) (jobId : Nat) : Database :=
  { db with
    jobs := db.jobs.updateWhere jobId IsPaused (Job.setStatus .running)
      (Job.setStatus_id .running) }

def heartbeat (db : Database) (providerId : Nat) (now : Int) : Database :=
  { db with
    providers := db.providers.update providerId (Provider.setHeartbeat now)
      (Provider.setHeartbeat_id now) }

inductive SchedulerAction where
  | launch (request : LaunchRequest) (now : Int) (outlook : LaunchOutlook)
  | pickUp (providerId jobId : Nat) (now : Int)
  | fetchAndAssign (providerId : Nat) (now : Int)
  | endpointReady (providerId jobId jupyterHostPort : Nat) (accessUrl : String) (now : Int)
  | serveReady (providerId jobId : Nat) (now : Int)
  | reportProgress (providerId jobId : Nat) (pulling : Bool) (now : Int)
  | burstSuccess (jobId : Nat) (accessUrl : String) (durationSeconds : Nat) (now : Int)
  | burstFail (jobId : Nat) (now : Int)
  | stop (jobId : Nat) (now : Int)
  | settleExpiredPods (now : Int)
  | enforceJobTimeouts (now : Int)
  | promoteNextQueuedJob (providerId : Nat) (now : Int)
  | sweepOfflineProviders (now : Int)
  | livenessSweep (staleThresholdSec now : Int)
  | sweepStale (now : Int)
  | detectDisconnected (now : Int)
  | migrateJob (jobId : Nat) (now : Int)
  | retrySweep (now : Int)
  | retryTransient (providerId jobId : Nat) (now : Int)
  | requeueFailed (jobId : Nat) (now : Int)
  | pause (jobId : Nat)
  | resume (jobId : Nat)
  | heartbeat (providerId : Nat) (now : Int)

def schedule (db : Database) : SchedulerAction → Database
  | .launch request now outlook =>
    (launchPodCore db request now outlook).1
  | .pickUp providerId jobId now => pickUpJob db providerId jobId now
  | .fetchAndAssign providerId now =>
    fetchAndAssignNextJob db providerId now
  | .endpointReady providerId jobId jupyterHostPort accessUrl now =>
    endpointReady db providerId jobId jupyterHostPort accessUrl now
  | .serveReady providerId jobId now => serveReady db providerId jobId now
  | .reportProgress providerId jobId pulling now =>
    reportProgress db providerId jobId pulling now
  | .burstSuccess jobId accessUrl durationSeconds now =>
    burstJobSuccess db jobId accessUrl durationSeconds now
  | .burstFail jobId now => burstJobFail db jobId now
  | .stop jobId now =>
    match db.jobs.lookup jobId with
    | some job => (stopPodCore db job now).1
    | none => db
  | .settleExpiredPods now => settleExpiredPods db now
  | .enforceJobTimeouts now => enforceJobTimeouts db now
  | .promoteNextQueuedJob providerId now =>
    promoteNextQueuedJob db (some providerId) now
  | .sweepOfflineProviders now => sweepOfflineProviders db now
  | .livenessSweep staleThresholdSec now =>
    livenessSweep db staleThresholdSec now
  | .sweepStale now => sweepStale db now
  | .detectDisconnected now => detectDisconnected db now
  | .migrateJob jobId now => migrateJob db jobId now
  | .retrySweep now => retrySweep db now
  | .retryTransient providerId jobId now =>
    retryTransient db providerId jobId now
  | .requeueFailed jobId now => requeueFailed db jobId now
  | .pause jobId => pauseJob db jobId
  | .resume jobId => resumeJob db jobId
  | .heartbeat providerId now => heartbeat db providerId now

end DcpPlatform.Pods
