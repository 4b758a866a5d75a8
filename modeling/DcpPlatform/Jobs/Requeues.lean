import DcpPlatform.Jobs.Lifecycle

/-!
# Starting a job again

The poll of a daemon takes a waiting job, a sweep retries the jobs whose time
is up, and an administrator cancels a job by force or requeues one that has
failed. None of these takes money from the renter again.
-/

namespace DcpPlatform.Jobs

open Foundation

namespace Job

def setPickedUp (providerId : Nat) (now : Int) (job : Job) : Job :=
  { job with
    providerId := some providerId
    assignedAt := some (job.assignedAt.getD now)
    pickedUpAt := some now
    status := .running
    startedAt := some (job.startedAt.getD now)
    timeoutAt := some ((now / 1000 + (if job.maxDurationSeconds = 0 then 600
      else job.maxDurationSeconds)) * 1000) }

@[simp]
theorem setPickedUp_jobId (providerId : Nat) (now : Int) (job : Job) :
    (setPickedUp providerId now job).jobId = job.jobId :=
  rfl

def setRetried (retryCount : Nat) (job : Job) : Job :=
  { job with
    status := .queued
    retryCount := retryCount
    providerId := none
    completedAt := none
    startedAt := none
    assignedAt := none
    pickedUpAt := none
    timeoutAt := none }

@[simp]
theorem setRetried_jobId (retryCount : Nat) (job : Job) :
    (setRetried retryCount job).jobId = job.jobId :=
  rfl

/-- `timeout_at` is at least a minute away. -/
def setRequeued (now : Int) (job : Job) : Job :=
  { job with
    status := .pending
    completedAt := none
    startedAt := none
    pickedUpAt := none
    assignedAt := none
    progressPhase := none
    progressUpdatedAt := none
    timeoutAt := some (now + max 60 job.maxDurationSeconds * 1000) }

@[simp]
theorem setRequeued_jobId (now : Int) (job : Job) :
    (setRequeued now job).jobId = job.jobId :=
  rfl

end Job

/-- The condition of the update in `buildNextPendingJob`. -/
def Awaits (providerId : Nat) (job : Job) : Prop :=
  IsWaiting job ∧ job.pickedUpAt = none ∧ (job.providerId = some providerId ∨ job.providerId = none)
deriving Decidable

/-- `buildNextPendingJob` takes the job that it has chosen. -/
def pickUpJob (db : Database) (providerId jobId : Nat) (now : Int) :
    Database :=
  { db with
    jobs := db.jobs.updateWhere jobId (Awaits providerId) (Job.setPickedUp providerId now)
      (Job.setPickedUp_jobId providerId now) }

def RetryCandidate (now : Int) (job : Job) : Prop :=
  job.jobType ≠ .interactivePod ∧ ((job.status = .running ∧ 0 < job.durationMinutes ∧
    ∃ startedAt ∈ job.startedAt, datetime startedAt + job.durationMinutes * 60 ≤ datetime now) ∨
      (job.status = .queued ∧
        ∃ submittedAt ∈ job.submittedAt, datetime submittedAt ≤ datetime now - 30 * 60))
deriving Decidable

def IsRetryable (job : Job) : Prop :=
  job.status ∉ [.failed, .cancelled, .completed]
deriving Decidable

def allowedRetries (job : Job) : Nat :=
  if job.maxRetries = 0 then 2 else job.maxRetries

/-- Back to the queue without a provider, or failed for good. The failure
returns nothing. -/
def updateJobForRetry (now : Int) (db : Database) (job : Job) : Database :=
  if job.retryCount < allowedRetries job then
    { db with
      jobs := db.jobs.updateWhere job.jobId IsRetryable (Job.setRetried (job.retryCount + 1))
        (Job.setRetried_jobId (job.retryCount + 1)) }
  else
    { db with
      jobs := db.jobs.updateWhere job.jobId IsRetryable
        (Job.setEnded .failed now) (Job.setEnded_jobId .failed now) }

def retrySweep (db : Database) (now : Int) : Database :=
  (db.jobs.select (RetryCandidate now)).foldl (updateJobForRetry now) db

inductive AdminError where
  | jobNotFound
  | alreadySettled (status : JobStatus)
  | notFailed

/-- `POST /api/admin/jobs/:id/cancel` returns the cost without a mark. -/
def forceCancel (db : Database) (jobId : Nat) (now : Int) :
    Except AdminError Database :=
  match db.jobs.lookup jobId with
  | none => .error .jobNotFound
  | some job =>
    if job.status = .completed ∨ job.status = .cancelled then
      .error (.alreadySettled job.status)
    else
      let cancelled := { db with
          jobs := db.jobs.update job.jobId (Job.setEnded .cancelled now)
            (Job.setEnded_jobId .cancelled now) }
      if 0 < job.costHalala ∧ job.renterId.isSome then
        .ok (cancelled.book (refundBooking job))
      else
        .ok cancelled

/-- `POST /api/admin/jobs/:id/requeue` does not look at `refunded_at`. -/
def requeue (db : Database) (jobId : Nat) (now : Int) :
    Except AdminError Database :=
  match db.jobs.lookup jobId with
  | none => .error .jobNotFound
  | some job =>
    if job.status ≠ .failed then
      .error .notFailed
    else
      .ok { db with
        jobs := db.jobs.update job.jobId (Job.setRequeued now) (Job.setRequeued_jobId now) }

inductive RequeueAction where
  | lifecycle (action : LifecycleAction)
  | pickUpJob (providerId jobId : Nat) (now : Int)
  | retrySweep (now : Int)
  | forceCancel (jobId : Nat) (now : Int)
  | requeue (jobId : Nat) (now : Int)

def requeueNext (db : Database) : RequeueAction → Option Database
  | .lifecycle action => lifecycleNext db action
  | .pickUpJob providerId jobId now =>
    some (pickUpJob db providerId jobId now)
  | .retrySweep now => some (retrySweep db now)
  | .forceCancel jobId now => some (db.answer (forceCancel db jobId now))
  | .requeue jobId now => some (db.answer (requeue db jobId now))

end DcpPlatform.Jobs
