import DcpPlatform.Foundation.Query
import DcpPlatform.Jobs.Effects

/-!
# The life of a job

The endpoints that report a failure, cancel a job, report its progress or a
ready endpoint, and the sweeps `enforceJobTimeouts` and `settleExpiredPods`.
Every handler and every sweep runs without a break.
-/

namespace DcpPlatform.Jobs

open Foundation

/-! ## Row updates -/

namespace Job

def setFailed (now actualMinutes : Int) (job : Job) : Job :=
  { job with
    status := .failed
    completedAt := some now
    actualDurationMinutes := some actualMinutes }

@[simp]
theorem setFailed_jobId (now actualMinutes : Int) (job : Job) :
    (setFailed now actualMinutes job).jobId = job.jobId :=
  rfl

def setEnded (status : JobStatus) (now : Int) (job : Job) : Job :=
  { job with status := status, completedAt := some now }

@[simp]
theorem setEnded_jobId (status : JobStatus) (now : Int) (job : Job) :
    (setEnded status now job).jobId = job.jobId :=
  rfl

def setPhase (phase : Phase) (now : Int) (job : Job) : Job :=
  { job with progressPhase := some phase, progressUpdatedAt := some now }

@[simp]
theorem setPhase_jobId (phase : Phase) (now : Int) (job : Job) :
    (setPhase phase now job).jobId = job.jobId :=
  rfl

def setProgress (phase : Phase) (status : JobStatus) (now : Int) (job : Job) : Job :=
  { job with
    progressPhase := some phase
    progressUpdatedAt := some now
    status := status
    startedAt := some (job.startedAt.getD now) }

@[simp]
theorem setProgress_jobId (phase : Phase) (status : JobStatus) (now : Int) (job : Job) :
    (setProgress phase status now job).jobId = job.jobId :=
  rfl

def setPodLive (jupyterHostPort : Int) (accessUrl : String) (now : Int) (job : Job) : Job :=
  { job with
    jupyterHostPort := some jupyterHostPort
    accessUrl := some accessUrl
    status := .running
    progressPhase := some .serving
    progressUpdatedAt := some now
    startedAt :=
      if job.accessUrl = none then some now else job.startedAt
    timeoutAt :=
      if job.accessUrl = none then
        some ((now / 1000 + (if job.maxDurationSeconds = 0 then 600
          else job.maxDurationSeconds)) * 1000)
      else
        job.timeoutAt }

@[simp]
theorem setPodLive_jobId (jupyterHostPort : Int) (accessUrl : String) (now : Int) (job : Job) :
    (setPodLive jupyterHostPort accessUrl now job).jobId = job.jobId :=
  rfl

def setServing (endpointUrl : String) (now : Int) (job : Job) : Job :=
  { job with
    endpointUrl := some endpointUrl
    status := .running
    progressPhase := some .serving
    progressUpdatedAt := some now
    startedAt := some (job.startedAt.getD now) }

@[simp]
theorem setServing_jobId (endpointUrl : String) (now : Int) (job : Job) :
    (setServing endpointUrl now job).jobId = job.jobId :=
  rfl

def setPodCompleted (now : Int) (durationSeconds : Option Int)
    (actualCostHalala : Int) (split : Split) (job : Job) : Job :=
  { job with
    status := .completed
    completedAt := some now
    durationSeconds := durationSeconds
    actualCostHalala := some actualCostHalala
    providerEarnedHalala := some split.provider
    dc1FeeHalala := some split.fee }

@[simp]
theorem setPodCompleted_jobId (now : Int) (durationSeconds : Option Int)
    (actualCostHalala : Int) (split : Split) (job : Job) :
    (setPodCompleted now durationSeconds actualCostHalala split job).jobId = job.jobId :=
  rfl

def setStale (now : Int) (job : Job) : Job :=
  { job with
    status := .cancelled
    completedAt := some now
    refundedAt := some now }

@[simp]
theorem setStale_jobId (now : Int) (job : Job) :
    (setStale now job).jobId = job.jobId :=
  rfl

def setPromoted (now : Int) (job : Job) : Job :=
  { job with
    status := .pending
    timeoutAt := some (now + (if job.maxDurationSeconds = 0 then 1800
      else job.maxDurationSeconds) * 1000) }

@[simp]
theorem setPromoted_jobId (now : Int) (job : Job) :
    (setPromoted now job).jobId = job.jobId :=
  rfl

end Job

def pricingClassRank (job : Job) : Nat :=
  match job.pricingClass.getD "standard" with
  | "priority" => 0
  | "economy" => 2
  | _ => 1

def priorityOf (job : Job) : Int :=
  job.priority.getD 2

def createdBefore : Option Int → Option Int → Bool
  | none, some _ => true
  | some first, some second => decide (first < second)
  | _, none => false

def promotedBefore (job other : Job) : Bool :=
  if pricingClassRank job = pricingClassRank other then
    if priorityOf job = priorityOf other then
      createdBefore job.createdAt other.createdAt
    else
      decide (priorityOf other < priorityOf job)
  else
    decide (pricingClassRank job < pricingClassRank other)

def promoteNextQueuedJob (db : Database) (providerId : Option Nat) (now : Int) : Database :=
  let queued := db.jobs.select (fun job =>
      providerId.isSome ∧ job.providerId = providerId ∧ job.status = .queued)
  match firstBy promotedBefore queued with
  | none => db
  | some job =>
    { db with
      jobs := db.jobs.update job.jobId (Job.setPromoted now) (Job.setPromoted_jobId now) }

structure FailReport where
  jobId : Nat
  reporter : Reporter
  durationSeconds : Field

def failedMinutes (job : Job) (report : FailReport) : Int :=
  match report.durationSeconds.toFiniteNumber 0 (some 86400) with
  | some seconds => ⌈seconds / 60⌉
  | none => if job.durationMinutes = 0 then 1 else job.durationMinutes

def failJob (db : Database) (job : Job) (report : FailReport) (now : Int) : Database :=
  let failed := { db with
      jobs := db.jobs.update job.jobId (Job.setFailed now (failedMinutes job report))
        (Job.setFailed_jobId now (failedMinutes job report)) }
  promoteNextQueuedJob (refundFailed now failed job) job.providerId now

def postFail (db : Database) (report : FailReport) (now : Int) :
    Except ReportError Database :=
  match db.jobs.lookup report.jobId with
  | none => .error .jobNotFound
  | some job =>
    if ¬ CanReport job report.reporter then
      .error .forbidden
    else if job.status ∉ [.running, .assigned, .pulling, .pending] then
      .error (.alreadySettled job.status)
    else if report.durationSeconds ≠ .missing ∧
      report.durationSeconds.toFiniteNumber 0 (some 86400) = none then
      .error (.invalidDuration 86400)
    else
      .ok (failJob db job report now)

def refundEnded (now : Int) (db : Database) (job : Job) : Database :=
  if job.renterId.isSome ∧ 0 < job.costHalala then
    let refunded := db.book (refundBooking job)
    { refunded with
      jobs := refunded.jobs.update job.jobId (Job.setRefundedAt now) (Job.setRefundedAt_jobId now) }
  else
    db

def endAndRefund (status : JobStatus) (now : Int) (db : Database) (job : Job) : Database :=
  refundEnded now { db with
    jobs := db.jobs.update job.jobId (Job.setEnded status now) (Job.setEnded_jobId status now) } job

def cancelJob (db : Database) (job : Job) (now : Int) : Database :=
  promoteNextQueuedJob (endAndRefund .cancelled now db job) job.providerId now

/-- A job that has failed or been stopped is not refused. -/
def postCancel (db : Database) (jobId : Nat) (reporter : Reporter)
    (now : Int) : Except ReportError Database :=
  match db.jobs.lookup jobId with
  | none => .error .jobNotFound
  | some job =>
    if ¬ CanComplete job reporter then
      .error .forbidden
    else if job.status = .completed ∨ job.status = .cancelled then
      .error (.alreadySettled job.status)
    else
      .ok (cancelJob db job now)

inductive EndpointError where
  | missingFields
  | invalidApiKey
  | jobNotFound
  | invalidPhase
  | missingPorts
  | invalidMeshIp
  | relayFailed
  | notServeJob
  | unresolvedIp
  | invalidPort

def validPhase : String → Option Phase
  | "pulling" => some .pulling
  | "downloading_model" => some .downloadingModel
  | "installing_deps" => some .installingDeps
  | "loading_model" => some .loadingModel
  | "generating" => some .generating
  | "formatting" => some .formatting
  | _ => none

def providedJob (db : Database) (providerId jobId : Nat) : Option Job :=
  (db.jobs.lookup jobId).filter (fun job =>
    job.providerId = some providerId)

/-- The status a phase leads to, if it changes the status: an image pull makes
every job `pulling`, the other phases run one that was assigned or pulling. -/
def progressStatus (phase : Phase) (status : JobStatus) :
    Option JobStatus :=
  if phase = .pulling then some .pulling
  else if status = .assigned ∨ status = .pulling then some .running
  else none

def reportProgress (db : Database) (job : Job) (phase : Phase) (now : Int) : Database :=
  match progressStatus phase job.status with
  | some status =>
    { db with
      jobs := db.jobs.update job.jobId (Job.setProgress phase status now)
        (Job.setProgress_jobId phase status now) }
  | none =>
    { db with
      jobs := db.jobs.update job.jobId (Job.setPhase phase now) (Job.setPhase_jobId phase now) }

def postProgress (db : Database) (providerId jobId : Nat)
    (phase : String) (now : Int) : Except EndpointError Database :=
  if trim phase = "" then
    .error .missingFields
  else if (db.providers.lookup providerId).isNone then
    .error .invalidApiKey
  else
    match providedJob db providerId jobId with
    | none => .error .jobNotFound
    | some job =>
      match validPhase (trim phase) with
      | none => .error .invalidPhase
      | some phase => .ok (reportProgress db job phase now)

structure EndpointReport where
  providerId : Nat
  jobId : Nat
  jupyterHostPort : Field
  sshHostPort : Field
  meshIp : String
  port : Field
  /-- The request or the provider's row names an address. -/
  addressKnown : Bool
  /-- The public address, unless the relay fails. -/
  url : Option String

/-- `/^10\.[89]\.\d+\.\d+$/`. -/
def isMeshIp (text : String) : Bool :=
  match text.toList with
  | '1' :: '0' :: '.' :: net :: '.' :: rest =>
    let third := rest.takeWhile Char.isDigit
    match rest.dropWhile Char.isDigit with
    | '.' :: fourth =>
      (net = '8' || net = '9') && !third.isEmpty && !fourth.isEmpty && fourth.all Char.isDigit
    | _ => false
  | _ => false

/-- A pod becomes `running`, whatever its status. -/
def podReady (db : Database) (job : Job) (report : EndpointReport)
    (now : Int) : Except EndpointError Database :=
  match report.jupyterHostPort.toFiniteInt 1 (some 65535),
      report.sshHostPort.toFiniteInt 1 (some 65535) with
  | some jupyterHostPort, some _ =>
    if isMeshIp report.meshIp = false then
      .error .invalidMeshIp
    else
      match report.url with
      | none => .error .relayFailed
      | some accessUrl =>
        .ok { db with
          jobs := db.jobs.update job.jobId (Job.setPodLive jupyterHostPort accessUrl now)
            (Job.setPodLive_jobId jupyterHostPort accessUrl now) }
  | _, _ => .error .missingPorts

/-- A served model becomes `running`, whatever its status. -/
def serveReady (db : Database) (job : Job) (report : EndpointReport)
    (now : Int) : Except EndpointError Database :=
  if report.addressKnown = false then
    .error .unresolvedIp
  else
    match report.port.toFiniteInt 1024 (some 65535) with
    | none => .error .invalidPort
    | some _ =>
      match report.url with
      | none => .error .relayFailed
      | some endpointUrl =>
        .ok { db with
          jobs := db.jobs.update job.jobId (Job.setServing endpointUrl now)
            (Job.setServing_jobId endpointUrl now) }

def Field.isTruthy : Field → Bool
  | .missing => false
  | .unreadable => true
  | .number value => value ≠ 0

def reportedJob (db : Database) (report : EndpointReport) : Option Job :=
  (db.providers.lookup report.providerId).bind (fun _ =>
    providedJob db report.providerId report.jobId)

def postEndpointReady (db : Database) (report : EndpointReport)
    (now : Int) : Except EndpointError Database :=
  match (reportedJob db report).filter (fun job =>
    job.jobType = .interactivePod) with
  | some job => podReady db job report now
  | none =>
    if report.port.isTruthy = false then
      .error .missingFields
    else if (db.providers.lookup report.providerId).isNone then
      .error .invalidApiKey
    else
      match reportedJob db report with
      | none => .error .jobNotFound
      | some job =>
        if job.jobType ≠ .vllmServe then
          .error .notServeJob
        else
          serveReady db job report now

def datetime (instant : Int) : Int :=
  instant / 1000

def HasTimedOut (now : Int) (job : Job) : Prop :=
  (job.status = .running ∨ job.status = .assigned ∨ job.status = .pulling) ∧
    ∃ timeoutAt ∈ job.timeoutAt, datetime timeoutAt < datetime now
deriving Decidable

def IsRunning (job : Job) : Prop :=
  job.status = .running
deriving Decidable

def prepaidHalala (job : Job) : Int :=
  max 0 job.costHalala

def podRate (provider : Option Provider) : ℚ :=
  match provider with
  | none => JobType.interactivePod.ratePerMinute / 60
  | some provider =>
    let rate := provider.costPerGpuSecondHalala.getD 0
    if 0 ≤ rate then rate
    else JobType.interactivePod.ratePerMinute / 60

def podGpuCount (provider : Option Provider) : Int :=
  match provider.bind Provider.gpuCount with
  | none => 1
  | some count => if 1 ≤ count then min count 64 else 1

def podElapsedSeconds (job : Job) (now : Int) : ℚ :=
  max 0 (((now - (startOf job).getD now : Int) : ℚ) / 1000)

def podPrice (db : Database) (job : Job) (now : Int) : Int :=
  let provider := job.providerId.bind db.providers.lookup
  min (prepaidHalala job)
    (max 0 ⌈podElapsedSeconds job now * podRate provider * podGpuCount provider⌉)

def podReturned (job : Job) (actualCostHalala : Int) : Int :=
  if job.renterId.isSome then prepaidHalala job - actualCostHalala else 0

def payPod (db : Database) (job : Job) (actualCostHalala returned : Int) :
    Database :=
  let split := splitEarnings actualCostHalala
  let booked := db.book (earnedBooking job split returned)
  let credited :=
    if 0 < split.provider then
      (booked.updateProvider job.providerId Provider.addJob
        Provider.addJob_id).updateProvider job.providerId
          Provider.clearCurrentJob Provider.clearCurrentJob_id
    else
      booked
  credited.updateRenter job.renterId (Renter.addSpending actualCostHalala)
    (Renter.addSpending_id actualCostHalala)

def completeTimedOutPod (now : Int) (db : Database) (job : Job) :
    Database :=
  let actualCostHalala := podPrice db job now
  if db.jobs.changes job.jobId IsRunning then
    payPod { db with
      jobs := db.jobs.updateWhere job.jobId IsRunning (Job.setPodCompleted now
        (some (mathRound (podElapsedSeconds job now)))
        actualCostHalala (splitEarnings actualCostHalala))
        (Job.setPodCompleted_jobId now _ actualCostHalala _) }
      job actualCostHalala (podReturned job actualCostHalala)
  else
    db

def enforceJobTimeout (now : Int) (db : Database) (job : Job) :
    Database :=
  promoteNextQueuedJob (if job.jobType = .interactivePod ∧ job.status = .running then
      completeTimedOutPod now db job
    else
      endAndRefund .failed now db job) job.providerId now

def enforceJobTimeouts (db : Database) (now : Int) : Database :=
  (db.jobs.select (HasTimedOut now)).foldl (enforceJobTimeout now) db

def podDeadlineGraceSeconds : Nat := 300

def podQueuedStaleMinutes : Nat := 25

def IsExpired (now : Int) (job : Job) : Prop :=
  job.jobType = .interactivePod ∧ job.status = .running ∧ 0 < job.maxDurationSeconds ∧
    ∃ startedAt ∈ job.startedAt,
      datetime startedAt + job.maxDurationSeconds + podDeadlineGraceSeconds ≤ datetime now
deriving Decidable

def settleExpiredPod (now : Int) (db : Database) (job : Job) : Database :=
  let prepaid := prepaidHalala job
  if db.jobs.changes job.jobId IsRunning then
    payPod { db with
      jobs := db.jobs.updateWhere job.jobId IsRunning
        (Job.setPodCompleted now (some job.maxDurationSeconds) prepaid (splitEarnings prepaid))
        (Job.setPodCompleted_jobId now _ prepaid _) }
      job prepaid 0
  else
    db

def IsWaiting (job : Job) : Prop :=
  job.status = .pending ∨ job.status = .queued
deriving Decidable

def IsStale (now : Int) (job : Job) : Prop :=
  job.jobType = .interactivePod ∧ IsWaiting job ∧
    job.jupyterHostPort = none ∧ job.accessUrl = none ∧
    ∃ submittedAt ∈ job.submittedAt.or job.createdAt,
      datetime submittedAt ≤ datetime now - podQueuedStaleMinutes * 60
deriving Decidable

def cancelStalePod (now : Int) (db : Database) (job : Job) : Database :=
  if db.jobs.changes job.jobId IsWaiting then
    let cancelled := { db with
        jobs := db.jobs.updateWhere job.jobId IsWaiting (Job.setStale now)
          (Job.setStale_jobId now) }
    if Refundable job then cancelled.book (refundBooking job)
    else cancelled
  else
    db

def settleExpiredPods (db : Database) (now : Int) : Database :=
  let expired := (db.jobs.select (IsExpired now)).take 20
  let settled := expired.foldl (settleExpiredPod now) db
  let stale := (settled.jobs.select (IsStale now)).take 20
  stale.foldl (cancelStalePod now) settled

inductive LifecycleAction where
  | result (report : ResultReport) (now : Int)
  | complete (jobId : Nat) (reporter : Reporter) (now : Int)
  | jobResult (report : JobResultReport) (now : Int)
  | fail (report : FailReport) (now : Int)
  | cancel (jobId : Nat) (reporter : Reporter) (now : Int)
  | progress (providerId jobId : Nat) (phase : String) (now : Int)
  | endpointReady (report : EndpointReport) (now : Int)
  | enforceJobTimeouts (now : Int)
  | settleExpiredPods (now : Int)
  | promote (providerId : Option Nat) (now : Int)

/-- A refused request leaves the database as it is. -/
def Database.answer {Failure : Type} (db : Database)
    (outcome : Except Failure Database) : Database :=
  match outcome with
  | .ok after => after
  | .error _ => db

/-- The promotion that follows a result is an action of its own. -/
def lifecycleNext (db : Database) : LifecycleAction → Option Database
  | .result report now => some (db.answer (postResult db report now))
  | .complete jobId reporter now =>
    some (db.answer (postComplete db jobId reporter now))
  | .jobResult report now =>
    some (db.answer (postJobResult db report now))
  | .fail report now => some (db.answer (postFail db report now))
  | .cancel jobId reporter now =>
    some (db.answer (postCancel db jobId reporter now))
  | .progress providerId jobId phase now =>
    some (db.answer (postProgress db providerId jobId phase now))
  | .endpointReady report now =>
    some (db.answer (postEndpointReady db report now))
  | .enforceJobTimeouts now => some (enforceJobTimeouts db now)
  | .settleExpiredPods now => some (settleExpiredPods db now)
  | .promote providerId now =>
    some (promoteNextQueuedJob db providerId now)

end DcpPlatform.Jobs
