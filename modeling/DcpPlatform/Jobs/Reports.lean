import DcpPlatform.Jobs.Store

/-!
# Settling reports

Four endpoints settle a job on a report. Three run without a break.
`/:id/jobs/:jobId/complete` of the providers reads the job and the provider,
may wait for the check of an attestation, and settles what it has read; a
`CompleteCall` is one that waits.
-/

namespace DcpPlatform.Jobs

open Foundation

inductive Field where
  | missing
  | unreadable
  | number (value : ℚ)
  deriving DecidableEq

namespace Field

def toFiniteNumber (least : ℚ) (greatest : Option ℚ) : Field → Option ℚ
  | .number value =>
    if least ≤ value ∧ ∀ bound ∈ greatest, value ≤ bound then
      some value
    else
      none
  | _ => none

def toFiniteInt (least : ℚ) (greatest : Option ℚ) (field : Field) :
    Option Int :=
  (field.toFiniteNumber least greatest).bind (fun value =>
    if value.den = 1 then some value.num else none)

def toAmount (field : Field) : Int :=
  max 0 ((field.toFiniteInt 0 none).getD 0)

end Field

inductive Reporter where
  | admin
  | provider (providerId : Nat)
  | renter (renterId : Nat)
  deriving DecidableEq

structure ResultReport where
  jobId : Nat
  reporter : Reporter
  hasResult : Bool
  hasError : Bool
  transient : Bool
  durationSeconds : Field
  gpuSeconds : Field
  storageGbSeconds : Field
  bandwidthBytesOut : Field
  bandwidthBytesIn : Field

structure JobResultReport where
  jobId : Nat
  providerId : Nat
  success : Bool
  metricsGpuCount : Field
  gpuSecondsUsed : Field

structure CompleteRequest where
  jobId : Nat
  providerId : Nat
  tokenCount : Field
  durationMs : Field
  modelId : Option String

structure CompleteCall where
  job : Job
  provider : Provider
  request : CompleteRequest

inductive ReportError where
  | jobNotFound
  | invalidApiKey
  | forbidden
  | alreadySettled (status : JobStatus)
  | notRunning (status : JobStatus)
  | invalidDuration (jobMaxSeconds : Nat)
  /-- `actualMinutes` is not defined. -/
  | undefinedMinutes
  | attestationRefused
  /-- The record of the job exists. -/
  | uniqueConstraint

namespace Job

def setTransient (now : Int) (job : Job) : Job :=
  { job with
    status := .pending
    retryCount := job.retryCount + 1
    pickedUpAt := none
    assignedAt := none
    timeoutAt := some (now + (if job.maxDurationSeconds = 0 then 1800
      else job.maxDurationSeconds) * 1000) }

@[simp]
theorem setTransient_jobId (now : Int) (job : Job) :
    (setTransient now job).jobId = job.jobId :=
  rfl

/-- What the two endpoints of the jobs write: the price by components. -/
structure Usage where
  gpuSeconds : ℚ
  storageGbSeconds : Int
  bandwidthBytesOut : Int
  bandwidthBytesIn : Int

def setPriced (status : JobStatus) (now : Int) (usage : Usage)
    (cost : ThreeComponentCost) (split : Split) (job : Job) : Job :=
  { job with
    status := status
    completedAt := some now
    actualDurationMinutes := some ⌈usage.gpuSeconds / 60⌉
    actualCostHalala := some (max 0 cost.totalHalala)
    providerEarnedHalala := some split.provider
    dc1FeeHalala := some split.fee
    gpuSecondsUsed := some usage.gpuSeconds
    storageGbSeconds := some usage.storageGbSeconds
    bandwidthBytesOut := some usage.bandwidthBytesOut
    bandwidthBytesIn := some usage.bandwidthBytesIn
    computeHalala := some cost.computeHalala
    storageHalala := some cost.storageHalala
    bandwidthHalala := some cost.bandwidthHalala }

@[simp]
theorem setPriced_jobId (status : JobStatus) (now : Int) (usage : Usage)
    (cost : ThreeComponentCost) (split : Split) (job : Job) :
    (setPriced status now usage cost split job).jobId = job.jobId :=
  rfl

def setReported (status : JobStatus) (now actualMinutes elapsed : Int)
    (actualCostHalala : Int) (split : Split) (job : Job) : Job :=
  { job with
    status := status
    completedAt := some now
    actualDurationMinutes := some actualMinutes
    durationSeconds := some elapsed
    actualCostHalala := some actualCostHalala
    providerEarnedHalala := some split.provider
    dc1FeeHalala := some split.fee }

@[simp]
theorem setReported_jobId (status : JobStatus)
    (now actualMinutes elapsed actualCostHalala : Int) (split : Split) (job : Job) :
    (setReported status now actualMinutes elapsed actualCostHalala split job).jobId = job.jobId :=
  rfl

def setRefundedAt (now : Int) (job : Job) : Job :=
  { job with refundedAt := some now }

@[simp]
theorem setRefundedAt_jobId (now : Int) (job : Job) :
    (setRefundedAt now job).jobId = job.jobId :=
  rfl

def setBilled (status : AttestationStatus) (job : Job) : Job :=
  { job with billed := true, attestationStatus := some status }

@[simp]
theorem setBilled_jobId (status : AttestationStatus) (job : Job) :
    (setBilled status job).jobId = job.jobId :=
  rfl

end Job

def Refundable (job : Job) : Prop :=
  job.renterId.isSome ∧ 0 < job.costHalala ∧ job.refundedAt = none
deriving Decidable

def refundBooking (job : Job) : Booking :=
  { jobId := job.jobId
    providerId := none
    renterId := job.renterId
    earned := fun _ => 0
    fee := 0
    returned := job.costHalala }

def refundFailed (now : Int) (db : Database) (job : Job) : Database :=
  if Refundable job then
    let refunded := db.book (refundBooking job)
    { refunded with
      jobs := refunded.jobs.update job.jobId (Job.setRefundedAt now) (Job.setRefundedAt_jobId now) }
  else
    db

def jobMaxSeconds (job : Job) : Nat :=
  max (if job.maxDurationSeconds = 0 then 3600 else job.maxDurationSeconds) 60

def reportedDuration (job : Job) (report : ResultReport) : Option ℚ :=
  report.durationSeconds.toFiniteNumber 0 (some (jobMaxSeconds job))

/-- The reported GPU seconds are not bounded by the time elapsed. -/
def reportedGpuSeconds (job : Job) (report : ResultReport) : Option ℚ :=
  match report.gpuSeconds with
  | .missing => reportedDuration job report
  | field => some (max 0 ((field.toFiniteNumber 0 none).getD 0))

def resultUsage (report : ResultReport) (gpuSeconds : ℚ) : Job.Usage :=
  { gpuSeconds := gpuSeconds
    storageGbSeconds := report.storageGbSeconds.toAmount
    bandwidthBytesOut := report.bandwidthBytesOut.toAmount
    bandwidthBytesIn := report.bandwidthBytesIn.toAmount }

def usageCost (job : Job) (usage : Job.Usage) : ThreeComponentCost :=
  estimateThreeComponentCost job.gpuModel usage.gpuSeconds
    usage.storageGbSeconds usage.bandwidthBytesOut job.pricingClass
    job.jobType

def resultPrice (job : Job) (report : ResultReport) : Int :=
  max 0 (usageCost job (resultUsage report ((reportedGpuSeconds job report).getD 0))).totalHalala

/-- All three columns gain the share of the provider. -/
def resultBooking (job : Job) (split : Split) : Booking :=
  { jobId := job.jobId
    providerId := job.providerId
    renterId := job.renterId
    earned := fun _ => split.provider
    fee := split.fee
    returned := 0 }

def CanReport (job : Job) (reporter : Reporter) : Prop :=
  reporter = .admin ∨ ∃ providerId ∈ job.providerId, reporter = .provider providerId
deriving Decidable

def IsRetried (job : Job) (report : ResultReport) : Prop :=
  report.hasResult = false ∧ report.hasError = true ∧ report.transient = true ∧
    job.retryCount + 1 ≤ (if job.maxRetries = 0 then 2 else job.maxRetries)
deriving Decidable

def settleResult (db : Database) (job : Job) (report : ResultReport)
    (gpuSeconds : ℚ) (now : Int) : Database :=
  let usage := resultUsage report gpuSeconds
  let cost := usageCost job usage
  let split := splitBilling (max 0 cost.totalHalala)
  let status := if report.hasResult then .completed else .failed
  let settled := { db with
      jobs := db.jobs.update job.jobId (Job.setPriced status now usage cost split)
        (Job.setPriced_jobId status now usage cost split) }
  if report.hasResult then
    (settled.book (resultBooking job split)).updateProvider job.providerId
      Provider.addJob Provider.addJob_id
  else
    refundFailed now settled job

def postResult (db : Database) (report : ResultReport) (now : Int) :
    Except ReportError Database :=
  match db.jobs.lookup report.jobId with
  | none => .error .jobNotFound
  | some job =>
    if ¬ CanReport job report.reporter then
      .error .forbidden
    else if job.status ∉ [.running, .assigned, .pulling] then
      .error (.alreadySettled job.status)
    else if report.durationSeconds ≠ .missing ∧ reportedDuration job report = none then
      .error (.invalidDuration (jobMaxSeconds job))
    else if IsRetried job report then
      .ok { db with
        jobs := db.jobs.update job.jobId (Job.setTransient now) (Job.setTransient_jobId now) }
    else
      match reportedGpuSeconds job report with
      | none => .error .undefinedMinutes
      | some gpuSeconds =>
        .ok (settleResult db job report gpuSeconds now)

def startOf (job : Job) : Option Int :=
  job.startedAt.or job.submittedAt

def completedSeconds (job : Job) (now : Int) : Int :=
  match startOf job with
  | some startedAt => max 1 ⌈((now - startedAt : Int) : ℚ) / 1000⌉
  | none =>
    (if job.durationMinutes = 0 then 1 else job.durationMinutes) * 60

def completeUsage (job : Job) (now : Int) : Job.Usage :=
  { gpuSeconds := completedSeconds job now
    storageGbSeconds := 0
    bandwidthBytesOut := 0
    bandwidthBytesIn := 0 }

def completePrice (job : Job) (now : Int) : Int :=
  max 0 (usageCost job (completeUsage job now)).totalHalala

/-- `total_earnings_halala` is left out. -/
def earnedBooking (job : Job) (split : Split) (returned : Int) : Booking :=
  { jobId := job.jobId
    providerId := job.providerId
    renterId := job.renterId
    earned := fun column =>
      match column with
      | .claimable => split.provider
      | .totalEarnings => split.provider
      | .totalEarningsHalala => 0
    fee := split.fee
    returned := returned }

def CanComplete (job : Job) (reporter : Reporter) : Prop :=
  reporter = .admin ∨ ∃ renterId ∈ job.renterId, reporter = .renter renterId
deriving Decidable

def settleComplete (db : Database) (job : Job) (now : Int) : Database :=
  let usage := completeUsage job now
  let cost := usageCost job usage
  let split := splitBilling (max 0 cost.totalHalala)
  let settled := { db with
      jobs := db.jobs.update job.jobId (Job.setPriced .completed now usage cost split)
        (Job.setPriced_jobId .completed now usage cost split) }
  (settled.book (earnedBooking job split 0)).updateProvider job.providerId
    Provider.addJob Provider.addJob_id

def postComplete (db : Database) (jobId : Nat) (reporter : Reporter)
    (now : Int) : Except ReportError Database :=
  match db.jobs.lookup jobId with
  | none => .error .jobNotFound
  | some job =>
    if job.status ≠ .running then
      .error (.notRunning job.status)
    else if ¬ CanComplete job reporter then
      .error .forbidden
    else
      .ok (settleComplete db job now)

def roundToMs (seconds : ℚ) : ℚ :=
  mathRound (seconds * 1000) / 1000

def elapsedMinutes (job : Job) (now : Int) : Int :=
  match startOf job with
  | some startedAt => ⌈((now - startedAt : Int) : ℚ) / 60000⌉
  | none => job.durationMinutes

def elapsedSeconds (job : Job) (now : Int) : ℚ :=
  match startOf job with
  | some startedAt => max 0 (((now - startedAt : Int) : ℚ) / 1000)
  | none => max 0 (elapsedMinutes job now * 60 : ℚ)

def billableGpuCount (provider : Provider) (report : JobResultReport) :
    Int :=
  let registered := (provider.gpuCount.filter (fun count =>
      1 ≤ count ∧ count ≤ 64)).getD 1
  min ((report.metricsGpuCount.toFiniteInt 1 (some 64)).getD 1) registered

def billableGpuSeconds (job : Job) (provider : Provider)
    (report : JobResultReport) (now : Int) : ℚ :=
  let measured := elapsedSeconds job now * billableGpuCount provider report
  match report.gpuSecondsUsed.toFiniteNumber 0 none with
  | some reported => min reported (roundToMs (measured * (105 / 100)))
  | none => roundToMs measured

def ratePerGpuSecond (job : Job) (provider : Provider) : ℚ :=
  (provider.costPerGpuSecondHalala.filter (fun rate => 0 ≤ rate)).getD
    (job.jobType.ratePerMinute / 60)

/-- A pod never costs more than its quote. -/
def jobResultPrice (job : Job) (provider : Provider) (report : JobResultReport) (now : Int) : Int :=
  let price :=
    max 0 (mathRound (billableGpuSeconds job provider report now * ratePerGpuSecond job provider))
  if job.jobType = .interactivePod ∧ 0 < job.costHalala then
    min price job.costHalala
  else
    price

/-- A job whose money is moved by `settleInferenceOnce`. -/
def BillingOwnedByV1 (job : Job) : Prop :=
  job.notes = some "v1:chat/completions"
deriving Decidable

/-- The difference to what was paid goes back to the renter, if there is
one. -/
def jobResultReturned (job : Job) (actualCostHalala : Int) : Int :=
  if job.renterId.isSome then job.costHalala - actualCostHalala else 0

def settleJobResult (db : Database) (job : Job) (provider : Provider)
    (report : JobResultReport) (now : Int) : Database :=
  let actualCostHalala := jobResultPrice job provider report now
  let split := splitEarnings actualCostHalala
  let status := if report.success then .completed else .failed
  let settled := { db with
      jobs := db.jobs.update job.jobId (Job.setReported status now (elapsedMinutes job now)
        (mathRound (elapsedSeconds job now)) actualCostHalala split)
        (Job.setReported_jobId status now _ _ actualCostHalala split) }
  let released :=
    settled.updateProvider (some provider.id) Provider.clearCurrentJob Provider.clearCurrentJob_id
  if BillingOwnedByV1 job then
    released
  else if report.success then
    ((released.book (earnedBooking job split
      (jobResultReturned job actualCostHalala))).updateProvider
        (some provider.id) Provider.addJob Provider.addJob_id).updateRenter
          job.renterId (Renter.addSpending actualCostHalala)
          (Renter.addSpending_id actualCostHalala)
  else
    refundFailed now released job

/-- A job that does not run is answered and left as it is. -/
def postJobResult (db : Database) (report : JobResultReport) (now : Int) :
    Except ReportError Database :=
  match db.providers.lookup report.providerId with
  | none => .error .invalidApiKey
  | some provider =>
    match db.jobs.lookup report.jobId with
    | none => .error .jobNotFound
    | some job =>
      if job.providerId ≠ some provider.id then
        .error .jobNotFound
      else if job.status ≠ .running then
        .ok db
      else
        .ok (settleJobResult db job provider report now)

/-- A billed job is answered with its record; any other one is read. -/
def readComplete (db : Database) (request : CompleteRequest) :
    Except ReportError (Option CompleteCall) :=
  match db.providers.lookup request.providerId with
  | none => .error .invalidApiKey
  | some provider =>
    match db.jobs.lookup request.jobId with
    | none => .error .jobNotFound
    | some job =>
      if job.providerId ≠ some provider.id then
        .error .jobNotFound
      else if job.billed then
        .ok none
      else
        .ok (some ⟨job, provider, request⟩)

namespace CompleteCall

def tokenCount (call : CompleteCall) : Nat :=
  ((call.request.tokenCount.toFiniteInt 0 none).getD 0).toNat

def durationMs (call : CompleteCall) : Nat :=
  ((call.request.durationMs.toFiniteInt 0 none).getD 0).toNat

def modelId (call : CompleteCall) : Option String :=
  ((call.request.modelId.map trim).filter (fun model => model ≠ "")).map
    (clip 200) |>.or call.job.model

def recordedCost (call : CompleteCall) : Option Int :=
  call.job.actualCostHalala.filter (fun cost => 0 < cost)

def grossCost (db : Database) (call : CompleteCall) : Int :=
  match call.recordedCost with
  | some cost => cost
  | none =>
    if 0 < call.tokenCount then
      call.tokenCount *
        ((db.tokenRates.lookup (call.modelId.getD "")).map TokenRate.tokenRateHalala).getD 1
    else if 0 < call.durationMs then
      max 0 (mathRound ((call.durationMs : ℚ) / 1000 * ratePerGpuSecond call.job call.provider))
    else
      0

def record (call : CompleteCall) (gross : Int) (split : Split) (now : Int) : BillingRecord :=
  { jobId := call.job.jobId
    renterId := call.job.renterId
    providerId := call.provider.id
    modelId := call.modelId
    tokenCount := call.tokenCount
    durationMs := call.durationMs
    grossCostHalala := gross
    platformFeeHalala := split.fee
    providerEarningHalala := split.provider
    createdAt := now }

def booking (call : CompleteCall) (split : Split) : Booking :=
  { jobId := call.job.jobId
    providerId := some call.provider.id
    renterId := call.job.renterId
    earned := fun column =>
      match column with
      | .claimable => split.provider
      | .totalEarnings => 0
      | .totalEarningsHalala => 0
    fee := split.fee
    returned := 0 }

/-- The transaction: insert the record, mark the job and, unless an earlier
report has recorded a cost, credit the provider. -/
def settle (db : Database) (call : CompleteCall) (signed : Bool)
    (now : Int) : Except ReportError Database :=
  let gross := call.grossCost db
  let split := splitPlatformFee gross
  if fresh : db.billingRecords.lookup call.job.jobId = none then
    let status := if signed then .signed else .pending
    let billed := { db with
        billingRecords := db.billingRecords.insert (call.record gross split now) fresh
        jobs := db.jobs.update call.job.jobId (Job.setBilled status) (Job.setBilled_jobId status) }
    if call.recordedCost = none then
      .ok (billed.book (call.booking split))
    else
      .ok billed
  else
    .error .uniqueConstraint

end CompleteCall

structure System where
  db : Database
  calls : List CompleteCall

inductive Gate where
  | refused
  | passed (signed : Bool)
  deriving DecidableEq

inductive Report where
  | result (report : ResultReport) (now : Int)
  | complete (jobId : Nat) (reporter : Reporter) (now : Int)
  | jobResult (report : JobResultReport) (now : Int)
  | readComplete (request : CompleteRequest)
  | settleComplete (index : Nat) (gate : Gate) (now : Int)

def System.answer (system : System) (outcome : Except ReportError Database) :
    System :=
  match outcome with
  | .ok db => { system with db := db }
  | .error _ => system

def reportNext (system : System) : Report → Option System
  | .result report now =>
    some (system.answer (postResult system.db report now))
  | .complete jobId reporter now =>
    some (system.answer (postComplete system.db jobId reporter now))
  | .jobResult report now =>
    some (system.answer (postJobResult system.db report now))
  | .readComplete request =>
    match readComplete system.db request with
    | .ok (some call) =>
      some { system with calls := system.calls ++ [call] }
    | _ => some system
  | .settleComplete index gate now =>
    match system.calls[index]? with
    | none => none
    | some call =>
      let waiting := { system with calls := system.calls.eraseIdx index }
      match gate with
      | .refused => some waiting
      | .passed signed =>
        some (waiting.answer (call.settle system.db signed now))

end DcpPlatform.Jobs
