import DcpPlatform.Pods.Store

/-!
# Settling a pod

Settling a pod charges the elapsed time up to what its renter was debited,
credits three quarters of the charge to the provider and returns the rest.
`stopPodCore` works on a job row fetched earlier, the sweeps on rows they
query.
-/

namespace DcpPlatform.Pods

open Foundation

/-- `COST_RATES['interactive_pod'] / 60`, for a provider that is missing or
whose own rate is not usable. -/
def defaultPodRate : ℚ :=
  2 / 60

def resolvePodRate (provider : Option Provider) : ℚ :=
  match provider with
  | none => defaultPodRate
  | some provider =>
    -- `Number(null)` is 0
    let providerRate := provider.costPerGpuSecondHalala.getD 0
    if 0 ≤ providerRate then providerRate else defaultPodRate

def resolvePodGpuCount (provider : Option Provider) : Nat :=
  match provider with
  | none => 1
  | some provider =>
    if 1 ≤ provider.gpuCount then min provider.gpuCount 64 else 1

def computePodQuoteHalala (durationSeconds : Nat) (ratePerGpuSecond : ℚ) (gpuCount : Nat) : Int :=
  max 0 ⌈(durationSeconds : ℚ) * ratePerGpuSecond * gpuCount⌉

def podProviderEarned (actualCostHalala : Int) : Int :=
  actualCostHalala * 3 / 4

def prepaidHalala (job : Job) : Int :=
  max 0 job.costHalala

structure PodSettlement where
  elapsedSeconds : Int
  actualCostHalala : Int
  providerEarnedHalala : Int
  dc1FeeHalala : Int
  refundHalala : Int

def computePodStopSettlement (costHalala startedAtMs nowMs : Int)
    (ratePerGpuSecond : ℚ) (gpuCount : Nat) : PodSettlement :=
  let prepaid := max 0 costHalala
  let elapsedSeconds := max 0 ((nowMs - startedAtMs : ℚ) / 1000)
  let rawCost := ⌈elapsedSeconds * ratePerGpuSecond * gpuCount⌉
  let actualCostHalala := min prepaid (max 0 rawCost)
  { elapsedSeconds := mathRound elapsedSeconds
    actualCostHalala := actualCostHalala
    providerEarnedHalala := podProviderEarned actualCostHalala
    dc1FeeHalala := actualCostHalala - podProviderEarned actualCostHalala
    refundHalala := prepaid - actualCostHalala }

def startedAtMs (job : Job) (now : Int) : Int :=
  (job.startedAt.or job.submittedAt).getD now

def providerOf (db : Database) (job : Job) : Option Provider :=
  job.providerId.bind db.providers.lookup

def settlementFor (db : Database) (job : Job) (gpuCount : Nat) (now : Int) : PodSettlement :=
  computePodStopSettlement job.costHalala (startedAtMs job now) now
    (resolvePodRate (providerOf db job)) gpuCount

def settledGpuCount (db : Database) (job : Job) : Nat :=
  if job.gpuCount = 0 then
    resolvePodGpuCount (providerOf db job)
  else
    job.gpuCount

def podStopSettlement (db : Database) (job : Job) (now : Int) :
    PodSettlement :=
  settlementFor db job (settledGpuCount db job) now

namespace Job

def setSettled (status : JobStatus) (now : Int) (settlement : PodSettlement) (job : Job) : Job :=
  { job with
    status := status
    completedAt := some now
    durationSeconds := some settlement.elapsedSeconds
    actualCostHalala := some settlement.actualCostHalala
    providerEarnedHalala := some settlement.providerEarnedHalala
    dc1FeeHalala := some settlement.dc1FeeHalala }

@[simp]
theorem setSettled_id (status : JobStatus) (now : Int) (settlement : PodSettlement) (job : Job) :
    (setSettled status now settlement job).id = job.id :=
  rfl

/-- `settleExpiredPods` records the whole rental as its duration. -/
def setExpired (now : Int) (prepaid : Int) (job : Job) : Job :=
  { job with
    status := .completed
    completedAt := some now
    durationSeconds := job.maxDurationSeconds.map Int.ofNat
    actualCostHalala := some prepaid
    providerEarnedHalala := some (podProviderEarned prepaid)
    dc1FeeHalala := some (prepaid - podProviderEarned prepaid) }

variable (now : Int)

@[simp]
theorem setExpired_id (prepaid : Int) (job : Job) :
    (setExpired now prepaid job).id = job.id :=
  rfl

def setReturned (status : JobStatus) (now : Int) (job : Job) : Job :=
  { job with
    status := status
    completedAt := some now
    refundedAt := some now }

@[simp]
theorem setReturned_id (status : JobStatus) (now : Int) (job : Job) :
    (setReturned status now job).id = job.id :=
  rfl

def setTimedOut (now : Int) (job : Job) : Job :=
  { job with status := .failed, completedAt := some now }

@[simp]
theorem setTimedOut_id (job : Job) :
    (setTimedOut now job).id = job.id :=
  rfl

def setRefundedAt (now : Int) (job : Job) : Job :=
  { job with refundedAt := some now }

@[simp]
theorem setRefundedAt_id (job : Job) :
    (setRefundedAt now job).id = job.id :=
  rfl

/-- `timeout_at` counts from the promotion, 1800 s without a maximum. -/
def setPromoted (now : Int) (job : Job) : Job :=
  { job with
    status := .pending
    timeoutAt := some (now + (if job.maxDurationSeconds.getD 0 = 0 then 1800
      else job.maxDurationSeconds.getD 0) * 1000) }

@[simp]
theorem setPromoted_id (job : Job) :
    (setPromoted now job).id = job.id :=
  rfl

end Job

/-- What `stopPodCore` and `enforceJobTimeouts` pay once a row is settled:
the provider's share, the refund and the renter's totals. -/
def payOut (db : Database) (job : Job) (settlement : PodSettlement) :
    Database :=
  let credited :=
    if 0 < settlement.providerEarnedHalala then
      db.creditProvider job.id job.providerId settlement.providerEarnedHalala
    else
      db
  (credited.refundRenter job.id job.renterId
    settlement.refundHalala).bookRental job.renterId settlement.actualCostHalala

structure StopResult where
  idempotent : Bool
  status : JobStatus
  chargedHalala : Int
  refundedHalala : Int
  ranSeconds : Int

def Cancellable (job : Job) : Prop :=
  job.status.isTerminal = false ∧ job.refundedAt = none
deriving Decidable

def IsRunning (job : Job) : Prop :=
  job.status = .running
deriving Decidable

/-- The branch for a row fetched as running. Whether the guarded update
changed the row is not looked at. -/
def stopRunning (db : Database) (job : Job) (now : Int) : Database :=
  let settlement := podStopSettlement db job now
  let flipped := { db with
      jobs := db.jobs.updateWhere job.id IsRunning (Job.setSettled .stopped now settlement)
        (Job.setSettled_id .stopped now settlement) }
  payOut flipped job settlement

def cancelUnstarted (db : Database) (job : Job) (now : Int) : Database :=
  if db.jobs.changes job.id Cancellable then
    let cancelled := { db with
        jobs := db.jobs.updateWhere job.id Cancellable (Job.setReturned .cancelled now)
          (Job.setReturned_id .cancelled now) }
    if 0 < prepaidHalala job then
      cancelled.refundRenter job.id job.renterId (prepaidHalala job)
    else
      cancelled
  else
    db

def stopPodCore (db : Database) (job : Job) (now : Int) :
    Database × StopResult :=
  if job.status.isTerminal then
    (db, ⟨true, job.status, 0, 0, 0⟩)
  else if job.status = .running then
    let settlement := podStopSettlement db job now
    (stopRunning db job now, ⟨false, .stopped, settlement.actualCostHalala,
        settlement.refundHalala, settlement.elapsedSeconds⟩)
  else
    (cancelUnstarted db job now, ⟨false, .cancelled, 0,
        if db.jobs.changes job.id Cancellable then prepaidHalala job
        else 0, 0⟩)

def datetime (instant : Int) : Int :=
  instant / 1000

def podDeadlineGraceSeconds : Nat := 300

def podQueuedStaleMinutes : Nat := 25

def IsExpired (now : Int) (job : Job) : Prop :=
  job.jobType = .interactivePod ∧ job.status = .running ∧ 0 < job.maxDurationSeconds.getD 0 ∧
    ∃ startedAt, job.startedAt = some startedAt ∧
      datetime startedAt + job.maxDurationSeconds.getD 0 + podDeadlineGraceSeconds ≤ datetime now

instance (now : Int) : DecidablePred (IsExpired now) :=
  fun job =>
    match started : job.startedAt with
    | none => isFalse (by simp [IsExpired, started])
    | some startedAt =>
      decidable_of_iff (job.jobType = .interactivePod ∧ job.status = .running ∧
        0 < job.maxDurationSeconds.getD 0 ∧
        datetime startedAt + job.maxDurationSeconds.getD 0 + podDeadlineGraceSeconds ≤ datetime now)
        (by simp [IsExpired, started])

def settleExpiredPod (now : Int) (db : Database) (job : Job) : Database :=
  if db.jobs.changes job.id IsRunning then
    let prepaid := prepaidHalala job
    let earned := podProviderEarned prepaid
    let flipped := { db with
        jobs := db.jobs.updateWhere job.id IsRunning
          (Job.setExpired now prepaid) (Job.setExpired_id now prepaid) }
    let credited :=
      if 0 < earned then
        flipped.creditProvider job.id job.providerId earned
      else
        flipped
    credited.bookRental job.renterId prepaid
  else
    db

def IsWaiting (job : Job) : Prop :=
  job.status = .pending ∨ job.status = .queued
deriving Decidable

def IsStale (now : Int) (job : Job) : Prop :=
  job.jobType = .interactivePod ∧ IsWaiting job ∧
    job.jupyterHostPort = none ∧ job.accessUrl = none ∧
    ∃ submittedAt, job.submittedAt.or job.createdAt = some submittedAt ∧
      datetime submittedAt ≤ datetime now - podQueuedStaleMinutes * 60

instance (now : Int) : DecidablePred (IsStale now) :=
  fun job =>
    match submitted : job.submittedAt.or job.createdAt with
    | none => isFalse (by simp [IsStale, submitted])
    | some submittedAt =>
      decidable_of_iff (job.jobType = .interactivePod ∧ IsWaiting job ∧
        job.jupyterHostPort = none ∧ job.accessUrl = none ∧
        datetime submittedAt ≤ datetime now - podQueuedStaleMinutes * 60)
        (by simp [IsStale, submitted])

def cancelStalePod (now : Int) (db : Database) (job : Job) : Database :=
  if db.jobs.changes job.id IsWaiting then
    let cancelled := { db with
        jobs := db.jobs.updateWhere job.id IsWaiting (Job.setReturned .cancelled now)
          (Job.setReturned_id .cancelled now) }
    if 0 < prepaidHalala job ∧ job.refundedAt = none then
      cancelled.refundRenter job.id job.renterId (prepaidHalala job)
    else
      cancelled
  else
    db

/-- One run of the sweep: at most 20 pods past their deadline, then at most
20 that no provider has started. -/
def settleExpiredPods (db : Database) (now : Int) : Database :=
  let expired := (db.jobs.select (IsExpired now)).take 20
  let settled := expired.foldl (settleExpiredPod now) db
  let stale := (settled.jobs.select (IsStale now)).take 20
  stale.foldl (cancelStalePod now) settled

/-- Ascending order on instants, missing ones first. -/
def earlier : Option Int → Option Int → Bool
  | none, some _ => true
  | some first, some second => decide (first < second)
  | _, none => false

def promotedBefore (job other : Job) : Bool :=
  if job.pricingClassRank = other.pricingClassRank then
    if job.priority = other.priority then
      earlier job.createdAt other.createdAt
    else
      decide (other.priority < job.priority)
  else
    decide (job.pricingClassRank < other.pricingClassRank)

def promoteNextQueuedJob (db : Database) (providerId : Option Nat) (now : Int) : Database :=
  let queued := db.jobs.select (fun job =>
      providerId.isSome ∧ job.providerId = providerId ∧ job.status = .queued)
  match firstBy promotedBefore queued with
  | none => db
  | some job =>
    { db with
      jobs := db.jobs.update job.id (Job.setPromoted now) (Job.setPromoted_id now) }

def HasTimedOut (now : Int) (job : Job) : Prop :=
  (job.status = .running ∨ job.status = .assigned ∨ job.status = .pulling) ∧
    ∃ timeoutAt, job.timeoutAt = some timeoutAt ∧ datetime timeoutAt < datetime now

instance (now : Int) : DecidablePred (HasTimedOut now) :=
  fun job =>
    match timeout : job.timeoutAt with
    | none => isFalse (by simp [HasTimedOut, timeout])
    | some timeoutAt =>
      decidable_of_iff ((job.status = .running ∨ job.status = .assigned ∨
        job.status = .pulling) ∧ datetime timeoutAt < datetime now)
        (by simp [HasTimedOut, timeout])

def completeTimedOutPod (now : Int) (db : Database) (job : Job) :
    Database :=
  if db.jobs.changes job.id IsRunning then
    let settlement := settlementFor db job (resolvePodGpuCount (providerOf db job)) now
    let flipped := { db with
        jobs := db.jobs.updateWhere job.id IsRunning (Job.setSettled .completed now settlement)
          (Job.setSettled_id .completed now settlement) }
    payOut flipped job settlement
  else
    db

def markTimedOut (now : Int) (db : Database) (jobId : Nat) : Database :=
  { db with
    jobs := db.jobs.update jobId (Job.setTimedOut now) (Job.setTimedOut_id now) }

def failAndRefund (now : Int) (db : Database) (job : Job) : Database :=
  let refunded := (markTimedOut now db job.id).refundRenter job.id job.renterId job.costHalala
  { refunded with
    jobs := refunded.jobs.update job.id (Job.setRefundedAt now) (Job.setRefundedAt_id now) }

def failTimedOutJob (now : Int) (db : Database) (job : Job) : Database :=
  if job.renterId.isSome ∧ 0 < job.costHalala then
    failAndRefund now db job
  else
    markTimedOut now db job.id

def settleTimedOutJob (now : Int) (db : Database) (job : Job) :
    Database :=
  if job.jobType = .interactivePod ∧ job.status = .running then
    completeTimedOutPod now db job
  else
    failTimedOutJob now db job

def enforceJobTimeout (now : Int) (db : Database) (job : Job) :
    Database :=
  promoteNextQueuedJob (settleTimedOutJob now db job) job.providerId now

def enforceJobTimeouts (db : Database) (now : Int) : Database :=
  (db.jobs.select (HasTimedOut now)).foldl (enforceJobTimeout now) db

def IsLaunching (job : Job) : Prop :=
  job.refundedAt = none ∧ (job.status = .pulling ∨ job.status = .queued ∨ job.status = .assigned)
deriving Decidable

def failBurstJobAndRefund (db : Database) (jobId : Nat)
    (quoteHalala : Int) (renterId : Nat) (now : Int) : Database × Bool :=
  if db.jobs.changes jobId IsLaunching then
    let failed := { db with
        jobs := db.jobs.updateWhere jobId IsLaunching
          (Job.setReturned .failed now) (Job.setReturned_id .failed now) }
    if 0 < quoteHalala then
      (failed.refundRenter jobId (some renterId) quoteHalala, true)
    else
      (failed, true)
  else
    (db, false)

end DcpPlatform.Pods
