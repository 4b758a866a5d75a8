import DcpPlatform.Foundation.Table
import DcpPlatform.Jobs.Pricing

/-!
# The rows behind a job's settlement

Jobs, providers, renters and billing records with the columns that settle a
job. Instants are milliseconds, amounts are halala; `total_earnings` is in
riyals. What a settlement adds is also kept as a booking in a ledger, which
the source does not have.
-/

namespace DcpPlatform.Jobs

open Foundation

inductive JobStatus where
  | pending | queued | assigned | pulling | running | paused
  | completed | failed | stopped | cancelled
  deriving DecidableEq

def JobStatus.isTerminal : JobStatus → Bool
  | .completed | .failed | .stopped | .cancelled => true
  | _ => false

inductive AttestationStatus where
  | pending | signed
  deriving DecidableEq

inductive Phase where
  | pulling | downloadingModel | installingDeps | loadingModel | generating
  | formatting | serving
  deriving DecidableEq

structure Job where
  jobId : Nat
  jobType : JobType
  status : JobStatus
  billed : Bool
  attestationStatus : Option AttestationStatus
  providerId : Option Nat
  renterId : Option Nat
  model : Option String
  gpuModel : Option String
  pricingClass : Option String
  priority : Option Int
  notes : Option String
  costHalala : Int
  durationMinutes : Nat
  maxDurationSeconds : Nat
  submittedAt : Option Int
  createdAt : Option Int
  startedAt : Option Int
  completedAt : Option Int
  refundedAt : Option Int
  assignedAt : Option Int
  pickedUpAt : Option Int
  timeoutAt : Option Int
  retryCount : Nat
  maxRetries : Nat
  actualDurationMinutes : Option Int
  durationSeconds : Option Int
  gpuSecondsUsed : Option ℚ
  storageGbSeconds : Option Int
  bandwidthBytesOut : Option Int
  bandwidthBytesIn : Option Int
  progressPhase : Option Phase
  progressUpdatedAt : Option Int
  jupyterHostPort : Option Int
  accessUrl : Option String
  endpointUrl : Option String
  computeHalala : Option Int
  storageHalala : Option Int
  bandwidthHalala : Option Int
  actualCostHalala : Option Int
  providerEarnedHalala : Option Int
  dc1FeeHalala : Option Int
  deriving DecidableEq

structure Provider where
  id : Nat
  costPerGpuSecondHalala : Option ℚ
  gpuCount : Option Int
  totalEarnings : ℚ
  totalEarningsHalala : Int
  claimableEarningsHalala : Int
  totalJobs : Nat
  currentJobId : Option Nat

structure Renter where
  id : Nat
  balanceHalala : Int
  totalSpentHalala : Int
  totalJobs : Nat

structure BillingRecord where
  jobId : Nat
  renterId : Option Nat
  providerId : Nat
  modelId : Option String
  tokenCount : Nat
  durationMs : Nat
  grossCostHalala : Int
  platformFeeHalala : Int
  providerEarningHalala : Int
  createdAt : Int

structure TokenRate where
  model : String
  tokenRateHalala : Nat

inductive Column where
  | claimable | totalEarnings | totalEarningsHalala

/-- Money moved by a settlement: added to the earnings columns of a provider,
kept as the fee, returned to the balance of a renter. -/
structure Booking where
  jobId : Nat
  providerId : Option Nat
  renterId : Option Nat
  earned : Column → Int
  fee : Int
  returned : Int

namespace Booking

def IsNothing (booking : Booking) : Prop :=
  (booking.earned .claimable = 0 ∧ booking.earned .totalEarnings = 0 ∧
    booking.earned .totalEarningsHalala = 0) ∧
    booking.fee = 0 ∧ booking.returned = 0
deriving Decidable

theorem IsNothing.earned {booking : Booking} (nothing : booking.IsNothing)
    (column : Column) : booking.earned column = 0 := by
  obtain ⟨⟨claimable, total, totalHalala⟩, _⟩ := nothing
  cases column with
  | claimable => exact claimable
  | totalEarnings => exact total
  | totalEarningsHalala => exact totalHalala

def toProvider (providerId : Nat) (column : Column) (booking : Booking) :
    Int :=
  if booking.providerId = some providerId then booking.earned column
  else 0

def toRenter (renterId : Nat) (booking : Booking) : Int :=
  if booking.renterId = some renterId then booking.returned else 0

end Booking

structure Database where
  jobs : Table Job Job.jobId
  providers : Table Provider Provider.id
  renters : Table Renter Renter.id
  billingRecords : Table BillingRecord BillingRecord.jobId
  tokenRates : Table TokenRate TokenRate.model
  ledger : List Booking

/-! ## Statements -/

def Provider.addEarnings (earned : Column → Int) (provider : Provider) :
    Provider :=
  { provider with
    totalEarnings := provider.totalEarnings + earned .totalEarnings / 100
    totalEarningsHalala := provider.totalEarningsHalala + earned .totalEarningsHalala
    claimableEarningsHalala := provider.claimableEarningsHalala + earned .claimable }

@[simp]
theorem Provider.addEarnings_id (earned : Column → Int) (provider : Provider) :
    (provider.addEarnings earned).id = provider.id :=
  rfl

def Provider.addJob (provider : Provider) : Provider :=
  { provider with totalJobs := provider.totalJobs + 1 }

@[simp]
theorem Provider.addJob_id (provider : Provider) :
    provider.addJob.id = provider.id :=
  rfl

def Provider.clearCurrentJob (provider : Provider) : Provider :=
  { provider with currentJobId := none }

@[simp]
theorem Provider.clearCurrentJob_id (provider : Provider) :
    provider.clearCurrentJob.id = provider.id :=
  rfl

def Renter.addBalance (amount : Int) (renter : Renter) : Renter :=
  { renter with balanceHalala := renter.balanceHalala + amount }

@[simp]
theorem Renter.addBalance_id (amount : Int) (renter : Renter) :
    (renter.addBalance amount).id = renter.id :=
  rfl

def Renter.addSpending (amount : Int) (renter : Renter) : Renter :=
  { renter with
    totalSpentHalala := renter.totalSpentHalala + amount
    totalJobs := renter.totalJobs + 1 }

@[simp]
theorem Renter.addSpending_id (amount : Int) (renter : Renter) :
    (renter.addSpending amount).id = renter.id :=
  rfl

namespace Database

def updateProvider (db : Database) (providerId : Option Nat) (change : Provider → Provider)
    (keeps : ∀ provider, (change provider).id = provider.id) : Database :=
  match providerId with
  | none => db
  | some providerId =>
    { db with
      providers := db.providers.update providerId change keeps }

def updateRenter (db : Database) (renterId : Option Nat) (change : Renter → Renter)
    (keeps : ∀ renter, (change renter).id = renter.id) : Database :=
  match renterId with
  | none => db
  | some renterId =>
    { db with renters := db.renters.update renterId change keeps }

def record (db : Database) (booking : Booking) : Database :=
  if booking.IsNothing then
    db
  else
    { db with ledger := db.ledger ++ [booking] }

def book (db : Database) (booking : Booking) : Database :=
  ((db.updateProvider booking.providerId (Provider.addEarnings booking.earned)
    (Provider.addEarnings_id booking.earned)).updateRenter booking.renterId
      (Renter.addBalance booking.returned)
      (Renter.addBalance_id booking.returned)).record booking

def bookingsFor (db : Database) (jobId : Nat) : List Booking :=
  db.ledger.filter (fun booking => booking.jobId = jobId)

def returnedFor (db : Database) (jobId : Nat) : Int :=
  ((db.bookingsFor jobId).map Booking.returned).sum

def earnedFor (db : Database) (jobId : Nat) (column : Column) : Int :=
  ((db.bookingsFor jobId).map (fun booking => booking.earned column)).sum

def feesFor (db : Database) (jobId : Nat) : Int :=
  ((db.bookingsFor jobId).map Booking.fee).sum

end Database

end DcpPlatform.Jobs
