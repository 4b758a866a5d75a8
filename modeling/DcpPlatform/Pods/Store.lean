import DcpPlatform.Foundation.Query
import DcpPlatform.Foundation.Money

/-!
# The rows behind a pod

Jobs, providers and renters with the columns that launching, settling and
placing a pod use. A missing `gpu_count` is `0`. Every statement that moves
money also records a payment in the journal, which the source does not keep.
-/

namespace DcpPlatform.Pods

open Foundation

inductive JobStatus where
  | pending | queued | assigned | provisioning | pulling | running | paused
  | completed | failed | stopped | cancelled
  deriving DecidableEq

def JobStatus.isTerminal : JobStatus → Bool
  | .completed | .failed | .stopped | .cancelled => true
  | _ => false

inductive JobType where
  | interactivePod | vllmServe | other
  deriving DecidableEq

/-- The job types `pods.js` selects: `interactive_pod` and `vllm_serve`. -/
def JobType.isPod : JobType → Bool
  | .interactivePod | .vllmServe => true
  | .other => false

structure Job where
  id : Nat
  jobType : JobType
  status : JobStatus
  providerId : Option Nat
  renterId : Option Nat
  costHalala : Int
  gpuCount : Nat
  gpuIndices : List Nat
  durationMinutes : Nat
  maxDurationSeconds : Option Nat
  submittedAt : Option Int
  createdAt : Option Int
  assignedAt : Option Int
  pickedUpAt : Option Int
  startedAt : Option Int
  completedAt : Option Int
  timeoutAt : Option Int
  refundedAt : Option Int
  jupyterHostPort : Option Nat
  accessUrl : Option String
  durationSeconds : Option Int
  actualCostHalala : Option Int
  providerEarnedHalala : Option Int
  dc1FeeHalala : Option Int
  pricingClassRank : Nat
  priority : Int
  checkpointEnabled : Bool
  retryCount : Nat
  maxRetries : Nat
  requiredVramMib : Nat
  deriving DecidableEq

inductive ProviderStatus where
  | online | offline | degraded | disconnected | other
  deriving DecidableEq

structure Provider where
  id : Nat
  status : ProviderStatus
  isPaused : Bool
  isBurst : Bool
  approved : Bool
  burstGpuTypeId : Option String
  stockAvailable : Bool
  lastHeartbeat : Option Int
  vramMib : Nat
  docker : Bool
  cudaAvailable : Bool
  gpuHealthy : Bool
  costPerGpuSecondHalala : Option ℚ
  gpuCount : Nat
  totalEarnings : ℚ
  claimableEarningsHalala : Int
  totalJobs : Nat
  currentJobId : Option Nat

def Provider.machine (provider : Provider) : Bool × Nat :=
  (provider.isBurst, provider.gpuCount)

structure Renter where
  id : Nat
  balanceHalala : Int
  totalSpentHalala : Int
  totalJobs : Nat
  maxActivePods : Option Int

inductive PaymentKind where
  | debit | refund | credit
  deriving DecidableEq

/-- Money moved for a pod: taken from its renter, returned to its renter or
added to the claimable earnings of its provider. -/
structure Payment where
  jobId : Nat
  kind : PaymentKind
  account : Nat
  amount : Int
  deriving DecidableEq

structure Database where
  jobs : Table Job Job.id
  providers : Table Provider Provider.id
  renters : Table Renter Renter.id
  journal : List Payment

def Renter.addBalance (amount : Int) (renter : Renter) : Renter :=
  { renter with balanceHalala := renter.balanceHalala + amount }

@[simp]
theorem Renter.addBalance_id (amount : Int) (renter : Renter) :
    (renter.addBalance amount).id = renter.id :=
  rfl

def Renter.addRental (actualCostHalala : Int) (renter : Renter) : Renter :=
  { renter with
    totalSpentHalala := renter.totalSpentHalala + actualCostHalala
    totalJobs := renter.totalJobs + 1 }

@[simp]
theorem Renter.addRental_id (actualCostHalala : Int) (renter : Renter) :
    (renter.addRental actualCostHalala).id = renter.id :=
  rfl

def Provider.addEarnings (amount : Int) (provider : Provider) :
    Provider :=
  { provider with
    totalEarnings := provider.totalEarnings + amount / 100
    claimableEarningsHalala := provider.claimableEarningsHalala + amount
    totalJobs := provider.totalJobs + 1
    currentJobId := none }

@[simp]
theorem Provider.addEarnings_id (amount : Int) (provider : Provider) :
    (provider.addEarnings amount).id = provider.id :=
  rfl

namespace Database

def record (db : Database) (payment : Payment) : Database :=
  if payment.amount = 0 then
    db
  else
    { db with journal := db.journal ++ [payment] }

def refundRenter (db : Database) (jobId : Nat) (renterId : Option Nat) (amount : Int) : Database :=
  match renterId with
  | none => db
  | some renterId =>
    { db with
      renters := db.renters.update renterId (Renter.addBalance amount)
        (Renter.addBalance_id amount) }.record
      ⟨jobId, .refund, renterId, amount⟩

def bookRental (db : Database) (renterId : Option Nat) (actualCostHalala : Int) : Database :=
  match renterId with
  | none => db
  | some renterId =>
    { db with
      renters := db.renters.update renterId (Renter.addRental actualCostHalala)
        (Renter.addRental_id actualCostHalala) }

def creditProvider (db : Database) (jobId : Nat)
    (providerId : Option Nat) (amount : Int) : Database :=
  match providerId with
  | none => db
  | some providerId =>
    { db with
      providers := db.providers.update providerId (Provider.addEarnings amount)
        (Provider.addEarnings_id amount) }.record
      ⟨jobId, .credit, providerId, amount⟩

/-- `UPDATE renters SET balance_halala = balance_halala - ? WHERE id = ? AND
balance_halala >= ?`; `none` when no row changes. -/
def debitRenter (db : Database) (jobId renterId : Nat) (amount : Int) :
    Option Database :=
  if db.renters.changes renterId (fun renter => amount ≤ renter.balanceHalala) then
    some ({ db with
      renters := db.renters.update renterId (Renter.addBalance (-amount))
        (Renter.addBalance_id (-amount)) }.record
      ⟨jobId, .debit, renterId, amount⟩)
  else
    none

end Database

section Frames

variable (db : Database) (payment : Payment) (jobId : Nat) (account : Option Nat) (amount : Int)

@[simp]
theorem Database.record_jobs : (db.record payment).jobs = db.jobs := by
  unfold Database.record
  split <;> rfl

@[simp]
theorem Database.record_providers :
    (db.record payment).providers = db.providers := by
  unfold Database.record
  split <;> rfl

@[simp]
theorem Database.record_renters :
    (db.record payment).renters = db.renters := by
  unfold Database.record
  split <;> rfl

@[simp]
theorem Database.refundRenter_jobs :
    (db.refundRenter jobId account amount).jobs = db.jobs := by
  cases account with
  | none => rfl
  | some renterId => simp [Database.refundRenter]

@[simp]
theorem Database.refundRenter_providers :
    (db.refundRenter jobId account amount).providers = db.providers := by
  cases account with
  | none => rfl
  | some renterId => simp [Database.refundRenter]

@[simp]
theorem Database.bookRental_jobs :
    (db.bookRental account amount).jobs = db.jobs := by
  cases account with
  | none | some renterId => rfl

@[simp]
theorem Database.bookRental_providers :
    (db.bookRental account amount).providers = db.providers := by
  cases account with
  | none | some renterId => rfl

@[simp]
theorem Database.bookRental_journal :
    (db.bookRental account amount).journal = db.journal := by
  cases account with
  | none | some renterId => rfl

@[simp]
theorem Database.creditProvider_jobs :
    (db.creditProvider jobId account amount).jobs = db.jobs := by
  cases account with
  | none => rfl
  | some providerId => simp [Database.creditProvider]

end Frames

/-! ## The journal of one pod -/

namespace Database

/-- What the journal gains when `amount` is moved. -/
def entry (jobId : Nat) (kind : PaymentKind) (account : Option Nat) (amount : Int) : List Payment :=
  match account with
  | none => []
  | some account =>
    if amount = 0 then [] else [⟨jobId, kind, account, amount⟩]

@[simp]
theorem entry_zero (jobId : Nat) (kind : PaymentKind) (account : Option Nat) :
    entry jobId kind account 0 = [] := by
  cases account with
  | none => rfl
  | some account => simp [entry]

theorem refundRenter_journal (db : Database) (jobId : Nat) (account : Option Nat) (amount : Int) :
    (db.refundRenter jobId account amount).journal =
      db.journal ++ entry jobId .refund account amount := by
  cases account with
  | none => simp [refundRenter, entry]
  | some renterId =>
    simp only [refundRenter, record, entry]
    split <;> simp

theorem creditProvider_journal (db : Database) (jobId : Nat) (account : Option Nat) (amount : Int) :
    (db.creditProvider jobId account amount).journal =
      db.journal ++ entry jobId .credit account amount := by
  cases account with
  | none => simp [creditProvider, entry]
  | some providerId =>
    simp only [creditProvider, record, entry]
    split <;> simp

theorem debitRenter_eq_some {db after : Database} {jobId renterId : Nat}
    {amount : Int} (debited : db.debitRenter jobId renterId amount = some after) :
    after = { db with
      renters := db.renters.update renterId
        (Renter.addBalance (-amount)) (Renter.addBalance_id (-amount))
      journal := db.journal ++ entry jobId .debit (some renterId) amount } := by
  unfold debitRenter at debited
  split at debited
  · cases debited
    simp only [record, entry]
    split <;> simp
  · cases debited

def paymentsFor (db : Database) (jobId : Nat) : List Payment :=
  db.journal.filter (fun payment => payment.jobId = jobId)

end Database

def ofKind (kind : PaymentKind) (payments : List Payment) :
    List Payment :=
  payments.filter (fun payment => payment.kind = kind)

variable (kind : PaymentKind)

@[simp]
theorem ofKind_append (first second : List Payment) :
    ofKind kind (first ++ second) = ofKind kind first ++ ofKind kind second :=
  List.filter_append _ _

def paid (kind : PaymentKind) (payments : List Payment) : Int :=
  ((ofKind kind payments).map Payment.amount).sum

@[simp]
theorem paid_nil : paid kind [] = 0 :=
  rfl

@[simp]
theorem paid_append (first second : List Payment) :
    paid kind (first ++ second) = paid kind first + paid kind second := by
  simp [paid]

theorem paid_entry (kind other : PaymentKind) (jobId account : Nat) (amount : Int) :
    paid kind (Database.entry jobId other (some account) amount) =
      if other = kind then amount else 0 := by
  by_cases nothing : amount = 0
  · simp [nothing]
  · by_cases same : other = kind <;> simp [Database.entry, nothing, same, paid, ofKind]

variable {jobId : Nat}

theorem entry_jobId {kind : PaymentKind} {account : Option Nat} {amount : Int} {payment : Payment}
    (member : payment ∈ Database.entry jobId kind account amount) :
    payment.jobId = jobId := by
  cases account with
  | none => cases member
  | some account =>
    simp only [Database.entry] at member
    split at member
    · cases member
    · rw [List.mem_singleton.mp member]

theorem paymentsFor_of_journal {before after : Database} {payments : List Payment}
    (journal : after.journal = before.journal ++ payments)
    (owned : ∀ payment ∈ payments, payment.jobId = jobId) (other : Nat) :
    after.paymentsFor other = before.paymentsFor other ++
      if other = jobId then payments else [] := by
  simp only [Database.paymentsFor, journal, List.filter_append]
  congr 1
  by_cases same : other = jobId
  · rw [if_pos same, List.filter_eq_self]
    intro payment member
    simp [owned payment member, same]
  · rw [if_neg same, List.filter_eq_nil_iff]
    intro payment member
    simp [owned payment member, Ne.symm same]

theorem ofKind_entry_of_ne {kind other : PaymentKind}
    (different : other ≠ kind) (jobId : Nat) (account : Option Nat) (amount : Int) :
    ofKind kind (Database.entry jobId other account amount) = [] := by
  cases account with
  | none => rfl
  | some account =>
    by_cases nothing : amount = 0
    · simp [nothing, ofKind]
    · simp [Database.entry, ofKind, different]

/-- A pod that has run since instant 0, prepaid with 1000 halala at one
halala per second. -/
def samplePod : Job :=
  { id := 5, jobType := .interactivePod, status := .running
    providerId := some 1, renterId := some 2, costHalala := 1000
    gpuCount := 1, gpuIndices := [], durationMinutes := 60
    maxDurationSeconds := some 3600, submittedAt := some 0
    createdAt := some 0, assignedAt := some 0, pickedUpAt := some 0
    startedAt := some 0, completedAt := none
    timeoutAt := some 3600000, refundedAt := none
    jupyterHostPort := some 8888, accessUrl := some "https://pod"
    durationSeconds := none, actualCostHalala := none
    providerEarnedHalala := none, dc1FeeHalala := none
    pricingClassRank := 1, priority := 5, checkpointEnabled := false
    retryCount := 0, maxRetries := 2, requiredVramMib := 0 }

def sampleProvider : Provider :=
  { id := 1, status := .online, isPaused := false, isBurst := false
    approved := true, burstGpuTypeId := none, stockAvailable := true
    lastHeartbeat := some 0, vramMib := 24576, docker := true
    cudaAvailable := true, gpuHealthy := true
    costPerGpuSecondHalala := some 1, gpuCount := 1, totalEarnings := 0
    claimableEarningsHalala := 0, totalJobs := 0, currentJobId := some 5 }

def sampleRenter : Renter :=
  { id := 2, balanceHalala := 0, totalSpentHalala := 0, totalJobs := 0
    maxActivePods := none }

end DcpPlatform.Pods
