import DcpPlatform.Billing.Settlement
import DcpPlatform.Jobs.Reports
import DcpPlatform.Topups.Store

/-!
# What takes money from a renter

The database is the one of the jobs with the credit holds, the payments and
the books of the inference billing. A dispatched job only reserves its
estimate, in a row of `credit_holds` whose `job_id` is unique.
-/

namespace DcpPlatform.Wallets

open Foundation

inductive HoldStatus where
  | held | settled | released
  deriving DecidableEq

structure CreditHold where
  jobId : Nat
  renterId : Nat
  amountHalala : Int
  status : HoldStatus
  actualAmountHalala : Option Int

/-- The renters are those of `jobs`; the column `billing.renters` is replaced
whenever the billing runs. -/
structure Database where
  jobs : Jobs.Database
  creditHolds : Table CreditHold CreditHold.jobId
  payments : Table Topups.Payment Topups.Payment.paymentId
  billing : Billing.Database

def CreditHold.resolve (status : HoldStatus) (actual : Int) (hold : CreditHold) : CreditHold :=
  { hold with status := status, actualAmountHalala := some actual }

@[simp]
theorem CreditHold.resolve_jobId (status : HoldStatus) (actual : Int)
    (hold : CreditHold) : (hold.resolve status actual).jobId = hold.jobId :=
  rfl

namespace Database

variable (db : Database)

def balanceOf (renterId : Nat) : Option Int :=
  (db.jobs.renters.lookup renterId).map Jobs.Renter.balanceHalala

def withRenters (renters : Table Jobs.Renter Jobs.Renter.id) : Database :=
  { db with jobs := { db.jobs with renters := renters } }

def addBalance (renterId : Nat) (amount : Int) : Database :=
  db.withRenters (db.jobs.renters.update renterId (Jobs.Renter.addBalance amount)
    (Jobs.Renter.addBalance_id amount))

def heldFor (jobId : Nat) : Option CreditHold :=
  (db.creditHolds.lookup jobId).filter (fun hold => hold.status = .held)

def getAvailableBalance (renterId : Nat) : Option Int :=
  (db.balanceOf renterId).map (fun balance =>
    balance - ((db.creditHolds.rows.filter (fun hold =>
      hold.renterId = renterId ∧ hold.status = .held)).map CreditHold.amountHalala).sum)

end Database

inductive DispatchError where
  | invalidCost
  | renterNotFound
  | insufficientCredits (available required shortfall : Int)
  | jobHasHold

/-- Check the credit and place the hold, or reuse the one of the job. The
queueing that follows moves no money. -/
def dispatch (db : Database) (renterId jobId : Nat)
    (estimatedCostHalala : Int) : Except DispatchError Database :=
  if estimatedCostHalala < 0 then
    .error .invalidCost
  else
    match db.getAvailableBalance renterId with
    | none => .error .renterNotFound
    | some available =>
      if available < estimatedCostHalala then
        .error (.insufficientCredits available estimatedCostHalala
          (estimatedCostHalala - available))
      else
        match (db.heldFor jobId).filter (fun hold =>
          hold.renterId = renterId) with
        | some _ => .ok db
        | none =>
          if fresh : db.creditHolds.lookup jobId = none then
            .ok { db with
              creditHolds := db.creditHolds.insert
                ⟨jobId, renterId, estimatedCostHalala, .held, none⟩
                fresh }
          else
            .error .jobHasHold

structure Completion where
  settled : Bool
  actualCostHalala : Int
  refundedHalala : Int

/-- The actual cost is taken whatever the balance is. A job without a hold
is left alone. -/
def completeJob (db : Database) (jobId : Nat) (actualCostHalala : Int) :
    Database × Completion :=
  match db.heldFor jobId with
  | none => (db, ⟨false, actualCostHalala, 0⟩)
  | some hold =>
    let cost := max 0 actualCostHalala
    let debited :=
      if 0 < cost then db.addBalance hold.renterId (-cost) else db
    ({ debited with
      creditHolds := debited.creditHolds.update jobId (CreditHold.resolve .settled cost)
        (CreditHold.resolve_jobId .settled cost) },
      ⟨true, cost, max 0 (hold.amountHalala - cost)⟩)

structure Release where
  released : Bool
  releasedHalala : Int

def failJob (db : Database) (jobId : Nat) : Database × Release :=
  match db.heldFor jobId with
  | none => (db, ⟨false, 0⟩)
  | some hold =>
    ({ db with
      creditHolds := db.creditHolds.update jobId (CreditHold.resolve .released 0)
        (CreditHold.resolve_jobId .released 0) },
      ⟨true, hold.amountHalala⟩)

def paymentsView (renter : Jobs.Renter) : Topups.Renter :=
  { id := renter.id
    balanceHalala := renter.balanceHalala
    cardToken := none
    autoTopupEnabled := false
    thresholdHalala := 0
    topupAmountHalala := 0
    monthlyCapHalala := 0
    monthlyUsedHalala := 0
    monthlyResetAt := none
    consecutiveFailures := 0
    pausedUntil := none
    lastAttemptAt := none }

def Database.forPayments (db : Database) : Topups.Database :=
  { payments := db.payments
    renters := db.jobs.renters.view paymentsView (fun _ => rfl)
    attempts := Table.empty
    credits := []
    withdrawals := [] }

def writePaid (after : Topups.Database) (renter : Jobs.Renter) :
    Jobs.Renter :=
  { renter with
    balanceHalala :=
      ((after.renters.lookup renter.id).map Topups.Renter.balanceHalala).getD renter.balanceHalala }

def Database.fromPayments (db : Database) (after : Topups.Database) :
    Database :=
  { db.withRenters (db.jobs.renters.updateAll (writePaid after) (fun _ => rfl)) with
    payments := after.payments }

def markPaymentPaidOnce (db : Database) (paymentId : Topups.PaymentKey)
    (chargeId renterId amountHalala : Nat) (now : Int) : Database :=
  db.fromPayments
    (Topups.markPaymentPaidOnce db.forPayments ⟨paymentId, chargeId, renterId, amountHalala⟩ now).1

def markPaymentRefundedOnce (db : Database) (paymentId : Topups.PaymentKey) (renterId : Nat)
    (refundAmountHalala now : Int) : Database :=
  db.fromPayments
    (Topups.markPaymentRefundedOnce db.forPayments paymentId renterId refundAmountHalala now).1

def billingView (renter : Jobs.Renter) : Billing.Renter :=
  { balanceHalala := renter.balanceHalala
    totalSpentHalala := renter.totalSpentHalala
    totalJobs := renter.totalJobs
    updatedAt := none }

def Database.forBilling (db : Database) : Billing.Database :=
  { db.billing with
    renters := fun renterId =>
      (db.jobs.renters.lookup renterId).map billingView }

def writeBilled (after : Billing.Database) (renter : Jobs.Renter) :
    Jobs.Renter :=
  match after.renters renter.id with
  | none => renter
  | some row =>
    { id := renter.id
      balanceHalala := row.balanceHalala
      totalSpentHalala := row.totalSpentHalala
      totalJobs := row.totalJobs.toNat }

@[simp]
theorem writeBilled_id (after : Billing.Database) (renter : Jobs.Renter) :
    (writeBilled after renter).id = renter.id := by
  rw [writeBilled]
  cases after.renters renter.id with
  | none | some row => rfl

def Database.fromBilling (db : Database) (after : Billing.Database) :
    Database :=
  { db.withRenters (db.jobs.renters.updateAll (writeBilled after) (writeBilled_id after)) with
    billing := after }

def settleInferenceOnce (db : Database) (args : Billing.SettleArgs) :
    Database :=
  db.fromBilling (Billing.settleInferenceOnce args db.forBilling).2

/-- `UPDATE renters SET balance_halala = balance_halala - ? WHERE id = ? AND
balance_halala >= ?`: the debit of a job that is submitted or retried, of a
vLLM job, of a pod and its extension, and of a volume. -/
def debitIfCovered (db : Database) (renterId : Nat) (amount : Int) :
    Database :=
  db.withRenters (db.jobs.renters.updateWhere renterId (fun renter => amount ≤ renter.balanceHalala)
    (Jobs.Renter.addBalance (-amount))
    (Jobs.Renter.addBalance_id (-amount)))

def costPer1kEmbedTokensHalala : ℚ := 1

def costPer1kRerankTokensHalala : ℚ := 1

def costPer1kGenTokensHalala : ℚ := 5

def ingestCost (embedTokens : Nat) : Int :=
  ⌈(embedTokens : ℚ) / 1000 * costPer1kEmbedTokensHalala⌉

def queryCost (embedTokens rerankTokens : Nat) (genTokens : ℚ) : Int :=
  ⌈(embedTokens : ℚ) / 1000 * costPer1kEmbedTokensHalala +
    (rerankTokens : ℚ) / 1000 * costPer1kRerankTokensHalala +
    genTokens / 1000 * costPer1kGenTokensHalala⌉

/-- The debit of `POST /api/rag/ingest` and of `POST /api/rag/query`. -/
def chargeRag (db : Database) (renterId : Nat) (costHalala : Int) :
    Database :=
  if 0 < costHalala then db.addBalance renterId (-costHalala) else db

def postJobResult (db : Database) (report : Jobs.JobResultReport) (now : Int) : Database :=
  match Jobs.postJobResult db.jobs report now with
  | .ok after => { db with jobs := after }
  | .error _ => db

inductive Action where
  | jobResult (report : Jobs.JobResultReport) (now : Int)
  | dispatch (renterId jobId : Nat) (estimatedCostHalala : Int)
  | completeJob (jobId : Nat) (actualCostHalala : Int)
  | failJob (jobId : Nat)
  | payPayment (paymentId : Topups.PaymentKey) (chargeId renterId amountHalala : Nat) (now : Int)
  | refundPayment (paymentId : Topups.PaymentKey) (renterId : Nat) (refundAmountHalala now : Int)
  | settleInference (args : Billing.SettleArgs)
  | debitIfCovered (renterId : Nat) (amount : Int)
  | ragIngest (renterId embedTokens : Nat)
  | ragQuery (renterId embedTokens rerankTokens : Nat) (genTokens : ℚ)

def perform (db : Database) : Action → Database
  | .jobResult report now => postJobResult db report now
  | .dispatch renterId jobId estimatedCostHalala =>
    match dispatch db renterId jobId estimatedCostHalala with
    | .ok after => after
    | .error _ => db
  | .completeJob jobId actualCostHalala =>
    (completeJob db jobId actualCostHalala).1
  | .failJob jobId => (failJob db jobId).1
  | .payPayment paymentId chargeId renterId amountHalala now =>
    markPaymentPaidOnce db paymentId chargeId renterId amountHalala now
  | .refundPayment paymentId renterId refundAmountHalala now =>
    markPaymentRefundedOnce db paymentId renterId refundAmountHalala now
  | .settleInference args => settleInferenceOnce db args
  | .debitIfCovered renterId amount => debitIfCovered db renterId amount
  | .ragIngest renterId embedTokens =>
    chargeRag db renterId (ingestCost embedTokens)
  | .ragQuery renterId embedTokens rerankTokens genTokens =>
    chargeRag db renterId (queryCost embedTokens rerankTokens genTokens)

def next (db : Database) (action : Action) : Option Database :=
  some (perform db action)

end DcpPlatform.Wallets
