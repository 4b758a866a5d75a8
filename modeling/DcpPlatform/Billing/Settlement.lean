import DcpPlatform.Billing.Subscriptions
import DcpPlatform.Foundation.Transaction
import Mathlib.Data.Rat.Floor

/-!
# Settling an inference request

The cost of a served request is taken from the renter's subscription credit
and then from its balance, the provider is credited its share, and the request
is entered in the books, all in one transaction that begins by claiming the
request id.
-/

namespace DcpPlatform.Billing

open Foundation

abbrev ProviderId := Nat

abbrev RequestId := String

structure Renter where
  balanceHalala : Int
  totalSpentHalala : Int
  totalJobs : Int
  updatedAt : Option Nat

/-- A provider; `totalEarnings` is in SAR, the other columns in halala. -/
structure Provider where
  claimableEarningsHalala : Int
  totalEarnings : ℚ
  totalEarningsHalala : Option Int
  totalJobs : Int

structure BillingAttempt where
  requestId : RequestId
  renterId : RenterId
  providerId : Option ProviderId
  costHalala : Int
  providerEarnedHalala : Int
  settledAt : Nat

structure UsageEvent where
  requestId : RequestId
  renterId : RenterId
  providerId : Option ProviderId
  modelId : String
  promptTokens : Nat
  completionTokens : Nat
  promptCostHalala : Int
  completionCostHalala : Int
  costHalala : Int
  providerPayoutHalala : Int
  dcpTakeHalala : Int
  inRateHalalaPer1m : Int
  outRateHalalaPer1m : Int
  occurredAt : Nat
  source : String

structure Job where
  jobId : String
  providerId : Option ProviderId
  renterId : RenterId
  model : Option String
  submittedAt : Nat
  startedAt : Nat
  completedAt : Nat
  durationSeconds : Nat
  costHalala : Int
  actualCostHalala : Int
  providerEarnedHalala : Int
  promptTokens : Nat
  completionTokens : Nat
  result : Option String
  notes : String

structure Database where
  renters : RenterId → Option Renter
  providers : ProviderId → Option Provider
  credits : Credits
  billingAttempts : Table BillingAttempt BillingAttempt.requestId
  usageEvents : Table UsageEvent UsageEvent.requestId
  jobs : Table Job Job.jobId

structure UsageEventRow where
  promptTokens : Nat
  completionTokens : Nat
  promptCostHalala : Int
  completionCostHalala : Int
  inRateHalalaPer1m : Int
  outRateHalalaPer1m : Int
  source : Option String

structure JobRow where
  jobId : String
  submittedAt : Option Nat
  startedAt : Option Nat
  completedAt : Option Nat
  durationSeconds : Nat
  result : Option String
  notes : Option String
  deriving DecidableEq

structure SettleArgs where
  requestId : RequestId
  renterId : RenterId
  providerId : Option ProviderId
  costHalala : ℚ
  modelId : Option String
  usageEventRow : Option UsageEventRow
  jobRow : Option JobRow
  nowIso : Nat

inductive SettleError where
  | requestIdRequired
  | insufficientBalance (renterId : RenterId) (deficitHalala balanceHalala : Int)
  | notNullViolation (column : String)

def SettleError.message : SettleError → String
  | .requestIdRequired => "settleInferenceOnce: requestId required"
  | .insufficientBalance renterId deficitHalala _ =>
    "Insufficient balance for renter " ++ toString renterId ++
      ": deficit " ++ toString deficitHalala ++ " halala"
  | .notNullViolation column => "NOT NULL constraint failed: " ++ column

structure Receipt where
  costHalala : Int
  providerEarnedHalala : Int
  paygShortfallHalala : Int
  subCreditsDrainedHalala : Int
  balanceAfterHalala : Int

inductive SettleResult where
  | settled (receipt : Receipt)
  | alreadySettled (existing : BillingAttempt)

def providerShare : Int := 75

def splitCost (totalHalala : Int) : Int × Int :=
  let provider := totalHalala * providerShare / 100
  (provider, totalHalala - provider)

/-- The cost that is charged: rounded up, and never negative. -/
def settledCost (costHalala : ℚ) : Int :=
  max 0 ⌈costHalala⌉

def SettleArgs.cost (args : SettleArgs) : Int :=
  settledCost args.costHalala

def SettleArgs.providerEarned (args : SettleArgs) : Int :=
  match args.providerId with
  | some _ => (splitCost args.cost).1
  | none => 0

def SettleArgs.attempt (args : SettleArgs) : BillingAttempt :=
  ⟨args.requestId, args.renterId, args.providerId, args.cost, args.providerEarned, args.nowIso⟩

def SettleArgs.usageEvent (args : SettleArgs) (row : UsageEventRow)
    (modelId : String) : UsageEvent :=
  { requestId := args.requestId
    renterId := args.renterId
    providerId := args.providerId
    modelId := modelId
    promptTokens := row.promptTokens
    completionTokens := row.completionTokens
    promptCostHalala := row.promptCostHalala
    completionCostHalala := row.completionCostHalala
    costHalala := args.cost
    providerPayoutHalala := args.providerEarned
    dcpTakeHalala := args.cost - args.providerEarned
    inRateHalalaPer1m := row.inRateHalalaPer1m
    outRateHalalaPer1m := row.outRateHalalaPer1m
    occurredAt := args.nowIso
    source := row.source.getD "v1/chat" }

def SettleArgs.job (args : SettleArgs) (row : JobRow) : Job :=
  { jobId := row.jobId
    providerId := args.providerId
    renterId := args.renterId
    model := args.modelId
    submittedAt := row.submittedAt.getD args.nowIso
    startedAt := row.startedAt.getD args.nowIso
    completedAt := row.completedAt.getD args.nowIso
    durationSeconds := row.durationSeconds
    costHalala := args.cost
    actualCostHalala := args.cost
    providerEarnedHalala := args.providerEarned
    promptTokens := (args.usageEventRow.map UsageEventRow.promptTokens).getD 0
    completionTokens := (args.usageEventRow.map UsageEventRow.completionTokens).getD 0
    result := row.result
    notes := row.notes.getD "v1:billingService.settleInferenceOnce" }

/-! ## The steps of a settlement -/

namespace Database

def balance (db : Database) (renterId : RenterId) : Int :=
  ((db.renters renterId).map Renter.balanceHalala).getD 0

def updateRenter (db : Database) (renterId : RenterId) (change : Renter → Renter) : Database :=
  { db with
    renters := fun other =>
      if other = renterId then (db.renters other).map change
      else db.renters other }

def updateProvider (db : Database) (providerId : ProviderId)
    (change : Provider → Provider) : Database :=
  { db with
    providers := fun other =>
      if other = providerId then (db.providers other).map change
      else db.providers other }

end Database

def Renter.pay (amount : Int) (now : Nat) (renter : Renter) : Renter :=
  { renter with
    balanceHalala := renter.balanceHalala - amount
    updatedAt := some now }

def Renter.addSpent (cost : Int) (renter : Renter) : Renter :=
  { renter with
    totalSpentHalala := renter.totalSpentHalala + cost
    totalJobs := renter.totalJobs + 1 }

def Provider.earn (earned : Int) (provider : Provider) : Provider :=
  { claimableEarningsHalala := provider.claimableEarningsHalala + earned
    totalEarnings := provider.totalEarnings + earned / 100
    totalEarningsHalala := some (provider.totalEarningsHalala.getD 0 + earned)
    totalJobs := provider.totalJobs + 1 }

abbrev Settling := Tx Database SettleError

def drainCredits (args : SettleArgs) : Settling Debit := do
  let debit ← Tx.read (fun db =>
    debitSubscriptionCredits db.credits args.renterId args.cost args.nowIso)
  Tx.write (fun db => { db with credits := debit.credits })
  return debit

def debitBalance (args : SettleArgs) (paygShortfall : Int) :
    Settling PUnit := do
  if 0 < paygShortfall then
    let renter ← Tx.read (fun db => db.renters args.renterId)
    match renter.filter (fun row => paygShortfall ≤ row.balanceHalala) with
    | some _ =>
      Tx.write (fun db =>
        db.updateRenter args.renterId (Renter.pay paygShortfall args.nowIso))
    | none =>
      let balance := (renter.map Renter.balanceHalala).getD 0
      Tx.fail (.insufficientBalance args.renterId (paygShortfall - balance) balance)
  else
    return PUnit.unit

def creditProvider (args : SettleArgs) : Settling PUnit :=
  Tx.write (fun db =>
    match args.providerId with
    | some providerId =>
      if 0 < args.providerEarned then
        db.updateProvider providerId (Provider.earn args.providerEarned)
      else
        db
    | none => db)

def insertUsageEvent (args : SettleArgs) : Settling PUnit :=
  match args.usageEventRow with
  | none => return PUnit.unit
  | some row =>
    match args.modelId with
    | none => Tx.fail (.notNullViolation "usage_events.model_id")
    | some modelId =>
      Tx.write (fun db => { db with
        usageEvents := db.usageEvents.insertIfNew (args.usageEvent row modelId) })

def insertJob (args : SettleArgs) : Settling PUnit :=
  Tx.write (fun db =>
    match args.jobRow with
    | some row =>
      if row.jobId ≠ "" then
        { db with jobs := db.jobs.insertIfNew (args.job row) }
      else
        db
    | none => db)

def addRenterTotals (args : SettleArgs) : Settling PUnit :=
  Tx.write (fun db =>
    db.updateRenter args.renterId (Renter.addSpent args.cost))

def settleClaimed (args : SettleArgs) : Settling SettleResult := do
  let debit ← drainCredits args
  debitBalance args debit.shortfall
  creditProvider args
  insertUsageEvent args
  insertJob args
  addRenterTotals args
  let balanceAfter ← Tx.read (fun db => db.balance args.renterId)
  return .settled {
    costHalala := args.cost
    providerEarnedHalala := args.providerEarned
    paygShortfallHalala := debit.shortfall
    subCreditsDrainedHalala := debit.drained
    balanceAfterHalala := balanceAfter }

def settleBody (args : SettleArgs) : Settling SettleResult := do
  let existing ← Tx.read (fun db =>
    db.billingAttempts.lookup args.requestId)
  match existing with
  | some attempt => return .alreadySettled attempt
  | none =>
    Tx.write (fun db => { db with
      billingAttempts := db.billingAttempts.insertIfNew args.attempt })
    settleClaimed args

def settleInferenceOnce (args : SettleArgs) : Settling SettleResult :=
  if args.requestId = "" then
    Tx.fail .requestIdRequired
  else
    Tx.transaction (settleBody args)

end DcpPlatform.Billing
