import DcpPlatform.Foundation.Money
import DcpPlatform.Foundation.Query
import DcpPlatform.Foundation.Text
import DcpPlatform.Foundation.Transition
import Mathlib.Data.List.Sort
import Mathlib.Data.List.Dedup

/-!
# Job settlements and payout batches

`recordSettlement` writes one row of `job_settlements` for a job.
`generateProviderPayoutBatch` reads the completed rows of a window, both ends
included. Instants lie within the years whose ISO texts are ordered like them.
-/

namespace DcpPlatform.PayoutBatches

open Foundation

inductive SettlementStatus where
  | completed | failed | refunded
  deriving DecidableEq

structure JobSettlement where
  id : Nat
  jobId : String
  providerId : Option Nat
  renterId : Nat
  durationSeconds : ℚ
  gpuRatePerSecond : ℚ
  grossAmountHalala : Int
  platformFeeHalala : Int
  providerPayoutHalala : Int
  status : SettlementStatus
  settledAt : Int

structure WithdrawalRequest where
  providerId : Nat
  iban : String
  createdAt : Int

structure Database where
  settlements : Table JobSettlement JobSettlement.jobId
  withdrawals : List WithdrawalRequest

def platformFeePercent : Int := 15

def costRatePerMinute (jobType : String) : ℚ :=
  if jobType = "llm-inference" then 9
  else if jobType = "llm_inference" then 9
  else if jobType = "training" then 7
  else if jobType = "rendering" then 10
  else if jobType = "image_generation" then 10
  else if jobType = "vllm_serve" then 9
  else 6

def ratePerSecond (jobType : String) : ℚ :=
  costRatePerMinute jobType / 60

def calcGross (durationSeconds : ℚ) (jobType : String) : Int :=
  max 1 (mathRound (durationSeconds * ratePerSecond jobType))

def splitFee (grossHalala : Int) : Int × Int :=
  let fee := grossHalala * platformFeePercent / 100
  (fee, grossHalala - fee)

structure FinishedJob where
  jobId : String
  providerId : Option Nat
  renterId : Nat
  durationSeconds : ℚ
  jobType : String
  status : SettlementStatus

def settlementRow (job : FinishedJob) (id : Nat) (now : Int) :
    JobSettlement :=
  let grossHalala :=
    if job.status = .completed then
      calcGross job.durationSeconds job.jobType
    else 0
  { id := id
    jobId := job.jobId
    providerId := job.providerId
    renterId := job.renterId
    durationSeconds := job.durationSeconds
    gpuRatePerSecond := ratePerSecond job.jobType
    grossAmountHalala := grossHalala
    platformFeeHalala := (splitFee grossHalala).1
    providerPayoutHalala := (splitFee grossHalala).2
    status := job.status
    settledAt := now }

def recordSettlement (db : Database) (job : FinishedJob) (id : Nat)
    (now : Int) : JobSettlement × Database :=
  match db.settlements.lookup job.jobId with
  | some existing => (existing, db)
  | none =>
    let row := settlementRow job id now
    (row, { db with settlements := db.settlements.insertIfNew row })

def ExportedIn (startIso endIso : Int) (row : JobSettlement) : Prop :=
  row.status = .completed ∧ row.providerId ≠ none ∧
    startIso ≤ row.settledAt ∧ row.settledAt ≤ endIso
deriving Decidable

structure SourceRow where
  providerId : Nat
  payoutHalala : Int
  settledJobs : Nat

def exportedRows (db : Database) (startIso endIso : Int) :
    List JobSettlement :=
  db.settlements.select (ExportedIn startIso endIso)

def rowsOf (rows : List JobSettlement) (providerId : Nat) :
    List JobSettlement :=
  rows.filter (fun row => row.providerId = some providerId)

def payoutOf (rows : List JobSettlement) (providerId : Nat) : Int :=
  ((rowsOf rows providerId).map JobSettlement.providerPayoutHalala).sum

def sourceRows (rows : List JobSettlement) : List SourceRow :=
  (((rows.filterMap JobSettlement.providerId).dedup).insertionSort
    (fun first second => first ≤ second)).map (fun providerId =>
      { providerId := providerId
        payoutHalala := payoutOf rows providerId
        settledJobs := (rowsOf rows providerId).length })

def ibanLookup (db : Database) (providerId : Nat) : Option String :=
  (firstBy (fun first second => second.createdAt < first.createdAt)
    (db.withdrawals.filter (fun request =>
      request.providerId = providerId ∧ sqlTrim request.iban ≠ ""))).map WithdrawalRequest.iban

structure Entry where
  providerId : Nat
  iban : String
  amountHalala : Int
  currency : String
  settledJobs : Nat

structure Skipped where
  providerId : Nat
  amountHalala : Int
  reason : String

structure Tally where
  entries : List Entry
  skipped : List Skipped
  ledgerTotalHalala : Int
  coveredTotalHalala : Int

def Tally.start : Tally :=
  ⟨[], [], 0, 0⟩

def exportRow (db : Database) (currency : String) (tally : Tally) (row : SourceRow) : Tally :=
  if row.payoutHalala ≤ 0 then
    tally
  else
    match ibanLookup db row.providerId with
    | none =>
      { tally with
        ledgerTotalHalala := tally.ledgerTotalHalala + row.payoutHalala
        skipped := tally.skipped ++ [⟨row.providerId, row.payoutHalala, "missing_iban"⟩] }
    | some iban =>
      { tally with
        ledgerTotalHalala := tally.ledgerTotalHalala + row.payoutHalala
        coveredTotalHalala := tally.coveredTotalHalala + row.payoutHalala
        entries := tally.entries ++
          [⟨row.providerId, trim iban, row.payoutHalala, currency, row.settledJobs⟩] }

structure PayoutBatch where
  createdAt : Int
  windowStart : Int
  windowEnd : Int
  currency : String
  ledgerHalala : Int
  coveredHalala : Int
  exportedHalala : Int
  skippedHalala : Int
  providersTotal : Nat
  entries : List Entry
  skipped : List Skipped

/-- `none` stands for a text that is no date. -/
def assertIso (value : Option Int) (name : String) : Except String Int :=
  match value with
  | none => .error (name ++ " must be a valid ISO timestamp")
  | some instant => .ok instant

def generateProviderPayoutBatch (db : Database)
    (windowStart windowEnd : Option Int) (currency : String)
    (now : Int) : Except String PayoutBatch := do
  let startIso ← assertIso windowStart "windowStart"
  let endIso ← assertIso windowEnd "windowEnd"
  if endIso < startIso then
    .error "windowStart must be <= windowEnd"
  else
    let rows := sourceRows (exportedRows db startIso endIso)
    let tally := rows.foldl (exportRow db currency) Tally.start
    let entries := tally.entries.insertionSort
      (fun first second => first.providerId ≤ second.providerId)
    let entriesTotalHalala := (entries.map Entry.amountHalala).sum
    if entriesTotalHalala ≠ tally.coveredTotalHalala then
      .error (s!"payout batch mismatch: entries={entriesTotalHalala} " ++
        s!"covered={tally.coveredTotalHalala}")
    else
      .ok {
        createdAt := now
        windowStart := startIso
        windowEnd := endIso
        currency := currency
        ledgerHalala := tally.ledgerTotalHalala
        coveredHalala := tally.coveredTotalHalala
        exportedHalala := entriesTotalHalala
        skippedHalala := (tally.skipped.map Skipped.amountHalala).sum
        providersTotal := rows.length
        entries := entries
        skipped := tally.skipped }

end DcpPlatform.PayoutBatches
