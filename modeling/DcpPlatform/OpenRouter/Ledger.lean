import DcpPlatform.Foundation.Query
import DcpPlatform.Foundation.Text
import DcpPlatform.Foundation.Transaction
import Mathlib.Data.List.Sort
import Mathlib.Data.Rat.Defs

/-!
# The OpenRouter usage ledger

`recordOpenRouterUsage` appends one row for each request that was served; only
a row recorded as pending waits for a settlement. `computeDryRunSummary` looks
at the pending rows of a window whose two ends are included.
-/

namespace DcpPlatform.OpenRouter

open Foundation List

/-! ## Rows -/

inductive UsageStatus where
  | pending | settled | failed
  deriving DecidableEq

structure Usage where
  id : Nat
  requestId : Option String
  renterId : Int
  providerId : Option Int
  model : String
  promptTokens : Int
  completionTokens : Int
  totalTokens : Int
  promptCostHalala : Int
  completionCostHalala : Int
  tokenRateHalala : Option Int
  costHalala : Int
  currency : String
  settlementStatus : UsageStatus
  settlementId : Option Nat
  createdAt : Int

inductive SettlementMode where
  | invoice | autoTopup
  deriving DecidableEq

/-- `partially` is the source's `partial`. -/
inductive SettlementStatus where
  | pending | processing | completed | partially | failed
  deriving DecidableEq

structure Settlement where
  id : Nat
  periodStart : Int
  periodEnd : Int
  cadence : String
  settlementMode : SettlementMode
  expectedTotalHalala : Int
  reconciledHalala : Int
  discrepancyHalala : Int
  usageCount : Nat
  status : SettlementStatus
  failureReason : Option String
  createdAt : Int
  completedAt : Option Int

structure Item where
  usageId : Nat
  settlementId : Nat
  renterId : Int
  providerId : Option Int
  costHalala : Int
  createdAt : Int

inductive InvoiceStatus where
  | issued | paid | void

structure Invoice where
  settlementId : Nat
  amountHalala : Int
  dueAt : Int
  status : InvoiceStatus
  createdAt : Int

inductive TopupStatus where
  | queued | processed | failed

structure Topup where
  settlementId : Nat
  amountHalala : Int
  status : TopupStatus
  createdAt : Int

inductive Severity where
  | warning | critical

structure Alert where
  settlementId : Option Nat
  severity : Severity
  code : String
  message : String
  createdAt : Int

structure Database where
  usage : Table Usage Usage.id
  settlements : Table Settlement Settlement.id
  items : Table Item Item.usageId
  invoices : Table Invoice Invoice.settlementId
  topups : Table Topup Topup.settlementId
  alerts : List Alert

def Database.empty : Database :=
  ⟨Table.empty, Table.empty, Table.empty, Table.empty, Table.empty, []⟩

/-- A text without its outer spaces, cut to a length; a field that is no text
counts as empty. -/
def cleanText (limit : Nat) (value : Option String) : String :=
  match value with
  | none => ""
  | some text => clip limit (trim text)

def toInt (value : Option ℚ) (min max : Option Int) : Option Int :=
  match value with
  | none => none
  | some number =>
    if number.den = 1 ∧ (∀ least ∈ min, least ≤ number.num) ∧ (∀ most ∈ max, number.num ≤ most) then
      some number.num
    else
      none

def maxTokens : Int := 1000000000

def maxHalala : Int := 100000000000

structure UsageRecord where
  requestId : Option String
  promptCostHalala : Option ℚ
  completionCostHalala : Option ℚ
  tokenRateHalala : Option ℚ
  renterId : Option ℚ
  providerId : Option ℚ
  model : Option String
  promptTokens : Option ℚ
  completionTokens : Option ℚ
  totalTokens : Option ℚ
  costHalala : Option ℚ
  currency : String
  settlementStatus : String

def cleanSettlementStatus (settlementStatus : String) : UsageStatus :=
  if settlementStatus = "failed" then .failed
  else if settlementStatus = "settled" then .settled
  else .pending

def usageRow (input : UsageRecord) (id : Nat) (renterId : Int) (now : Int) : Usage :=
  let cleanRequestId := cleanText 200 input.requestId
  let cleanTokenRateHalala := toInt input.tokenRateHalala (some 0) (some maxHalala)
  let cleanPrompt := (toInt input.promptTokens (some 0) (some maxTokens)).getD 0
  let cleanCompletion := (toInt input.completionTokens (some 0) (some maxTokens)).getD 0
  let cleanTotal :=
    (toInt input.totalTokens (some 0) (some maxTokens)).getD (cleanPrompt + cleanCompletion)
  let safeTokenRate := cleanTokenRateHalala.getD 0
  let cleanPromptCost :=
    (toInt input.promptCostHalala (some 0) (some maxHalala)).getD (cleanPrompt * safeTokenRate)
  let cleanCompletionCost := (toInt input.completionCostHalala (some 0) (some maxHalala)).getD
      (cleanCompletion * safeTokenRate)
  let cleanCost :=
    (toInt input.costHalala (some 0) (some maxHalala)).getD (cleanPromptCost + cleanCompletionCost)
  { id := id
    requestId := if cleanRequestId = "" then none else some cleanRequestId
    renterId := renterId
    providerId := toInt input.providerId (some 1) none
    model := cleanText 200 input.model
    promptTokens := cleanPrompt
    completionTokens := cleanCompletion
    totalTokens := cleanTotal
    promptCostHalala := cleanPromptCost
    completionCostHalala := cleanCompletionCost
    tokenRateHalala := cleanTokenRateHalala
    costHalala := cleanCost
    currency := if input.currency = "" then "SAR" else input.currency
    settlementStatus := cleanSettlementStatus input.settlementStatus
    settlementId := none
    createdAt := now }

def recordedRow (db : Database) (requestId : String) : Option Usage :=
  if requestId = "" then none
  else db.usage.rows.find? (fun row => row.requestId = some requestId)

def recordOpenRouterUsage (db : Database) (input : UsageRecord)
    (id : Nat) (now : Int) : Except String (Usage × Database) :=
  match toInt input.renterId (some 1) none with
  | none => .error "renterId must be a positive integer"
  | some renterId =>
    if cleanText 200 input.model = "" then
      .error "model is required"
    else
      match recordedRow db (cleanText 200 input.requestId) with
      | some existing => .ok (existing, db)
      | none =>
        let row := usageRow input id renterId now
        if fresh : db.usage.lookup row.id = none then
          .ok (row, { db with usage := db.usage.insert row fresh })
        else
          .error "UNIQUE constraint failed: openrouter_usage_ledger.id"

structure Clock where
  lookback : Int
  upTo : Int
  created : Int
  issued : Int
  finished : Int

def dayMs : Int := 24 * 3600 * 1000

structure SettlementRequest where
  periodStart : Option Int
  periodEnd : Option Int
  mode : String
  cadence : Option String
  expectedTotalHalala : Option ℚ

def SettlementRequest.since (request : SettlementRequest) (clock : Clock) : Int :=
  request.periodStart.getD (clock.lookback - dayMs)

def SettlementRequest.until (request : SettlementRequest) (clock : Clock) : Int :=
  request.periodEnd.getD clock.upTo

structure DryRunSummary where
  periodStart : Int
  periodEnd : Int
  usageCount : Nat
  expectedTotalHalala : Int
  reconciledHalala : Int
  discrepancyHalala : Int
  usageIds : List Nat

def PendingIn (since upTo : Int) (row : Usage) : Prop :=
  row.settlementStatus = .pending ∧ since ≤ row.createdAt ∧ row.createdAt ≤ upTo
deriving Decidable

def usageRows (db : Database) (since upTo : Int) : List Usage :=
  (db.usage.select (PendingIn since upTo)).insertionSort
    (fun first second => first.createdAt ≤ second.createdAt)

def computeDryRunSummary (db : Database) (request : SettlementRequest)
    (clock : Clock) : DryRunSummary :=
  let since := request.since clock
  let upTo := request.until clock
  let rows := usageRows db since upTo
  let reconciledHalala := (rows.map Usage.costHalala).sum
  let expectedHalala := (toInt request.expectedTotalHalala (some 0) none).getD reconciledHalala
  { periodStart := since
    periodEnd := upTo
    usageCount := rows.length
    expectedTotalHalala := expectedHalala
    reconciledHalala := reconciledHalala
    discrepancyHalala := expectedHalala - reconciledHalala
    usageIds := rows.map Usage.id }

variable {db : Database} {row : Usage}

theorem mem_usageRows_iff {since upTo : Int} :
    row ∈ usageRows db since upTo ↔
      PendingIn since upTo row ∧ db.usage.lookup row.id = some row := by
  rw [usageRows, mem_insertionSort]
  exact Table.mem_select_iff

variable {id : Nat}

theorem mem_usageIds_iff {request : SettlementRequest} {clock : Clock} :
    id ∈ (computeDryRunSummary db request clock).usageIds ↔ ∃ row, db.usage.lookup id = some row ∧
      PendingIn (request.since clock) (request.until clock) row := by
  constructor
  · intro member
    obtain ⟨row, rowMember, rfl⟩ := mem_map.mp member
    obtain ⟨selected, found⟩ := mem_usageRows_iff.mp rowMember
    exact ⟨row, found, selected⟩
  · rintro ⟨row, found, selected⟩
    have rowKey := Table.lookup_key found
    subst rowKey
    exact mem_map_of_mem (mem_usageRows_iff.mpr ⟨selected, found⟩)

theorem reconciledHalala_eq (db : Database) (request : SettlementRequest) (clock : Clock) :
    (computeDryRunSummary db request clock).reconciledHalala =
      ((computeDryRunSummary db request clock).usageIds.map
        (fun id => ((db.usage.lookup id).map Usage.costHalala).getD 0)).sum
      := by
  simp only [computeDryRunSummary, map_map]
  apply congrArg sum
  apply map_congr_left
  intro row member
  have found := (mem_usageRows_iff.mp member).2
  simp [found]

theorem recordOpenRouterUsage_cases {db after : Database} {input : UsageRecord} {now : Int}
    (recorded : recordOpenRouterUsage db input id now = .ok (row, after)) :
    after = db ∨ ∃ (fresh : db.usage.lookup row.id = none),
      row.settlementId = none ∧ after = { db with usage := db.usage.insert row fresh } := by
  unfold recordOpenRouterUsage at recorded
  split at recorded
  · cases recorded
  · split at recorded
    · cases recorded
    · split at recorded
      · injection recorded with same
        exact Or.inl (congrArg Prod.snd same).symm
      · dsimp only at recorded
        split at recorded
        · rename_i fresh
          injection recorded with same
          injection same with sameRow sameDb
          subst sameRow
          exact Or.inr ⟨fresh, rfl, sameDb.symm⟩
        · cases recorded

end DcpPlatform.OpenRouter
