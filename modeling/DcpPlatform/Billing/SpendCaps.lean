import DcpPlatform.Billing.Deliveries
import DcpPlatform.Billing.Funds
import DcpPlatform.Foundation.Calls
import DcpPlatform.OpenRouter.Ledger
import DcpPlatform.Topups.MonthlyCap

/-!
# Monthly spend caps

The gates compare what a renter and a scoped API key have spent in the month
with their caps. They read the usage ledger, which a chat request writes when
its answer has been delivered. All requests are those of one renter.
-/

namespace DcpPlatform.Billing

open Foundation

abbrev KeyId := Nat

/-- A row of `openrouter_usage_ledger` with the API key it came through. -/
structure LedgerRow where
  usage : OpenRouter.Usage
  renterApiKeyId : Option KeyId
  nonneg : 0 ≤ usage.costHalala

theorem toInt_nonneg (value : Option ℚ) (most : Option Int) :
    0 ≤ (OpenRouter.toInt value (some 0) most).getD 0 := by
  unfold OpenRouter.toInt
  cases value with
  | none => exact le_refl 0
  | some number =>
    dsimp only
    split
    · next bounds => exact bounds.2.1 0 rfl
    · exact le_refl 0

theorem getD_toInt_nonneg (value : Option ℚ) (most : Option Int)
    {fallback : Int} (nonneg : 0 ≤ fallback) :
    0 ≤ (OpenRouter.toInt value (some 0) most).getD fallback := by
  have given := toInt_nonneg value most
  cases read : OpenRouter.toInt value (some 0) most with
  | none => exact nonneg
  | some number =>
    rw [read] at given
    exact given

theorem usageRow_cost_nonneg (input : OpenRouter.UsageRecord) (id : Nat) (renterId now : Int) :
    0 ≤ (OpenRouter.usageRow input id renterId now).costHalala := by
  refine getD_toInt_nonneg _ _ (add_nonneg ?_ ?_)
  · exact getD_toInt_nonneg _ _ (mul_nonneg (toInt_nonneg _ _) (toInt_nonneg _ _))
  · exact getD_toInt_nonneg _ _ (mul_nonneg (toInt_nonneg _ _) (toInt_nonneg _ _))

def monthOf (instant : Nat) : Int :=
  Topups.startOfCurrentMonthIso instant

def Delivery.usageRecord (delivery : Delivery) (settlementStatus : String) :
    OpenRouter.UsageRecord where
  requestId := some delivery.requestId
  promptCostHalala := some delivery.usage.promptCostHalala
  completionCostHalala := some delivery.usage.completionCostHalala
  tokenRateHalala := none
  renterId := some delivery.renterId
  providerId := some delivery.providerId
  model := some delivery.modelId
  promptTokens := some delivery.usage.promptTokens
  completionTokens := some delivery.usage.completionTokens
  totalTokens := none
  costHalala := some delivery.usage.costHalala
  currency := "SAR"
  settlementStatus := settlementStatus

def receiptId (requestId : RequestId) : Option String :=
  let cleanRequestId := OpenRouter.cleanText 200 (some requestId)
  if cleanRequestId = "" then none else some cleanRequestId

def Delivery.receipt (delivery : Delivery) (id : Nat)
    (renterApiKeyId : Option KeyId) (settlementStatus : String) :
    LedgerRow where
  usage :=
    OpenRouter.usageRow (delivery.usageRecord settlementStatus) id delivery.renterId delivery.now
  renterApiKeyId := renterApiKeyId
  nonneg := usageRow_cost_nonneg _ _ _ _

def recordUsage (ledger : List LedgerRow) (delivery : Delivery)
    (renterApiKeyId : Option KeyId) (settlementStatus : String) :
    List LedgerRow :=
  let row := delivery.receipt ledger.length renterApiKeyId settlementStatus
  if delivery.renterId = 0 ∨ OpenRouter.cleanText 200 (some delivery.modelId) = "" ∨
    ledger.any (fun other =>
      other.usage.requestId = row.usage.requestId) then
    ledger
  else
    ledger ++ [row]

structure Caps where
  monthlySpendCapHalala : Int
  keyCapHalala : KeyId → Int

structure CapCheck where
  capped : Bool
  ok : Bool
  capHalala : Int
  spentThisMonthHalala : Int
  remainingHalala : Option Int
  estimateHalala : Int

def spentThisMonth (ledger : List LedgerRow) (renterId : RenterId)
    (counts : LedgerRow → Bool) (month : Int) : Int :=
  max 0 ((ledger.filter (fun row =>
    row.usage.renterId = (renterId : Int) && counts row &&
      Topups.startOfCurrentMonthIso row.usage.createdAt = month)).map
      (fun row => row.usage.costHalala)).sum

def capCheck (capHalala spentHalala estimateHalala : Int) : CapCheck :=
  let estimate := max 0 estimateHalala
  let cap := max 0 capHalala
  if cap ≤ 0 then
    { capped := false
      ok := true
      capHalala := 0
      spentThisMonthHalala := 0
      remainingHalala := none
      estimateHalala := estimate }
  else
    { capped := true
      ok := spentHalala + estimate ≤ cap
      capHalala := cap
      spentThisMonthHalala := spentHalala
      remainingHalala := some (max 0 (cap - spentHalala))
      estimateHalala := estimate }

def checkBudgetCap (caps : Caps) (ledger : List LedgerRow)
    (renterId : RenterId) (estimateHalala : Int) (now : Nat) : CapCheck :=
  capCheck caps.monthlySpendCapHalala (spentThisMonth ledger renterId (fun _ => true) (monthOf now))
    estimateHalala

def checkScopedKeyBudgetCap (caps : Caps) (ledger : List LedgerRow)
    (renterId : RenterId) (renterApiKeyId : Option KeyId)
    (estimateHalala : Int) (now : Nat) : CapCheck :=
  match renterApiKeyId with
  | none => capCheck 0 0 estimateHalala
  | some keyId =>
    capCheck (caps.keyCapHalala keyId)
      (spentThisMonth ledger renterId (fun row => row.renterApiKeyId = some keyId) (monthOf now))
      estimateHalala

/-- A chat request that has passed the checks of its body. -/
structure ChatRequest where
  headers : Headers
  uuid : String
  renterApiKeyId : Option KeyId
  modelId : String
  promptTokens : Nat
  maxTokens : Nat
  tokenRateHalala : Int
  inRateHalalaPer1m : Int
  outRateHalalaPer1m : Int
  fallbackRateHalalaPerMin : Int

def ceilPerMillion (amount : Int) : Int :=
  ⌈toDouble ((amount : ℚ) / 1000000)⌉

def estimateInferenceCost (request : ChatRequest) : Int :=
  let prompt : Int := request.promptTokens
  let completion : Int := request.maxTokens
  if 0 < request.inRateHalalaPer1m ∨ 0 < request.outRateHalalaPer1m then
    max 1 (ceilPerMillion (prompt * request.inRateHalalaPer1m) +
      ceilPerMillion (completion * request.outRateHalalaPer1m))
  else if 0 < request.tokenRateHalala then
    max 1 (ceilPerMillion ((prompt + completion) * request.tokenRateHalala))
  else if 0 < request.fallbackRateHalalaPerMin then
    max 1 request.fallbackRateHalalaPerMin
  else
    1

/-- The estimate with a margin of twenty percent. -/
def ChatRequest.estimateHalala (request : ChatRequest) : Int :=
  ⌈toDouble ((estimateInferenceCost request : ℚ) * toDouble (12 / 10))⌉

structure Answer where
  providerId : ProviderId
  usage : UsageSnapshot
  visibleAnswer : String
  finishReason : Option String
  jobRow : Option JobRow

def ChatRequest.delivery (request : ChatRequest) (renterId : RenterId)
    (answer : Answer) (now : Nat) : Delivery where
  headers := request.headers
  uuid := request.uuid
  renterId
  providerId := answer.providerId
  modelId := request.modelId
  usage := answer.usage
  visibleAnswer := answer.visibleAnswer
  finishReason := answer.finishReason
  inRateHalalaPer1m := request.inRateHalalaPer1m
  outRateHalalaPer1m := request.outRateHalalaPer1m
  jobRow := answer.jobRow
  now

def settledAmount (db : Database) (delivery : Delivery) : Option Int :=
  if isUnbillableNonAnswer delivery then
    none
  else
    match settleInferenceOnce delivery.settleArgs db with
    | (.ok (.settled receipt), _) => some receipt.costHalala
    | _ => none

def receiptStatus (db : Database) (delivery : Delivery) : String :=
  if isUnbillableNonAnswer delivery then
    "failed"
  else
    match settleInferenceOnce delivery.settleArgs db with
    | (.ok _, _) => "settled"
    | (.error _, _) => "failed"

structure Charge where
  requestId : RequestId
  renterApiKeyId : Option KeyId
  amountHalala : Int

structure Spending where
  books : Books
  ledger : List LedgerRow
  calls : Calls ChatRequest
  charges : List Charge

inductive SpendEvent where
  /-- A request comes; `admitted` says that the other gates let it pass. -/
  | arrive (call now : Nat) (request : ChatRequest) (admitted : Bool)
  | answered (call now : Nat) (answer : Answer)
  | failed (call now : Nat) (answer : Answer)

def passesCaps (caps : Caps) (renterId : RenterId) (spending : Spending)
    (request : ChatRequest) (now : Nat) : Bool :=
  (checkBudgetCap caps spending.ledger renterId request.estimateHalala now).ok &&
    (checkScopedKeyBudgetCap caps spending.ledger renterId
      request.renterApiKeyId request.estimateHalala now).ok

/-- A step within the month; an answer costs at most the estimate. -/
def nextSpending (caps : Caps) (renterId : ℕ+) (month : Int)
    (spending : Spending) : SpendEvent → Option Spending
  | .arrive call now request admitted =>
    if monthOf now = month ∧ spending.calls.IsFresh call ∧
      OpenRouter.cleanText 200 (some request.modelId) ≠ "" then
      if admitted && passesCaps caps renterId spending request now then
        some { spending with calls := spending.calls.start call request }
      else
        some spending
    else
      none
  | .answered call now answer =>
    match spending.calls.waitsFor call with
    | none => none
    | some request =>
      let delivery := request.delivery renterId answer now
      if monthOf now = month ∧ delivery.settledCostHalala ≤ request.estimateHalala then
        some
          { books := debitAndPersistUsage spending.books delivery
            ledger := recordUsage spending.ledger delivery request.renterApiKeyId
              (receiptStatus spending.books.db delivery)
            calls := spending.calls.resume call none
            charges := spending.charges ++
              (settledAmount spending.books.db delivery).toList.map (fun amount =>
                ⟨delivery.requestId, request.renterApiKeyId, amount⟩) }
      else
        none
  | .failed call now answer =>
    match spending.calls.waitsFor call with
    | none => none
    | some request =>
      let delivery := request.delivery renterId answer now
      if monthOf now = month then
        some { spending with
          books := persistUsage spending.books delivery
          ledger := recordUsage spending.ledger delivery request.renterApiKeyId "failed"
          calls := spending.calls.resume call none }
      else
        none

def openMonth (db : Database) (ledger : List LedgerRow) : Spending where
  books := { db := db, unsettled := [] }
  ledger := ledger
  calls := Table.empty
  charges := []

end DcpPlatform.Billing
