import DcpPlatform.Billing.Settlement
import DcpPlatform.Foundation.Doubles
import DcpPlatform.Foundation.Text

/-!
# Billing delivered answers

The chat route bills an answer after it was delivered, under a request id that
it takes from the headers of the request. What cannot be billed is recorded
under the same id. The ledger of the dashboard is left out: it is not read
here.
-/

namespace DcpPlatform.Billing

open Foundation

structure Headers where
  idempotencyKey : Option String
  xRequestId : Option String
  xCorrelationId : Option String
deriving DecidableEq

def extractRequestId (headers : Headers) (uuid : String) : RequestId :=
  let given := [headers.idempotencyKey, headers.xRequestId,
      headers.xCorrelationId].findSome? (fun header =>
        header.filter (· ≠ ""))
  (given.bind (normalizeString 200)).getD ("orreq_" ++ uuid)

structure UsageSnapshot where
  promptTokens : Nat
  completionTokens : Nat
  promptCostHalala : Int
  completionCostHalala : Int
  costHalala : Int
deriving DecidableEq

/-- An answer of a provider that was sent to a renter, or the usage of a
request that failed. -/
structure Delivery where
  headers : Headers
  uuid : String
  renterId : RenterId
  providerId : ProviderId
  modelId : String
  usage : UsageSnapshot
  visibleAnswer : String
  finishReason : Option String
  inRateHalalaPer1m : Int
  outRateHalalaPer1m : Int
  jobRow : Option JobRow
  now : Nat
deriving DecidableEq

def Delivery.requestId (delivery : Delivery) : RequestId :=
  extractRequestId delivery.headers delivery.uuid

def isUnbillableNonAnswer (delivery : Delivery) : Bool :=
  trim delivery.visibleAnswer = "" && delivery.finishReason = some "length"

/-- The cost by tokens, or by the minute when that is zero. -/
def Delivery.settledCostHalala (delivery : Delivery) : Int :=
  let usage := delivery.usage
  if 0 < usage.costHalala then
    usage.costHalala
  else
    let minutes := toDouble (((usage.promptTokens + usage.completionTokens : Nat) : ℚ) / 30)
    max 1 ⌊toDouble (2 * minutes) + 1 / 2⌋

def Delivery.settleArgs (delivery : Delivery) : SettleArgs where
  requestId := delivery.requestId
  renterId := delivery.renterId
  providerId := some delivery.providerId
  costHalala := delivery.settledCostHalala
  modelId := some delivery.modelId
  usageEventRow := some
    { promptTokens := delivery.usage.promptTokens
      completionTokens := delivery.usage.completionTokens
      promptCostHalala := delivery.usage.promptCostHalala
      completionCostHalala := delivery.usage.completionCostHalala
      inRateHalalaPer1m := delivery.inRateHalalaPer1m
      outRateHalalaPer1m := delivery.outRateHalalaPer1m
      source := some "v1/chat" }
  jobRow := delivery.jobRow
  nowIso := delivery.now

inductive ErrorCode where
  | unbilled
  | noAnswer

structure Books where
  db : Database
  unsettled : List (RequestId × ErrorCode)

def Delivery.unsettledAttempt (delivery : Delivery) (costHalala : Int) :
    BillingAttempt where
  requestId := delivery.requestId
  renterId := delivery.renterId
  providerId := some delivery.providerId
  costHalala := costHalala
  providerEarnedHalala := 0
  settledAt := delivery.now

def insertUnsettled (books : Books) (delivery : Delivery)
    (costHalala : Int) (code : ErrorCode) : Books :=
  match books.db.billingAttempts.lookup delivery.requestId with
  | some _ => books
  | none =>
    { db := { books.db with
      billingAttempts :=
        books.db.billingAttempts.insertIfNew (delivery.unsettledAttempt costHalala) }
      unsettled := books.unsettled ++ [(delivery.requestId, code)] }

def persistUsage (books : Books) (delivery : Delivery) : Books :=
  let usage := delivery.usage
  let payout := ⌈toDouble ((usage.costHalala : ℚ) * toDouble (7 / 10))⌉
  { books with
    db :=
      { books.db with
        usageEvents := books.db.usageEvents.insertIfNew
          { requestId := delivery.requestId
            renterId := delivery.renterId
            providerId := some delivery.providerId
            modelId := delivery.modelId
            promptTokens := usage.promptTokens
            completionTokens := usage.completionTokens
            promptCostHalala := usage.promptCostHalala
            completionCostHalala := usage.completionCostHalala
            costHalala := usage.costHalala
            providerPayoutHalala := payout
            dcpTakeHalala := max 0 (usage.costHalala - payout)
            inRateHalalaPer1m := delivery.inRateHalalaPer1m
            outRateHalalaPer1m := delivery.outRateHalalaPer1m
            occurredAt := delivery.now
            source := "v1/chat" } } }

def recordUnbilledSettlement (books : Books) (delivery : Delivery) :
    Books :=
  persistUsage (insertUnsettled books delivery (max 0 delivery.settledCostHalala) .unbilled)
    delivery

def debitAndPersistUsage (books : Books) (delivery : Delivery) : Books :=
  if isUnbillableNonAnswer delivery then
    persistUsage (insertUnsettled books delivery 0 .noAnswer) delivery
  else
    match settleInferenceOnce delivery.settleArgs books.db with
    | (.ok _, after) => persistUsage { books with db := after } delivery
    | (.error (.insufficientBalance _ _ _), after) =>
      recordUnbilledSettlement { books with db := after } delivery
    | (.error _, after) => persistUsage { books with db := after } delivery

inductive Ending where
  | delivered (delivery : Delivery)
  | failed (delivery : Delivery)
deriving DecidableEq

structure Posting where
  ending : Ending
  before : Books
  after : Books

structure Office where
  books : Books
  postings : List Posting

def post (books : Books) : Ending → Books
  | .delivered delivery => debitAndPersistUsage books delivery
  | .failed delivery => persistUsage books delivery

def nextPosting (office : Office) (ending : Ending) : Option Office :=
  let after := post office.books ending
  some
    { books := after
      postings := office.postings ++ [⟨ending, office.books, after⟩] }

def openOffice (db : Database) : Office where
  books := { db := db, unsettled := [] }
  postings := []

end DcpPlatform.Billing
