import DcpPlatform.Batches.Contract
import DcpPlatform.Billing.Settlement
import DcpPlatform.Foundation.Query

/-!
# The tables of the batches

A batch and its lines, and the statements of the batch service on them: the
insertion of an accepted batch, the two lists that a worker reads, and the
three updates it makes. No update looks at the status that it overwrites.
-/

namespace DcpPlatform.Batches

open Foundation

def isIdStart (character : Char) : Bool :=
  character.isLower || character.isDigit

/-- `/^batch_[a-z0-9][a-z0-9_-]{5,63}$/`. -/
def isBatchId (text : String) : Bool :=
  match text.toList with
  | 'b' :: 'a' :: 't' :: 'c' :: 'h' :: '_' :: first :: rest =>
    isIdStart first && 5 ≤ rest.length && rest.length ≤ 63 && rest.all (fun character =>
      isIdStart character || character = '_' || character = '-')
  | _ => false

abbrev BatchId := { text : String // isBatchId text = true }

inductive BatchStatus where
  | created
  | queued
  | running
  | completed
  | failed
  | cancelled
  deriving DecidableEq

def BatchStatus.isTerminal : BatchStatus → Bool
  | .completed | .failed | .cancelled => true
  | .created | .queued | .running => false

inductive LineStatus where
  | pending
  | running
  | succeeded
  | failed
  | cancelled
  deriving DecidableEq

inductive SettlementStatus where
  | unsettled
  | notRequired
  | settled
  | alreadySettled
  | failed
  deriving DecidableEq

structure Batch where
  id : Nat
  batchId : BatchId
  renterId : Nat
  requestCount : Nat
  idempotencyKey : Option String
  status : BatchStatus
  resultStorageKey : Option String
  resultChecksumSha256 : Option String
  resultNormalizedBytes : Int
  completedCount : Int
  failedCount : Int
  totalCostHalala : Int
  createdAt : Nat
  updatedAt : Nat
  startedAt : Option Nat
  completedAt : Option Nat

structure Line where
  batchId : BatchId
  renterId : Nat
  lineIndex : Nat
  customId : CustomId
  url : String
  modelId : String
  status : LineStatus
  statusCode : Option Int
  responseChecksumSha256 : Option String
  responseNormalizedBytes : Int
  providerId : Option Nat
  promptTokens : Int
  completionTokens : Int
  totalTokens : Int
  costHalala : Int
  requestId : Option String
  providerResponseId : Option String
  settlementStatus : SettlementStatus
  settlementRequestId : Option String
  settlementErrorCode : Option String
  settlementErrorMessage : Option String
  settledAt : Option Nat
  errorCode : Option String
  errorMessage : Option String
  updatedAt : Nat
  completedAt : Option Nat

def Line.key (line : Line) : Nat × BatchId × CustomId :=
  (line.renterId, line.batchId, line.customId)

def Batch.lineKey (batch : Batch) (customId : CustomId) :
    Nat × BatchId × CustomId :=
  (batch.renterId, batch.batchId, customId)

structure Database where
  batches : Table Batch Batch.batchId
  lines : Table Line Line.key
  billing : Billing.Database

def maxLimit : Nat := 100

/-- `normalizeLimit` of a positive integer. -/
def normalizeLimit (limit : Nat) : Nat :=
  min limit maxLimit

def IsLineOf (batch : Batch) (line : Line) : Prop :=
  line.renterId = batch.renterId ∧ line.batchId = batch.batchId
deriving Decidable

namespace Database

def linesOf (db : Database) (batch : Batch) : List Line :=
  (db.lines.select (IsLineOf batch)).insertionSort
    (fun first second => first.lineIndex ≤ second.lineIndex)

def listBatchInferenceJobLines (db : Database) (batch : Batch) (limit : Nat) : List Line :=
  match db.batches.lookup batch.batchId with
  | none => []
  | some row =>
    if row.renterId = batch.renterId then
      (db.linesOf batch).take (normalizeLimit limit)
    else
      []

def listCreatedBatchInferenceJobs (db : Database) (limit : Nat) :
    List Batch :=
  ((db.batches.select (fun batch => batch.status = .created)).insertionSort (fun first second =>
    first.createdAt < second.createdAt ∨ (first.createdAt = second.createdAt ∧
      first.id ≤ second.id))).take (normalizeLimit limit)

def newBatch (db : Database) (renterId : Nat) (batchId : BatchId)
    (idempotencyKey : Option String) (requestCount now : Nat) : Batch :=
  { id := (db.batches.rows.map Batch.id).foldr max 0 + 1
    batchId := batchId
    renterId := renterId
    requestCount := requestCount
    idempotencyKey := idempotencyKey
    status := .created
    resultStorageKey := none
    resultChecksumSha256 := none
    resultNormalizedBytes := 0
    completedCount := 0
    failedCount := 0
    totalCostHalala := 0
    createdAt := now
    updatedAt := now
    startedAt := none
    completedAt := none }

end Database

def newLine (renterId : Nat) (batchId : BatchId) (now : Nat)
    (request : BatchRequest) (index : Nat) : Line :=
  { batchId := batchId
    renterId := renterId
    lineIndex := index + 1
    customId := request.customId
    url := request.url
    modelId := request.model
    status := .pending
    statusCode := none
    responseChecksumSha256 := none
    responseNormalizedBytes := 0
    providerId := none
    promptTokens := 0
    completionTokens := 0
    totalTokens := 0
    costHalala := 0
    requestId := none
    providerResponseId := none
    settlementStatus := .unsettled
    settlementRequestId := none
    settlementErrorCode := none
    settlementErrorMessage := none
    settledAt := none
    errorCode := none
    errorMessage := none
    updatedAt := now
    completedAt := none }

structure BatchOutcome where
  resultStorageKey : Option String
  resultChecksumSha256 : Option String
  resultNormalizedBytes : Option Int
  completedCount : Int
  failedCount : Int
  totalCostHalala : Int

def BatchOutcome.empty : BatchOutcome :=
  { resultStorageKey := none
    resultChecksumSha256 := none
    resultNormalizedBytes := none
    completedCount := 0
    failedCount := 0
    totalCostHalala := 0 }

def Batch.setStatus (status : BatchStatus) (outcome : BatchOutcome)
    (now : Nat) (batch : Batch) : Batch :=
  { batch with
    status := status
    resultStorageKey := outcome.resultStorageKey.or batch.resultStorageKey
    resultChecksumSha256 := outcome.resultChecksumSha256.or batch.resultChecksumSha256
    resultNormalizedBytes := outcome.resultNormalizedBytes.getD batch.resultNormalizedBytes
    completedCount :=
      if status.isTerminal then outcome.completedCount
      else batch.completedCount
    failedCount :=
      if status.isTerminal then outcome.failedCount else batch.failedCount
    totalCostHalala :=
      if status.isTerminal then outcome.totalCostHalala
      else batch.totalCostHalala
    updatedAt := now
    startedAt := batch.startedAt.or (if status = .running then some now else none)
    completedAt := (if status.isTerminal then some now else none).or batch.completedAt }

@[simp]
theorem Batch.setStatus_batchId (status : BatchStatus)
    (outcome : BatchOutcome) (now : Nat) (batch : Batch) :
    (batch.setStatus status outcome now).batchId = batch.batchId :=
  rfl

structure LineWrite where
  status : LineStatus
  statusCode : Option Int
  responseChecksumSha256 : Option String
  responseNormalizedBytes : Option Int
  providerId : Option Nat
  promptTokens : Int
  completionTokens : Int
  totalTokens : Int
  costHalala : Int
  requestId : Option String
  providerResponseId : Option String
  errorCode : Option String
  errorMessage : Option String

def Line.setResult (write : LineWrite) (now : Nat) (line : Line) : Line :=
  { line with
    status := write.status
    statusCode := write.statusCode.or line.statusCode
    responseChecksumSha256 := write.responseChecksumSha256.or line.responseChecksumSha256
    responseNormalizedBytes := write.responseNormalizedBytes.getD line.responseNormalizedBytes
    providerId := write.providerId.or line.providerId
    promptTokens := write.promptTokens
    completionTokens := write.completionTokens
    totalTokens := write.totalTokens
    costHalala := write.costHalala
    requestId := write.requestId.or line.requestId
    providerResponseId := write.providerResponseId.or line.providerResponseId
    errorCode := write.errorCode.or line.errorCode
    errorMessage := write.errorMessage.or line.errorMessage
    updatedAt := now
    completedAt := some now }

@[simp]
theorem Line.setResult_key (write : LineWrite) (now : Nat) (line : Line) :
    (line.setResult write now).key = line.key :=
  rfl

structure SettlementWrite where
  status : SettlementStatus
  settlementRequestId : Option String
  providerId : Option Nat
  errorCode : Option String
  errorMessage : Option String

def Line.setSettlement (write : SettlementWrite) (now : Nat) (line : Line) : Line :=
  { line with
    settlementStatus := write.status
    settlementRequestId := write.settlementRequestId.or line.settlementRequestId
    providerId := write.providerId.or line.providerId
    settlementErrorCode := write.errorCode
    settlementErrorMessage := write.errorMessage
    settledAt :=
      if write.status = .unsettled then line.settledAt else some now
    updatedAt := now }

@[simp]
theorem Line.setSettlement_key (write : SettlementWrite) (now : Nat) (line : Line) :
    (line.setSettlement write now).key = line.key :=
  rfl

namespace Database

def setBatchStatus (db : Database) (batch : Batch) (status : BatchStatus)
    (outcome : BatchOutcome) (now : Nat) : Database :=
  { db with
    batches := db.batches.updateWhere batch.batchId (fun row => row.renterId = batch.renterId)
      (Batch.setStatus status outcome now)
      (Batch.setStatus_batchId status outcome now) }

def setLineResult (db : Database) (batch : Batch) (customId : CustomId)
    (write : LineWrite) (now : Nat) : Database :=
  { db with
    lines := db.lines.update (batch.lineKey customId) (Line.setResult write now)
      (Line.setResult_key write now) }

def setLineSettlement (db : Database) (batch : Batch)
    (customId : CustomId) (write : SettlementWrite) (now : Nat) :
    Database :=
  { db with
    lines := db.lines.update (batch.lineKey customId) (Line.setSettlement write now)
      (Line.setSettlement_key write now) }

end Database

end DcpPlatform.Batches
