import DcpPlatform.Batches.Execution
import DcpPlatform.Billing.Funds
import DcpPlatform.Foundation.Transition

/-!
# The batch worker

A run of the worker marks each batch that is `created` as `running`, hands it
to the executor, waits, and finishes it. What has been written before a throw
stays. Several runs may wait at the same time; `executed` lists the batches
handed out.
-/

namespace DcpPlatform.Batches

open Foundation

abbrev Writing := Tx Database Failure

def checked {Value : Type} (outcome : Except Failure Value) :
    Writing Value :=
  match outcome with
  | .ok value => pure value
  | .error failure => Tx.fail failure

def Database.workedLines (db : Database) (batch : Batch) : List Line :=
  db.listBatchInferenceJobLines batch (max batch.requestCount 1)

def lineProofs (db : Database) (batch : Batch) (results : List (Option ExecutionLine)) :
    Except Failure (List LineProof) := do
  let expected := db.workedLines batch
  require (results.length = expected.length) (plainError ("execution.lines must include exactly " ++
    toString expected.length ++ " line result(s)"))
  normalizeExecutionLines (expected.map Line.customId) [] results

def writeProofs (batch : Batch) (now : Nat) : List LineProof → Writing PUnit
  | [] => pure PUnit.unit
  | proof :: rest => do
      let write ← checked (lineWrite proof)
      Tx.write (fun db => db.setLineResult batch proof.customId write now)
      writeProofs batch now rest

structure LineSummary where
  completedCount : Int
  failedCount : Int
  totalCostHalala : Int

def summarize (proofs : List LineProof) : LineSummary :=
  { completedCount := proofs.countP (fun proof => proof.status = .succeeded)
    failedCount := proofs.countP (fun proof => proof.status = .failed)
    totalCostHalala := (proofs.map LineProof.costHalala).sum }

def applyExecutionLineProofs (batch : Batch) (lines : ExecutionLines)
    (now : Nat) : Writing (Option LineSummary) :=
  match lines with
  | .missing => pure none
  | .notArray =>
    Tx.fail (plainError "execution.lines must be an array when provided")
  | .array results => do
      let outcome ← Tx.read (fun db => lineProofs db batch results)
      let proofs ← checked outcome
      writeProofs batch now proofs
      return some (summarize proofs)

def buildBatchLineSettlementRequestId (batchId : BatchId)
    (customId : CustomId) : Billing.RequestId :=
  "batch-line:" ++ batchId.val ++ ":" ++ customId.val

def settleArgs (batch : Batch) (line : Line) (providerId : Option Nat)
    (now : Nat) : Billing.SettleArgs :=
  let requestId := buildBatchLineSettlementRequestId batch.batchId line.customId
  { requestId := requestId
    renterId := batch.renterId
    providerId := providerId
    costHalala := max 0 line.costHalala
    modelId := some line.modelId
    usageEventRow := some
      { promptTokens := line.promptTokens.toNat
        completionTokens := line.completionTokens.toNat
        promptCostHalala := 0
        completionCostHalala := max 0 line.costHalala
        inRateHalalaPer1m := 0
        outRateHalalaPer1m := 0
        source := some "batch/inference" }
    jobRow := some
      { jobId := requestId
        submittedAt := none
        startedAt := none
        completedAt := none
        durationSeconds := 0
        result := none
        notes := some "batch:billingService.settleInferenceOnce" }
    nowIso := now }

def settlementFailure : Billing.SettleError → Failure
  | .insufficientBalance renterId deficit balance =>
    ⟨"insufficient_balance",
      (Billing.SettleError.insufficientBalance renterId deficit balance).message⟩
  | .notNullViolation column =>
    ⟨"sqlite_constraint_notnull", (Billing.SettleError.notNullViolation column).message⟩
  | .requestIdRequired =>
    ⟨"error", Billing.SettleError.requestIdRequired.message⟩

/-- The row in `jobs` refers to a provider: an unknown one rolls the
settlement back. -/
def settleInferenceOnce (args : Billing.SettleArgs) :
    Tx Billing.Database Failure Billing.SettleResult :=
  fun db =>
    match Billing.settleInferenceOnce args db with
    | (.ok (.settled receipt), after) =>
      if args.providerId.all (fun id => (db.providers id).isSome) then
        (.ok (.settled receipt), after)
      else
        (.error ⟨"sqlite_constraint_foreignkey", "FOREIGN KEY constraint failed"⟩, db)
    | (.ok result, after) => (.ok result, after)
    | (.error failure, after) => (.error (settlementFailure failure), after)

def chargedProvider (workerProvider : Option Nat) (line : Line) :
    Option Nat :=
  line.providerId.or workerProvider

/-- Its texts are within the bounds of their columns. -/
def settledWrite (batch : Batch) (line : Line) (providerId : Option Nat)
    (status : SettlementStatus) (failure : Option Failure) :
    SettlementWrite :=
  { status := status
    settlementRequestId := some (buildBatchLineSettlementRequestId batch.batchId line.customId)
    providerId := providerId
    errorCode := failure.map (fun thrown => clip 120 thrown.code)
    errorMessage := failure.map (fun thrown => clip 500 thrown.message) }

def settleLine (batch : Batch) (workerProvider : Option Nat) (now : Nat)
    (line : Line) : Writing PUnit :=
  fun db =>
    let providerId := chargedProvider workerProvider line
    match settleInferenceOnce (settleArgs batch line providerId now) db.billing with
    | (.ok result, billing) =>
      let status :=
        match result with
        | .settled _ => SettlementStatus.settled
        | .alreadySettled _ => .alreadySettled
      (.ok PUnit.unit, { db with billing := billing }.setLineSettlement batch
        line.customId (settledWrite batch line providerId status none)
        now)
    | (.error failure, billing) =>
      (.error ⟨failure.code, "batch line settlement failed"⟩,
        { db with billing := billing }.setLineSettlement batch line.customId
          (settledWrite batch line providerId .failed (some failure)) now)

def settleLines (batch : Batch) (workerProvider : Option Nat) (now : Nat) :
    List Line → Writing PUnit
  | [] => pure PUnit.unit
  | line :: rest => do
      settleLine batch workerProvider now line
      settleLines batch workerProvider now rest

def IsBillable (line : Line) : Prop :=
  line.status = .succeeded ∧ 0 < line.costHalala
deriving Decidable

def notRequiredWrite : SettlementWrite :=
  { status := .notRequired
    settlementRequestId := none
    providerId := none
    errorCode := none
    errorMessage := none }

def Database.markLines (db : Database) (batch : Batch) (lines : List Line)
    (write : Line → SettlementWrite) (now : Nat) : Database :=
  lines.foldl (fun db line =>
    db.setLineSettlement batch line.customId (write line) now) db

def settleBatchInferenceLines (batch : Batch) (lines : List Line)
    (workerProvider : Option Nat) (now : Nat) : Writing PUnit := do
  let billable := lines.filter (fun line => IsBillable line)
  Tx.write (fun db =>
    db.markLines batch (lines.filter (fun line => ¬ IsBillable line))
      (fun _ => notRequiredWrite) now)
  if billable.isEmpty then
    return PUnit.unit
  else
    let total := (billable.map Line.costHalala).sum
    let gate ← Tx.read (fun db =>
      Billing.checkBalanceGate db.billing batch.renterId total now)
    match gate with
    | none => settleLines batch workerProvider now billable
    | some deficit =>
      Tx.write (fun db =>
        db.markLines batch billable (fun line =>
          settledWrite batch line (chargedProvider workerProvider line) .failed
            (some ⟨"insufficient_balance", "Batch settlement preflight failed with " ++
              toString deficit ++ " halala deficit"⟩)) now)
      Tx.fail ⟨"insufficient_balance",
        "batch line settlement preflight failed: insufficient balance"⟩

structure Options where
  settlementEnabled : Bool
  providerId : Option Nat

def buildBatchResultStorageKey (batch : Batch) : String :=
  "batch-results/renter-" ++ toString batch.renterId ++ "/" ++ batch.batchId.val ++ "/output.jsonl"

def storageKey (batch : Batch) (execution : Execution) : Text :=
  if execution.resultStorageKey.isTruthy then execution.resultStorageKey
  else .text (buildBatchResultStorageKey batch)

def settle (options : Options) (batch : Batch)
    (summary : Option LineSummary) (now : Nat) : Writing PUnit :=
  if options.settlementEnabled then
    match summary with
    | none =>
      Tx.fail (plainError "batch line settlement requires execution.lines proof")
    | some _ => do
        let lines ← Tx.read (fun db => db.workedLines batch)
        settleBatchInferenceLines batch lines options.providerId now
  else
    return PUnit.unit

def completedOutcome (batch : Batch) (execution : Execution)
    (summary : Option LineSummary) (key checksum : String) :
    BatchOutcome :=
  { resultStorageKey := some key
    resultChecksumSha256 := some checksum
    resultNormalizedBytes := some (nonNegativeOr 0 execution.resultNormalizedBytes)
    completedCount :=
      match summary with
      | some summary => summary.completedCount
      | none => nonNegativeOr batch.requestCount execution.completedCount
    failedCount :=
      match summary with
      | some summary => summary.failedCount
      | none => nonNegativeOr 0 execution.failedCount
    totalCostHalala :=
      match summary with
      | some summary => summary.totalCostHalala
      | none => nonNegativeOr 0 execution.totalCostHalala }

def completeBatch (options : Options) (batch : Batch)
    (execution : Execution) (now : Nat) : Writing PUnit := do
  let checksum ← checked (requireSha256 execution.resultChecksumSha256 "result_checksum_sha256")
  let summary ← applyExecutionLineProofs batch execution.lines now
  settle options batch summary now
  let key ← checked (normalizeStorageKey (storageKey batch execution) "result_storage_key")
  Tx.write (fun db =>
    db.setBatchStatus batch .completed (completedOutcome batch execution summary key checksum) now)

def Database.failBatch (db : Database) (batch : Batch) (now : Nat) :
    Database :=
  db.setBatchStatus batch .failed { BatchOutcome.empty with failedCount := batch.requestCount } now

/-- What follows the executor's answer; nothing when it has thrown. -/
def finishBatch (options : Options) (batch : Batch)
    (answer : Option Execution) (now : Nat) (db : Database) : Database :=
  match answer with
  | none => db.failBatch batch now
  | some execution =>
    match completeBatch options batch execution now db with
    | (.ok _, after) => after
    | (.error _, after) => after.failBatch batch now

structure CreateRequest where
  renterId : Nat
  batchId : BatchId
  idempotencyKey : Option String
  inputJsonl : String

inductive CreateError where
  | contract (error : ContractError)
  | batchExists
  | constraint

def insertBatchInferenceJobLines : List Line → Tx Database CreateError PUnit
  | [] => pure PUnit.unit
  | line :: rest => do
      let taken ← Tx.read (fun db => (db.lines.lookup line.key).isSome)
      if taken then
        Tx.fail .constraint
      else
        Tx.write (fun db => { db with lines := db.lines.insertIfNew line })
        insertBatchInferenceJobLines rest

def newLines (renterId : Nat) (batchId : BatchId) (now : Nat)
    (requests : List BatchRequest) : List Line :=
  requests.zipIdx.map (fun entry =>
    newLine renterId batchId now entry.1 entry.2)

/-- A request with a known idempotency key is a replay. -/
def createBatchInferenceJob (jsonParse : String → Option Json)
    (request : CreateRequest) (now : Nat) :
    Tx Database CreateError PUnit :=
  fun db =>
    if request.idempotencyKey.isSome ∧ ∃ row ∈ db.batches.rows,
      row.renterId = request.renterId ∧ row.idempotencyKey = request.idempotencyKey then
      (.ok PUnit.unit, db)
    else
      match parseBatchJsonl jsonParse request.inputJsonl with
      | .error refused => (.error (.contract refused), db)
      | .ok requests =>
        if (db.batches.lookup request.batchId).isSome then
          (.error .batchExists, db)
        else
          insertBatchInferenceJobLines (newLines request.renterId request.batchId now requests)
            { db with
              batches := db.batches.insertIfNew (db.newBatch request.renterId request.batchId
                request.idempotencyKey requests.length now) }

structure Worker where
  options : Options
  awaited : Batch
  remaining : List Batch

structure System where
  db : Database
  workers : List Worker
  executed : List BatchId

def workerLimit (limit : Option Nat) : Nat :=
  match limit with
  | none => 5
  | some limit => if limit < 1 then 5 else min limit 25

def System.takeNext (system : System) (options : Options)
    (pending : List Batch) (now : Nat) : System :=
  match pending with
  | [] => system
  | batch :: rest =>
    { db := system.db.setBatchStatus batch .running BatchOutcome.empty now
      workers := system.workers ++ [⟨options, batch, rest⟩]
      executed := system.executed ++ [batch.batchId] }

/-- What happens next: a run starts, the executor answers the run at `index`,
somebody cancels a batch or creates one, or the funds of the renters and the
providers change. -/
inductive Action where
  | start (options : Options) (limit : Option Nat) (now : Nat)
  | answer (index : Nat) (answer : Option Execution) (now : Nat)
  | cancel (batch : Batch) (now : Nat)
  | create (request : CreateRequest) (now : Nat)
  | funds (renters : Billing.RenterId → Option Billing.Renter)
      (providers : Billing.ProviderId → Option Billing.Provider)
      (credits : Billing.Credits)

def next (jsonParse : String → Option Json) (system : System) :
    Action → Option System
  | .start options limit now =>
    some (system.takeNext options (system.db.listCreatedBatchInferenceJobs (workerLimit limit)) now)
  | .answer index answer now =>
    match system.workers[index]? with
    | none => none
    | some worker =>
      some ({ system with
        db := finishBatch worker.options worker.awaited answer now system.db
        workers := system.workers.eraseIdx index }.takeNext worker.options worker.remaining now)
  | .cancel batch now =>
    some { system with
      db := system.db.setBatchStatus batch .cancelled BatchOutcome.empty now }
  | .create request now =>
    some { system with
      db := (createBatchInferenceJob jsonParse request now system.db).2 }
  | .funds renters providers credits =>
    some { system with
      db :=
        { system.db with
          billing :=
            { system.db.billing with
              renters := renters
              providers := providers
              credits := credits } } }

end DcpPlatform.Batches
