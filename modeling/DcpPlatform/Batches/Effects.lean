import DcpPlatform.Batches.Charges

/-!
# What finishing a batch does to its lines

The results are written up to the first one that the line service refuses,
each to the line with its custom id; the other batches stay as they are.
Results that pass the checks before the first write belong to the listed lines
one to one.
-/

namespace DcpPlatform.Batches

open Foundation

section Keeps

variable {Observed : Type} {observe : Database → Observed} {batch : Batch} {now : Nat}

def IgnoresResults (observe : Database → Observed) (batch : Batch) :
    Prop :=
  ∀ db customId write now, observe (db.setLineResult batch customId write now) = observe db

structure IgnoresSettlements (observe : Database → Observed) (batch : Batch) : Prop where
  settlements :
    ∀ db customId write now, observe (db.setLineSettlement batch customId write now) = observe db
  charges : ∀ (db : Database) line providerId now, observe { db with
    billing := (settleInferenceOnce (settleArgs batch line providerId now) db.billing).2 } =
      observe db

theorem checked_keeps {Value : Type} (outcome : Except Failure Value) :
    Tx.Keeps observe (checked outcome) := by
  cases outcome with
  | ok value => exact Tx.Keeps.pure value
  | error failure => exact Tx.Keeps.fail failure

theorem writeProofs_keeps (ignores : IgnoresResults observe batch) (proofs : List LineProof) :
    Tx.Keeps observe (writeProofs batch now proofs) := by
  induction proofs with
  | nil =>
    exact Tx.Keeps.pure PUnit.unit
  | cons proof rest ih =>
    refine (checked_keeps _).bind (fun write => ?_)
    refine Tx.Keeps.bind (Tx.Keeps.write ?_) (fun _ => ih)
    intro db
    exact ignores db proof.customId write now

theorem applyExecutionLineProofs_keeps
    (ignores : IgnoresResults observe batch) (lines : ExecutionLines) :
    Tx.Keeps observe (applyExecutionLineProofs batch lines now) := by
  cases lines with
  | missing =>
    exact Tx.Keeps.pure none
  | notArray =>
    exact Tx.Keeps.fail _
  | array results =>
    refine (Tx.Keeps.read _).bind (fun outcome => ?_)
    refine (checked_keeps outcome).bind (fun proofs => ?_)
    exact (writeProofs_keeps ignores proofs).bind (fun _ => Tx.Keeps.pure _)

variable (ignores : IgnoresSettlements observe batch)

include ignores

theorem settleLine_keeps (workerProvider : Option Nat) (line : Line) :
    Tx.Keeps observe (settleLine batch workerProvider now line) := by
  intro db
  have charges := ignores.charges db line (chargedProvider workerProvider line) now
  unfold settleLine
  dsimp only
  split
  · rename_i result billing outcome
    rw [outcome] at charges
    exact (ignores.settlements _ _ _ _).trans charges
  · rename_i failure billing outcome
    rw [outcome] at charges
    exact (ignores.settlements _ _ _ _).trans charges

theorem settleLines_keeps (workerProvider : Option Nat) (lines : List Line) :
    Tx.Keeps observe (settleLines batch workerProvider now lines) := by
  induction lines with
  | nil =>
    exact Tx.Keeps.pure PUnit.unit
  | cons line rest ih =>
    exact (settleLine_keeps ignores workerProvider line).bind (fun _ => ih)

theorem markLines_kept (lines : List Line) (write : Line → SettlementWrite) (db : Database) :
    observe (db.markLines batch lines write now) = observe db := by
  induction lines generalizing db with
  | nil =>
    rfl
  | cons line rest ih =>
    exact (ih _).trans (ignores.settlements db line.customId (write line) now)

theorem settleBatchInferenceLines_keeps (workerProvider : Option Nat) (lines : List Line) :
    Tx.Keeps observe (settleBatchInferenceLines batch lines workerProvider now) := by
  refine (Tx.Keeps.write (markLines_kept ignores _ _)).bind (fun _ => ?_)
  split
  · exact Tx.Keeps.pure PUnit.unit
  · refine (Tx.Keeps.read _).bind (fun gate => ?_)
    cases gate with
    | none => exact settleLines_keeps ignores workerProvider _
    | some deficit =>
      exact (Tx.Keeps.write (markLines_kept ignores _ _)).bind (fun _ => Tx.Keeps.fail _)

theorem settle_keeps (options : Options) (summary : Option LineSummary) :
    Tx.Keeps observe (settle options batch summary now) := by
  unfold settle
  split
  · cases summary with
    | none => exact Tx.Keeps.fail _
    | some summary =>
      exact (Tx.Keeps.read _).bind (settleBatchInferenceLines_keeps ignores options.providerId ·)
  · exact Tx.Keeps.pure PUnit.unit

omit ignores

theorem finishBatch_kept (results : IgnoresResults observe batch)
    (settlements : IgnoresSettlements observe batch)
    (batches :
      ∀ db status outcome now, observe (db.setBatchStatus batch status outcome now) = observe db)
    (options : Options) (answer : Option Execution) (db : Database) :
    observe (finishBatch options batch answer now db) = observe db := by
  cases answer with
  | none =>
    exact batches db .failed _ now
  | some execution =>
    have keeps : Tx.Keeps observe (completeBatch options batch execution now) := by
      refine (checked_keeps _).bind (fun checksum => ?_)
      refine (applyExecutionLineProofs_keeps results _).bind (fun summary => ?_)
      refine (settle_keeps settlements options summary).bind (fun _ => ?_)
      refine (checked_keeps _).bind (fun key => ?_)
      exact Tx.Keeps.write (batches · .completed _ now)
    have same := keeps db
    rw [finishBatch]
    rcases ended : completeBatch options batch execution now db with ⟨outcome, after⟩
    rw [ended] at same
    cases outcome with
    | ok _ => exact same
    | error _ => exact (batches after .failed _ now).trans same

end Keeps

def Database.ledger (db : Database) (batchId : BatchId) :
    (Nat → CustomId → Option Line) × (CustomId → Option Billing.BillingAttempt) :=
  (fun renterId customId => db.lines.lookup (renterId, batchId, customId), fun customId =>
    db.billing.billingAttempts.lookup (buildBatchLineSettlementRequestId batchId customId))

theorem settleInferenceOnce_attempts (args : Billing.SettleArgs)
    (db : Billing.Database) {requestId : Billing.RequestId}
    (different : requestId ≠ args.requestId) :
    (settleInferenceOnce args db).2.billingAttempts.lookup requestId =
      db.billingAttempts.lookup requestId := by
  unfold settleInferenceOnce
  rcases Billing.settleInferenceOnce_cases args db with
    ⟨receipt, after, settled, effect, _⟩ | ⟨same, unsettled⟩
  · rw [settled]
    dsimp only
    split
    · exact effect.attemptsKept requestId different
    · rfl
  · split
    · rename_i receipt after settled
      rw [settled] at unsettled
      exact absurd rfl (unsettled receipt)
    · rename_i outcome
      rw [outcome] at same
      rw [same]
    · rename_i outcome
      rw [outcome] at same
      rw [same]

section Others

variable {batch : Batch} {other : BatchId}

theorem ledger_ignoresResults (different : other ≠ batch.batchId) :
    IgnoresResults (fun db => db.ledger other) batch := by
  intro db customId write now
  refine Prod.ext ?_ rfl
  funext renterId otherId
  refine Table.lookup_update_of_ne db.lines (Line.setResult_key write now) ?_
  intro same
  exact different (Prod.ext_iff.mp (Prod.ext_iff.mp same).2).1

theorem ledger_ignoresSettlements (different : other ≠ batch.batchId) :
    IgnoresSettlements (fun db => db.ledger other) batch where
  settlements := by
    intro db customId write now
    refine Prod.ext ?_ rfl
    funext renterId otherId
    refine Table.lookup_update_of_ne db.lines (Line.setSettlement_key write now) ?_
    intro same
    exact different (Prod.ext_iff.mp (Prod.ext_iff.mp same).2).1
  charges := by
    intro db line providerId now
    refine Prod.ext rfl ?_
    funext otherId
    apply settleInferenceOnce_attempts
    intro same
    exact different (requestId_inj.mp same).1

theorem finishBatch_ledger (different : other ≠ batch.batchId)
    (options : Options) (answer : Option Execution) (now : Nat) (db : Database) :
    (finishBatch options batch answer now db).ledger other = db.ledger other :=
  finishBatch_kept (ledger_ignoresResults different)
    (ledger_ignoresSettlements different) (fun _ _ _ _ => rfl) options
    answer db

end Others

end DcpPlatform.Batches
