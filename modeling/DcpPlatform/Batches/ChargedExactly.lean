import DcpPlatform.Batches.HandedOnce
import DcpPlatform.Batches.Results

/-!
# A batch costs what its lines were charged

The total and the costs of the lines are written from the results of the
executor; the charges are made afterwards, for succeeded lines only, one after
the other. A batch that fails half-way keeps what it has and gets the total 0.
-/

namespace DcpPlatform.Batches

open Foundation Table List

structure ChargedExactly (batch : Batch) (now : Nat) (before after : Database) : Prop where
  total : ∀ row ∈ after.batches.lookup batch.batchId, row.renterId = batch.renterId →
    row.totalCostHalala = before.funds batch now - after.funds batch now
  lines : ∀ customId, ∀ line ∈ after.lines.lookup (batch.lineKey customId),
    (0 < line.costHalala ↔ after.IsCharged batch.batchId customId)

def provenLines (db : Database) (batch : Batch) (execution : Execution) :
    Option (List LineProof) :=
  match requireSha256 execution.resultChecksumSha256 "result_checksum_sha256", execution.lines with
  | .ok _, .array results => (lineProofs db batch results).toOption
  | _, _ => none

def Costless (proofs : List LineProof) : Prop :=
  ∀ proof ∈ acceptedProofs proofs, proof.costHalala = 0
deriving Decidable

/-- A result that costs something is a success, and who served it is known. -/
def Database.MayCost (db : Database) (workerProvider : Option Nat) (proof : LineProof) : Prop :=
  0 < proof.costHalala → proof.status = .succeeded ∧ db.Knows (proof.providerId.or workerProvider)

instance (db : Database) (workerProvider : Option Nat)
    (proof : LineProof) : Decidable (db.MayCost workerProvider proof) :=
  inferInstanceAs (Decidable (_ → _))

def Chargeable (db : Database) (options : Options) (batch : Batch)
    (execution : Execution) (now : Nat) (proofs : List LineProof) : Prop :=
  (∀ proof ∈ proofs, proof.IsAccepted ∧ db.MayCost options.providerId proof) ∧
    (proofs.map LineProof.costHalala).sum ≤ db.funds batch now ∧
    (normalizeStorageKey (storageKey batch execution) "result_storage_key").isOk = true
deriving Decidable

/-- Whatever costs something can be charged, to the last line. -/
def Covered (db : Database) (options : Options) (batch : Batch)
    (answer : Option Execution) (now : Nat) : Prop :=
  ∀ execution ∈ answer, ∀ proofs ∈ provenLines db batch execution,
    Costless proofs ∨ Chargeable db options batch execution now proofs
deriving Decidable

structure Untouched (db : Database) (batchId : BatchId) : Prop where
  lines : ∀ renterId customId, ∀ line ∈ db.lines.lookup (renterId, batchId, customId),
        line.costHalala = 0 ∧ line.providerId = none
  charges : ∀ customId, ¬ db.IsCharged batchId customId

variable {batchId : BatchId}

theorem Untouched.of_ledger {before after : Database} (untouched : Untouched before batchId)
    (same : after.ledger batchId = before.ledger batchId) :
    Untouched after batchId where
  lines := by
    intro renterId customId line found
    have rows := congrFun (congrFun (Prod.ext_iff.mp same).1 renterId) customId
    have lookups : after.lines.lookup (renterId, batchId, customId) =
        before.lines.lookup (renterId, batchId, customId) := rows
    rw [lookups] at found
    exact untouched.lines renterId customId line found
  charges := by
    intro customId
    have attempts := congrFun (Prod.ext_iff.mp same).2 customId
    have lookups : after.billing.billingAttempts.lookup
        (buildBatchLineSettlementRequestId batchId customId) = before.billing.billingAttempts.lookup
            (buildBatchLineSettlementRequestId batchId customId) :=
      attempts
    rw [Database.IsCharged, lookups]
    exact untouched.charges customId

section Stages

variable {db : Database} {options : Options} {batch : Batch}
    {execution : Execution} {now : Nat} {proofs : List LineProof}

theorem completeBatch_of_unproven (settling : options.settlementEnabled)
    (unproven : provenLines db batch execution = none) :
    ∃ failure, completeBatch options batch execution now db = (.error failure, db) := by
  unfold provenLines at unproven
  rw [completeBatch]
  cases checksum : requireSha256 execution.resultChecksumSha256 "result_checksum_sha256" with
  | error failure =>
    exact ⟨failure, rfl⟩
  | ok digest =>
    rw [Tx.bind_of_ok (show checked (.ok digest) db = _ from rfl)]
    cases lines : execution.lines with
    | missing =>
      rw [applyExecutionLineProofs]
      rw [Tx.bind_of_ok (show (pure none : Writing (Option LineSummary)) db = _ from rfl)]
      refine ⟨plainError "batch line settlement requires execution.lines proof",
        Tx.bind_of_error ?_⟩
      rw [settle, if_pos settling]
      rfl
    | notArray =>
      exact ⟨_, Tx.bind_of_error rfl⟩
    | array results =>
      simp only [checksum, lines] at unproven
      cases normalized : lineProofs db batch results with
      | ok proofs =>
        rw [normalized] at unproven
        cases unproven
      | error failure =>
        refine ⟨failure, Tx.bind_of_error ?_⟩
        rw [applyExecutionLineProofs, Tx.read_bind, normalized]
        rfl

theorem proven_cases (proven : provenLines db batch execution = some proofs) :
    ∃ digest results, requireSha256 execution.resultChecksumSha256
      "result_checksum_sha256" = .ok digest ∧ execution.lines = .array results ∧
        lineProofs db batch results = .ok proofs := by
  unfold provenLines at proven
  split at proven
  · rename_i digest results checksum lines
    refine ⟨digest, results, checksum, lines, ?_⟩
    cases normalized : lineProofs db batch results with
    | ok others =>
      rw [normalized] at proven
      injection proven with same
      rw [same]
    | error failure =>
      rw [normalized] at proven
      cases proven
  · cases proven

theorem completeBatch_of_refused (proven : provenLines db batch execution = some proofs)
    {failure : Failure} {written : Database}
    (refused : writeProofs batch now proofs db = (.error failure, written)) :
    completeBatch options batch execution now db = (.error failure, written) := by
  obtain ⟨digest, results, checksum, lines, normalized⟩ := proven_cases proven
  rw [completeBatch, checksum, Tx.bind_of_ok (show checked (.ok digest) db = _ from rfl), lines]
  refine Tx.bind_of_error ?_
  rw [applyExecutionLineProofs, Tx.read_bind, normalized,
    Tx.bind_of_ok (show checked (.ok proofs) db = _ from rfl)]
  exact Tx.bind_of_error refused

theorem completeBatch_of_written
    (proven : provenLines db batch execution = some proofs) {written : Database}
    (writes : writeProofs batch now proofs db = (.ok PUnit.unit, written)) :
    ∃ digest, completeBatch options batch execution now db = (do
          settle options batch (some (summarize proofs)) now
          let key ← checked (normalizeStorageKey (storageKey batch execution) "result_storage_key")
          Tx.write (fun db : Database =>
            db.setBatchStatus batch .completed
              (completedOutcome batch execution (some (summarize proofs))
                key digest) now) : Writing PUnit) written := by
  obtain ⟨digest, results, checksum, lines, normalized⟩ := proven_cases proven
  refine ⟨digest, ?_⟩
  have applied : applyExecutionLineProofs batch execution.lines now db =
      (.ok (some (summarize proofs)), written) := by
    rw [lines, applyExecutionLineProofs, Tx.read_bind, normalized,
      Tx.bind_of_ok (show checked (.ok proofs) db = _ from rfl),
      Tx.bind_of_ok writes]
    rfl
  rw [completeBatch, checksum, Tx.bind_of_ok (show checked (.ok digest) db = _ from rfl),
    Tx.bind_of_ok applied]

theorem settle_of_settling (settling : options.settlementEnabled) (summary : LineSummary) :
    settle options batch (some summary) now db =
      settleBatchInferenceLines batch (db.workedLines batch) options.providerId now db := by
  rw [settle, if_pos settling]
  rfl

end Stages

/-! ## The costs of the lines -/

def Database.costOf (db : Database) (batch : Batch) (customId : CustomId) : Option Int :=
  (db.lines.lookup (batch.lineKey customId)).map Line.costHalala

def LinesExact (db : Database) (batch : Batch) : Prop :=
  ∀ customId cost, db.costOf batch customId = some cost →
    (0 < cost ↔ db.IsCharged batch.batchId customId)

theorem costs_ignoreSettlements (batch : Batch) :
    IgnoresSettlements (fun db => db.costOf batch) batch where
  settlements := by
    intro db customId write now
    funext otherId
    rw [Database.costOf, Database.setLineSettlement, lookup_update]
    split
    · rw [Option.map_map]
      rfl
    · rfl
  charges := fun _ _ _ _ => rfl

section Exact

variable {db middle : Database} {options : Options} {batch row : Batch}
    {execution : Execution} {now : Nat} {proofs : List LineProof}

theorem chargedExactly_iff {status : BatchStatus} {outcome : BatchOutcome}
    (ended : status.isTerminal = true)
    (found : middle.batches.lookup batch.batchId = some row)
    (owned : row.renterId = batch.renterId) :
    ChargedExactly batch now db (middle.setBatchStatus batch status outcome now) ↔
      outcome.totalCostHalala = db.funds batch now - middle.funds batch now ∧
        LinesExact middle batch := by
  have stored : (middle.setBatchStatus batch status outcome now).batches.lookup batch.batchId =
      some (row.setStatus status outcome now) := by
    rw [Database.setBatchStatus, lookup_updateWhere_of_met
      (Batch.setStatus_batchId status outcome now) found owned, if_pos rfl]
  have total : (row.setStatus status outcome now).totalCostHalala =
      outcome.totalCostHalala := if_pos ended
  have lines : LinesExact middle batch ↔ ∀ customId,
      ∀ line ∈ middle.lines.lookup (batch.lineKey customId),
        (0 < line.costHalala ↔ middle.IsCharged batch.batchId customId) := by
    constructor
    · intro exact' customId line there
      apply exact' customId line.costHalala
      rw [Database.costOf, Option.mem_def.mp there, Option.map_some]
    · intro exact' customId cost there
      obtain ⟨line, stored, same⟩ := Option.map_eq_some_iff.mp there
      rw [← same]
      exact exact' customId line stored
  rw [lines]
  constructor
  · intro exactly
    have same := exactly.total _ stored owned
    rw [total] at same
    exact ⟨same, exactly.lines⟩
  · rintro ⟨same, charged⟩
    refine ⟨?_, charged⟩
    intro other otherFound _
    rw [Option.mem_def, stored] at otherFound
    injection otherFound with equal
    rw [← equal, total]
    exact same

theorem written_costs (untouched : Untouched db batch.batchId)
    (each : ProofsFor (db.workedLines batch) proofs) :
    (∀ proof ∈ acceptedProofs proofs,
      (writeProofs batch now proofs db).2.costOf batch proof.customId = some proof.costHalala) ∧
      ∀ customId cost, (writeProofs batch now proofs db).2.costOf batch customId = some cost →
        cost = 0 ∨ ∃ proof ∈ acceptedProofs proofs,
          proof.customId = customId ∧ proof.costHalala = cost := by
  have distinct : ((acceptedProofs proofs).map LineProof.customId).Nodup :=
    each.distinct.sublist ((acceptedProofs_sublist proofs).map _)
  constructor
  · intro proof member
    obtain ⟨line, listed, same⟩ := each.line ((acceptedProofs_sublist proofs).mem member)
    have found := mem_workedLines listed
    rw [same] at found
    rw [Database.costOf, writeProofs_lookup each.distinct, found, Option.map_some, Option.map_some,
      received_of_mem distinct member same.symm,
      ((of_mem_acceptedProofs member).written now line).1]
  · intro customId cost stored
    rw [Database.costOf, writeProofs_lookup each.distinct] at stored
    obtain ⟨written, there, same⟩ := Option.map_eq_some_iff.mp stored
    obtain ⟨line, found, equal⟩ := Option.map_eq_some_iff.mp there
    have named : line.customId = customId :=
      (Prod.ext_iff.mp (Prod.ext_iff.mp (lookup_key found)).2).2
    by_cases known : line.customId ∈ (acceptedProofs proofs).map LineProof.customId
    · obtain ⟨proof, member, sameId⟩ := mem_map.mp known
      right
      refine ⟨proof, member, sameId.trans named, ?_⟩
      rw [← same, ← equal, received_of_mem distinct member sameId,
        ((of_mem_acceptedProofs member).written now line).1]
    · left
      rw [← same, ← equal, received_of_notMem known]
      exact (untouched.lines _ _ line found).1

structure Served (lines : List Line) (proofs : List LineProof) : Prop where
  line : ∀ line ∈ lines, ∃ proof ∈ proofs, proof.customId = line.customId ∧
    line.costHalala = proof.costHalala ∧
    line.status = proof.status ∧
    line.providerId = proof.providerId
  proof : ∀ proof ∈ proofs, ∃ line ∈ lines, proof.customId = line.customId ∧
    line.costHalala = proof.costHalala ∧
    line.status = proof.status ∧
    line.providerId = proof.providerId
  total : totalCost lines = (proofs.map LineProof.costHalala).sum

theorem served_written (untouched : Untouched db batch.batchId)
    (each : ProofsFor (db.workedLines batch) proofs)
    (all : ∀ proof ∈ proofs, proof.IsAccepted) :
    Served ((writeProofs batch now proofs db).2.workedLines batch) proofs := by
  have rows := @writeProofs_rows batch now proofs db each.distinct
  rw [acceptedProofs_of_all all] at rows
  have batches : (writeProofs batch now proofs db).2.batches = db.batches :=
    writeProofs_keeps batches_ignoreResults proofs db
  have lines := workedLines_written rows batches
  have result : ∀ line ∈ db.workedLines batch, ∀ proof ∈ proofs, proof.customId = line.customId →
      proof.customId = (received now proofs line).customId ∧
        (received now proofs line).costHalala = proof.costHalala ∧
        (received now proofs line).status = proof.status ∧
        (received now proofs line).providerId = proof.providerId := by
    intro line listed proof member same
    have free := (untouched.lines _ _ line (mem_workedLines listed)).2
    obtain ⟨cost, status, provider⟩ := (all proof member).written now line
    rw [received_customId, received_of_mem each.distinct member same, cost, status, provider,
      free, Option.or_none]
    exact ⟨same, rfl, rfl, rfl⟩
  rw [lines]
  refine ⟨?_, ?_, ?_⟩
  · intro later member
    obtain ⟨line, listed, equal⟩ := mem_map.mp member
    obtain ⟨proof, known, same⟩ := each.proof listed
    rw [← equal]
    exact ⟨proof, known, result line listed proof known same⟩
  · intro proof known
    obtain ⟨line, listed, same⟩ := each.line known
    exact ⟨received now proofs line, mem_map_of_mem listed,
      result line listed proof known same.symm⟩
  · rw [totalCost, map_map]
    exact each.sum LineProof.costHalala _ (fun line listed proof known same =>
      (result line listed proof known same).2.1)

def CostsSucceed (proofs : List LineProof) : Prop :=
  ∀ proof ∈ proofs, 0 < proof.costHalala → proof.status = .succeeded

section Served

variable {lines : List Line}

theorem Served.billable_of_cost (served : Served lines proofs)
    (succeed : CostsSucceed proofs) {proof : LineProof}
    (member : proof ∈ proofs) (costly : 0 < proof.costHalala) :
    ∃ line ∈ billable lines, proof.customId = line.customId ∧ line.costHalala = proof.costHalala ∧
      line.providerId = proof.providerId := by
  obtain ⟨line, listed, same, cost, status, provider⟩ := served.proof proof member
  refine ⟨line, mem_billable.mpr ⟨listed, ?_, ?_⟩, same, cost, provider⟩
  · rw [status]
    exact succeed proof member costly
  · rw [cost]
    exact costly

theorem Served.pair (served : Served lines proofs)
    (each : ProofsFor lines proofs) {line : Line} (listed : line ∈ lines)
    {proof : LineProof} (member : proof ∈ proofs)
    (same : proof.customId = line.customId) :
    line.costHalala = proof.costHalala ∧ line.status = proof.status ∧
      line.providerId = proof.providerId := by
  obtain ⟨other, otherMember, otherSame, columns⟩ := served.line line listed
  rw [each.unique otherMember member (otherSame.trans same.symm)] at columns
  exact columns

theorem Served.total_billable (served : Served lines proofs)
    (costs : ∀ proof ∈ proofs, 0 ≤ proof.costHalala)
    (succeed : CostsSucceed proofs) :
    totalCost (billable lines) = (proofs.map LineProof.costHalala).sum := by
  rw [← served.total]
  refine sum_filter_of_ignored IsBillable Line.costHalala lines ?_
  intro line listed free
  obtain ⟨proof, member, _, cost, status, _⟩ := served.line line listed
  have nonneg := costs proof member
  by_contra costly
  apply free
  have positive : 0 < proof.costHalala := by
    rw [cost] at costly
    omega
  refine ⟨?_, ?_⟩
  · rw [status]
    exact succeed proof member positive
  · rw [cost]
    exact positive

end Served

theorem writeProofs_billing (db : Database) :
    (writeProofs batch now proofs db).2.billing = db.billing :=
  writeProofs_keeps (fun _ _ _ _ => rfl) proofs db

theorem written_uncharged (untouched : Untouched db batch.batchId) (customId : CustomId) :
    ¬ (writeProofs batch now proofs db).2.IsCharged batch.batchId
      customId := by
  rw [Database.IsCharged, writeProofs_billing]
  exact untouched.charges customId

theorem linesExact_uncharged (untouched : Untouched db batch.batchId)
    (each : ProofsFor (db.workedLines batch) proofs) :
    LinesExact (writeProofs batch now proofs db).2 batch ↔ Costless proofs := by
  obtain ⟨costs, only⟩ := @written_costs db batch now proofs untouched each
  constructor
  · intro exactly proof member
    have nonneg := each.costs proof ((acceptedProofs_sublist proofs).mem member)
    have charged := exactly _ _ (costs proof member)
    by_contra costly
    exact written_uncharged untouched _ (charged.mp (by omega))
  · intro costless customId cost stored
    have free : cost = 0 := by
      rcases only customId cost stored with zero | ⟨proof, member, _, same⟩
      · exact zero
      · rw [← same]
        exact costless proof member
    rw [free]
    exact iff_of_false (Int.lt_irrefl 0) (written_uncharged untouched customId)

section Settled

variable {settled : Database} (charges : Charges batch now
    (billable ((writeProofs batch now proofs db).2.workedLines batch))
    (writeProofs batch now proofs db).2 settled)
    (costs : settled.costOf batch = (writeProofs batch now proofs db).2.costOf batch)

include charges costs

theorem linesExact_settled (untouched : Untouched db batch.batchId)
    (each : ProofsFor (db.workedLines batch) proofs)
    (all : ∀ proof ∈ proofs, proof.IsAccepted) :
    LinesExact settled batch ↔ CostsSucceed proofs := by
  obtain ⟨written, only⟩ := @written_costs db batch now proofs untouched each
  rw [acceptedProofs_of_all all] at written only
  have served := @served_written db batch now proofs untouched each all
  have charged : ∀ customId, settled.IsCharged batch.batchId customId ↔ customId ∈
      (billable ((writeProofs batch now proofs db).2.workedLines batch)).map Line.customId := by
    intro customId
    rw [charges.charged]
    constructor
    · rintro (before | ⟨_, here⟩)
      · exact absurd before (written_uncharged untouched customId)
      · exact here
    · intro here
      exact Or.inr ⟨rfl, here⟩
  -- The one result of a billable line.
  have behind : ∀ customId, settled.IsCharged batch.batchId customId →
      ∃ proof ∈ proofs, proof.customId = customId ∧
        0 < proof.costHalala ∧ proof.status = .succeeded := by
    intro customId isCharged
    obtain ⟨line, listed, same⟩ := mem_map.mp ((charged customId).mp isCharged)
    obtain ⟨there, succeeded, costly⟩ := mem_billable.mp listed
    obtain ⟨proof, member, sameId, cost, status, _⟩ := served.line line there
    refine ⟨proof, member, sameId.trans same, ?_, ?_⟩
    · rw [← cost]
      exact costly
    · rw [← status]
      exact succeeded
  constructor
  · intro exactly proof member costly
    have stored := written proof member
    rw [← costs] at stored
    obtain ⟨other, otherMember, same, _, succeeded⟩ := behind _ ((exactly _ _ stored).mp costly)
    rw [each.unique otherMember member same] at succeeded
    exact succeeded
  · intro succeed customId cost stored
    rw [costs] at stored
    constructor
    · intro costly
      rcases only customId cost stored with zero | ⟨proof, member, same, sameCost⟩
      · omega
      · rw [← sameCost] at costly
        obtain ⟨line, listed, sameId, _, _⟩ := served.billable_of_cost succeed member costly
        rw [charged, ← same, sameId]
        exact mem_map_of_mem listed
    · intro isCharged
      obtain ⟨proof, member, same, costly, _⟩ := behind customId isCharged
      have other := written proof member
      rw [same, stored] at other
      injection other with equal
      rw [equal]
      exact costly

end Settled

theorem linesExact_of_uncharged {after : Database}
    (costs : after.costOf batch = (writeProofs batch now proofs db).2.costOf batch)
    (uncharged : LeavesUncharged batch
      (billable ((writeProofs batch now proofs db).2.workedLines batch))
      after) :
    ¬ LinesExact after batch := by
  obtain ⟨line, listed, free⟩ := uncharged
  obtain ⟨there, _, costly⟩ := mem_billable.mp listed
  have found := mem_workedLines there
  intro exactly
  apply free
  refine (exactly line.customId line.costHalala ?_).mp costly
  rw [costs, Database.costOf, found, Option.map_some]

theorem linesExact_untouched (untouched : Untouched db batch.batchId) :
    LinesExact db batch := by
  intro customId cost stored
  obtain ⟨line, found, same⟩ := Option.map_eq_some_iff.mp stored
  rw [← same, (untouched.lines _ _ line found).1]
  exact iff_of_false (Int.lt_irrefl 0) (untouched.charges customId)

theorem failBatch_exact_iff (found : middle.batches.lookup batch.batchId = some row)
    (owned : row.renterId = batch.renterId) :
    ChargedExactly batch now db (middle.failBatch batch now) ↔
      middle.funds batch now = db.funds batch now ∧ LinesExact middle batch := by
  rw [Database.failBatch, chargedExactly_iff rfl found owned]
  refine and_congr_left (fun _ => ?_)
  change (0 : Int) = _ ↔ _
  constructor
  · intro same
    omega
  · intro same
    omega

theorem costsSucceed_of_costless (all : ∀ proof ∈ proofs, proof.IsAccepted)
    (costless : Costless proofs) : CostsSucceed proofs := by
  intro proof member costly
  rw [Costless, acceptedProofs_of_all all] at costless
  rw [costless proof member] at costly
  exact absurd costly (Int.lt_irrefl 0)

theorem Chargeable.costsSucceed (chargeable : Chargeable db options batch execution now proofs) :
    CostsSucceed proofs :=
  fun proof member costly => ((chargeable.1 proof member).2 costly).1

section Decides

variable (untouched : Untouched db batch.batchId) (each : ProofsFor (db.workedLines batch) proofs)
    (all : ∀ proof ∈ proofs, proof.IsAccepted)

include untouched each all

theorem billable_of_costless (costless : Costless proofs) :
    billable ((writeProofs batch now proofs db).2.workedLines batch) = [] := by
  rw [Costless, acceptedProofs_of_all all] at costless
  have served := @served_written db batch now proofs untouched each all
  rw [billable, filter_eq_nil_iff]
  intro line listed chosen
  obtain ⟨_, costly⟩ := of_decide_eq_true chosen
  obtain ⟨proof, member, _, cost, _⟩ := served.line line listed
  rw [cost, costless proof member] at costly
  exact Int.lt_irrefl 0 costly

theorem canCharge_of_chargeable (chargeable : Chargeable db options batch execution now proofs) :
    (writeProofs batch now proofs db).2.CanCharge batch options.providerId now
      (billable ((writeProofs batch now proofs db).2.workedLines batch)) := by
  have succeed := chargeable.costsSucceed
  obtain ⟨results, covered, _⟩ := chargeable
  have served := @served_written db batch now proofs untouched each all
  right
  constructor
  · rw [served.total_billable each.costs succeed, Database.funds, writeProofs_billing]
    exact covered
  · intro line listed
    obtain ⟨there, _, costly⟩ := mem_billable.mp listed
    obtain ⟨proof, member, _, cost, _, provider⟩ := served.line line there
    rw [cost] at costly
    rw [chargedProvider, provider, Database.Knows, writeProofs_billing]
    exact ((results proof member).2 costly).2

theorem covered_of_canCharge (succeed : CostsSucceed proofs)
    (canCharge : (writeProofs batch now proofs db).2.CanCharge batch options.providerId now
      (billable ((writeProofs batch now proofs db).2.workedLines batch)))
    (key : (normalizeStorageKey (storageKey batch execution) "result_storage_key").isOk = true) :
    Costless proofs ∨ Chargeable db options batch execution now proofs := by
  have served := @served_written db batch now proofs untouched each all
  rcases canCharge with free | ⟨covered, known⟩
  · left
    intro proof accepted
    have member := (acceptedProofs_sublist proofs).mem accepted
    have nonneg := each.costs proof member
    by_contra costly
    obtain ⟨line, listed, _⟩ := served.billable_of_cost succeed member (by omega)
    rw [free] at listed
    cases listed
  · right
    rw [served.total_billable each.costs succeed, Database.funds, writeProofs_billing] at covered
    refine ⟨?_, covered, key⟩
    intro proof member
    refine ⟨all proof member, ?_⟩
    intro costly
    obtain ⟨line, listed, _, _, provider⟩ := served.billable_of_cost succeed member costly
    have knows := known line listed
    rw [chargedProvider, provider, Database.Knows, writeProofs_billing] at knows
    exact ⟨succeed proof member costly, knows⟩

end Decides

theorem cost_le_total (costs : ∀ proof ∈ proofs, 0 ≤ proof.costHalala) {proof : LineProof}
    (member : proof ∈ proofs) :
    proof.costHalala ≤ (proofs.map LineProof.costHalala).sum := by
  refine single_le_sum ?_ _ (mem_map_of_mem member)
  intro cost listed
  obtain ⟨other, there, same⟩ := mem_map.mp listed
  rw [← same]
  exact costs other there

theorem failure_of_outcome {result : Except Failure PUnit × Database}
    {failure : Failure} (failed : result.1 = .error failure) :
    result = (.error failure, result.2) :=
  Prod.ext failed rfl

theorem proven_exact_iff (settling : options.settlementEnabled)
    (untouched : Untouched db batch.batchId)
    (found : db.batches.lookup batch.batchId = some row)
    (owned : row.renterId = batch.renterId)
    (proven : provenLines db batch execution = some proofs) :
    ChargedExactly batch now db (finishBatch options batch (some execution) now db) ↔
      Costless proofs ∨ Chargeable db options batch execution now proofs := by
  obtain ⟨_, _, _, _, normalized⟩ := proven_cases proven
  have each := lineProofs_eq_ok normalized
  have writtenFound :
      (writeProofs batch now proofs db).2.batches.lookup batch.batchId = some row := by
    rw [writeProofs_keeps batches_ignoreResults proofs db]
    exact found
  have writtenFunds : (writeProofs batch now proofs db).2.funds batch now = db.funds batch now := by
    rw [Database.funds, writeProofs_billing]
    rfl
  rw [finishBatch]
  rcases @writeProofs_outcome batch now proofs db with ⟨all, wrote⟩ | ⟨refused, failure, failed⟩
  · obtain ⟨digest, completes⟩ :=
      @completeBatch_of_written db options batch execution now proofs proven _ (Prod.ext wrote rfl)
    have settlesAs := @settle_of_settling (writeProofs batch now proofs db).2 options batch
        now settling (summarize proofs)
    rw [completes]
    have sameBatches := @settleBatchInferenceLines_keeps _ Database.batches batch now
        batches_ignoreSettlements options.providerId
        ((writeProofs batch now proofs db).2.workedLines batch)
        (writeProofs batch now proofs db).2
    have sameCosts := @settleBatchInferenceLines_keeps _ (·.costOf batch) batch
        now (costs_ignoreSettlements batch) options.providerId
        ((writeProofs batch now proofs db).2.workedLines batch)
        (writeProofs batch now proofs db).2
    rcases @settleBatchInferenceLines_cases batch now options.providerId
        ((writeProofs batch now proofs db).2.workedLines batch)
        (writeProofs batch now proofs db).2
        (fun line _ => written_uncharged untouched line.customId)
        workedLines_distinct with
      ⟨canCharge, settled, settles, charges⟩ | ⟨cannot, failure, after, fails, uncharged⟩
    · rw [settles] at sameBatches sameCosts
      dsimp only at sameBatches sameCosts
      rw [← sameBatches] at writtenFound
      have funds := charges.funds
      rw [writtenFunds] at funds
      have exactly := linesExact_settled charges sameCosts untouched each all
      have served := @served_written db batch now proofs untouched each all
      have free : Costless proofs → totalCost (billable
          ((writeProofs batch now proofs db).2.workedLines batch)) =
            0 := by
        intro costless
        rw [billable_of_costless untouched each all costless]
        rfl
      rw [Tx.bind_of_ok (settlesAs.trans settles)]
      cases key : normalizeStorageKey (storageKey batch execution) "result_storage_key" with
      | error failure =>
        rw [Tx.bind_of_error (show checked (.error failure) settled = _ from rfl)]
        rw [failBatch_exact_iff writtenFound owned, exactly]
        constructor
        · rintro ⟨same, succeed⟩
          have total := served.total_billable each.costs succeed
          left
          intro proof accepted
          have member := (acceptedProofs_sublist proofs).mem accepted
          have nonneg := each.costs proof member
          have part := cost_le_total each.costs member
          omega
        · rintro (costless | ⟨_, _, stored⟩)
          · have nothing := free costless
            exact ⟨by omega, costsSucceed_of_costless all costless⟩
          · rw [key] at stored
            cases stored
      | ok stored =>
        rw [Tx.bind_of_ok (show checked (.ok stored) settled = _ from rfl)]
        change ChargedExactly batch now db (settled.setBatchStatus batch .completed _ now) ↔ _
        rw [chargedExactly_iff rfl writtenFound owned, exactly]
        constructor
        · rintro ⟨_, succeed⟩
          exact covered_of_canCharge untouched each all succeed canCharge (by rw [key]; rfl)
        · intro covered
          have succeed : CostsSucceed proofs := by
            rcases covered with costless | chargeable
            · exact costsSucceed_of_costless all costless
            · exact chargeable.costsSucceed
          have total := served.total_billable each.costs succeed
          refine ⟨?_, succeed⟩
          change (proofs.map LineProof.costHalala).sum = _
          omega
    · rw [fails] at sameBatches sameCosts
      rw [← sameBatches] at writtenFound
      rw [Tx.bind_of_error (settlesAs.trans fails)]
      rw [failBatch_exact_iff writtenFound owned]
      refine iff_of_false ?_ ?_
      · rintro ⟨_, exactly⟩
        exact linesExact_of_uncharged sameCosts uncharged exactly
      · rintro (costless | chargeable)
        · exact cannot (Or.inl (billable_of_costless untouched each all costless))
        · exact cannot (canCharge_of_chargeable untouched each all chargeable)
  · rw [completeBatch_of_refused proven (failure_of_outcome failed)]
    rw [failBatch_exact_iff writtenFound owned, and_iff_right writtenFunds,
      linesExact_uncharged untouched each]
    refine ⟨Or.inl, ?_⟩
    rintro (costless | ⟨results, _, _⟩)
    · exact costless
    · exact absurd (fun proof member => (results proof member).1) refused

theorem finishBatch_exact_iff (settling : options.settlementEnabled)
    (untouched : Untouched db batch.batchId)
    (found : db.batches.lookup batch.batchId = some row)
    (owned : row.renterId = batch.renterId) (answer : Option Execution) :
    ChargedExactly batch now db (finishBatch options batch answer now db) ↔
      Covered db options batch answer now := by
  have idle : ChargedExactly batch now db (db.failBatch batch now) :=
    (failBatch_exact_iff found owned).mpr ⟨rfl, linesExact_untouched untouched⟩
  cases answer with
  | none =>
    refine iff_of_true idle ?_
    intro execution member
    cases member
  | some execution =>
    rw [finishBatch]
    cases proven : provenLines db batch execution with
    | none =>
      obtain ⟨failure, ended⟩ :=
        @completeBatch_of_unproven db options batch execution now settling proven
      rw [ended]
      refine iff_of_true idle ?_
      intro other member proofs known
      rw [← Option.mem_some_iff.mp member, proven] at known
      cases known
    | some proofs =>
      have condition : Covered db options batch (some execution) now ↔
          Costless proofs ∨ Chargeable db options batch execution now proofs := by
        constructor
        · intro covered
          exact covered execution rfl proofs proven
        · intro covered other member others known
          rw [← Option.mem_some_iff.mp member, proven] at known
          rw [← Option.mem_some_iff.mp member, ← Option.mem_some_iff.mp known]
          exact covered
      rw [condition]
      exact proven_exact_iff settling untouched found owned proven

end Exact

def Settles (system : System) (action : Action) : Prop :=
  Unchanged system action ∧
    match action with
    | .start options _ _ => options.settlementEnabled = true
    | _ => True

instance (system : System) (action : Action) :
    Decidable (Settles system action) :=
  match action with
  | .start options limit now =>
    inferInstanceAs
      (Decidable (Unchanged system (.start options limit now) ∧ options.settlementEnabled = true))
  | .answer index answer now =>
    inferInstanceAs (Decidable (Unchanged system (.answer index answer now) ∧ True))
  | .cancel batch now =>
    inferInstanceAs (Decidable (Unchanged system (.cancel batch now) ∧ True))
  | .create request now =>
    inferInstanceAs (Decidable (Unchanged system (.create request now) ∧ True))
  | .funds renters providers credits =>
    inferInstanceAs (Decidable (Unchanged system (.funds renters providers credits) ∧ True))

/-- The batch that a step finishes is charged exactly. -/
def FinishesExactly (before : System) (action : Action) (after : System) : Prop :=
  match action with
  | .answer index _ now =>
    ∀ worker ∈ before.workers[index]?, ChargedExactly worker.awaited now before.db after.db
  | _ => True

def FinishesCovered (system : System) (action : Action) : Prop :=
  match action with
  | .answer index answer now =>
    ∀ worker ∈ system.workers[index]?, Covered system.db worker.options worker.awaited answer now
  | _ => True

instance (system : System) (action : Action) :
    Decidable (FinishesCovered system action) :=
  match action with
  | .answer index answer now =>
    inferInstanceAs (Decidable (∀ worker ∈ system.workers[index]?,
      Covered system.db worker.options worker.awaited answer now))
  | .start _ _ _ | .cancel _ _ | .create _ _ | .funds _ _ _ =>
    inferInstanceAs (Decidable True)

def Database.Waiting (db : Database) (batchId : BatchId) : Prop :=
  ∀ row ∈ db.batches.lookup batchId, row.status = .created

structure Reckoned (system : System) : Prop where
  orderly : Orderly system
  settling : ∀ worker ∈ system.workers, worker.options.settlementEnabled = true
  waiting : ∀ batchId, system.db.Waiting batchId → Untouched system.db batchId
  awaited : ∀ worker ∈ system.workers, Untouched system.db worker.awaited.batchId

section Reckoned

variable {system : System} {options : Options} {now : Nat}

theorem takeNext_reckoned {pending : List Batch} (reckoned : Reckoned system)
    (orderly : Orderly (system.takeNext options pending now))
    (settling : options.settlementEnabled = true)
    (there : ∀ batch ∈ pending.head?, ∃ row, system.db.batches.lookup batch.batchId = some row ∧
      row.renterId = batch.renterId ∧ row.status = .created) :
    Reckoned (system.takeNext options pending now) := by
  cases pending with
  | nil =>
    exact reckoned
  | cons batch rest =>
    obtain ⟨row, found, owned, created⟩ := there batch rfl
    have marks : Marks system.db (system.takeNext options (batch :: rest) now).db batch
        .running := takeNext_marks
    obtain ⟨later, stored, _, running⟩ := marks.row row found owned
    have same : ∀ batchId, (system.takeNext options (batch :: rest) now).db.ledger batchId =
        system.db.ledger batchId := fun _ => rfl
    refine ⟨orderly, ?_, ?_, ?_⟩
    · intro worker member
      rcases mem_append.mp member with old | last
      · exact reckoned.settling worker old
      · rw [mem_singleton.mp last]
        exact settling
    · intro batchId waits
      by_cases here : batchId = batch.batchId
      · rw [here] at waits
        have status := waits later stored
        rw [running] at status
        cases status
      · refine (reckoned.waiting batchId ?_).of_ledger (same batchId)
        intro other otherFound
        apply waits
        rw [Option.mem_def, marks.others batchId here]
        exact otherFound
    · intro worker member
      rcases mem_append.mp member with old | last
      · exact (reckoned.awaited worker old).of_ledger (same _)
      · rw [mem_singleton.mp last]
        refine (reckoned.waiting batch.batchId ?_).of_ledger (same _)
        intro other otherFound
        rw [Option.mem_def, found] at otherFound
        cases otherFound
        exact created

theorem start_reckoned {limit : Nat} (reckoned : Reckoned system)
    (settling : options.settlementEnabled = true) :
    Reckoned (system.takeNext options (system.db.listCreatedBatchInferenceJobs limit) now) := by
  refine takeNext_reckoned reckoned (start_handedOnce reckoned.orderly options limit).1 settling ?_
  intro batch head
  have member : batch ∈ system.db.listCreatedBatchInferenceJobs limit := mem_of_mem_head? head
  have sorted := mem_of_mem_take member
  rw [mem_insertionSort] at sorted
  obtain ⟨created, found⟩ := mem_select sorted
  exact ⟨batch, found, rfl, created⟩

theorem Reckoned.of_ledgers {db : Database} (reckoned : Reckoned system)
    (orderly : Orderly { system with db := db })
    (waits : ∀ batchId, db.Waiting batchId → system.db.Waiting batchId)
    (kept : ∀ batchId, Untouched system.db batchId → Untouched db batchId) :
    Reckoned { system with db := db } where
  orderly := orderly
  settling := reckoned.settling
  waiting := fun batchId waiting =>
    kept batchId (reckoned.waiting batchId (waits batchId waiting))
  awaited := fun worker member =>
    kept _ (reckoned.awaited worker member)

theorem finish_reckoned {worker : Worker} {index : Nat}
    {answer : Option Execution} (reckoned : Reckoned system)
    (waiting : system.workers[index]? = some worker)
    (live : system.db.HasStatus worker.awaited (fun status => !status.isTerminal)) :
    Reckoned (system.finish worker index answer now) := by
  have present : worker ∈ system.workers := mem_of_getElem? waiting
  obtain ⟨_, row, found, owned, _⟩ := reckoned.orderly.awaited worker present
  obtain ⟨status, ended, marks⟩ :=
    @finishBatch_marks worker.awaited now worker.options answer system.db
  obtain ⟨later, stored, _, finished⟩ := marks.row row found owned
  have ledger : ∀ batchId, batchId ≠ worker.awaited.batchId →
      (system.finish worker index answer now).db.ledger batchId = system.db.ledger batchId :=
    fun batchId different =>
      finishBatch_ledger different worker.options answer now system.db
  refine ⟨(finish_orderly reckoned.orderly waiting live).1, ?_, ?_, ?_⟩
  · intro other member
    exact reckoned.settling other (mem_of_mem_eraseIdx member)
  · intro batchId waits
    by_cases same : batchId = worker.awaited.batchId
    · rw [same] at waits
      have created := waits later stored
      rw [finished] at created
      rcases ended with completed | failed
      · rw [completed] at created
        cases created
      · rw [failed] at created
        cases created
    · refine (reckoned.waiting batchId ?_).of_ledger (ledger batchId same)
      intro other otherFound
      apply waits
      exact (marks.others batchId same).trans otherFound
  · intro other member
    have different := other_awaits reckoned.orderly waiting member
    exact (reckoned.awaited other (mem_of_mem_eraseIdx member)).of_ledger (ledger _ different)

end Reckoned

theorem lookup_insertBatchInferenceJobLines {lines : List Line} :
    ∀ {db : Database} {key : Nat × BatchId × CustomId} {line : Line},
      (insertBatchInferenceJobLines lines db).2.lines.lookup key = some line →
        db.lines.lookup key = some line ∨ line ∈ lines := by
  induction lines with
  | nil =>
    intro db key line found
    exact Or.inl found
  | cons first rest ih =>
    intro db key line found
    rw [insertBatchInferenceJobLines, Tx.read_bind] at found
    cases taken : db.lines.lookup first.key with
    | some other =>
      rw [taken] at found
      exact Or.inl found
    | none =>
      rw [taken] at found
      rcases ih found with before | there
      · dsimp only at before
        rw [insertIfNew_of_fresh taken, lookup_insert] at before
        split at before
        · cases before
          exact Or.inr mem_cons_self
        · exact Or.inl before
      · exact Or.inr (mem_cons_of_mem first there)

theorem insertBatchInferenceJobLines_billing (lines : List Line) :
    Tx.Keeps Database.billing (insertBatchInferenceJobLines lines) := by
  induction lines with
  | nil =>
    exact Tx.Keeps.pure PUnit.unit
  | cons line rest ih =>
    refine (Tx.Keeps.read _).bind (fun taken => ?_)
    cases taken with
    | true => exact Tx.Keeps.fail _
    | false =>
      refine Tx.Keeps.bind (Tx.Keeps.write ?_) (fun _ => ih)
      intro _
      rfl

variable {db : Database}

theorem createBatchInferenceJob_untouched
    (jsonParse : String → Option Json) (request : CreateRequest) (now : Nat)
    (untouched : Untouched db batchId) :
    Untouched (createBatchInferenceJob jsonParse request now db).2
      batchId := by
  unfold createBatchInferenceJob
  split
  · exact untouched
  · split
    · exact untouched
    · split
      · exact untouched
      · refine ⟨?_, ?_⟩
        · intro renterId customId line found
          rcases lookup_insertBatchInferenceJobLines found with before | new
          · exact untouched.lines renterId customId line before
          · obtain ⟨entry, _, same⟩ := mem_map.mp new
            rw [← same]
            exact ⟨rfl, rfl⟩
        · intro customId
          rw [Database.IsCharged, insertBatchInferenceJobLines_billing]
          exact untouched.charges customId

theorem waiting_of_cancelled {batch : Batch} {now : Nat}
    (waits : (db.setBatchStatus batch .cancelled BatchOutcome.empty now).Waiting batchId) :
    db.Waiting batchId := by
  intro row found
  have marks := setBatchStatus_marks db batch .cancelled BatchOutcome.empty now
  by_cases same : batchId = batch.batchId
  · rw [same] at found waits
    by_cases owned : row.renterId = batch.renterId
    · obtain ⟨later, stored, _, cancelled⟩ := marks.row row found owned
      have created := waits later stored
      rw [cancelled] at created
      cases created
    · apply waits
      rw [Database.setBatchStatus, updateWhere_of_unmet]
      · exact found
      · rintro ⟨other, otherFound, met⟩
        rw [Option.mem_def.mp found] at otherFound
        cases otherFound
        exact owned met
  · apply waits
    exact (marks.others batchId same).trans found

theorem chargedExactly_congr {batch : Batch} {now : Nat} {before after later : Database}
    (row : later.batches.lookup batch.batchId = after.batches.lookup batch.batchId)
    (lines : later.lines = after.lines) (billing : later.billing = after.billing) :
    ChargedExactly batch now before later ↔ ChargedExactly batch now before after := by
  have same : ∀ {first second : Database}, second.batches.lookup batch.batchId =
      first.batches.lookup batch.batchId →
        second.lines = first.lines → second.billing = first.billing →
        ChargedExactly batch now before first → ChargedExactly batch now before second := by
    intro first second rows sameLines sameBilling exactly
    refine ⟨?_, ?_⟩
    · rw [rows, Database.funds, Database.funds, sameBilling]
      exact exactly.total
    · rw [sameLines]
      intro customId line found
      rw [Database.IsCharged, sameBilling]
      exact exactly.lines customId line found
  exact ⟨same row.symm lines.symm billing.symm, same row lines billing⟩

section Steps

variable {jsonParse : String → Option Json} {source target : System} {action : Action}

theorem settles_reckoned (reckoned : Reckoned source) (settles : Settles source action)
    (fires : Fires (next jsonParse) source action target) :
    Reckoned target := by
  obtain ⟨unchanged, settling⟩ := settles
  have orderly := (unchanged_handedOnce reckoned.orderly unchanged fires).1
  cases action with
  | start options limit now =>
    cases fires
    exact start_reckoned reckoned settling
  | answer index answer now =>
    simp only [Fires, next] at fires
    split at fires
    · cases fires
    · rename_i worker waiting
      cases fires
      obtain ⟨live, waits⟩ := unchanged worker waiting
      have present : worker ∈ source.workers := mem_of_getElem? waiting
      refine takeNext_reckoned (finish_reckoned reckoned waiting live)
        orderly (reckoned.settling worker present) ?_
      intro batch head
      have listed : batch ∈ worker.remaining := mem_of_mem_head? head
      obtain ⟨row, found, owned, _⟩ := reckoned.orderly.remaining worker present batch listed
      have created := waits batch head row found owned
      exact ⟨row, (finish_others reckoned.orderly waiting listed).trans found,
        owned, of_decide_eq_true created⟩
  | cancel batch now =>
    cases fires
    refine reckoned.of_ledgers orderly ?_ ?_
    · intro batchId waits
      exact waiting_of_cancelled waits
    · intro batchId untouched
      exact untouched.of_ledger rfl
  | create request now =>
    cases fires
    refine reckoned.of_ledgers orderly ?_ ?_
    · intro batchId waits row found
      exact waits row (createBatchInferenceJob_kept jsonParse request now source.db found)
    · intro batchId untouched
      exact createBatchInferenceJob_untouched jsonParse request now untouched
  | funds renters providers credits =>
    cases fires
    refine reckoned.of_ledgers orderly (fun _ waits => waits) ?_
    intro batchId untouched
    exact untouched.of_ledger rfl

theorem finishesExactly_iff (reckoned : Reckoned source)
    (fires : Fires (next jsonParse) source action target) :
    FinishesExactly source action target ↔ FinishesCovered source action := by
  cases action with
  | answer index answer now =>
    simp only [Fires, next] at fires
    split at fires
    · cases fires
    · rename_i worker waiting
      injection fires with same
      have present : worker ∈ source.workers := mem_of_getElem? waiting
      obtain ⟨_, row, found, owned, _⟩ := reckoned.orderly.awaited worker present
      have decides := @finishBatch_exact_iff source.db worker.options worker.awaited row
          now (reckoned.settling worker present)
          (reckoned.awaited worker present) found owned answer
      have untaken : target.db.batches.lookup worker.awaited.batchId =
          (source.finish worker index answer now).db.batches.lookup
            worker.awaited.batchId := by
        rw [← same]
        have separate := reckoned.orderly.separate worker present
        cases pending : worker.remaining with
        | nil => rfl
        | cons batch rest =>
          rw [pending, map_cons, nodup_cons] at separate
          apply takeNext_marks.others
          intro equal
          rw [equal] at separate
          exact separate.1 mem_cons_self
      have parts : target.db.lines = (source.finish worker index answer now).db.lines ∧
          target.db.billing = (source.finish worker index answer now).db.billing := by
        rw [← same]
        cases worker.remaining with
        | nil | cons batch rest => exact ⟨rfl, rfl⟩
      have congr := @chargedExactly_congr worker.awaited now source.db _ _ untaken parts.1 parts.2
      constructor
      · intro exactly other otherWaiting
        rw [Option.mem_def, waiting] at otherWaiting
        cases otherWaiting
        exact decides.mp (congr.mp (exactly worker waiting))
      · intro covered other otherWaiting
        rw [Option.mem_def, waiting] at otherWaiting
        cases otherWaiting
        exact congr.mpr (decides.mpr (covered worker waiting))
  | start | cancel | create | funds => exact Iff.rfl

end Steps

/-- Along the runs that settle and that work on every batch once, the batches
cost what their lines were charged exactly when whatever costs something can
be charged. -/
theorem batches_charged_exactly_iff_covered
    {jsonParse : String → Option Json} {start finish : System}
    {actions : List Action} (idle : start.workers = [])
    (fresh : start.executed = [])
    (untouched : ∀ batchId, start.db.Waiting batchId → Untouched start.db batchId) :
    Run (fun before action after =>
      guarded (Fires (next jsonParse)) Settles before action after ∧
        FinishesExactly before action after)
        start actions finish ↔
      Run (guarded (Fires (next jsonParse)) (fun system action =>
        Settles system action ∧ FinishesCovered system action))
        start actions finish := by
  have reckoned : Reckoned start := by
    refine ⟨orderly_of_idle idle fresh, ?_, untouched, ?_⟩
    · rw [idle]
      intro worker member
      cases member
    · rw [idle]
      intro worker member
      cases member
  refine Run.congr_of_invariant Reckoned ?_ ?_ reckoned
  · intro source target action holds taken
    exact settles_reckoned holds taken.1.1 taken.1.2
  · intro source target action holds
    constructor
    · rintro ⟨⟨settles, fires⟩, exactly⟩
      exact ⟨⟨settles, (finishesExactly_iff holds fires).mp exactly⟩, fires⟩
    · rintro ⟨⟨settles, covered⟩, fires⟩
      exact ⟨⟨settles, fires⟩, (finishesExactly_iff holds fires).mpr covered⟩

def sampleRequest (customId : CustomId) : BatchRequest :=
  { customId := customId
    url := "/v1/complete"
    model := "model" }

def firstLine : CustomId := ⟨"first", by decide⟩

def secondLine : CustomId := ⟨"second", by decide⟩

def chargedSystem : System :=
  { db :=
    { batches := Table.empty.insertIfNew { sampleBatch 1 firstId with requestCount := 2 }
      lines := (Table.empty.insertIfNew
        (newLine 1 firstId 5 (sampleRequest firstLine) 0)).insertIfNew
          (newLine 1 firstId 5 (sampleRequest secondLine) 1)
      billing :=
        { sampleBilling with
          renters := fun renterId =>
            if renterId = 1 then some ⟨100, 0, 0, none⟩ else none
          providers := fun providerId =>
            if providerId = 7 then some ⟨0, 0, none, 0⟩ else none } }
    workers := []
    executed := [] }

theorem chargedSystem_untouched (batchId : BatchId) :
    Untouched chargedSystem.db batchId where
  lines := by
    intro renterId customId line found
    have rows : ∀ line ∈ chargedSystem.db.lines.rows,
        line.costHalala = 0 ∧ line.providerId = none := by
      decide
    exact rows line (lookup_mem found)
  charges := by
    intro customId charged
    cases charged

def settlingOptions : Options :=
  { settlementEnabled := true
    providerId := none }

def executedLine (customId status : String) (providerId cost : Nat) :
    ExecutionLine :=
  { customId := .text customId
    statusCode := .number 200
    status := .text status
    errorCode := .missing
    errorMessage := .missing
    error := .missing
    responseChecksumSha256 := .text (String.ofList (List.replicate 64 '7'))
    responseNormalizedBytes := .missing
    providerId := .number providerId
    usage := none
    costHalala := .number cost
    requestId := .missing
    providerResponseId := .missing }

def executionOf (status : String) (providerId : Nat) : Execution :=
  { sampleExecution with
    lines := .array [some (executedLine "first" "succeeded" 7 30),
          some (executedLine "second" status providerId 40)] }

def Database.totalOf (db : Database) (batchId : BatchId) : Option Int :=
  (db.batches.lookup batchId).map Batch.totalCostHalala

theorem batches_charged_exactly_iff_covered_sample :
    ∃ finish, Run (fun before action after =>
      guarded (Fires (next readNothing)) Settles before action after ∧
        FinishesExactly before action after) chargedSystem
          [.start settlingOptions none 10, .answer 0 (some (executionOf "succeeded" 7)) 20]
          finish ∧
        finish.db.totalOf firstId = some 70 ∧
        finish.db.billing.balance 1 = 30 := by
  obtain ⟨finish, executed, amounts⟩ : ∃ finish, execute
      (restricted (next readNothing) (fun system action =>
        Settles system action ∧ FinishesCovered system action))
      chargedSystem
      [.start settlingOptions none 10, .answer 0 (some (executionOf "succeeded" 7)) 20] =
      some finish ∧ (finish.db.totalOf firstId = some 70 ∧ finish.db.billing.balance 1 = 30) :=
    exists_of_execute_any (by decide +kernel)
  refine ⟨finish, ?_, amounts⟩
  exact (@batches_charged_exactly_iff_covered readNothing chargedSystem
    finish _ rfl rfl (fun batchId _ => chargedSystem_untouched batchId)).mpr
    (run_guarded_of_execute executed)

def TotalsAgree (before : System) (index now : Nat) (after : System) :
    Prop :=
  ∀ worker ∈ before.workers[index]?, ∀ row ∈ after.db.batches.lookup worker.awaited.batchId,
    row.renterId = worker.awaited.renterId →
      row.totalCostHalala = before.db.funds worker.awaited now - after.db.funds worker.awaited now
deriving Decidable

theorem inexactly_of_answer {middle : System} {index now : Nat} {answer : Option Execution}
    (answered : (execute (next readNothing) middle [.answer index answer now]).any
      (fun finish => ¬ TotalsAgree middle index now finish) = true) :
    ∃ finish, Fires (next readNothing) middle (.answer index answer now) finish ∧
      ¬ FinishesExactly middle (.answer index answer now) finish := by
  obtain ⟨finish, fired, differ⟩ := exists_of_execute_any answered
  have run := run_of_execute fired
  cases run with
  | cons taken rest =>
    cases rest
    refine ⟨finish, taken, ?_⟩
    intro exactly
    apply differ
    intro worker waiting row found owned
    exact (exactly worker waiting).total row found owned

/-- A failed line that costs something is counted and not charged; and when
the second charge fails, the batch fails with the total 0 after the first. -/
theorem batch_charged_inexactly :
    ∃ middle, execute (next readNothing) chargedSystem
      [.start settlingOptions none 10] = some middle ∧ (∃ finish, Fires (next readNothing) middle
          (.answer 0 (some (executionOf "failed" 7)) 20) finish ∧
            ¬ FinishesExactly middle (.answer 0 (some (executionOf "failed" 7)) 20) finish) ∧
        ∃ finish, Fires (next readNothing) middle
          (.answer 0 (some (executionOf "succeeded" 8)) 20) finish ∧
            ¬ FinishesExactly middle (.answer 0 (some (executionOf "succeeded" 8)) 20) finish := by
  refine exists_executed (fun middle =>
    ((execute (next readNothing) middle [.answer 0 (some (executionOf "failed" 7)) 20]).any
      (¬ TotalsAgree middle 0 20 ·) = true ∧
      (execute (next readNothing) middle [.answer 0 (some (executionOf "succeeded" 8)) 20]).any
        (¬ TotalsAgree middle 0 20 ·) =
        true))
    (by decide +kernel) ?_
  rintro middle _ ⟨failed, unknown⟩
  exact ⟨inexactly_of_answer failed, inexactly_of_answer unknown⟩

end DcpPlatform.Batches
