import DcpPlatform.Batches.ChargedExactly

/-!
# An accepted batch can be completed

A batch goes from the parser to the tables and to the executor, and its
results go back to the lines that are listed. The parser accepts 1000 requests
and the list shows 100 lines: the results of a longer batch are refused.
-/

namespace DcpPlatform.Batches

open Foundation Table List

structure LineResult where
  status : LineStatus
  statusCode : Option Int
  responseChecksumSha256 : Option String
  responseNormalizedBytes : Int
  promptTokens : Int
  completionTokens : Int
  totalTokens : Int
  costHalala : Int
  requestId : Option String
  providerResponseId : Option String
  errorCode : Option String
  errorMessage : Option String

def Line.result (line : Line) : LineResult :=
  { status := line.status
    statusCode := line.statusCode
    responseChecksumSha256 := line.responseChecksumSha256
    responseNormalizedBytes := line.responseNormalizedBytes
    promptTokens := line.promptTokens
    completionTokens := line.completionTokens
    totalTokens := line.totalTokens
    costHalala := line.costHalala
    requestId := line.requestId
    providerResponseId := line.providerResponseId
    errorCode := line.errorCode
    errorMessage := line.errorMessage }

def LineWrite.result (write : LineWrite) : LineResult :=
  { status := write.status
    statusCode := write.statusCode
    responseChecksumSha256 := write.responseChecksumSha256
    responseNormalizedBytes := write.responseNormalizedBytes.getD 0
    promptTokens := write.promptTokens
    completionTokens := write.completionTokens
    totalTokens := write.totalTokens
    costHalala := write.costHalala
    requestId := write.requestId
    providerResponseId := write.providerResponseId
    errorCode := write.errorCode
    errorMessage := write.errorMessage }

def IsResultOf (results : List (Option ExecutionLine))
    (request : BatchRequest) (write : LineWrite) : Prop :=
  ∃ line proof, some line ∈ results ∧ line.trimmedId = request.customId.val ∧
    line.proof request.customId = .ok proof ∧
    lineWrite proof = .ok write

structure ValidResults (requests : List BatchRequest)
    (results : List (Option ExecutionLine)) : Prop where
  one : (results.map (Option.map ExecutionLine.trimmedId)).Perm
    (requests.map (fun request => some request.customId.val))
  valid : ∀ line, some line ∈ results → ∀ request ∈ requests,
    line.trimmedId = request.customId.val →
      ∃ proof, line.proof request.customId = .ok proof ∧ proof.IsAccepted

structure ValidExecution (batch : Batch) (requests : List BatchRequest)
    (execution : Execution) (results : List (Option ExecutionLine)) :
    Prop where
  checksum : (requireSha256 execution.resultChecksumSha256 "result_checksum_sha256").isOk = true
  key : (normalizeStorageKey (storageKey batch execution) "result_storage_key").isOk = true
  lines : execution.lines = .array results
  results : ValidResults requests results

/-- The batch ends completed, and every line with its own result. -/
structure CompletesWithResults (options : Options) (batch : Batch)
    (requests : List BatchRequest) (execution : Execution)
    (results : List (Option ExecutionLine)) (now : Nat)
    (before after : Database) : Prop where
  applied : ∃ summary written,
    applyExecutionLineProofs batch execution.lines now before = (.ok (some summary), written)
  received : ∀ request ∈ requests, ∃ write line, IsResultOf results request write ∧
    after.lines.lookup (batch.lineKey request.customId) = some line ∧
    line.result = write.result
  visited : options.settlementEnabled = true → ∀ request ∈ requests,
    ∀ line ∈ after.lines.lookup (batch.lineKey request.customId), line.settlementStatus ≠ .unsettled
  completed : ∃ row, after.batches.lookup batch.batchId = some row ∧ row.status = .completed

def LineProof.IsBillable (proof : LineProof) : Prop :=
  proof.status = .succeeded ∧ 0 < proof.costHalala
deriving Decidable

def Payable (db : Database) (options : Options) (batch : Batch)
    (now : Nat) (proofs : List LineProof) : Prop :=
  (∀ proof ∈ proofs, ¬ proof.IsBillable) ∨ (((proofs.filter (fun proof => proof.IsBillable)).map
    LineProof.costHalala).sum ≤ db.funds batch now ∧
      ∀ proof ∈ proofs, proof.IsBillable → db.Knows (proof.providerId.or options.providerId))

/-- The lines are few enough to be listed, and the charges can be paid. -/
def Completable (db : Database) (options : Options) (batch : Batch)
    (requests : List BatchRequest) (execution : Execution) (now : Nat) :
    Prop :=
  requests.length ≤ maxLimit ∧ (options.settlementEnabled = true →
    ∀ proofs ∈ provenLines db batch execution, Payable db options batch now proofs)

/-- The ids of a request to create a batch have not been used. -/
structure IsNew (db : Database) (request : CreateRequest) : Prop where
  replay : request.idempotencyKey.isSome = true →
    ∀ row ∈ db.batches.rows, row.renterId = request.renterId →
      row.idempotencyKey ≠ request.idempotencyKey
  batch : db.batches.lookup request.batchId = none
  lines : ∀ line ∈ db.lines.rows, line.batchId ≠ request.batchId
  charges : ∀ customId, ¬ db.IsCharged request.batchId customId

theorem newLines_ids (renterId : Nat) (batchId : BatchId) (now : Nat)
    (requests : List BatchRequest) :
    (newLines renterId batchId now requests).map Line.customId =
      requests.map BatchRequest.customId := by
  rw [newLines, map_map]
  have same : requests = requests.zipIdx.map Prod.fst := (zipIdx_map_fst 0 requests).symm
  conv_rhs => rw [same, map_map]
  rfl

variable {requests : List BatchRequest}

theorem mem_newLines {renterId : Nat} {batchId : BatchId} {now : Nat} {line : Line}
    (member : line ∈ newLines renterId batchId now requests) :
    ∃ request ∈ requests, ∃ index, line = newLine renterId batchId now request index := by
  obtain ⟨entry, listed, same⟩ := mem_map.mp member
  exact ⟨entry.1, fst_mem_of_mem_zipIdx listed, entry.2, same.symm⟩

theorem newLines_sorted (renterId : Nat) (batchId : BatchId) (now : Nat)
    (requests : List BatchRequest) :
    (newLines renterId batchId now requests).Pairwise
      (fun first second => first.lineIndex ≤ second.lineIndex) := by
  rw [newLines, pairwise_map]
  have indices : (requests.zipIdx.map Prod.snd).Pairwise (fun first second =>
      first < second) := by
    rw [zipIdx_map_snd]
    exact pairwise_lt_range'
  rw [pairwise_map] at indices
  refine indices.imp ?_
  intro first second less
  exact Nat.succ_le_succ less.le

theorem newLines_keys {renterId : Nat} {batchId : BatchId} {now : Nat}
    {requests : List BatchRequest}
    (distinct : (requests.map BatchRequest.customId).Nodup) :
    ((newLines renterId batchId now requests).map Line.key).Nodup := by
  have same : (newLines renterId batchId now requests).map Line.key =
      ((newLines renterId batchId now requests).map Line.customId).map
        (fun customId => (renterId, batchId, customId)) := by
    rw [map_map]
    apply map_congr_left
    intro line member
    obtain ⟨request, _, index, equal⟩ := mem_newLines member
    rw [equal]
    rfl
  rw [same, newLines_ids]
  refine distinct.map ?_
  intro first second equal
  exact (Prod.ext_iff.mp (Prod.ext_iff.mp equal).2).2

theorem insertBatchInferenceJobLines_of_fresh {lines : List Line} :
    ∀ {db : Database}, (lines.map Line.key).Nodup →
      (∀ line ∈ lines, db.lines.lookup line.key = none) → ∃ after,
        insertBatchInferenceJobLines lines db = (.ok PUnit.unit, after) ∧
          after.lines.rows = db.lines.rows ++ lines ∧
          after.batches = db.batches ∧ after.billing = db.billing := by
  induction lines with
  | nil =>
    intro db _ _
    exact ⟨db, rfl, (append_nil _).symm, rfl, rfl⟩
  | cons line rest ih =>
    intro db distinct fresh
    rw [map_cons, nodup_cons] at distinct
    have free := fresh line mem_cons_self
    rw [insertBatchInferenceJobLines, Tx.read_bind, free]
    have others : ∀ other ∈ rest, (db.lines.insertIfNew line).lookup other.key = none := by
      intro other member
      rw [insertIfNew_of_fresh free, lookup_insert_of_ne]
      · exact fresh other (mem_cons_of_mem line member)
      · intro same
        apply distinct.1
        rw [same]
        exact mem_map_of_mem member
    obtain ⟨after, inserted, rows, batches, billing⟩ := @ih
        { db with lines := db.lines.insertIfNew line } distinct.2 others
    refine ⟨after, inserted, ?_, batches, billing⟩
    rw [rows]
    rw [insertIfNew_of_fresh free, insert_rows, append_assoc]
    rfl

section Created

variable {jsonParse : String → Option Json} {request : CreateRequest}
    {requests : List BatchRequest} {db : Database} {createdAt : Nat}

def Database.batchOf (db : Database) (request : CreateRequest)
    (requests : List BatchRequest) (createdAt : Nat) : Batch :=
  db.newBatch request.renterId request.batchId request.idempotencyKey requests.length createdAt

theorem createBatchInferenceJob_of_accepted
    (accepted : parseBatchJsonl jsonParse request.inputJsonl = .ok requests)
    (new : IsNew db request) :
    ∃ created, createBatchInferenceJob jsonParse request createdAt db = (.ok PUnit.unit, created) ∧
      created.lines.rows =
        db.lines.rows ++ newLines request.renterId request.batchId createdAt requests ∧
      created.batches.lookup request.batchId = some (db.batchOf request requests createdAt) ∧
      created.billing = db.billing := by
  have noReplay : ¬ (request.idempotencyKey.isSome ∧ ∃ row ∈ db.batches.rows,
      row.renterId = request.renterId ∧ row.idempotencyKey = request.idempotencyKey) := by
    rintro ⟨keyed, row, member, renter, same⟩
    exact new.replay keyed row member renter same
  have absent : ¬ (db.batches.lookup request.batchId).isSome = true := by
    rw [new.batch]
    exact Bool.false_ne_true
  have distinct := @newLines_keys request.renterId request.batchId createdAt requests
      (parseBatchJsonl_accepted accepted).distinct
  let stored : Database := { db with
      batches := db.batches.insertIfNew (db.batchOf request requests createdAt) }
  have free : ∀ line ∈ newLines request.renterId request.batchId createdAt requests,
      stored.lines.lookup line.key = none := by
    intro line member
    obtain ⟨_, _, _, equal⟩ := mem_newLines member
    refine (lookup_eq_none_iff stored.lines line.key).mpr ?_
    intro row known same
    have sameBatch := (Prod.ext_iff.mp (Prod.ext_iff.mp same).2).1
    apply new.lines row known
    rw [equal] at sameBatch
    exact sameBatch
  obtain ⟨created, inserted, rows, batches, billing⟩ :=
    insertBatchInferenceJobLines_of_fresh distinct free
  refine ⟨created, ?_, rows, ?_, billing⟩
  · rw [createBatchInferenceJob, if_neg noReplay, accepted]
    dsimp only
    rw [if_neg absent]
    exact inserted
  · rw [batches]
    change (db.batches.insertIfNew _).lookup _ = _
    rw [insertIfNew_of_fresh new.batch]
    exact lookup_insert_self db.batches _ new.batch

theorem linesOf_created {after : Database} {batch : Batch} (rows : after.lines.rows =
    db.lines.rows ++ newLines request.renterId request.batchId createdAt requests)
    (fresh : ∀ line ∈ db.lines.rows, line.batchId ≠ request.batchId)
    (renter : batch.renterId = request.renterId)
    (batchId : batch.batchId = request.batchId) :
    after.linesOf batch = newLines request.renterId request.batchId createdAt requests := by
  have old : db.lines.rows.filter (IsLineOf batch ·) = [] := by
    rw [filter_eq_nil_iff]
    intro line member chosen
    apply fresh line member
    rw [← batchId]
    exact (of_decide_eq_true chosen).2
  have young : (newLines request.renterId request.batchId createdAt
      requests).filter (IsLineOf batch ·) =
        newLines request.renterId request.batchId createdAt requests := by
    rw [filter_eq_self]
    intro line member
    obtain ⟨_, _, _, equal⟩ := mem_newLines member
    apply decide_eq_true
    rw [equal]
    exact ⟨renter.symm, batchId.symm⟩
  rw [Database.linesOf, select, rows, filter_append, old, young, nil_append]
  exact (newLines_sorted _ _ _ _).insertionSort_eq

end Created

theorem normalizeExecutionLine_of_listed {expected seen : List CustomId}
    {line : ExecutionLine} {customId : CustomId}
    (named : line.trimmedId = customId.val) (listed : customId ∈ expected)
    (unseen : customId ∉ seen) :
    normalizeExecutionLine expected seen (some line) = line.proof customId := by
  have nonempty : line.trimmedId ≠ "" := by
    intro empty
    have valid := customId.property
    rw [← named, empty] at valid
    exact absurd valid (by decide)
  have notSeen : line.trimmedId ∉ seen.map Subtype.val := by
    intro member
    obtain ⟨other, there, same⟩ := mem_map.mp member
    rw [named] at same
    rw [Subtype.ext same] at there
    exact unseen there
  have found : expected.find? (·.val = line.trimmedId) = some customId := by
    cases search : expected.find? (·.val = line.trimmedId) with
    | none =>
      rw [find?_eq_none] at search
      exact absurd (decide_eq_true named.symm) (search customId listed)
    | some other =>
      have matching := find?_some search
      rw [Subtype.ext ((of_decide_eq_true matching).trans named)]
  unfold normalizeExecutionLine
  dsimp only
  rw [if_neg nonempty, if_neg notSeen, found]

theorem normalizeExecutionLines_of_valid {expected : List CustomId}
    {results : List (Option ExecutionLine)} :
    ∀ {seen : List CustomId}, (results.map (Option.map ExecutionLine.trimmedId)).Nodup →
      (∀ entry ∈ results, ∃ line customId, entry = some line ∧ line.trimmedId = customId.val ∧
        customId ∈ expected ∧ customId ∉ seen ∧
        ∃ proof, line.proof customId = .ok proof ∧ proof.IsAccepted) →
        ∃ proofs, normalizeExecutionLines expected seen results = .ok proofs ∧
          ∀ proof ∈ proofs, proof.IsAccepted := by
  induction results with
  | nil =>
    intro seen _ _
    refine ⟨[], rfl, ?_⟩
    intro proof member
    cases member
  | cons entry rest ih =>
    intro seen distinct valid
    rw [map_cons, nodup_cons] at distinct
    obtain ⟨line, customId, here, named, listed, unseen, proof, checked,
      accepted⟩ := valid entry mem_cons_self
    have same := (proof_eq_ok checked).1
    obtain ⟨proofs, others, all⟩ := @ih (proof.customId :: seen) distinct.2 (by
        intro other member
        obtain ⟨otherLine, otherId, there, otherNamed, otherListed,
          otherUnseen, good⟩ := valid other (mem_cons_of_mem entry member)
        refine ⟨otherLine, otherId, there, otherNamed, otherListed, ?_, good⟩
        intro known
        rcases mem_cons.mp known with equal | before
        · apply distinct.1
          have sameText : entry.map ExecutionLine.trimmedId =
              other.map ExecutionLine.trimmedId := by
            rw [here, there, Option.map_some, Option.map_some, named, otherNamed, equal, same]
          rw [sameText]
          exact mem_map_of_mem member
        · exact otherUnseen before)
    refine ⟨proof :: proofs, ?_, ?_⟩
    · rw [normalizeExecutionLines, here, normalizeExecutionLine_of_listed named listed unseen]
      refine bind_eq_ok_iff.mpr ⟨proof, checked, ?_⟩
      exact bind_eq_ok_iff.mpr ⟨proofs, others, rfl⟩
    · intro other member
      rcases mem_cons.mp member with equal | there
      · rw [equal]
        exact accepted
      · exact all other there

theorem normalizeExecutionLines_results {expected : List CustomId}
    {results : List (Option ExecutionLine)} :
    ∀ {seen : List CustomId} {proofs : List LineProof},
      normalizeExecutionLines expected seen results = .ok proofs → ∀ proof ∈ proofs, ∃ line,
        some line ∈ results ∧ line.trimmedId = proof.customId.val ∧
          line.proof proof.customId = .ok proof := by
  induction results with
  | nil =>
    intro seen proofs checked proof member
    cases checked
    cases member
  | cons entry rest ih =>
    intro seen proofs checked proof member
    rw [normalizeExecutionLines] at checked
    obtain ⟨first, head, checked⟩ := bind_eq_ok_iff.mp checked
    obtain ⟨others, tail, ⟨⟩⟩ := bind_eq_ok_iff.mp checked
    rcases mem_cons.mp member with here | there
    · unfold normalizeExecutionLine at head
      split at head
      · cases head
      · rename_i line
        split at head
        · cases head
        · split at head
          · cases head
          · split at head
            · cases head
            · rename_i customId found
              have named := find?_some found
              have sameId := (proof_eq_ok head).1
              rw [here, sameId]
              exact ⟨line, mem_cons_self, (of_decide_eq_true named).symm, head⟩
    · obtain ⟨line, listed, named, checkedLine⟩ := ih tail proof there
      exact ⟨line, mem_cons_of_mem entry listed, named, checkedLine⟩

def Database.IsVisited (db : Database) (batch : Batch) (customId : CustomId) : Prop :=
  ∀ line ∈ db.lines.lookup (batch.lineKey customId), line.settlementStatus ≠ .unsettled

section Visits

variable {batch : Batch} {now : Nat} {workerProvider : Option Nat}
    {customId : CustomId} {db : Database}

theorem visited_setLineSettlement {target : CustomId}
    {write : SettlementWrite} (final : write.status ≠ .unsettled)
    (visited : customId = target ∨ db.IsVisited batch customId) :
    (db.setLineSettlement batch target write now).IsVisited batch
      customId := by
  intro line found
  rw [Database.setLineSettlement, Option.mem_def, lookup_update] at found
  split at found
  · obtain ⟨earlier, _, same⟩ := Option.map_eq_some_iff.mp found
    rw [← same]
    exact final
  · rename_i other
    rcases visited with here | before
    · rw [here] at other
      exact absurd rfl other
    · exact before line found

variable {lines : List Line}

theorem visited_markLines {write : Line → SettlementWrite}
    (final : ∀ line, (write line).status ≠ .unsettled) :
    ∀ {db : Database}, (customId ∈ lines.map Line.customId ∨ db.IsVisited batch customId) →
      (db.markLines batch lines write now).IsVisited batch customId := by
  induction lines with
  | nil =>
    intro db visited
    rcases visited with none | before
    · cases none
    · exact before
  | cons line rest ih =>
    intro db visited
    refine @ih (db.setLineSettlement batch line.customId (write line) now) ?_
    rw [map_cons, mem_cons] at visited
    rcases visited with (here | there) | before
    · exact Or.inr (visited_setLineSettlement (final line) (Or.inl here))
    · exact Or.inl there
    · exact Or.inr (visited_setLineSettlement (final line) (Or.inr before))

variable {after : Database}

theorem visited_settleLine {line : Line}
    (settled : settleLine batch workerProvider now line db = (.ok PUnit.unit, after))
    (visited : customId = line.customId ∨ db.IsVisited batch customId) :
    after.IsVisited batch customId := by
  unfold settleLine at settled
  dsimp only at settled
  split at settled
  · rename_i result billing outcome
    injection settled with _ same
    rw [← same]
    refine visited_setLineSettlement ?_ visited
    cases result with
    | settled receipt | alreadySettled attempt => exact SettlementStatus.noConfusion
  · cases settled

theorem visited_settleLines :
    ∀ {db after : Database}, settleLines batch workerProvider now lines db =
      (.ok PUnit.unit, after) → (customId ∈ lines.map Line.customId ∨ db.IsVisited batch customId) →
        after.IsVisited batch customId := by
  induction lines with
  | nil =>
    intro db after settled visited
    rw [settleLines, Tx.pure_eq_ok_iff] at settled
    rw [← settled.2]
    rcases visited with none | before
    · cases none
    · exact before
  | cons line rest ih =>
    intro db after settled visited
    rw [settleLines] at settled
    obtain ⟨_, middle, first, others⟩ := Tx.bind_eq_ok_iff.mp settled
    apply ih others
    rw [map_cons, mem_cons] at visited
    rcases visited with (here | there) | before
    · exact Or.inr (visited_settleLine first (Or.inl here))
    · exact Or.inl there
    · exact Or.inr (visited_settleLine first (Or.inr before))

theorem visited_settleBatchInferenceLines (settled :
    settleBatchInferenceLines batch lines workerProvider now db = (.ok PUnit.unit, after))
    (listed : customId ∈ lines.map Line.customId) :
    after.IsVisited batch customId := by
  obtain ⟨line, member, same⟩ := mem_map.mp listed
  have marked : ¬ IsBillable line → (db.markFree batch lines now).IsVisited batch customId := by
    intro free
    refine visited_markLines (fun _ => SettlementStatus.noConfusion) (Or.inl ?_)
    rw [← same]
    exact mem_map_of_mem (mem_filter.mpr ⟨member, decide_eq_true free⟩)
  by_cases empty : billable lines = []
  · rw [settle_free empty] at settled
    injection settled with _ equal
    rw [← equal]
    apply marked
    intro chosen
    have charged := mem_billable.mpr ⟨member, chosen⟩
    rw [empty] at charged
    cases charged
  · rcases @settle_costly batch now workerProvider lines db empty with
      ⟨settles, _⟩ | ⟨⟨failure, write, failed⟩, _⟩
    · rw [settles] at settled
      apply visited_settleLines settled
      by_cases chosen : IsBillable line
      · left
        rw [← same]
        exact mem_map_of_mem (mem_billable.mpr ⟨member, chosen⟩)
      · exact Or.inr (marked chosen)
    · rw [failed] at settled
      cases settled

end Visits

theorem results_ignoreSettlements (batch : Batch) :
    IgnoresSettlements (fun db customId =>
      (db.lines.lookup (batch.lineKey customId)).map Line.result)
      batch where
  settlements := by
    intro db customId write now
    funext otherId
    rw [Database.setLineSettlement, lookup_update]
    split
    · rw [Option.map_map]
      rfl
    · rfl
  charges := fun _ _ _ _ => rfl

/-! ## A batch that has just been handed out -/

structure HandedOut (db : Database) (batch : Batch) (createdAt : Nat)
    (requests : List BatchRequest) : Prop where
  row : ∃ row, db.batches.lookup batch.batchId = some row ∧ row.renterId = batch.renterId
  count : batch.requestCount = requests.length
  lines : db.linesOf batch = newLines batch.renterId batch.batchId createdAt requests
  untouched : Untouched db batch.batchId

section HandedOut

variable {db : Database} {batch : Batch} {createdAt now : Nat}
    {requests : List BatchRequest} {execution : Execution}
    {results : List (Option ExecutionLine)} {options : Options}
    {proofs : List LineProof}

theorem HandedOut.worked (handed : HandedOut db batch createdAt requests) :
    db.workedLines batch = (newLines batch.renterId batch.batchId createdAt requests).take
      (min (max requests.length 1) maxLimit) := by
  obtain ⟨row, found, owned⟩ := handed.row
  rw [Database.workedLines, Database.listBatchInferenceJobLines, found]
  dsimp only
  rw [if_pos owned, handed.lines, handed.count]
  rfl

theorem newLines_length (renterId : Nat) (batchId : BatchId) (requests : List BatchRequest) :
    (newLines renterId batchId now requests).length =
      requests.length := by
  rw [newLines, length_map, length_zipIdx]

theorem ValidResults.length (valid : ValidResults requests results) :
    results.length = requests.length := by
  have same := valid.one.length_eq
  rw [length_map, length_map] at same
  exact same

theorem applied_of_long (handed : HandedOut db batch createdAt requests)
    (valid : ValidExecution batch requests execution results)
    (long : ¬ requests.length ≤ maxLimit) :
    ∃ failure, applyExecutionLineProofs batch execution.lines now db = (.error failure, db) := by
  have counts : ¬ results.length = (db.workedLines batch).length := by
    rw [handed.worked, length_take, newLines_length, valid.results.length]
    omega
  have refused : ∃ failure, lineProofs db batch results = .error failure := by
    rw [lineProofs, require, if_neg counts]
    exact ⟨_, rfl⟩
  obtain ⟨failure, refused⟩ := refused
  refine ⟨failure, ?_⟩
  rw [valid.lines, applyExecutionLineProofs, Tx.read_bind, refused]
  rfl

theorem HandedOut.worked_of_short (handed : HandedOut db batch createdAt requests)
    (short : requests.length ≤ maxLimit) :
    db.workedLines batch = newLines batch.renterId batch.batchId createdAt requests := by
  rw [handed.worked]
  apply take_of_length_le
  rw [newLines_length]
  omega

theorem proven_of_short (handed : HandedOut db batch createdAt requests)
    (valid : ValidExecution batch requests execution results)
    (accepted : Accepted requests) (short : requests.length ≤ maxLimit) :
    ∃ proofs, provenLines db batch execution = some proofs ∧
      lineProofs db batch results = .ok proofs ∧
      ∀ proof ∈ proofs, proof.IsAccepted := by
  have worked := handed.worked_of_short short
  have ids : (db.workedLines batch).map Line.customId = requests.map BatchRequest.customId := by
    rw [worked, newLines_ids]
  have distinct : (results.map (Option.map ExecutionLine.trimmedId)).Nodup := by
    refine valid.results.one.nodup_iff.mpr ?_
    have same : requests.map (some ·.customId.val) =
        (requests.map BatchRequest.customId).map (some ·.val) := by
      rw [map_map]
      rfl
    rw [same]
    refine accepted.distinct.map ?_
    intro first second equal
    injection equal with equal
    exact Subtype.ext equal
  obtain ⟨proofs, normalized, all⟩ := @normalizeExecutionLines_of_valid
      (requests.map BatchRequest.customId) results [] distinct (by
        intro entry member
        have listed := valid.results.one.mem_iff.mp (mem_map_of_mem member)
        obtain ⟨request, known, same⟩ := mem_map.mp listed
        cases entry with
        | none => cases same
        | some line =>
          injection same with same
          exact ⟨line, request.customId, rfl, same.symm, mem_map_of_mem known, not_mem_nil,
            valid.results.valid line member request known same.symm⟩)
  have checks : lineProofs db batch results = .ok proofs := by
    rw [lineProofs, require_bind_eq_ok_iff, ids]
    refine ⟨?_, normalized⟩
    rw [worked, newLines_length, valid.results.length]
  refine ⟨proofs, ?_, checks, all⟩
  rw [provenLines, valid.lines]
  have checksum := valid.checksum
  cases digest : requireSha256 execution.resultChecksumSha256 "result_checksum_sha256" with
  | error failure =>
    rw [digest] at checksum
    cases checksum
  | ok value =>
    dsimp only
    rw [checks]
    rfl

theorem newLine_result (renterId : Nat) (batchId : BatchId)
    (request : BatchRequest) (index : Nat) (write : LineWrite) :
    ((newLine renterId batchId createdAt request index).setResult write now).result =
      write.result := by
  simp [Line.result, Line.setResult, newLine, LineWrite.result]

theorem received_written (handed : HandedOut db batch createdAt requests)
    (short : requests.length ≤ maxLimit)
    (checks : lineProofs db batch results = .ok proofs)
    (all : ∀ proof ∈ proofs, proof.IsAccepted)
    {request : BatchRequest} (member : request ∈ requests) :
    ∃ write line, IsResultOf results request write ∧
      (writeProofs batch now proofs db).2.lines.lookup (batch.lineKey request.customId) =
        some line ∧
      line.result = write.result := by
  have each := lineProofs_eq_ok checks
  have worked := handed.worked_of_short short
  have known : request.customId ∈ (db.workedLines batch).map Line.customId := by
    rw [worked, newLines_ids]
    exact mem_map_of_mem member
  obtain ⟨line, listed, named⟩ := mem_map.mp known
  obtain ⟨proof, proofMember, same⟩ := each.proof listed
  obtain ⟨write, written⟩ := LineProof.isAccepted_iff.mp (all proof proofMember)
  have stored := mem_workedLines listed
  rw [named] at same stored
  refine ⟨write, line.setResult write now, ?_, ?_, ?_⟩
  · rw [lineProofs, require_bind_eq_ok_iff] at checks
    obtain ⟨result, returned, trimmed, checked⟩ :=
      normalizeExecutionLines_results checks.2 proof proofMember
    rw [same] at trimmed checked
    exact ⟨result, proof, returned, trimmed, checked, written⟩
  · rw [writeProofs_lookup each.distinct, stored, Option.map_some, acceptedProofs_of_all all,
      received_of_mem each.distinct proofMember (same.trans named.symm),
      LineProof.writeTo_of_ok written]
  · rw [worked] at listed
    obtain ⟨origin, _, index, equal⟩ := mem_newLines listed
    rw [equal]
    exact newLine_result _ _ origin index write

theorem proofsFor_written (each : ProofsFor (db.workedLines batch) proofs)
    (all : ∀ proof ∈ proofs, proof.IsAccepted) :
    ProofsFor ((writeProofs batch now proofs db).2.workedLines batch)
      proofs := by
  have rows := @writeProofs_rows batch now proofs db each.distinct
  rw [acceptedProofs_of_all all] at rows
  have lines := workedLines_written rows (writeProofs_keeps batches_ignoreResults proofs db)
  refine ⟨each.distinct, ?_, each.costs⟩
  have ids : ((db.workedLines batch).map (received now proofs)).map Line.customId =
      (db.workedLines batch).map Line.customId := by
    rw [map_map]
    apply map_congr_left
    intro line _
    exact received_customId now proofs line
  rw [lines, ids]
  exact each.each

theorem canCharge_iff_payable (untouched : Untouched db batch.batchId)
    (each : ProofsFor (db.workedLines batch) proofs)
    (all : ∀ proof ∈ proofs, proof.IsAccepted) :
    (writeProofs batch now proofs db).2.CanCharge batch options.providerId now
      (billable ((writeProofs batch now proofs db).2.workedLines batch)) ↔
      Payable db options batch now proofs := by
  have served := @served_written db batch now proofs untouched each all
  have written := @proofsFor_written db batch now proofs each all
  have pair := fun {line} listed {proof} member same =>
    @Served.pair proofs _ served written line listed proof member same
  have chosen : ∀ {line}, line ∈ (writeProofs batch now proofs db).2.workedLines batch →
      ∀ {proof}, proof ∈ proofs → proof.customId = line.customId →
        (IsBillable line ↔ proof.IsBillable) := by
    intro line listed proof member same
    obtain ⟨cost, status, _⟩ := pair listed member same
    rw [IsBillable, LineProof.IsBillable, cost, status]
  have free : billable ((writeProofs batch now proofs db).2.workedLines batch) = [] ↔
      ∀ proof ∈ proofs, ¬ proof.IsBillable := by
    rw [billable, filter_eq_nil_iff]
    constructor
    · intro none proof member costly
      obtain ⟨line, listed, same⟩ := written.line member
      exact none line listed (decide_eq_true ((chosen listed member same.symm).mpr costly))
    · intro none line listed costly
      obtain ⟨proof, member, same⟩ := written.proof listed
      exact none proof member ((chosen listed member same).mp (of_decide_eq_true costly))
  have total : totalCost (billable ((writeProofs batch now proofs db).2.workedLines batch)) =
      ((proofs.filter (·.IsBillable)).map LineProof.costHalala).sum := by
    rw [totalCost, billable, sum_filter, sum_filter]
    refine written.sum _ _ ?_
    intro line listed proof member same
    rw [(pair listed member same).1]
    exact if_congr (chosen listed member same) rfl rfl
  have known : (writeProofs batch now proofs db).2.KnowsAll options.providerId
      (billable ((writeProofs batch now proofs db).2.workedLines batch)) ↔
        ∀ proof ∈ proofs, proof.IsBillable → db.Knows (proof.providerId.or options.providerId) := by
    constructor
    · intro all proof member costly
      obtain ⟨line, listed, same⟩ := written.line member
      have knows := all line (mem_billable.mpr
        ⟨listed, (chosen listed member same.symm).mpr costly⟩)
      rw [chargedProvider, (pair listed member same.symm).2.2,
        Database.Knows, writeProofs_billing] at knows
      exact knows
    · intro all line member
      obtain ⟨listed, costly⟩ := mem_billable.mp member
      obtain ⟨proof, proofMember, same⟩ := written.proof listed
      rw [chargedProvider, (pair listed proofMember same).2.2, Database.Knows, writeProofs_billing]
      exact all proof proofMember ((chosen listed proofMember same).mp costly)
  rw [Database.CanCharge, Payable, free, total, known, Database.funds, writeProofs_billing]
  rfl

variable (handed : HandedOut db batch createdAt requests)

include handed

theorem completes_of_settled (valid : ValidExecution batch requests execution results)
    (short : requests.length ≤ maxLimit)
    (checks : lineProofs db batch results = .ok proofs)
    (all : ∀ proof ∈ proofs, proof.IsAccepted)
    {settled : Database} {outcome : BatchOutcome}
    (batches : settled.batches = db.batches)
    (same : ∀ customId, (settled.lines.lookup (batch.lineKey customId)).map Line.result =
      ((writeProofs batch now proofs db).2.lines.lookup (batch.lineKey customId)).map Line.result)
    (visited : options.settlementEnabled = true →
      ∀ request ∈ requests, settled.IsVisited batch request.customId) :
    CompletesWithResults options batch requests execution results now db
      (settled.setBatchStatus batch .completed outcome now) := by
  obtain ⟨row, found, owned⟩ := handed.row
  refine ⟨?_, ?_, visited, ?_⟩
  · refine ⟨summarize proofs, (writeProofs batch now proofs db).2, ?_⟩
    rw [valid.lines, applyExecutionLineProofs, Tx.read_bind, checks,
      Tx.bind_of_ok (show checked (.ok proofs) db = _ from rfl)]
    rcases @writeProofs_outcome batch now proofs db with ⟨_, wrote⟩ | ⟨refused, _⟩
    · rw [Tx.bind_of_ok (Prod.ext wrote rfl)]
      rfl
    · exact absurd all refused
  · intro request member
    obtain ⟨write, line, returned, stored, result⟩ :=
      @received_written db batch createdAt now requests results proofs
        handed short checks all request member
    have kept := same request.customId
    rw [stored, Option.map_some] at kept
    obtain ⟨later, laterStored, equal⟩ := Option.map_eq_some_iff.mp kept
    exact ⟨write, later, returned, laterStored, equal.trans result⟩
  · refine ⟨row.setStatus .completed outcome now, ?_, rfl⟩
    rw [← batches] at found
    rw [Database.setBatchStatus, lookup_updateWhere_of_met
      (Batch.setStatus_batchId .completed outcome now) found owned,
      if_pos rfl]

theorem not_completes_of_failed {after : Database} (batches : after.batches = db.batches) :
    ¬ CompletesWithResults options batch requests execution results now db
      (after.failBatch batch now) := by
  obtain ⟨row, found, owned⟩ := handed.row
  rw [← batches] at found
  rintro ⟨_, _, _, later, stored, completed⟩
  rw [Database.failBatch, Database.setBatchStatus,
    lookup_updateWhere_of_met (Batch.setStatus_batchId .failed _ now)
      found owned, if_pos rfl] at stored
  cases stored
  cases completed

theorem completes_iff_payable (valid : ValidExecution batch requests execution results)
    (short : requests.length ≤ maxLimit)
    (proven : provenLines db batch execution = some proofs)
    (checks : lineProofs db batch results = .ok proofs)
    (all : ∀ proof ∈ proofs, proof.IsAccepted) :
    CompletesWithResults options batch requests execution results now db
      (finishBatch options batch (some execution) now db) ↔
      (options.settlementEnabled = true → Payable db options batch now proofs) := by
  have each := lineProofs_eq_ok checks
  have wrote :
      writeProofs batch now proofs db = (.ok PUnit.unit, (writeProofs batch now proofs db).2) := by
    rcases @writeProofs_outcome batch now proofs db with ⟨_, ended⟩ | ⟨refused, _⟩
    · exact Prod.ext ended rfl
    · exact absurd all refused
  have batches : (writeProofs batch now proofs db).2.batches = db.batches :=
    writeProofs_keeps batches_ignoreResults proofs db
  obtain ⟨digest, completes⟩ :=
    @completeBatch_of_written db options batch execution now proofs proven
      _ wrote
  obtain ⟨key, stored⟩ :
      ∃ key, normalizeStorageKey (storageKey batch execution) "result_storage_key" = .ok key := by
    have accepted := valid.key
    cases normalized : normalizeStorageKey (storageKey batch execution) "result_storage_key" with
    | ok key => exact ⟨key, rfl⟩
    | error failure =>
      rw [normalized] at accepted
      cases accepted
  rw [finishBatch, completes, stored]
  by_cases settling : options.settlementEnabled = true
  · have settles := @settle_of_settling (writeProofs batch now proofs db).2 options batch
        now settling (summarize proofs)
    have sameBatches := @settleBatchInferenceLines_keeps _ Database.batches batch now
        batches_ignoreSettlements options.providerId
        ((writeProofs batch now proofs db).2.workedLines batch)
        (writeProofs batch now proofs db).2
    have sameResults := @settleBatchInferenceLines_keeps _ _ batch now
        (results_ignoreSettlements batch) options.providerId
        ((writeProofs batch now proofs db).2.workedLines batch)
        (writeProofs batch now proofs db).2
    have payable := @canCharge_iff_payable db batch now options proofs handed.untouched each all
    rcases @settleBatchInferenceLines_cases batch now options.providerId
        ((writeProofs batch now proofs db).2.workedLines batch)
        (writeProofs batch now proofs db).2
        (fun line _ => written_uncharged handed.untouched line.customId)
        workedLines_distinct with
      ⟨canCharge, settled, ended, _⟩ | ⟨cannot, failure, after, fails, _⟩
    · rw [ended] at sameBatches sameResults
      refine iff_of_true ?_ (fun _ => payable.mp canCharge)
      rw [Tx.bind_of_ok (settles.trans ended),
        Tx.bind_of_ok (show checked (.ok key) settled = _ from rfl)]
      refine completes_of_settled handed valid short checks all
        (sameBatches.trans batches) (congrFun sameResults) ?_
      intro _ request member
      apply visited_settleBatchInferenceLines ended
      have ids := (@proofsFor_written db batch now proofs each all).each
      rw [← ids.mem_iff, each.each.mem_iff, handed.worked_of_short short, newLines_ids]
      exact mem_map_of_mem member
    · rw [fails] at sameBatches
      rw [Tx.bind_of_error (settles.trans fails)]
      refine iff_of_false (not_completes_of_failed handed (sameBatches.trans batches)) ?_
      intro pays
      exact cannot (payable.mpr (pays settling))
  · refine iff_of_true ?_ (absurd · settling)
    have skips : settle options batch (some (summarize proofs)) now
        (writeProofs batch now proofs db).2 =
          (.ok PUnit.unit, (writeProofs batch now proofs db).2) := by
      rw [settle, if_neg settling]
      rfl
    rw [Tx.bind_of_ok skips, Tx.bind_of_ok (show checked (.ok key) _ = _ from rfl)]
    exact completes_of_settled handed valid short checks all batches
      (fun _ => rfl) (absurd · settling)

theorem completes_iff_completable (valid : ValidExecution batch requests execution results)
    (accepted : Accepted requests) :
    CompletesWithResults options batch requests execution results now db
      (finishBatch options batch (some execution) now db) ↔
      Completable db options batch requests execution now := by
  rw [Completable]
  by_cases short : requests.length ≤ maxLimit
  · obtain ⟨proofs, proven, checks, all⟩ := proven_of_short handed valid accepted short
    rw [completes_iff_payable handed valid short proven checks all, and_iff_right short, proven]
    constructor
    · intro payable settling others same
      rw [← Option.mem_some_iff.mp same]
      exact payable settling
    · intro payable settling
      exact payable settling proofs rfl
  · refine iff_of_false ?_ (short ·.1)
    rintro ⟨⟨summary, written, applied⟩, _⟩
    obtain ⟨failure, refused⟩ :=
      @applied_of_long db batch createdAt now requests execution results handed valid short
    rw [refused] at applied
    cases applied

end HandedOut

/-- The batch of a request, stored and marked as running. -/
def Database.handOut (db : Database) (jsonParse : String → Option Json)
    (request : CreateRequest) (requests : List BatchRequest)
    (createdAt startedAt : Nat) : Database :=
  (createBatchInferenceJob jsonParse request createdAt
    db).2.setBatchStatus (db.batchOf request requests createdAt) .running
      BatchOutcome.empty startedAt

theorem handedOut_of_accepted {jsonParse : String → Option Json}
    {request : CreateRequest} {requests : List BatchRequest}
    {db : Database} {createdAt startedAt : Nat}
    (accepted : parseBatchJsonl jsonParse request.inputJsonl = .ok requests)
    (new : IsNew db request) :
    HandedOut (db.handOut jsonParse request requests createdAt startedAt)
      (db.batchOf request requests createdAt) createdAt requests := by
  obtain ⟨created, outcome, rows, found, billing⟩ :=
    @createBatchInferenceJob_of_accepted jsonParse request requests db createdAt accepted new
  rw [Database.handOut, outcome]
  refine ⟨?_, rfl, ?_, ?_, ?_⟩
  · obtain ⟨later, stored, renter, _⟩ :=
      (setBatchStatus_marks created (db.batchOf request requests createdAt)
        .running BatchOutcome.empty startedAt).row _ found rfl
    exact ⟨later, stored, renter⟩
  · exact linesOf_created rows new.lines rfl rfl
  · intro renterId customId line there
    have member := lookup_mem there
    have sameBatch := (Prod.ext_iff.mp (Prod.ext_iff.mp (lookup_key there)).2).1
    change line ∈ created.lines.rows at member
    rw [rows] at member
    rcases mem_append.mp member with old | young
    · exact absurd sameBatch (new.lines line old)
    · obtain ⟨_, _, _, equal⟩ := mem_newLines young
      rw [equal]
      exact ⟨rfl, rfl⟩
  · intro customId
    change ¬ created.IsCharged request.batchId customId
    rw [Database.IsCharged, billing]
    exact new.charges customId

/-- Whatever the parser accepts is stored. With one valid result for each
request the batch completes, every line with its own result, exactly when its
lines can be listed and its charges can be paid. -/
theorem accepted_batch_completes_iff {jsonParse : String → Option Json}
    {request : CreateRequest} {requests : List BatchRequest}
    {db : Database} {createdAt startedAt now : Nat} {options : Options}
    {execution : Execution} {results : List (Option ExecutionLine)}
    (accepted : parseBatchJsonl jsonParse request.inputJsonl = .ok requests)
    (new : IsNew db request)
    (valid : ValidExecution (db.batchOf request requests createdAt) requests execution results) :
    (createBatchInferenceJob jsonParse request createdAt db).1 = .ok PUnit.unit ∧
      (CompletesWithResults options (db.batchOf request requests createdAt)
        requests execution results now
        (db.handOut jsonParse request requests createdAt startedAt)
        (finishBatch options (db.batchOf request requests createdAt) (some execution) now
          (db.handOut jsonParse request requests createdAt startedAt)) ↔
        Completable (db.handOut jsonParse request requests createdAt startedAt)
          options (db.batchOf request requests createdAt) requests execution
          now) := by
  constructor
  · obtain ⟨created, outcome, _⟩ :=
      @createBatchInferenceJob_of_accepted jsonParse request requests db createdAt accepted new
    rw [outcome]
  · exact completes_iff_completable (handedOut_of_accepted accepted new)
      valid (parseBatchJsonl_accepted accepted)

/-! ## Inputs with any number of requests -/

theorem trim_of_visible {text : String}
    (visible : ∀ character ∈ text.toList, isSpace character = false) :
    trim text = text := by
  have kept : ∀ {characters : List Char}, (∀ character ∈ characters, isSpace character = false) →
      characters.dropWhile isSpace = characters := by
    intro characters clear
    cases characters with
    | nil => rfl
    | cons first rest =>
      rw [dropWhile_cons, clear first mem_cons_self]
      rfl
  have backwards : ∀ character ∈ text.toList.reverse, isSpace character = false :=
    fun character member => visible character (mem_reverse.mp member)
  rw [trim, strip, kept visible, kept backwards, reverse_reverse, String.ofList_toList]

theorem isSpace_of_isIdCharacter {character : Char} (valid : isIdCharacter character = true) :
    isSpace character = false := by
  have bounds : 45 ≤ character.toNat ∧ character.toNat ≤ 122 := by
    delta isIdCharacter Char.isAlphanum Char.isAlpha Char.isUpper Char.isLower at valid
    simp only [Char.isDigit, Bool.or_eq_true, Bool.and_eq_true,
      decide_eq_true_eq, ge_iff_le, UInt32.le_iff_toNat_le] at valid
    rcases valid with ((((((upper | lower) | digit) | here) | here) | here) | here)
    · exact ⟨le_trans (by decide) upper.1, le_trans upper.2 (by decide)⟩
    · exact ⟨le_trans (by decide) lower.1, le_trans lower.2 (by decide)⟩
    · exact ⟨le_trans (by decide) digit.1, le_trans digit.2 (by decide)⟩
    all_goals
      rw [here]
      decide
  rw [isSpace, contains_eq_mem, decide_eq_false_iff_not]
  simp only [mem_cons, not_mem_nil, or_false]
  omega

variable (customId : CustomId)

theorem trim_customId :
    trim customId.val = customId.val := by
  apply trim_of_visible
  intro character member
  have valid := customId.property
  rw [isCustomId] at valid
  simp only [Bool.and_eq_true, all_eq_true] at valid
  exact isSpace_of_isIdCharacter (valid.2 character member)

def requestHead : List Char := "\x7b\"custom_id\":\"".toList

def requestTail : List Char :=
  ("\",\"method\":\"POST\",\"url\":\"/v1/complete\",\"body\":\x7b" ++
    "\"model\":\"model\",\"prompt\":\"p\"\x7d\x7d").toList

def sampleIdText (index : Nat) : String :=
  String.ofList (List.replicate (index + 1) 'x')

def sampleLine (index : Nat) : List Char :=
  requestHead ++ (sampleIdText index).toList ++ requestTail

def sampleJson (index : Nat) : Json :=
  .object [("custom_id", .text (sampleIdText index)), ("method", .text "POST"),
      ("url", .text "/v1/complete"),
      ("body", .object [("model", .text "model"), ("prompt", .text "p")])]

def sampleParse (text : String) : Option Json :=
  let index := text.length - (requestHead.length + 1 + requestTail.length)
  if text = String.ofList (sampleLine index) then some (sampleJson index)
  else none

theorem sampleParse_line (index : Nat) :
    sampleParse (String.ofList (sampleLine index)) = some (sampleJson index) := by
  have length : (String.ofList (sampleLine index)).length -
      (requestHead.length + 1 + requestTail.length) =
        index := by
    rw [String.length_ofList, sampleLine, length_append,
      length_append, sampleIdText, String.toList_ofList,
      length_replicate]
    omega
  rw [sampleParse, length, if_pos rfl]

variable {index : Nat}

theorem sampleId_valid (short : index < 128) :
    isCustomId (sampleIdText index) = true := by
  rw [isCustomId, sampleIdText, String.length_ofList, String.toList_ofList, length_replicate]
  simp only [Bool.and_eq_true, decide_eq_true_eq, all_replicate]
  refine ⟨⟨by omega, by omega⟩, ?_⟩
  rw [if_neg (Nat.succ_ne_zero index)]
  decide

def sampleId (index : Nat) : CustomId :=
  if short : index < 128 then ⟨sampleIdText index, sampleId_valid short⟩
  else ⟨"none", by decide⟩

theorem sampleId_of_short (short : index < 128) :
    (sampleId index).val = sampleIdText index := by
  rw [sampleId, dif_pos short]

theorem sampleId_inj {first second : Nat} (firstShort : first < 128)
    (secondShort : second < 128) (same : sampleId first = sampleId second) :
    first = second := by
  have texts := congrArg Subtype.val same
  rw [sampleId_of_short firstShort, sampleId_of_short secondShort] at texts
  have lengths := congrArg length (String.ofList_injective texts)
  rw [length_replicate, length_replicate] at lengths
  exact Nat.succ.inj lengths

def requestAt (index : Nat) : BatchRequest :=
  sampleRequest (sampleId index)

theorem normalizeCustomId_text (lineNumber : Nat) :
    normalizeCustomId (.text customId.val) lineNumber = .ok customId := by
  have trimmed := trim_customId customId
  have valid : isCustomId (trim customId.val) = true := by
    rw [trimmed]
    exact customId.property
  rw [normalizeCustomId, dif_pos valid]
  exact congrArg Except.ok (Subtype.ext trimmed)

theorem normalizeBatchRequest_sample (short : index < 128) (lineNumber : Nat) :
    normalizeBatchRequest (sampleJson index) lineNumber = .ok (requestAt index) := by
  have customId : (sampleJson index).field "custom_id" = .text (sampleId index).val := by
    rw [sampleId_of_short short]
    rfl
  have method : toUpperCase ((sampleJson index).field "method").trimmed = "POST" := by
    change toUpperCase (Json.text "POST").trimmed = "POST"
    decide +kernel
  have url : ((sampleJson index).field "url").trimmed = "/v1/complete" := by
    change (Json.text "/v1/complete").trimmed = "/v1/complete"
    decide +kernel
  have body :
      normalizeBody ((sampleJson index).field "body") "/v1/complete" lineNumber = .ok "model" := by
    change normalizeBody (.object [("model", .text "model"), ("prompt", .text "p")])
      "/v1/complete" lineNumber = .ok "model"
    have model : trim "model" = "model" := by decide +kernel
    have prompt : trim "p" = "p" := by decide +kernel
    simp [normalizeBody, Json.field, model, prompt]
  change (do
      let customId ← normalizeCustomId ((sampleJson index).field "custom_id") lineNumber
      require (toUpperCase ((sampleJson index).field "method").trimmed = "POST") _
      let url := ((sampleJson index).field "url").trimmed
      require (url ∈ supportedBatchUrls) _
      let model ← normalizeBody ((sampleJson index).field "body") url lineNumber
      return (⟨customId, url, model⟩ : BatchRequest)) = _
  rw [customId, normalizeCustomId_text]
  refine bind_eq_ok_iff.mpr ⟨_, rfl, ?_⟩
  rw [require_bind_eq_ok_iff]
  refine ⟨method, ?_⟩
  rw [url, require_bind_eq_ok_iff]
  refine ⟨mem_cons_of_mem _ mem_cons_self, ?_⟩
  rw [body]
  rfl

theorem splitLines_append {line : List Char} {rest : List Char}
    (single : ∀ character ∈ line, character ≠ '\r' ∧ character ≠ '\n') :
    splitLines (line ++ '\n' :: rest) = line :: splitLines rest := by
  induction line with
  | nil =>
    rfl
  | cons character others ih =>
    obtain ⟨noReturn, noNewline⟩ := single character mem_cons_self
    have tail := ih (fun other member =>
      single other (mem_cons_of_mem character member))
    rw [cons_append, splitLines, tail]
    · intro rest' same
      exact absurd same noReturn
    · exact noNewline

theorem sampleLine_plain (index : Nat) :
    ∀ character ∈ sampleLine index,
      isSpace character = false ∧ character ≠ '\r' ∧ character ≠ '\n' := by
  have plain (characters : List Char) (all : characters.all (fun character =>
      !isSpace character && character != '\r' && character != '\n') = true) :
      ∀ character ∈ characters,
        isSpace character = false ∧ character ≠ '\r' ∧ character ≠ '\n' := by
    simpa [and_assoc] using all
  have head := plain requestHead (by decide +kernel)
  have tail := plain requestTail (by decide +kernel)
  intro character member
  rw [sampleLine, mem_append, mem_append] at member
  rcases member with (before | here) | after
  · exact head character before
  · rw [sampleIdText, String.toList_ofList] at here
    rw [eq_of_mem_replicate here]
    decide
  · exact tail character after

def sampleInput (count : Nat) : String :=
  String.ofList ((List.range count).flatMap (fun index =>
    sampleLine index ++ ['\n']))

theorem splitLines_sample (indices : List Nat) :
    splitLines (indices.flatMap (fun index => sampleLine index ++ ['\n'])) =
      indices.map sampleLine ++ [[]] := by
  induction indices with
  | nil =>
    rfl
  | cons index rest ih =>
    rw [flatMap_cons, append_assoc, singleton_append, splitLines_append (fun character member =>
        (sampleLine_plain index character member).2),
      ih]
    rfl

theorem parseLines_sample {count : Nat} :
    ∀ {start lineNumber : Nat} {before : List BatchRequest},
      start + count ≤ 128 → before.length = start →
      before.map BatchRequest.customId = (List.range start).map sampleId →
      parseLines sampleParse lineNumber before ((List.range' start count).map (fun index =>
        String.ofList (sampleLine index)) ++ [""]) =
        .ok (before ++ (List.range' start count).map requestAt) := by
  induction count with
  | zero =>
    intro start lineNumber before _ _ _
    have blank : trim "" = "" := by decide
    rw [range'_zero, map_nil, nil_append, map_nil, append_nil, parseLines, if_pos blank, parseLines]
  | succ count ih =>
    intro start lineNumber before room length ids
    have short : start < 128 := by omega
    have trimmed : trim (String.ofList (sampleLine start)) = String.ofList (sampleLine start) := by
      apply trim_of_visible
      intro character member
      rw [String.toList_ofList] at member
      exact (sampleLine_plain start character member).1
    have visible : ¬ trim (String.ofList (sampleLine start)) = "" := by
      rw [trimmed]
      intro empty
      have lengths := congrArg String.length empty
      rw [String.length_ofList, sampleLine, length_append,
        length_append, sampleIdText, String.toList_ofList,
        length_replicate, String.length_empty] at lengths
      omega
    have few : ¬ maxBatchRequests ≤ before.length := by
      rw [maxBatchRequests]
      omega
    have fresh : (requestAt start).customId ∉ before.map BatchRequest.customId := by
      rw [ids]
      intro member
      obtain ⟨index, smaller, same⟩ := mem_map.mp member
      have less := mem_range.mp smaller
      have equal := sampleId_inj (by omega) short same
      omega
    rw [range'_succ, map_cons, cons_append, parseLines,
      if_neg visible, if_neg few, trimmed, sampleParse_line]
    dsimp only
    rw [normalizeBatchRequest_sample short]
    dsimp only
    rw [if_neg fresh, ih (by omega)]
    · rw [append_assoc]
      rfl
    · rw [length_append, length]
      rfl
    · rw [map_append, ids, range_succ, map_append]
      rfl

theorem utf8ByteSize_ofList_le (characters : List Char) :
    (String.ofList characters).utf8ByteSize ≤ 4 * characters.length := by
  induction characters with
  | nil =>
    exact Nat.le_refl 0
  | cons character rest ih =>
    have size := character.utf8Size_le_four
    rw [String.ofList_cons, String.utf8ByteSize_append, String.utf8ByteSize_singleton, length_cons]
    omega

theorem sampleInput_accepted {count : Nat} (positive : 0 < count) (room : count ≤ 128) :
    parseBatchJsonl sampleParse (sampleInput count) = .ok ((List.range count).map requestAt) := by
  have length : ∀ indices : List Nat, (∀ index ∈ indices, index < 128) →
      (indices.flatMap (sampleLine · ++ ['\n'])).length ≤ 300 * indices.length := by
    intro indices
    induction indices with
    | nil =>
      intro _
      exact Nat.le_refl 0
    | cons index rest ih =>
      intro short
      have here := short index mem_cons_self
      have there := ih (fun other member =>
        short other (mem_cons_of_mem index member))
      have head : requestHead.length ≤ 20 := by decide +kernel
      have tail : requestTail.length ≤ 100 := by decide +kernel
      rw [flatMap_cons, length_append, length_append,
        sampleLine, length_append, length_append, sampleIdText,
        String.toList_ofList, length_replicate,
        length_singleton, length_cons]
      omega
  have characters := length (range count) (by
    intro index member
    have less := mem_range.mp member
    omega)
  rw [length_range] at characters
  have bytes : ¬ maxBatchBytes < (sampleInput count).utf8ByteSize := by
    have size := utf8ByteSize_ofList_le ((range count).flatMap (sampleLine · ++ ['\n']))
    rw [sampleInput, maxBatchBytes]
    omega
  have lines : (splitLines (sampleInput count).toList).map String.ofList =
      (range' 0 count).map (fun index =>
        String.ofList (sampleLine index)) ++ [""] := by
    rw [sampleInput, String.toList_ofList, splitLines_sample, map_append, map_map, range_eq_range']
    rfl
  have parsed := @parseLines_sample count 0 1 [] (by omega) rfl rfl
  rw [parseBatchJsonl, if_neg bytes, lines, parsed, nil_append, ← range_eq_range']
  have nonempty : (range count).map requestAt ≠ [] := by
    intro empty
    rw [map_eq_nil_iff, range_eq_nil] at empty
    omega
  cases requests : (range count).map requestAt with
  | nil => exact absurd requests nonempty
  | cons request rest => rfl

/-! ## Samples -/

def sampleResults (cost : Nat) (requests : List BatchRequest) :
    List (Option ExecutionLine) :=
  requests.map (fun request =>
    some (executedLine request.customId.val "succeeded" 7 cost))

def executionFor (cost : Nat) (requests : List BatchRequest) : Execution :=
  { sampleExecution with
    resultStorageKey := .text "output.jsonl"
    lines := .array (sampleResults cost requests) }

theorem executedLine_trimmedId (cost : Nat) :
    (executedLine customId.val "succeeded" 7 cost).trimmedId =
      customId.val := by
  have nonempty : customId.val ≠ "" := by
    intro empty
    have valid := customId.property
    rw [empty] at valid
    exact absurd valid (by decide)
  have printed : (Text.text customId.val).printTruthy = customId.val := by
    rw [Text.printTruthy, Text.isTruthy, decide_eq_true nonempty]
    rfl
  rw [ExecutionLine.trimmedId]
  change trim (Text.text customId.val).printTruthy = customId.val
  rw [printed, trim_customId]

theorem nonNegativeOr_natural (number : Nat) :
    nonNegativeOr 0 (.number ((number : ℕ) : ℚ)) = number := by
  have integer : ((number : ℕ) : ℚ).den = 1 ∧ 0 ≤ ((number : ℕ) : ℚ).num := by
    rw [Rat.den_natCast, Rat.num_natCast]
    omega
  rw [nonNegativeOr, integerFrom, if_pos integer, Option.getD_some, Rat.num_natCast]

theorem executedLine_proof (cost : Nat) :
    ∃ proof, (executedLine customId.val "succeeded" 7 cost).proof customId = .ok proof ∧
      proof.IsAccepted ∧
      proof.costHalala = cost ∧ proof.providerId = some 7 := by
  have digest : ∃ digest, requireSha256 (.text (String.ofList (replicate 64 '7')))
      "response_checksum_sha256" = .ok digest ∧
        normalizeChecksum (.text (String.ofList (replicate 64 '7')))
          "response_checksum_sha256" = .ok digest :=
    ⟨String.ofList (replicate 64 '7'), by decide +kernel, by decide +kernel⟩
  obtain ⟨digest, required, normalized⟩ := digest
  have statusText :
      (executedLine customId.val "succeeded" 7 cost).statusText (some 200) = "succeeded" := by
    have named : (trim "succeeded").toLower = "succeeded" := by
      decide +kernel
    rw [ExecutionLine.statusText]
    change (if (trim "succeeded").toLower ≠ "" then
      (trim "succeeded").toLower else _) = _
    rw [named, if_pos (by decide)]
  have status : (executedLine customId.val "succeeded" 7 cost).normalizeStatus
      (some 200) customId.val = .ok .succeeded := by
    rw [ExecutionLine.normalizeStatus, if_pos statusText, if_neg (by decide)]
    change (requireSha256 (.text (String.ofList (replicate 64 '7')))
      "response_checksum_sha256").map _ = _
    rw [required]
    rfl
  have code : unlessMissing (.number 200) normalizeHttpStatus = .ok (some 200) := by
    decide +kernel
  have provider : unlessMissing (.number ((7 : Nat) : ℚ)) normalizeProviderId = .ok (some 7) := by
    decide +kernel
  refine ⟨_, bind_eq_ok_iff.mpr ⟨some 200, code,
    bind_eq_ok_iff.mpr ⟨.succeeded, status, bind_eq_ok_iff.mpr ⟨some 7, provider, rfl⟩⟩⟩, ?_⟩
  refine ⟨?_, nonNegativeOr_natural cost, rfl⟩
  have checksum : optionalText (.text (String.ofList (replicate 64 '7')))
      (normalizeChecksum · "response_checksum_sha256") = .ok (some digest) := by
    change (normalizeChecksum (.text (String.ofList
      (replicate 64 '7'))) "response_checksum_sha256").map some = _
    rw [normalized]
    rfl
  change (bind (optionalText (.text (String.ofList
    (replicate 64 '7'))) (normalizeChecksum · "response_checksum_sha256")) _).isOk = true
  rw [checksum]
  rfl

theorem executionFor_valid (batch : Batch) (cost : Nat) (requests : List BatchRequest) :
    ValidExecution batch requests (executionFor cost requests) (sampleResults cost requests) where
  checksum := by
    change (requireSha256 (.text (String.ofList (replicate 64 '7')))
      "result_checksum_sha256").isOk = true
    decide +kernel
  key := by
    change (normalizeStorageKey (.text "output.jsonl") "result_storage_key").isOk = true
    decide +kernel
  lines := rfl
  results := by
    constructor
    · rw [sampleResults, map_map]
      refine List.Perm.of_eq ?_
      apply map_congr_left
      intro request _
      exact congrArg some (executedLine_trimmedId request.customId cost)
    · intro line returned request _ same
      obtain ⟨other, _, equal⟩ := mem_map.mp returned
      injection equal with equal
      rw [← equal, executedLine_trimmedId] at same
      rw [← equal, Subtype.ext same]
      obtain ⟨proof, checked, written, _⟩ := executedLine_proof request.customId cost
      exact ⟨proof, checked, written⟩

theorem executionFor_payable {db : Database} {batch : Batch}
    {createdAt cost now : Nat} (handed : HandedOut db batch createdAt requests)
    (accepted : Accepted requests) (short : requests.length ≤ maxLimit)
    (covered : (requests.length * cost : Nat) ≤ db.funds batch now)
    (known : db.Knows (some 7)) (options : Options) :
    Completable db options batch requests (executionFor cost requests)
      now := by
  have valid := executionFor_valid batch cost requests
  obtain ⟨proofs, proven, checks, _⟩ := proven_of_short handed valid accepted short
  have count : proofs.length = requests.length := by
    have lengths := (lineProofs_eq_ok checks).each.length_eq
    rw [length_map, length_map, handed.worked_of_short short, newLines_length] at lengths
    exact lengths
  have each : ∀ proof ∈ proofs, proof.costHalala = cost ∧ proof.providerId = some 7 := by
    rw [lineProofs, require_bind_eq_ok_iff] at checks
    intro proof member
    obtain ⟨line, returned, trimmed, checked⟩ :=
      normalizeExecutionLines_results checks.2 proof member
    obtain ⟨request, _, equal⟩ := mem_map.mp returned
    injection equal with equal
    rw [← equal, executedLine_trimmedId] at trimmed
    rw [← equal, Subtype.ext trimmed] at checked
    obtain ⟨other, same, _, cost, provider⟩ := executedLine_proof proof.customId cost
    rw [checked] at same
    injection same with same
    rw [same]
    exact ⟨cost, provider⟩
  refine ⟨short, fun _ others same => Or.inr ⟨?_, ?_⟩⟩
  · rw [proven] at same
    rw [← Option.mem_some_iff.mp same]
    have most : ((proofs.filter (·.IsBillable)).map LineProof.costHalala).sum ≤
        (proofs.filter (·.IsBillable)).length • (cost : Int) := by
      rw [← length_map LineProof.costHalala]
      apply sum_le_card_nsmul
      intro amount member
      obtain ⟨proof, listed, same⟩ := mem_map.mp member
      rw [← same, (each proof (mem_filter.mp listed).1).1]
    have fewer := length_filter_le (fun proof : LineProof => decide proof.IsBillable) proofs
    have product : (proofs.filter (·.IsBillable)).length * cost ≤ requests.length * cost :=
      Nat.mul_le_mul_right cost (by omega)
    rw [nsmul_eq_mul] at most
    push_cast at covered
    omega
  · rw [proven] at same
    intro proof member _
    rw [← Option.mem_some_iff.mp same] at member
    rw [(each proof member).2]
    exact known

def emptyDatabase : Database :=
  { batches := Table.empty
    lines := Table.empty
    billing := chargedSystem.db.billing }

def createSample (count : Nat) : CreateRequest :=
  { renterId := 1
    batchId := firstId
    idempotencyKey := none
    inputJsonl := sampleInput count }

theorem createSample_new (count : Nat) :
    IsNew emptyDatabase (createSample count) where
  replay := fun keyed => absurd keyed Bool.false_ne_true
  batch := rfl
  lines := fun _ member => absurd member not_mem_nil
  charges := fun customId => chargedSystem_untouched firstId |>.charges customId

def requestsOf (count : Nat) : List BatchRequest :=
  (List.range count).map requestAt

def sampleHandOut (count : Nat) : Database :=
  emptyDatabase.handOut sampleParse (createSample count) (requestsOf count) 5 10

def batchOfSample (count : Nat) : Batch :=
  emptyDatabase.batchOf (createSample count) (requestsOf count) 5

theorem sampleHandOut_billing {count : Nat} (positive : 0 < count) (room : count ≤ 128) :
    (sampleHandOut count).billing = chargedSystem.db.billing := by
  obtain ⟨created, outcome, _, _, billing⟩ :=
    @createBatchInferenceJob_of_accepted sampleParse (createSample count)
      (requestsOf count) emptyDatabase 5 (sampleInput_accepted positive room)
      (createSample_new count)
  rw [sampleHandOut, Database.handOut, outcome]
  exact billing

theorem requestsOf_length (count : Nat) :
    (requestsOf count).length = count := by
  rw [requestsOf, length_map, length_range]

theorem accepted_batch_completes_iff_sample :
    CompletesWithResults settlingOptions (batchOfSample 100)
      (requestsOf 100) (executionFor 1 (requestsOf 100))
      (sampleResults 1 (requestsOf 100)) 20 (sampleHandOut 100)
      (finishBatch settlingOptions (batchOfSample 100) (some (executionFor 1 (requestsOf 100))) 20
        (sampleHandOut 100)) := by
  have accepted :
      parseBatchJsonl sampleParse (createSample 100).inputJsonl = .ok (requestsOf 100) :=
    sampleInput_accepted (by decide) (by decide)
  have new := createSample_new 100
  have handed := @handedOut_of_accepted sampleParse (createSample 100) (requestsOf 100)
      emptyDatabase 5 10 accepted new
  have billing := @sampleHandOut_billing 100 (by decide) (by decide)
  apply (accepted_batch_completes_iff accepted new
    (executionFor_valid (batchOfSample 100) 1 (requestsOf 100))).2.mpr
  apply executionFor_payable handed (parseBatchJsonl_accepted accepted)
  · rw [requestsOf_length]
    exact Nat.le_refl 100
  · rw [requestsOf_length]
    change _ ≤ (sampleHandOut 100).funds (batchOfSample 100) 20
    rw [Database.funds, billing]
    decide
  · change (sampleHandOut 100).Knows (some 7)
    rw [Database.Knows, billing]
    decide

/-- A batch of 101 requests does not complete, although the parser accepts
it and every request has a valid result that costs nothing. -/
theorem long_batch_not_completed :
    parseBatchJsonl sampleParse (sampleInput 101) = .ok (requestsOf 101) ∧
      IsNew emptyDatabase (createSample 101) ∧
      ValidExecution (batchOfSample 101) (requestsOf 101) (executionFor 0 (requestsOf 101))
        (sampleResults 0 (requestsOf 101)) ∧
      ¬ CompletesWithResults settlingOptions (batchOfSample 101)
        (requestsOf 101) (executionFor 0 (requestsOf 101))
        (sampleResults 0 (requestsOf 101)) 20 (sampleHandOut 101)
        (finishBatch settlingOptions (batchOfSample 101) (some (executionFor 0 (requestsOf 101))) 20
          (sampleHandOut 101)) := by
  have accepted :
      parseBatchJsonl sampleParse (createSample 101).inputJsonl = .ok (requestsOf 101) :=
    sampleInput_accepted (by decide) (by decide)
  have new := createSample_new 101
  have valid := executionFor_valid (batchOfSample 101) 0 (requestsOf 101)
  refine ⟨accepted, new, valid, ?_⟩
  intro completes
  have completable := (completes_iff_completable
      (@handedOut_of_accepted sampleParse (createSample 101)
        (requestsOf 101) emptyDatabase 5 10 accepted new)
      valid (parseBatchJsonl_accepted accepted)).mp completes
  have short := completable.1
  rw [requestsOf_length, maxLimit] at short
  omega

end DcpPlatform.Batches
