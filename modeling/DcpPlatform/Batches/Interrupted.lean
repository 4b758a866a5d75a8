import DcpPlatform.Batches.Completion

/-!
# A batch whose creation is interrupted

`createBatchInferenceJob` writes one row for the job and then one for each
line, with no transaction around them. When the statement of a line throws,
the job stays and a worker takes it up without the missing lines.
-/

namespace DcpPlatform.Batches

open Foundation Table List

structure Stored where
  db : Database
  inputChecksums : BatchId → Option String
  requestChecksums : Nat × BatchId × CustomId → Option String

structure Checksums where
  input : String → String
  request : String → Nat → String

inductive Statement where
  | insertJob (batch : Batch) (checksum : String)
  | insertLine (line : Line) (checksum : String)

def Statement.run (stored : Stored) : Statement → Option Stored
  | .insertJob batch checksum =>
    if (stored.db.batches.lookup batch.batchId).isSome then
      none
    else
      some { stored with
        db := { stored.db with batches := stored.db.batches.insertIfNew batch }
        inputChecksums := Function.update stored.inputChecksums batch.batchId (some checksum) }
  | .insertLine line checksum =>
    if (stored.db.lines.lookup line.key).isSome then
      none
    else
      some { stored with
        db := { stored.db with lines := stored.db.lines.insertIfNew line }
        requestChecksums := Function.update stored.requestChecksums line.key (some checksum) }

def runStatements (stored : Stored) : List Statement → Stored
  | [] => stored
  | statement :: rest =>
    match statement.run stored with
    | none => stored
    | some after => runStatements after rest

def lineStatements (checksums : Checksums) (inputJsonl : String) (lines : List Line) :
    List Statement :=
  lines.map (fun line => .insertLine line (checksums.request inputJsonl line.lineIndex))

def Replays (db : Database) (request : CreateRequest) : Prop :=
  request.idempotencyKey.isSome ∧ ∃ row ∈ db.batches.rows,
    row.renterId = request.renterId ∧ row.idempotencyKey = request.idempotencyKey
deriving Decidable

def createInterrupted (checksums : Checksums) (jsonParse : String → Option Json)
    (request : CreateRequest) (now : Nat) (failing : Option Nat) (stored : Stored) : Stored :=
  if Replays stored.db request then
    stored
  else
    match parseBatchJsonl jsonParse request.inputJsonl with
    | .error _ => stored
    | .ok requests =>
      let statements := .insertJob (stored.db.batchOf request requests now)
          (checksums.input request.inputJsonl) ::
        lineStatements checksums request.inputJsonl
          (newLines request.renterId request.batchId now requests)
      runStatements stored (failing.elim statements statements.take)

structure Complete (checksums : Checksums) (request : CreateRequest)
    (requests : List BatchRequest) (now : Nat) (before after : Stored) : Prop where
  jobs : after.db.batches.rows = before.db.batches.rows ++ [before.db.batchOf request requests now]
  lines : after.db.lines.rows =
    before.db.lines.rows ++ newLines request.renterId request.batchId now requests
  worked : after.db.linesOf (before.db.batchOf request requests now) =
    newLines request.renterId request.batchId now requests
  input : after.inputChecksums request.batchId = some (checksums.input request.inputJsonl)
  each : ∀ line ∈ newLines request.renterId request.batchId now requests,
    after.requestChecksums line.key = some (checksums.request request.inputJsonl line.lineIndex)

def Atomic (checksums : Checksums) (jsonParse : String → Option Json)
    (request : CreateRequest) (now : Nat) (before after : Stored) : Prop :=
  after = before ∨ ∃ requests, parseBatchJsonl jsonParse request.inputJsonl = .ok requests ∧
    Complete checksums request requests now before after

/-- The statement that throws inserts a line of a batch that is new. -/
def StopsAtLine (jsonParse : String → Option Json) (request : CreateRequest)
    (failing : Option Nat) (db : Database) : Prop :=
  ¬ Replays db request ∧ db.batches.lookup request.batchId = none ∧
    ∃ requests, parseBatchJsonl jsonParse request.inputJsonl = .ok requests ∧
      ∃ position, failing = some (position + 1) ∧ position < requests.length

/-- The lines of every batch refer to its row. -/
def Referenced (db : Database) : Prop :=
  ∀ line ∈ db.lines.rows, (db.batches.lookup line.batchId).isSome

variable {checksums : Checksums} {jsonParse : String → Option Json} {request : CreateRequest}
  {now : Nat} {inputJsonl : String}

theorem createInterrupted_db (checksums : Checksums) (jsonParse : String → Option Json)
    (request : CreateRequest) (now : Nat) (stored : Stored) :
    (createInterrupted checksums jsonParse request now none stored).db =
      (createBatchInferenceJob jsonParse request now stored.db).2 := by
  have lines (rows : List Line) : ∀ state : Stored,
      (runStatements state (lineStatements checksums request.inputJsonl rows)).db =
        (insertBatchInferenceJobLines rows state.db).2 := by
    induction rows with
    | nil => exact fun _ => rfl
    | cons line rest ih =>
      intro state
      rw [insertBatchInferenceJobLines, Tx.read_bind]
      by_cases taken : (state.db.lines.lookup line.key).isSome
      · simp only [lineStatements, map_cons, runStatements, Statement.run, taken, if_true]
        rfl
      · simp only [lineStatements, map_cons, runStatements, Statement.run, taken,
          Bool.false_eq_true, if_false]
        exact ih _
  by_cases replays : Replays stored.db request
  · rw [createInterrupted, createBatchInferenceJob, if_pos replays, if_pos (by exact replays)]
  · rw [createInterrupted, createBatchInferenceJob, if_neg replays, if_neg (by exact replays)]
    cases parseBatchJsonl jsonParse request.inputJsonl with
    | error refused => rfl
    | ok requests =>
      by_cases taken : (stored.db.batches.lookup request.batchId).isSome
      · simp [runStatements, Statement.run, Database.batchOf, Database.newBatch, taken]
      · simp only [Option.elim_none, runStatements, Statement.run, Database.batchOf,
          Database.newBatch, taken, Bool.false_eq_true, if_false]
        exact lines _ _

theorem runStatements_lines {lines : List Line} :
    ∀ {stored : Stored}, (lines.map Line.key).Nodup →
      (∀ line ∈ lines, stored.db.lines.lookup line.key = none) →
        let after := runStatements stored (lineStatements checksums inputJsonl lines)
        after.db.batches = stored.db.batches ∧ after.inputChecksums = stored.inputChecksums ∧
          after.db.lines.rows = stored.db.lines.rows ++ lines ∧
          (∀ key, key ∉ lines.map Line.key →
            after.requestChecksums key = stored.requestChecksums key) ∧
          ∀ line ∈ lines, after.requestChecksums line.key =
            some (checksums.request inputJsonl line.lineIndex) := by
  induction lines with
  | nil =>
    intro stored _ _
    simp [lineStatements, runStatements]
  | cons line rest ih =>
    intro stored distinct fresh
    rw [map_cons, nodup_cons] at distinct
    have free := fresh line mem_cons_self
    let inserted : Stored := { stored with
        db := { stored.db with lines := stored.db.lines.insertIfNew line }
        requestChecksums := Function.update stored.requestChecksums line.key
          (some (checksums.request inputJsonl line.lineIndex)) }
    have first : runStatements stored (lineStatements checksums inputJsonl (line :: rest)) =
        runStatements inserted (lineStatements checksums inputJsonl rest) := by
      simp [lineStatements, runStatements, Statement.run, free, inserted]
    have others : ∀ other ∈ rest, inserted.db.lines.lookup other.key = none := by
      intro other member
      change (stored.db.lines.insertIfNew line).lookup other.key = none
      rw [insertIfNew_of_fresh free, lookup_insert_of_ne]
      · exact fresh other (mem_cons_of_mem line member)
      · intro same
        exact distinct.1 (same ▸ mem_map_of_mem member)
    obtain ⟨batches, input, rows, untouched, each⟩ := ih distinct.2 others
    rw [first]
    refine ⟨batches, input, ?_, ?_, ?_⟩
    · rw [rows]
      simp [inserted, insertIfNew_of_fresh free]
    · intro key absent
      rw [map_cons, mem_cons, not_or] at absent
      rw [untouched key absent.2]
      exact Function.update_of_ne absent.1 _ _
    · intro other member
      rcases mem_cons.mp member with rfl | later
      · rw [untouched other.key distinct.1]
        exact Function.update_self _ _ _
      · exact each other later

theorem runStatements_new {requests : List BatchRequest} {stored : Stored}
    (referenced : Referenced stored.db) (absent : stored.db.batches.lookup request.batchId = none)
    (distinct : (requests.map BatchRequest.customId).Nodup) (count : Nat) :
    let lines := (newLines request.renterId request.batchId now requests).take count
    let after := runStatements stored
      (.insertJob (stored.db.batchOf request requests now) (checksums.input inputJsonl) ::
        lineStatements checksums inputJsonl lines)
    after.db.batches.rows = stored.db.batches.rows ++ [stored.db.batchOf request requests now] ∧
      after.inputChecksums request.batchId = some (checksums.input inputJsonl) ∧
      after.db.lines.rows = stored.db.lines.rows ++ lines ∧
      ∀ line ∈ lines, after.requestChecksums line.key =
        some (checksums.request inputJsonl line.lineIndex) := by
  intro lines after
  let created : Stored := { stored with
      db :=
        { stored.db with
          batches := stored.db.batches.insertIfNew (stored.db.batchOf request requests now) }
      inputChecksums := Function.update stored.inputChecksums request.batchId
        (some (checksums.input inputJsonl)) }
  have free : stored.db.batches.lookup (stored.db.batchOf request requests now).batchId = none :=
    absent
  have first : after = runStatements created (lineStatements checksums inputJsonl lines) := by
    simp only [after, runStatements, Statement.run, free, Option.isSome_none, Bool.false_eq_true,
      if_false]
    rfl
  have keys : (lines.map Line.key).Nodup := by
    rw [map_take]
    exact (newLines_keys distinct).sublist (take_sublist _ _)
  have fresh : ∀ line ∈ lines, created.db.lines.lookup line.key = none := by
    intro line member
    obtain ⟨_, _, _, rfl⟩ := mem_newLines (mem_of_mem_take member)
    refine (lookup_eq_none_iff stored.db.lines _).mpr ?_
    intro row known same
    have sameBatch : row.batchId = request.batchId := (Prod.ext_iff.mp (Prod.ext_iff.mp same).2).1
    have batch := referenced row known
    rw [sameBatch, absent] at batch
    cases batch
  obtain ⟨batches, input, rows, -, each⟩ :=
    @runStatements_lines checksums inputJsonl lines created keys fresh
  rw [first]
  refine ⟨?_, ?_, rows, each⟩
  · rw [batches]
    simp [created, insertIfNew_of_fresh free]
  · rw [input]
    exact Function.update_self _ _ _

theorem createInterrupted_new {requests : List BatchRequest} {stored : Stored}
    {failing : Option Nat} {count : Nat} (new : ¬ Replays stored.db request)
    (parsed : parseBatchJsonl jsonParse request.inputJsonl = .ok requests)
    (reached : failing = none ∧ count = requests.length ∨ failing = some (count + 1)) :
    createInterrupted checksums jsonParse request now failing stored = runStatements stored
      (.insertJob (stored.db.batchOf request requests now) (checksums.input request.inputJsonl) ::
        lineStatements checksums request.inputJsonl
          ((newLines request.renterId request.batchId now requests).take count)) := by
  rw [createInterrupted, if_neg new, parsed]
  rcases reached with ⟨rfl, rfl⟩ | rfl
  · rw [take_of_length_le (newLines_length _ _ requests).le]
    rfl
  · simp [lineStatements]

theorem not_atomic_of_stops {stored : Stored} {failing : Option Nat}
    (referenced : Referenced stored.db) (stops : StopsAtLine jsonParse request failing stored.db) :
    ¬ Atomic checksums jsonParse request now stored
      (createInterrupted checksums jsonParse request now failing stored) := by
  obtain ⟨new, absent, requests, parsed, position, rfl, inside⟩ := stops
  have distinct := (parseBatchJsonl_accepted parsed).distinct
  rw [createInterrupted_new new parsed (Or.inr rfl)]
  obtain ⟨jobs, -, rows, -⟩ := @runStatements_new checksums request now request.inputJsonl
    requests stored referenced absent distinct position
  rintro (same | ⟨others, accepted, complete⟩)
  · rw [same] at jobs
    simpa using congrArg length jobs
  · obtain rfl := Except.ok.inj (parsed.symm.trans accepted)
    have lengths := congrArg length (rows.symm.trans complete.lines)
    rw [length_append, length_append, length_take, newLines_length] at lengths
    omega

/-- The creation is atomic unless the statement of a line throws. -/
theorem create_atomic_iff {stored : Stored} (referenced : Referenced stored.db)
    (checksums : Checksums) (jsonParse : String → Option Json) (request : CreateRequest)
    (now : Nat) (failing : Option Nat) :
    Atomic checksums jsonParse request now stored
      (createInterrupted checksums jsonParse request now failing stored) ↔
      ¬ StopsAtLine jsonParse request failing stored.db := by
  constructor
  · exact fun atomic stops => not_atomic_of_stops referenced stops atomic
  · intro otherwise
    by_cases new : Replays stored.db request
    · exact Or.inl (if_pos new)
    · cases parsed : parseBatchJsonl jsonParse request.inputJsonl with
      | error refused =>
        left
        rw [createInterrupted, if_neg new, parsed]
      | ok requests =>
        by_cases early : failing = some 0
        · left
          rw [createInterrupted, if_neg new, parsed, early]
          rfl
        · obtain ⟨count, reached, enough⟩ : ∃ count,
              (failing = none ∧ count = requests.length ∨ failing = some (count + 1)) ∧
                (stored.db.batches.lookup request.batchId = none → requests.length ≤ count) := by
            rcases failing with _ | _ | position
            · exact ⟨_, Or.inl ⟨rfl, rfl⟩, fun _ => le_refl _⟩
            · exact absurd rfl early
            · refine ⟨position, Or.inr rfl, fun absent => not_lt.mp fun inside => ?_⟩
              exact otherwise ⟨new, absent, requests, parsed, position, rfl, inside⟩
          rw [createInterrupted_new new parsed reached]
          cases absent : stored.db.batches.lookup request.batchId with
          | some row =>
            left
            have taken : (stored.db.batches.lookup
                (stored.db.batchOf request requests now).batchId).isSome = true :=
              Option.isSome_of_eq_some absent
            simp only [runStatements, Statement.run, taken, if_true]
          | none =>
            right
            have all := @runStatements_new checksums request now request.inputJsonl
              requests stored referenced absent (parseBatchJsonl_accepted parsed).distinct count
            rw [take_of_length_le (by
              rw [newLines_length]
              exact enough absent)] at all ⊢
            obtain ⟨jobs, input, rows, each⟩ := all
            refine ⟨requests, parsed, jobs, rows, linesOf_created rows ?_ rfl rfl, input, each⟩
            intro line known same
            have batch := referenced line known
            rw [same, absent] at batch
            cases batch

def sampleChecksums : Checksums :=
  { input := fun text => text
    request := fun text _ => text }

def emptyStored : Stored :=
  ⟨emptyDatabase, fun _ => none, fun _ => none⟩

theorem emptyStored_referenced : Referenced emptyStored.db := by
  simp [Referenced, emptyStored, emptyDatabase, empty]

theorem create_atomic_iff_sample :
    Atomic sampleChecksums sampleParse (createSample 2) 5 emptyStored
      (createInterrupted sampleChecksums sampleParse (createSample 2) 5 none emptyStored) ↔
      ¬ StopsAtLine sampleParse (createSample 2) none emptyStored.db :=
  create_atomic_iff emptyStored_referenced sampleChecksums sampleParse (createSample 2) 5 none

/-- The second of two lines throws: a worker lists the job with one line. -/
theorem create_stops_at_line :
    let after := createInterrupted sampleChecksums sampleParse (createSample 2) 5 (some 2)
      emptyStored
    ¬ Atomic sampleChecksums sampleParse (createSample 2) 5 emptyStored after ∧
      after.db.listCreatedBatchInferenceJobs 5 = [batchOfSample 2] ∧
      after.db.linesOf (batchOfSample 2) = [newLine 1 firstId 5 (requestAt 0) 0] := by
  have parsed : parseBatchJsonl sampleParse (createSample 2).inputJsonl = .ok (requestsOf 2) :=
    sampleInput_accepted (by decide) (by decide)
  have new : ¬ Replays emptyStored.db (createSample 2) := by
    rintro ⟨keyed, -⟩
    cases keyed
  have result := @createInterrupted_new sampleChecksums sampleParse (createSample 2) 5
    (requestsOf 2) emptyStored (some 2) 1 new parsed (Or.inr rfl)
  refine ⟨?_, ?_, ?_⟩
  · exact not_atomic_of_stops emptyStored_referenced
      ⟨new, rfl, requestsOf 2, parsed, 1, rfl, by decide⟩
  · rw [result]
    rfl
  · rw [result]
    rfl

end DcpPlatform.Batches
