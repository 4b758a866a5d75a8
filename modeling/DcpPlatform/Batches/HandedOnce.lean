import DcpPlatform.Batches.Effects

/-!
# A batch is executed at most once

A run takes the next batch of the list that it read when it started, and it
finishes a batch when the executor answers: neither looks at the status that
the batch has by then. `Unchanged` excludes a change in between.
-/

namespace DcpPlatform.Batches

open Foundation Table List Option

def StatusesKept (before after : Database) : Prop :=
  ∀ batchId batch, before.batches.lookup batchId = some batch → batch.status.isTerminal = true →
    ∃ later, after.batches.lookup batchId = some later ∧ later.status = batch.status

/-- No batch is handed out twice, and no batch that has ended changes. -/
def HandedOnce (before after : System) : Prop :=
  after.executed.Nodup ∧ StatusesKept before.db after.db

def Database.HasStatus (db : Database) (batch : Batch) (holds : BatchStatus → Bool) : Prop :=
  ∀ row ∈ db.batches.lookup batch.batchId, row.renterId = batch.renterId → holds row.status = true

instance (db : Database) (batch : Batch) (holds : BatchStatus → Bool) :
    Decidable (db.HasStatus batch holds) :=
  inferInstanceAs (Decidable (∀ _ ∈ _, _))

/-- The batch that is finished has not ended, and the one that is taken next
is still waiting; a cancellation hits no batch that is completed or failed. -/
def Unchanged (system : System) : Action → Prop
  | .answer index _ _ =>
    ∀ worker ∈ system.workers[index]?, system.db.HasStatus worker.awaited
      (fun status => !status.isTerminal) ∧ ∀ batch ∈ worker.remaining.head?,
          system.db.HasStatus batch (fun status => status = .created)
  | .cancel batch _ =>
    system.db.HasStatus batch (fun status => !status.isTerminal || status = .cancelled)
  | _ => True

instance (system : System) (action : Action) :
    Decidable (Unchanged system action) :=
  match action with
  | .answer index _ _ =>
    inferInstanceAs (Decidable (∀ worker ∈ system.workers[index]?,
      system.db.HasStatus worker.awaited (fun status => !status.isTerminal) ∧
        ∀ batch ∈ worker.remaining.head?,
          system.db.HasStatus batch (fun status => status = .created)))
  | .cancel batch _ =>
    inferInstanceAs (Decidable
      (system.db.HasStatus batch (fun status => !status.isTerminal || status = .cancelled)))
  | .start _ _ _ | .create _ _ | .funds _ _ _ =>
    inferInstanceAs (Decidable True)

structure Marks (before after : Database) (batch : Batch) (status : BatchStatus) : Prop where
  others : ∀ other, other ≠ batch.batchId → after.batches.lookup other = before.batches.lookup other
  row : ∀ row, before.batches.lookup batch.batchId = some row →
    row.renterId = batch.renterId → ∃ later, after.batches.lookup batch.batchId = some later ∧
      later.renterId = row.renterId ∧ later.status = status

theorem setBatchStatus_marks (db : Database) (batch : Batch)
    (status : BatchStatus) (outcome : BatchOutcome) (now : Nat) :
    Marks db (db.setBatchStatus batch status outcome now) batch status where
  others := fun _ different =>
    lookup_updateWhere_of_ne db.batches (Batch.setStatus_batchId status outcome now) different
  row := by
    intro row found owned
    refine ⟨row.setStatus status outcome now, ?_, rfl, rfl⟩
    rw [Database.setBatchStatus, lookup_updateWhere_of_met
      (Batch.setStatus_batchId status outcome now) found owned, if_pos rfl]

theorem Marks.of_batches {before middle after : Database} {batch : Batch}
    {status : BatchStatus} (marks : Marks middle after batch status)
    (same : middle.batches = before.batches) :
    Marks before after batch status := by
  obtain ⟨others, row⟩ := marks
  rw [same] at others row
  exact ⟨others, row⟩

section Keeping

variable {batch : Batch} {now : Nat}

theorem batches_ignoreResults : IgnoresResults Database.batches batch :=
  fun _ _ _ _ => rfl

theorem batches_ignoreSettlements :
    IgnoresSettlements Database.batches batch :=
  ⟨fun _ _ _ _ => rfl, fun _ _ _ _ => rfl⟩

def Completes (batch : Batch) (body : Writing PUnit) : Prop :=
  ∀ db,
    match body db with
    | (.ok _, after) => Marks db after batch .completed
    | (.error _, after) => after.batches = db.batches

theorem Completes.after {Value : Type} {first : Writing Value}
    {continuation : Value → Writing PUnit} (keeps : Tx.Keeps Database.batches first)
    (completes : ∀ value, Completes batch (continuation value)) :
    Completes batch (first >>= continuation) := by
  intro db
  have same := keeps db
  rcases reached : first db with ⟨outcome, middle⟩
  rw [reached] at same
  cases outcome with
  | error failure =>
    rw [Tx.bind_of_error reached]
    exact same
  | ok value =>
    rw [Tx.bind_of_ok reached]
    have finished := completes value middle
    rcases ended : continuation value middle with ⟨result, after⟩
    rw [ended] at finished
    cases result with
    | ok _ => exact finished.of_batches same
    | error _ => exact finished.trans same

theorem completeBatch_completes (options : Options) (execution : Execution) :
    Completes batch (completeBatch options batch execution now) := by
  refine Completes.after (checked_keeps _) (fun checksum => ?_)
  refine Completes.after (applyExecutionLineProofs_keeps batches_ignoreResults _)
    (fun summary => ?_)
  refine Completes.after (settle_keeps batches_ignoreSettlements options summary) (fun _ => ?_)
  refine Completes.after (checked_keeps _) (fun key => ?_)
  intro db
  exact setBatchStatus_marks db batch .completed _ now

theorem finishBatch_marks (options : Options) (answer : Option Execution) (db : Database) :
    ∃ status, (status = .completed ∨ status = .failed) ∧
      Marks db (finishBatch options batch answer now db) batch status := by
  cases answer with
  | none =>
    exact ⟨.failed, Or.inr rfl, setBatchStatus_marks db batch .failed _ _⟩
  | some execution =>
    have finished := @completeBatch_completes batch now options execution db
    rw [finishBatch]
    rcases ended : completeBatch options batch execution now db with ⟨result, after⟩
    rw [ended] at finished
    cases result with
    | ok _ =>
      exact ⟨.completed, Or.inl rfl, finished⟩
    | error _ =>
      exact ⟨.failed, Or.inr rfl,
        (setBatchStatus_marks after batch .failed _ now).of_batches finished⟩

end Keeping

theorem insertBatchInferenceJobLines_keeps (lines : List Line) :
    Tx.Keeps Database.batches (insertBatchInferenceJobLines lines) := by
  induction lines with
  | nil =>
    exact Tx.Keeps.pure PUnit.unit
  | cons line rest ih =>
    refine (Tx.Keeps.read _).bind (fun taken => ?_)
    cases taken with
    | true => exact Tx.Keeps.fail _
    | false =>
      refine Tx.Keeps.bind (Tx.Keeps.write ?_) (fun _ => ih)
      intro _
      rfl

theorem createBatchInferenceJob_kept (jsonParse : String → Option Json)
    (request : CreateRequest) (now : Nat) (db : Database)
    {batchId : BatchId} {row : Batch}
    (found : db.batches.lookup batchId = some row) :
    (createBatchInferenceJob jsonParse request now db).2.batches.lookup batchId = some row := by
  unfold createBatchInferenceJob
  split
  · exact found
  · split
    · exact found
    · split
      · exact found
      · rename_i taken
        rw [insertBatchInferenceJobLines_keeps]
        have fresh : db.batches.lookup request.batchId = none := not_isSome_iff_eq_none.mp taken
        rw [insertIfNew_of_fresh fresh]
        exact lookup_insert_of_some db.batches fresh found

def Waits (system : System) (batch : Batch) : Prop :=
  ∃ row, system.db.batches.lookup batch.batchId = some row ∧ row.renterId = batch.renterId ∧
    (row.status = .created ∨ batch.batchId ∈ system.executed ∨ row.status = .cancelled)

def Awaited (system : System) (batch : Batch) : Prop :=
  batch.batchId ∈ system.executed ∧ ∃ row,
    system.db.batches.lookup batch.batchId = some row ∧ row.renterId = batch.renterId ∧
      (row.status = .running ∨ row.status = .cancelled)

structure Orderly (system : System) : Prop where
  once : system.executed.Nodup
  executed : ∀ batchId ∈ system.executed, ∃ row,
    system.db.batches.lookup batchId = some row ∧ row.status ≠ .created
  awaited : ∀ worker ∈ system.workers, Awaited system worker.awaited
  remaining : ∀ worker ∈ system.workers, ∀ batch ∈ worker.remaining, Waits system batch
  distinct : (system.workers.map (fun worker => worker.awaited.batchId)).Nodup
  separate :
    ∀ worker ∈ system.workers, ((worker.awaited :: worker.remaining).map Batch.batchId).Nodup

theorem StatusesKept.refl (db : Database) : StatusesKept db db :=
  fun _ batch found _ => ⟨batch, found, rfl⟩

theorem StatusesKept.trans {first second third : Database} (earlier : StatusesKept first second)
    (later : StatusesKept second third) : StatusesKept first third := by
  intro batchId batch found ended
  obtain ⟨middle, middleFound, middleStatus⟩ := earlier batchId batch found ended
  rw [← middleStatus] at ended ⊢
  exact later batchId middle middleFound ended

theorem StatusesKept.of_rows {before after : Database} (rows : ∀ batchId batch,
    before.batches.lookup batchId = some batch → after.batches.lookup batchId = some batch) :
    StatusesKept before after :=
  fun batchId batch found _ => ⟨batch, rows batchId batch found, rfl⟩

theorem Orderly.of_rows {system : System} {db : Database} (orderly : Orderly system)
    (rows : ∀ batchId batch,
      system.db.batches.lookup batchId = some batch → db.batches.lookup batchId = some batch) :
    Orderly { system with db := db } where
  once := orderly.once
  executed := by
    intro batchId member
    obtain ⟨row, found, status⟩ := orderly.executed batchId member
    exact ⟨row, rows _ _ found, status⟩
  awaited := by
    intro worker member
    obtain ⟨handed, row, found, known⟩ := orderly.awaited worker member
    exact ⟨handed, row, rows _ _ found, known⟩
  remaining := by
    intro worker member batch listed
    obtain ⟨row, found, known⟩ := orderly.remaining worker member batch listed
    exact ⟨row, rows _ _ found, known⟩
  distinct := orderly.distinct
  separate := orderly.separate

section TakeNext

variable {system : System} {options : Options} {batch : Batch} {rest : List Batch} {now : Nat}

theorem takeNext_marks :
    Marks system.db (system.takeNext options (batch :: rest) now).db batch
      .running :=
  setBatchStatus_marks system.db batch .running BatchOutcome.empty now

theorem takeNext_orderly (orderly : Orderly system)
    (listed : ∀ other ∈ batch :: rest, Waits system other)
    (separate : ((batch :: rest).map Batch.batchId).Nodup)
    (waiting : system.db.HasStatus batch (fun status => status = .created)) :
    Orderly (system.takeNext options (batch :: rest) now) ∧
      StatusesKept system.db (system.takeNext options (batch :: rest) now).db := by
  obtain ⟨row, found, owned, _⟩ := listed batch mem_cons_self
  have created : row.status = .created := of_decide_eq_true (waiting row found owned)
  have fresh : batch.batchId ∉ system.executed := by
    intro handed
    obtain ⟨other, stored, started⟩ := orderly.executed batch.batchId handed
    rw [found] at stored
    cases stored
    exact started created
  have marks : Marks system.db _ batch .running := @takeNext_marks system options batch rest now
  obtain ⟨later, stored, sameRenter, running⟩ := marks.row row found owned
  have elsewhere {other : BatchId} (handed : other ∈ system.executed) :
      (system.takeNext options (batch :: rest) now).db.batches.lookup
        other = system.db.batches.lookup other := by
    apply marks.others
    intro same
    rw [same] at handed
    exact fresh handed
  have waits {other : Batch} (still : Waits system other)
      (different : other.batchId ≠ batch.batchId) :
      Waits (system.takeNext options (batch :: rest) now) other := by
    obtain ⟨otherRow, otherFound, otherOwned, known⟩ := still
    refine ⟨otherRow, (marks.others _ different).trans otherFound, otherOwned, ?_⟩
    rcases known with waiting | handed | cancelled
    · exact Or.inl waiting
    · exact Or.inr (Or.inl (mem_append_left _ handed))
    · exact Or.inr (Or.inr cancelled)
  have taken : batch.batchId ∈ (system.takeNext options (batch :: rest) now).executed :=
    mem_append_right _ (mem_singleton.mpr rfl)
  refine ⟨⟨?_, ?_, ?_, ?_, ?_, ?_⟩, ?_⟩
  · exact nodup_append.mpr ⟨orderly.once, nodup_singleton _, by
        intro first member second last same
        rw [mem_singleton.mp last] at same
        rw [same] at member
        exact fresh member⟩
  · intro other member
    rcases mem_append.mp member with handed | last
    · obtain ⟨otherRow, otherFound, started⟩ := orderly.executed other handed
      exact ⟨otherRow, (elsewhere handed).trans otherFound, started⟩
    · rw [mem_singleton.mp last]
      refine ⟨later, stored, ?_⟩
      rw [running]
      decide
  · intro worker member
    rcases mem_append.mp member with old | last
    · obtain ⟨handed, otherRow, otherFound, known⟩ := orderly.awaited worker old
      exact ⟨mem_append_left _ handed, otherRow, (elsewhere handed).trans otherFound, known⟩
    · rw [mem_singleton.mp last]
      exact ⟨taken, later, stored, sameRenter.trans owned, Or.inl running⟩
  · intro worker member other listedThere
    rcases mem_append.mp member with old | last
    · by_cases same : other.batchId = batch.batchId
      · obtain ⟨otherRow, otherFound, otherOwned, _⟩ :=
          orderly.remaining worker old other listedThere
        rw [same, found] at otherFound
        injection otherFound with equal
        refine ⟨later, by rw [same]; exact stored, ?_, Or.inr (Or.inl (by rw [same]; exact taken))⟩
        rw [sameRenter, equal, otherOwned]
      · exact waits (orderly.remaining worker old other listedThere) same
    · rw [mem_singleton.mp last] at listedThere
      refine waits (listed other (mem_cons_of_mem _ listedThere)) ?_
      intro same
      rw [map_cons, nodup_cons] at separate
      rw [← same] at separate
      exact separate.1 (mem_map_of_mem listedThere)
  · have workers : (system.takeNext options (batch :: rest) now).workers =
        system.workers ++ [⟨options, batch, rest⟩] := rfl
    rw [workers, map_append, nodup_append]
    refine ⟨orderly.distinct, nodup_singleton _, ?_⟩
    intro first member second last same
    rw [map_singleton, mem_singleton] at last
    obtain ⟨worker, old, equal⟩ := mem_map.mp member
    rw [same, last] at equal
    have handed := (orderly.awaited worker old).1
    rw [equal] at handed
    exact fresh handed
  · intro worker member
    rcases mem_append.mp member with old | last
    · exact orderly.separate worker old
    · rw [mem_singleton.mp last]
      exact separate
  · intro batchId other otherFound ended
    by_cases same : batchId = batch.batchId
    · rw [same, found] at otherFound
      injection otherFound with equal
      rw [← equal, created] at ended
      cases ended
    · exact ⟨other, (marks.others _ same).trans otherFound, rfl⟩

theorem waiting_of_handedOnce (waits : Waits system batch)
    (once : (system.takeNext options (batch :: rest) now).executed.Nodup)
    (kept : ∀ row, system.db.batches.lookup batch.batchId = some row →
      row.status.isTerminal = true → ∃ later,
        (system.takeNext options (batch :: rest) now).db.batches.lookup batch.batchId = some later ∧
          later.status = row.status) :
    system.db.HasStatus batch (fun status => status = .created) := by
  obtain ⟨row, found, owned, known⟩ := waits
  intro other stored _
  rw [mem_def, found] at stored
  cases stored
  rcases known with created | handed | cancelled
  · exact decide_eq_true created
  · have twice := (nodup_append.mp once).2.2 _ handed _ (mem_singleton.mpr rfl)
    exact absurd rfl twice
  · have ended : row.status.isTerminal = true := by
      rw [cancelled]
      rfl
    obtain ⟨later, stored, status⟩ := kept row found ended
    obtain ⟨marked, markedStored, _, running⟩ :=
      (@takeNext_marks system options batch rest now).row row found owned
    rw [stored] at markedStored
    injection markedStored with same
    rw [same, running, cancelled] at status
    cases status

end TakeNext

theorem listed_waits {system : System} {limit : Nat} :
    (∀ batch ∈ system.db.listCreatedBatchInferenceJobs limit,
      Waits system batch ∧ system.db.HasStatus batch (fun status => status = .created)) ∧
      ((system.db.listCreatedBatchInferenceJobs limit).map Batch.batchId).Nodup := by
  constructor
  · intro batch member
    have sorted := mem_of_mem_take member
    rw [mem_insertionSort] at sorted
    obtain ⟨created, found⟩ := mem_select sorted
    refine ⟨⟨batch, found, rfl, Or.inl created⟩, ?_⟩
    intro row stored _
    rw [mem_def, found] at stored
    cases stored
    exact decide_eq_true created
  · refine List.Nodup.sublist ((take_sublist _ _).map _) ?_
    exact ((perm_insertionSort _ _).map Batch.batchId).nodup_iff.mpr
      (select_nodup system.db.batches _)

section Answer

variable {system : System} {worker : Worker} {index now : Nat} {answer : Option Execution}

def System.finish (system : System) (worker : Worker) (index : Nat)
    (answer : Option Execution) (now : Nat) : System :=
  { system with
    db := finishBatch worker.options worker.awaited answer now system.db
    workers := system.workers.eraseIdx index }

theorem other_awaits (orderly : Orderly system)
    (waiting : system.workers[index]? = some worker) {other : Worker}
    (member : other ∈ system.workers.eraseIdx index) :
    other.awaited.batchId ≠ worker.awaited.batchId := by
  obtain ⟨bound, there⟩ := List.getElem?_eq_some_iff.mp waiting
  have perm := getElem_cons_eraseIdx_perm bound
  have distinct :=
    (perm.map (fun worker : Worker => worker.awaited.batchId)).nodup_iff.mpr orderly.distinct
  rw [map_cons, nodup_cons, there] at distinct
  intro same
  rw [← same] at distinct
  exact distinct.1 (mem_map_of_mem member)

theorem finish_orderly (orderly : Orderly system) (waiting : system.workers[index]? = some worker)
    (live : system.db.HasStatus worker.awaited (fun status => !status.isTerminal)) :
    Orderly (system.finish worker index answer now) ∧
      StatusesKept system.db (system.finish worker index answer now).db := by
  have present : worker ∈ system.workers := mem_of_getElem? waiting
  obtain ⟨handed, row, found, owned, _⟩ := orderly.awaited worker present
  obtain ⟨status, ended, marks⟩ :=
    @finishBatch_marks worker.awaited now worker.options answer system.db
  obtain ⟨later, stored, sameRenter, finished⟩ := marks.row row found owned
  refine ⟨⟨orderly.once, ?_, ?_, ?_, ?_, ?_⟩, ?_⟩
  · intro batchId member
    by_cases same : batchId = worker.awaited.batchId
    · rw [same]
      refine ⟨later, stored, ?_⟩
      rw [finished]
      rcases ended with completed | failed
      · rw [completed]
        decide
      · rw [failed]
        decide
    · obtain ⟨other, otherFound, started⟩ := orderly.executed batchId member
      exact ⟨other, (marks.others _ same).trans otherFound, started⟩
  · intro other member
    obtain ⟨otherHanded, otherRow, otherFound, known⟩ :=
      orderly.awaited other (mem_of_mem_eraseIdx member)
    exact ⟨otherHanded, otherRow,
      (marks.others _ (other_awaits orderly waiting member)).trans otherFound, known⟩
  · intro other member batch listed
    obtain ⟨otherRow, otherFound, otherOwned, known⟩ :=
      orderly.remaining other (mem_of_mem_eraseIdx member) batch listed
    by_cases same : batch.batchId = worker.awaited.batchId
    · rw [same, found] at otherFound
      injection otherFound with equal
      refine ⟨later, by rw [same]; exact stored, ?_, Or.inr (Or.inl (by rw [same]; exact handed))⟩
      rw [sameRenter, equal, otherOwned]
    · exact ⟨otherRow, (marks.others _ same).trans otherFound, otherOwned, known⟩
  · exact orderly.distinct.sublist ((eraseIdx_sublist system.workers index).map _)
  · intro other member
    exact orderly.separate other (mem_of_mem_eraseIdx member)
  · intro batchId batch batchFound terminal
    by_cases same : batchId = worker.awaited.batchId
    · rw [same] at batchFound
      have unended := live batch batchFound
      rw [found] at batchFound
      cases batchFound
      have running : (!row.status.isTerminal) = true := unended owned
      rw [terminal] at running
      cases running
    · exact ⟨batch, (marks.others _ same).trans batchFound, rfl⟩

theorem finish_others (orderly : Orderly system)
    (waiting : system.workers[index]? = some worker) {batch : Batch}
    (listed : batch ∈ worker.remaining) :
    (system.finish worker index answer now).db.batches.lookup batch.batchId =
      system.db.batches.lookup batch.batchId := by
  have present : worker ∈ system.workers := mem_of_getElem? waiting
  obtain ⟨status, _, marks⟩ := @finishBatch_marks worker.awaited now worker.options answer system.db
  apply marks.others
  intro same
  have separate := orderly.separate worker present
  rw [map_cons, nodup_cons, ← same] at separate
  exact separate.1 (mem_map_of_mem listed)

end Answer

/-! ## One step and a whole run -/

section Steps

variable {jsonParse : String → Option Json} {source target : System} {now : Nat}

theorem start_handedOnce (orderly : Orderly source) (options : Options) (limit : Nat) :
    let started := source.takeNext options (source.db.listCreatedBatchInferenceJobs limit) now
    Orderly started ∧ HandedOnce source started := by
  obtain ⟨listed, separate⟩ := @listed_waits source limit
  cases pending : source.db.listCreatedBatchInferenceJobs limit with
  | nil =>
    exact ⟨orderly, orderly.once, StatusesKept.refl source.db⟩
  | cons batch rest =>
    rw [pending] at listed separate
    obtain ⟨after, kept⟩ := @takeNext_orderly source options batch rest now orderly
        (fun other member => (listed other member).1) separate
        (listed batch mem_cons_self).2
    exact ⟨after, after.once, kept⟩

theorem hasStatus_congr {first second : Database} {batch : Batch} {holds : BatchStatus → Bool}
    (same :
      first.batches.lookup batch.batchId = second.batches.lookup batch.batchId) :
    first.HasStatus batch holds ↔ second.HasStatus batch holds := by
  rw [Database.HasStatus, Database.HasStatus, same]

variable {worker : Worker} {index : Nat} {answer : Option Execution}

theorem answer_takeNext (orderly : Orderly source) (waiting : source.workers[index]? = some worker)
    (live : source.db.HasStatus worker.awaited (fun status => !status.isTerminal))
    (next : ∀ batch ∈ worker.remaining.head?,
      source.db.HasStatus batch (fun status => status = .created)) :
    let after :=
      (source.finish worker index answer now).takeNext worker.options worker.remaining now
    Orderly after ∧ HandedOnce source after := by
  have present : worker ∈ source.workers := mem_of_getElem? waiting
  obtain ⟨middle, kept⟩ := @finish_orderly source worker index now answer orderly waiting live
  cases pending : worker.remaining with
  | nil =>
    exact ⟨middle, middle.once, kept⟩
  | cons batch rest =>
    have others {other : Batch} (listed : other ∈ batch :: rest) :=
      @finish_others source worker index now answer orderly waiting other
        (by rw [pending]; exact listed)
    have waits {other : Batch} (listed : other ∈ batch :: rest) :
        Waits (source.finish worker index answer now) other := by
      obtain ⟨row, found, known⟩ :=
        orderly.remaining worker present other (by rw [pending]; exact listed)
      exact ⟨row, (others listed).trans found, known⟩
    have separate := orderly.separate worker present
    rw [pending, map_cons, nodup_cons] at separate
    have created := next batch (by rw [pending, head?_cons]; exact rfl)
    obtain ⟨after, taken⟩ := @takeNext_orderly (source.finish worker index answer now)
        worker.options batch rest now middle
        (fun other listed => waits listed) separate.2
        ((hasStatus_congr (others mem_cons_self)).mpr created)
    exact ⟨after, after.once, kept.trans taken⟩

theorem unchanged_of_answer (orderly : Orderly source)
    (waiting : source.workers[index]? = some worker)
    (handedOnce : HandedOnce source
      ((source.finish worker index answer now).takeNext worker.options worker.remaining now)) :
    source.db.HasStatus worker.awaited (fun status => !status.isTerminal) ∧
      ∀ batch ∈ worker.remaining.head?,
        source.db.HasStatus batch (fun status => status = .created) := by
  obtain ⟨once, kept⟩ := handedOnce
  have present : worker ∈ source.workers := mem_of_getElem? waiting
  obtain ⟨_, row, found, owned, known⟩ := orderly.awaited worker present
  have separate := orderly.separate worker present
  constructor
  · intro other stored _
    rw [mem_def, found] at stored
    cases stored
    rcases known with running | cancelled
    · rw [running]
      rfl
    · exfalso
      obtain ⟨status, ended, marks⟩ :=
        @finishBatch_marks worker.awaited now worker.options answer source.db
      obtain ⟨marked, markedStored, _, finished⟩ := marks.row row found owned
      obtain ⟨later, laterStored, laterStatus⟩ := kept _ row found (by rw [cancelled]; rfl)
      have untouched : ((source.finish worker index answer now).takeNext worker.options
          worker.remaining now).db.batches.lookup
          worker.awaited.batchId = some marked := by
        cases pending : worker.remaining with
        | nil => exact markedStored
        | cons batch rest =>
          rw [pending, map_cons, nodup_cons] at separate
          refine (takeNext_marks.others _ ?_).trans markedStored
          intro same
          rw [same] at separate
          exact separate.1 mem_cons_self
      rw [untouched] at laterStored
      injection laterStored with same
      rw [← same, finished, cancelled] at laterStatus
      rcases ended with completed | failed
      · rw [completed] at laterStatus
        cases laterStatus
      · rw [failed] at laterStatus
        cases laterStatus
  · cases pending : worker.remaining with
    | nil =>
      intro batch member
      cases member
    | cons batch rest =>
      intro head member
      cases member
      rw [pending] at once kept
      have others := @finish_others source worker index now answer orderly waiting
          batch (by rw [pending]; exact mem_cons_self)
      obtain ⟨other, otherFound, otherKnown⟩ :=
        orderly.remaining worker present batch (by rw [pending]; exact mem_cons_self)
      refine (hasStatus_congr others).mp
        (waiting_of_handedOnce ⟨other, others.trans otherFound, otherKnown⟩ once ?_)
      intro stored storedFound ended
      exact kept _ stored (others.symm.trans storedFound) ended

theorem cancel_orderly {batch row : Batch} {db : Database} (orderly : Orderly source)
    (found : source.db.batches.lookup batch.batchId = some row)
    (owned : row.renterId = batch.renterId)
    (marks : Marks source.db db batch .cancelled)
    (unended : row.status.isTerminal = true → row.status = .cancelled) :
    Orderly { source with db := db } ∧ StatusesKept source.db db := by
  obtain ⟨later, stored, sameRenter, cancelled⟩ := marks.row row found owned
  refine ⟨⟨orderly.once, ?_, ?_, ?_, orderly.distinct, orderly.separate⟩, ?_⟩
  · intro batchId member
    by_cases same : batchId = batch.batchId
    · rw [same]
      refine ⟨later, stored, ?_⟩
      rw [cancelled]
      decide
    · obtain ⟨other, otherFound, started⟩ := orderly.executed batchId member
      exact ⟨other, (marks.others _ same).trans otherFound, started⟩
  · intro worker member
    obtain ⟨handed, other, otherFound, otherOwned, known⟩ := orderly.awaited worker member
    by_cases same : worker.awaited.batchId = batch.batchId
    · rw [same, found] at otherFound
      injection otherFound with equal
      refine ⟨handed, later, by rw [same]; exact stored, ?_, Or.inr cancelled⟩
      rw [sameRenter, equal, otherOwned]
    · exact ⟨handed, other, (marks.others _ same).trans otherFound, otherOwned, known⟩
  · intro worker member listedBatch listed
    obtain ⟨other, otherFound, otherOwned, known⟩ :=
      orderly.remaining worker member listedBatch listed
    by_cases same : listedBatch.batchId = batch.batchId
    · rw [same, found] at otherFound
      injection otherFound with equal
      refine ⟨later, by rw [same]; exact stored, ?_, Or.inr (Or.inr cancelled)⟩
      rw [sameRenter, equal, otherOwned]
    · exact ⟨other, (marks.others _ same).trans otherFound, otherOwned, known⟩
  · intro batchId other otherFound ended
    by_cases same : batchId = batch.batchId
    · rw [same, found] at otherFound
      injection otherFound with equal
      rw [← equal] at ended
      refine ⟨later, by rw [same]; exact stored, ?_⟩
      rw [cancelled, ← equal, unended ended]
    · exact ⟨other, (marks.others _ same).trans otherFound, rfl⟩

theorem cancel_decides (orderly : Orderly source) (batch : Batch) :
    let db := source.db.setBatchStatus batch .cancelled BatchOutcome.empty now
    (Unchanged source (.cancel batch now) →
      Orderly { source with db := db } ∧ StatusesKept source.db db) ∧
      (StatusesKept source.db db → Unchanged source (.cancel batch now)) := by
  by_cases there :
    source.db.batches.changes batch.batchId (·.renterId = batch.renterId)
  · obtain ⟨row, found, owned⟩ := there
    have marks := setBatchStatus_marks source.db batch .cancelled BatchOutcome.empty now
    constructor
    · intro allowed
      refine cancel_orderly orderly found owned marks ?_
      intro ended
      have known : (!row.status.isTerminal || row.status = .cancelled) = true :=
        allowed row found owned
      rw [ended] at known
      exact of_decide_eq_true known
    · intro kept other stored _
      rw [mem_def, found] at stored
      cases stored
      apply (Bool.or_eq_true _ _).mpr
      cases ended : row.status.isTerminal with
      | false => exact Or.inl rfl
      | true =>
        obtain ⟨later, laterStored, status⟩ := kept _ row found ended
        obtain ⟨marked, markedStored, _, cancelled⟩ := marks.row row found owned
        rw [laterStored] at markedStored
        injection markedStored with equal
        rw [equal, cancelled] at status
        exact Or.inr (decide_eq_true status.symm)
  · have unchanged : source.db.setBatchStatus batch .cancelled BatchOutcome.empty now =
        source.db := by
      rw [Database.setBatchStatus, updateWhere_of_unmet _ there]
    constructor
    · intro _
      rw [unchanged]
      exact ⟨orderly, StatusesKept.refl source.db⟩
    · intro _ row found owned
      exact absurd ⟨row, found, owned⟩ there

variable {action : Action}

theorem unchanged_handedOnce (orderly : Orderly source) (allowed : Unchanged source action)
    (fires : Fires (next jsonParse) source action target) :
    Orderly target ∧ HandedOnce source target := by
  cases action with
  | start options limit now =>
    cases fires
    exact start_handedOnce orderly options _
  | answer index answer now =>
    simp only [Fires, next] at fires
    split at fires
    · cases fires
    · rename_i worker waiting
      cases fires
      obtain ⟨live, waits⟩ := allowed worker waiting
      exact answer_takeNext orderly waiting live waits
  | cancel batch now =>
    injection fires with same
    obtain ⟨after, kept⟩ := (cancel_decides orderly batch).1 allowed
    rw [← same]
    exact ⟨after, after.once, kept⟩
  | create request now =>
    injection fires with same
    have rows := fun batchId batch found =>
        @createBatchInferenceJob_kept jsonParse request now source.db batchId batch found
    rw [← same]
    exact ⟨orderly.of_rows rows, orderly.once, StatusesKept.of_rows rows⟩
  | funds renters providers credits =>
    cases fires
    exact ⟨orderly.of_rows (fun _ _ found => found), orderly.once, StatusesKept.refl source.db⟩

theorem handedOnce_iff_unchanged (orderly : Orderly source)
    (fires : Fires (next jsonParse) source action target) :
    HandedOnce source target ↔ Unchanged source action := by
  constructor
  · intro handedOnce
    cases action with
    | answer index answer now =>
      intro worker waiting
      simp only [Fires, next] at fires
      rw [mem_def.mp waiting] at fires
      cases fires
      exact unchanged_of_answer orderly waiting handedOnce
    | cancel batch now =>
      cases fires
      exact (cancel_decides orderly batch).2 handedOnce.2
    | start | create | funds => exact trivial
  · intro allowed
    exact (unchanged_handedOnce orderly allowed fires).2

end Steps

theorem orderly_of_idle {start : System} (idle : start.workers = [])
    (fresh : start.executed = []) : Orderly start := by
  refine ⟨?_, ?_, ?_, ?_, ?_, ?_⟩
  · rw [fresh]
    exact nodup_nil
  · rw [fresh]
    intro batchId member
    cases member
  · rw [idle]
    intro worker member
    cases member
  · rw [idle]
    intro worker member
    cases member
  · rw [idle]
    exact nodup_nil
  · rw [idle]
    intro worker member
    cases member

/-- Where no run waits and nothing has been handed out, the runs that hand
every batch out once and keep the batches that have ended are those whose
steps find their batches as they have left them. -/
theorem batches_handed_once_iff_unchanged {jsonParse : String → Option Json} {start finish : System}
    {actions : List Action} (idle : start.workers = [])
    (fresh : start.executed = []) :
    (Run (keeping (Fires (next jsonParse)) HandedOnce) start actions finish ↔
      Run (guarded (Fires (next jsonParse)) Unchanged) start actions finish) ∧
      (Run (guarded (Fires (next jsonParse)) Unchanged) start actions finish →
        finish.executed.Nodup ∧ StatusesKept start.db finish.db) := by
  have orderly := orderly_of_idle idle fresh
  constructor
  · exact Run.keeping_iff_guarded Orderly HandedOnce Unchanged (fun inv taken kept =>
      (unchanged_handedOnce inv ((handedOnce_iff_unchanged inv taken).mp kept) taken).1)
      handedOnce_iff_unchanged orderly
  · intro run
    have ends :=
      run.invariant Orderly (fun inv taken => (unchanged_handedOnce inv taken.1 taken.2).1) orderly
    have kept := run.relates Orderly (fun first second => StatusesKept first.db second.db)
        (StatusesKept.refl ·.db)
        (fun first second => first.trans second)
        (fun inv taken => (unchanged_handedOnce inv taken.1 taken.2).1)
        (fun inv taken =>
          (unchanged_handedOnce inv taken.1 taken.2).2.2) orderly
    exact ⟨ends.once, kept⟩

def sampleBatch (id : Nat) (batchId : BatchId) : Batch :=
  { id := id
    batchId := batchId
    renterId := 1
    requestCount := 1
    idempotencyKey := none
    status := .created
    resultStorageKey := none
    resultChecksumSha256 := none
    resultNormalizedBytes := 0
    completedCount := 0
    failedCount := 0
    totalCostHalala := 0
    createdAt := id
    updatedAt := id
    startedAt := none
    completedAt := none }

def firstId : BatchId := ⟨"batch_sample1", by decide⟩

def secondId : BatchId := ⟨"batch_sample2", by decide⟩

def sampleBilling : Billing.Database :=
  { renters := fun _ => none
    providers := fun _ => none
    credits := Table.empty
    billingAttempts := Table.empty
    usageEvents := Table.empty
    jobs := Table.empty }

def sampleSystem : System :=
  { db :=
    { batches :=
      (Table.empty.insertIfNew (sampleBatch 1 firstId)).insertIfNew (sampleBatch 2 secondId)
      lines := Table.empty
      billing := sampleBilling }
    workers := []
    executed := [] }

def sampleOptions : Options :=
  { settlementEnabled := false
    providerId := none }

def sampleExecution : Execution :=
  { resultStorageKey := .missing
    resultChecksumSha256 := .text (String.ofList (List.replicate 64 '7'))
    resultNormalizedBytes := .number 1024
    completedCount := .missing
    failedCount := .missing
    totalCostHalala := .missing
    lines := .missing }

def Database.statusOf (db : Database) (batchId : BatchId) :
    Option BatchStatus :=
  (db.batches.lookup batchId).map Batch.status

def readNothing : String → Option Json :=
  fun _ => none

theorem batches_handed_once_iff_unchanged_sample :
    ∃ finish, execute (next readNothing) sampleSystem [.start sampleOptions none 10,
            .answer 0 (some sampleExecution) 20, .answer 0 none 30,
            .start sampleOptions none 40] = some finish ∧
        finish.executed.Nodup ∧
        StatusesKept sampleSystem.db finish.db ∧
        finish.db.statusOf firstId = some .completed ∧
        finish.db.statusOf secondId = some .failed := by
  refine exists_executed_guarded Unchanged (fun finish =>
    (finish.db.statusOf firstId = some .completed ∧ finish.db.statusOf secondId = some .failed))
    (by decide +kernel) ?_
  intro finish allowed statuses
  obtain ⟨once, kept⟩ :=
    (@batches_handed_once_iff_unchanged readNothing sampleSystem finish _ rfl rfl).2 allowed
  exact ⟨once, kept, statuses⟩

/-- Two runs that overlap hand the second batch out twice, and a batch that is
cancelled while the executor works on it ends as failed. -/
theorem batch_handed_twice :
    (∃ finish, execute (next readNothing) sampleSystem
      [.start sampleOptions none 10, .start sampleOptions none 20,
        .answer 0 none 30] = some finish ∧
        ¬ finish.executed.Nodup) ∧
      ∃ middle finish, execute (next readNothing) sampleSystem
        [.start sampleOptions none 10, .cancel (sampleBatch 1 firstId) 20] = some middle ∧
          Fires (next readNothing) middle (.answer 0 none 30) finish ∧
          middle.db.statusOf firstId = some .cancelled ∧
          finish.db.statusOf firstId = some .failed := by
  refine ⟨exists_of_execute_any (by decide +kernel), ?_⟩
  obtain ⟨middle, executed, cancelled, answered⟩ : ∃ middle, execute (next readNothing) sampleSystem
      [.start sampleOptions none 10, .cancel (sampleBatch 1 firstId) 20] = some middle ∧
        (middle.db.statusOf firstId = some .cancelled ∧
          (execute (next readNothing) middle [.answer 0 none 30]).any (·.db.statusOf firstId = some .failed) = true) :=
    exists_of_execute_any (by decide +kernel)
  obtain ⟨finish, fired, failed⟩ := exists_of_execute_any answered
  have run := run_of_execute fired
  cases run with
  | cons taken rest =>
    cases rest
    exact ⟨middle, finish, executed, taken, cancelled, failed⟩

end DcpPlatform.Batches
