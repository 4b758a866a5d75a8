import DcpPlatform.Jobs.Deciding

/-!
# Runs of reports

A run keeps a submitted job settled once and within its debit exactly when
its reports meet `SettlesRight`. Reports about other jobs are part of the
run; they leave the job alone.
-/

namespace DcpPlatform.Jobs

open Foundation Table Option

section Written

variable {db after : Database}

theorem Written.refl (db : Database) (jobId : Nat) :
    Written db db jobId := by
  refine ⟨id, db.billingRecords.lookup jobId, Booking.nothing jobId, ?_⟩
  refine ⟨rfl, ?_, ?_, ?_, Accounted.refl db⟩
  · intro other
    rw [map_id, id, ite_self]
  · intro other
    by_cases same : other = jobId
    · rw [if_pos same, same]
    · rw [if_neg same]
  · rw [Booking.entries_of_nothing (Booking.nothing_isNothing jobId), List.append_nil]

theorem refundFailed_written {ended : Database} {job : Job}
    {change : Job → Job} {record : Option BillingRecord}
    (writes : Writes db ended job.jobId change record (Booking.nothing job.jobId))
    (now : Int) : Written db (refundFailed now ended job) job.jobId := by
  by_cases refundable : Refundable job
  · exact (writes.refund now refundable).written
  · rw [refundFailed, if_neg refundable]
    exact writes.written

theorem settleResult_written (db : Database) (job : Job)
    (report : ResultReport) (gpuSeconds : ℚ) (now : Int) :
    Written db (settleResult db job report gpuSeconds now) job.jobId := by
  obtain ⟨priced, writes, settled⟩ := settleResult_writes db job now report gpuSeconds
  rw [settled]
  split
  · exact ((writes.book _ rfl).addJob job.providerId).written
  · exact refundFailed_written writes now

theorem settleJobResult_written (db : Database) (job : Job)
    (provider : Provider) (report : JobResultReport) (now : Int) :
    Written db (settleJobResult db job provider report now) job.jobId := by
  obtain ⟨released, writes, settled⟩ := settleJobResult_writes db job now provider report
  rw [settled]
  split
  · exact writes.written
  · split
    · exact (((writes.book _ rfl).addJob _).updateRenter job.renterId
        (Renter.addSpending_id _) (fun _ => rfl)).written
    · exact refundFailed_written writes now

variable {now : Int}

theorem postResult_written {report : ResultReport} (posted : postResult db report now = .ok after) :
    Written db after report.jobId := by
  cases found : db.jobs.lookup report.jobId with
  | none =>
    simp only [postResult, found] at posted
    cases posted
  | some job =>
    have key := lookup_key found
    by_cases accepts : AcceptsResult job report
    · obtain ⟨gpuSeconds, _, settled⟩ := @postResult_of_accepts db job report now found accepts
      rw [posted] at settled
      injection settled with same
      rw [same, ← key]
      exact settleResult_written db job report gpuSeconds now
    · obtain ⟨_, same⟩ := postResult_of_not_accepts found accepts posted
      rw [same, ← key]
      exact (Writes.of_update db job.jobId (Job.setTransient_jobId now)).written

theorem postComplete_cases {jobId : Nat} {reporter : Reporter} {now : Int}
    {job : Job} (found : db.jobs.lookup jobId = some job) :
    if job.status = .running ∧ CanComplete job reporter then
      postComplete db jobId reporter now = .ok (settleComplete db job now)
    else
      ∃ error, postComplete db jobId reporter now = .error error := by
  simp only [postComplete, found]
  by_cases running : job.status = .running
  · rw [if_neg (not_not.mpr running)]
    by_cases allowed : CanComplete job reporter
    · rw [if_neg (not_not.mpr allowed), if_pos ⟨running, allowed⟩]
    · rw [if_pos allowed, if_neg (allowed ·.2)]
      exact ⟨_, rfl⟩
  · rw [if_pos running, if_neg (running ·.1)]
    exact ⟨_, rfl⟩

theorem postComplete_written {jobId : Nat} {reporter : Reporter}
    (posted : postComplete db jobId reporter now = .ok after) :
    Written db after jobId := by
  cases found : db.jobs.lookup jobId with
  | none =>
    simp only [postComplete, found] at posted
    cases posted
  | some job =>
    have key := lookup_key found
    have outcome := @postComplete_cases db jobId reporter now job found
    split at outcome
    · rw [posted] at outcome
      injection outcome with same
      rw [same, ← key]
      exact (settleComplete_writes db job now).written
    · obtain ⟨error, refused⟩ := outcome
      rw [posted] at refused
      cases refused

theorem postJobResult_cases {report : JobResultReport} {now : Int}
    {job : Job} (found : db.jobs.lookup report.jobId = some job) :
    (∃ provider, db.providers.lookup report.providerId = some provider ∧
      job.providerId = some provider.id ∧ job.status = .running ∧
      postJobResult db report now = .ok (settleJobResult db job provider report now)) ∨
      (∀ provider, db.providers.lookup report.providerId = some provider →
        job.providerId = some provider.id → job.status ≠ .running) ∧
        (postJobResult db report now = .ok db ∨
          ∃ error, postJobResult db report now = .error error) := by
  cases stored : db.providers.lookup report.providerId with
  | none =>
    right
    refine ⟨?_, Or.inr ?_⟩
    · intro provider missing
      cases missing
    · simp only [postJobResult, stored]
      exact ⟨_, rfl⟩
  | some provider =>
    by_cases assigned : job.providerId = some provider.id
    · by_cases running : job.status = .running
      · left
        refine ⟨provider, rfl, assigned, running, ?_⟩
        simp only [postJobResult, stored, found]
        rw [if_neg (not_not.mpr assigned), if_neg (not_not.mpr running)]
      · right
        refine ⟨fun _ _ _ => running, Or.inl ?_⟩
        simp only [postJobResult, stored, found]
        rw [if_neg (not_not.mpr assigned), if_pos running]
    · right
      refine ⟨?_, Or.inr ?_⟩
      · intro other same taken
        cases same
        exact absurd taken assigned
      · simp only [postJobResult, stored, found]
        rw [if_pos assigned]
        exact ⟨_, rfl⟩

theorem postJobResult_written {report : JobResultReport}
    (posted : postJobResult db report now = .ok after) :
    Written db after report.jobId := by
  cases found : db.jobs.lookup report.jobId with
  | none =>
    simp only [postJobResult, found] at posted
    split at posted <;> cases posted
  | some job =>
    have key := lookup_key found
    rcases @postJobResult_cases db report now job found with
      ⟨provider, _, _, _, settled⟩ | ⟨_, kept | ⟨error, refused⟩⟩
    · rw [posted] at settled
      injection settled with same
      rw [same, ← key]
      exact settleJobResult_written db job provider report now
    · rw [posted] at kept
      injection kept with same
      rw [same]
      exact Written.refl db report.jobId
    · rw [posted] at refused
      cases refused

theorem CompleteCall.settle_of_fresh (call : CompleteCall) (signed : Bool)
    (now : Int) (fresh : db.billingRecords.lookup call.job.jobId = none) :
    ∃ after, call.settle db signed now = .ok after := by
  simp only [CompleteCall.settle, dif_pos fresh]
  split <;> exact ⟨_, rfl⟩

theorem settle_written {call : CompleteCall} {signed : Bool}
    (settled : call.settle db signed now = .ok after) :
    Written db after call.job.jobId :=
  (CompleteCall.settle_writes settled).2.written

end Written

/-! ## Runs -/

section Reports

variable {source target : System} {row : Job} {now : Int}
    {waiting : List CompleteCall} {condition : Prop}

variable (found : source.db.jobs.lookup row.jobId = some row)

include found

theorem Decides.of_answer {outcome : Except ReportError Database} {written : Nat}

    (followed : Followed source row)
    (writes : ∀ db, outcome = .ok db → Written source.db db written)
    (different : row.jobId ≠ written)
    (fewer : waiting ⊆ source.calls) (met : condition) :
    Decides row.jobId source (System.answer ⟨source.db, waiting⟩ outcome) condition := by
  cases answered : outcome with
  | ok db =>
    exact Decides.of_written found followed (writes db answered) different fewer met
  | error _ =>
    exact Decides.of_same found found followed (SameMoney.refl row.jobId source.db)
      (fun call member _ => Or.inl (fewer member)) met

theorem Decides.of_refused {error : ReportError}

    (followed : Followed source row) (fewer : waiting ⊆ source.calls)
    (met : condition) :
    Decides row.jobId source (System.answer ⟨source.db, waiting⟩ (.error error)) condition :=
  Decides.of_same found found followed (SameMoney.refl row.jobId source.db)
    (fun _ member _ => Or.inl (fewer member)) met

theorem retry_decides (followed : Followed source row)
    (live : row.status.isTerminal = false) (met : condition) :
    Decides row.jobId source { source with
      db :=
        { source.db with
          jobs := source.db.jobs.update row.jobId (Job.setTransient now)
            (Job.setTransient_jobId now) } }
      condition := by
  have writes := Writes.of_update source.db row.jobId (Job.setTransient_jobId now)
  have same := SameMoney.of_unmoved writes
  apply Decides.of_row (writes.row found)
  · intro _ _
    have unsettled := same.unsettled (followed.unsettled live)
    exact
      { renter := followed.renter
        prepaid := followed.prepaid
        calls := followed.calls
        phase := Or.inl { unsettled with live := rfl } }
  · intro before
    have sound := same.settledOnce (before row found)
    refine iff_of_true ?_ met
    exact { sound with onRow := fun completed => by cases completed }

theorem result_decides {report : ResultReport} (followed : Followed source row) :
    Decides row.jobId source (source.answer (postResult source.db report now))
      (SettlesRight row.jobId source (.result report now)) := by
  simp only [SettlesRight, found, mem_def, some.injEq, forall_eq']
  by_cases about : report.jobId = row.jobId
  · have reported : source.db.jobs.lookup report.jobId = some row := by
      rw [about]
      exact found
    by_cases accepts : AcceptsResult row report
    · obtain ⟨gpuSeconds, seconds, posted⟩ :=
        @postResult_of_accepts source.db row report now reported accepts
      rw [posted]
      exact (settleResult_decides found followed (live_of_active accepts.active) seconds).congr
        ⟨fun right _ _ => right, fun right => right about accepts⟩
    · have met : report.jobId = row.jobId → AcceptsResult row report →
          ResultSettlesRight source.db row report :=
        fun _ accepted => absurd accepted accepts
      cases posted : postResult source.db report now with
      | error _ =>
        exact Decides.of_refused found followed (List.Subset.refl _) met
      | ok after =>
        obtain ⟨live, same⟩ := postResult_of_not_accepts reported accepts posted
        rw [same]
        exact retry_decides found followed live met
  · refine Decides.of_answer found followed
      (fun _ posted => postResult_written posted) (Ne.symm about)
      (List.Subset.refl _) ?_
    intro same
    exact absurd same about

theorem complete_decides {completed : Nat} {reporter : Reporter}

    (followed : Followed source row) :
    Decides row.jobId source (source.answer (postComplete source.db completed reporter now))
      (SettlesRight row.jobId source (.complete completed reporter now)) := by
  simp only [SettlesRight, found, mem_def, some.injEq, forall_eq']
  by_cases about : completed = row.jobId
  · subst about
    have outcome := @postComplete_cases source.db row.jobId reporter now row found
    split at outcome
    · rename_i accepted
      rw [outcome]
      have live : row.status.isTerminal = false := by
        rw [accepted.1]
        rfl
      exact (settleComplete_decides found followed live).congr
        ⟨fun right _ _ _ => right, fun right => right rfl accepted.1 accepted.2⟩
    · rename_i refused
      obtain ⟨error, posted⟩ := outcome
      rw [posted]
      refine Decides.of_refused found followed (List.Subset.refl _) ?_
      intro _ running allowed
      exact absurd ⟨running, allowed⟩ refused
  · refine Decides.of_answer found followed
      (fun _ posted => postComplete_written posted) (Ne.symm about)
      (List.Subset.refl _) ?_
    intro same
    exact absurd same about

theorem jobResult_decides {report : JobResultReport}

    (followed : Followed source row) :
    Decides row.jobId source (source.answer (postJobResult source.db report now))
      (SettlesRight row.jobId source (.jobResult report now)) := by
  simp only [SettlesRight, found, mem_def, some.injEq, forall_eq']
  by_cases about : report.jobId = row.jobId
  · have reported : source.db.jobs.lookup report.jobId = some row := by
      rw [about]
      exact found
    rcases @postJobResult_cases source.db report now row reported with
      ⟨provider, stored, assigned, running, posted⟩ | ⟨idle, posted⟩
    · rw [posted]
      have live : row.status.isTerminal = false := by
        rw [running]
        rfl
      refine (settleJobResult_decides found followed live).congr ?_
      constructor
      · intro right _ other same _ _
        rw [stored] at same
        cases same
        exact right
      · intro right
        exact right about provider stored assigned running
    · have met : report.jobId = row.jobId → ∀ provider,
          source.db.providers.lookup report.providerId = some provider →
            row.providerId = some provider.id → row.status = .running →
            JobResultSettlesRight source.db row provider report
              now := by
        intro _ provider stored assigned running
        exact absurd running (idle provider stored assigned)
      rcases posted with kept | ⟨error, refused⟩
      · rw [kept]
        exact Decides.of_same found found followed (SameMoney.refl row.jobId source.db)
          (fun call member _ => Or.inl member) met
      · rw [refused]
        exact Decides.of_refused found followed (List.Subset.refl _) met
  · refine Decides.of_answer found followed
      (fun _ posted => postJobResult_written posted) (Ne.symm about)
      (List.Subset.refl _) ?_
    intro same
    exact absurd same about

theorem passed_decides {call : CompleteCall} {signed : Bool}

    (followed : Followed source row) (fewer : waiting ⊆ source.calls)
    (member : call ∈ source.calls) :
    Decides row.jobId source (System.answer ⟨source.db, waiting⟩ (call.settle source.db signed now))
      (call.job.jobId = row.jobId → source.db.billingRecords.lookup row.jobId = none →
        CallSettlesRight source.db row call) := by
  by_cases about : call.job.jobId = row.jobId
  · cases settled : call.settle source.db signed now with
    | error _ =>
      refine Decides.of_refused found followed fewer ?_
      intro _ fresh
      rw [← about] at fresh
      obtain ⟨after, passed⟩ := call.settle_of_fresh signed now fresh
      rw [settled] at passed
      cases passed
    | ok after =>
      obtain ⟨fresh, _⟩ := CompleteCall.settle_writes settled
      rw [about] at fresh
      exact (settleCall_decides found followed fewer member about
        settled).congr ⟨fun right _ _ => right, fun right => right about fresh⟩
  · refine Decides.of_answer found followed
      (fun _ settled => settle_written settled) (Ne.symm about) fewer ?_
    intro same
    exact absurd same about

theorem report_decides {report : Report} (followed : Followed source row)
    (fires : Fires reportNext source report target) :
    Decides row.jobId source target (SettlesRight row.jobId source report) := by
  cases report with
  | result report now =>
    cases fires
    exact result_decides found followed
  | complete completed reporter now =>
    cases fires
    exact complete_decides found followed
  | jobResult report now =>
    cases fires
    exact jobResult_decides found followed
  | readComplete request =>
    simp only [Fires, reportNext] at fires
    split at fires
    · rename_i call read
      cases fires
      exact readComplete_decides found followed read
    · cases fires
      exact Decides.of_same found found followed (SameMoney.refl row.jobId source.db)
        (fun _ member _ => Or.inl member) trivial
  | settleComplete index gate now =>
    simp only [Fires, reportNext] at fires
    cases read : source.calls[index]? with
    | none =>
      rw [read] at fires
      cases fires
    | some call =>
      rw [read] at fires
      have member := List.mem_of_getElem? read
      have fewer : source.calls.eraseIdx index ⊆ source.calls := List.eraseIdx_subset
      simp only [SettlesRight, found, read, mem_def, some.injEq, forall_eq']
      cases gate with
      | refused =>
        cases fires
        refine Decides.of_same found found followed (SameMoney.refl row.jobId source.db)
          (fun _ member _ => Or.inl (fewer member)) ?_
        intro _ passed
        exact absurd rfl passed
      | passed signed =>
        cases fires
        refine (passed_decides found followed fewer member).congr ?_
        constructor
        · intro right about _ fresh
          exact right about fresh
        · intro right about fresh
          exact right about (fun refused => by cases refused) fresh

end Reports

theorem accounted_of_answer {source : System} {outcome : Except ReportError Database} {jobId : Nat}
    (writes : ∀ db, outcome = .ok db → Written source.db db jobId) :
    Accounted source.db (source.answer outcome).db := by
  cases answered : outcome with
  | error _ => exact Accounted.refl source.db
  | ok db =>
    obtain ⟨_, _, _, writes⟩ := writes db answered
    exact writes.accounted

theorem report_accounted {source target : System} {report : Report}
    (fires : Fires reportNext source report target) :
    Accounted source.db target.db := by
  cases report with
  | result report now =>
    cases fires
    exact accounted_of_answer (fun _ posted => postResult_written posted)
  | complete completed reporter now =>
    cases fires
    exact accounted_of_answer (fun _ posted => postComplete_written posted)
  | jobResult report now =>
    cases fires
    exact accounted_of_answer (fun _ posted => postJobResult_written posted)
  | readComplete request =>
    simp only [Fires, reportNext] at fires
    split at fires
    · cases fires
      exact Accounted.refl source.db
    · cases fires
      exact Accounted.refl source.db
  | settleComplete index gate now =>
    simp only [Fires, reportNext] at fires
    split at fires
    · cases fires
    · rename_i call read
      split at fires
      · cases fires
        exact Accounted.refl source.db
      · cases fires
        refine @accounted_of_answer ⟨source.db, source.calls.eraseIdx index⟩ _ call.job.jobId ?_
        intro after settled
        exact settle_written settled

/-- A job that a renter has been debited for, before any report. -/
structure Submitted (system : System) (row : Job) : Prop where
  found : system.db.jobs.lookup row.jobId = some row
  live : row.status.isTerminal = false
  renter : row.renterId.isSome
  debited : 0 ≤ row.costHalala
  uncosted : row.actualCostHalala = none
  unrefunded : row.refundedAt = none
  unbooked : Unbooked system.db row
  unbilled : system.db.billingRecords.lookup row.jobId = none
  unread : ∀ call ∈ system.calls, call.job.jobId ≠ row.jobId

namespace Submitted

variable {system : System} {row : Job}

theorem returnedFor (submitted : Submitted system row) :
    system.db.returnedFor row.jobId = 0 := by
  have empty : system.db.bookingsFor row.jobId = [] := submitted.unbooked
  rw [Database.returnedFor, empty]
  rfl

theorem followed (submitted : Submitted system row) :
    Followed system row where
  renter := submitted.renter
  prepaid := submitted.debited
  calls := by
    intro call member about
    exact absurd about (submitted.unread call member)
  phase := by
    left
    refine
      { live := submitted.live
        uncosted := submitted.uncosted
        unrefunded := submitted.unrefunded
        unreturned := submitted.returnedFor
        booked := fun booked => absurd submitted.unbooked booked
        billed := ?_ }
    rw [submitted.unbilled]
    intro record isRecord
    cases isRecord

theorem settledOnce (submitted : Submitted system row) :
    JobSettledOnce row.jobId system := by
  intro other stored
  rw [submitted.found] at stored
  cases stored
  have empty : system.db.bookingsFor row.jobId = [] := submitted.unbooked
  refine ⟨?_, ?_, ?_, ?_, ?_⟩
  · rw [empty]
    exact Nat.zero_le 1
  · intro column
    rw [submitted.unbooked.earnedFor, submitted.unbooked.feesFor,
      Database.debitedFor, submitted.returnedFor]
    have debited := submitted.debited
    omega
  · intro completed
    have live := submitted.live
    rw [completed] at live
    cases live
  · rw [submitted.unbilled]
    intro record isRecord
    cases isRecord
  · rw [Database.actualCostFor, submitted.uncosted, submitted.unbilled]
    intro actual isActual
    cases isActual

end Submitted

def sampleJob : Job :=
  { jobId := 5
    jobType := .customContainer
    status := .running
    billed := false
    attestationStatus := none
    providerId := some 1
    renterId := some 2
    model := none
    gpuModel := none
    pricingClass := none
    priority := none
    notes := none
    costHalala := 1000
    durationMinutes := 100
    maxDurationSeconds := 6000
    submittedAt := some 0
    createdAt := some 0
    startedAt := some 0
    completedAt := none
    refundedAt := none
    assignedAt := some 0
    pickedUpAt := some 0
    timeoutAt := some 6000000
    retryCount := 0
    maxRetries := 2
    actualDurationMinutes := none
    durationSeconds := none
    gpuSecondsUsed := none
    storageGbSeconds := none
    bandwidthBytesOut := none
    bandwidthBytesIn := none
    progressPhase := none
    progressUpdatedAt := none
    jupyterHostPort := none
    accessUrl := none
    endpointUrl := none
    computeHalala := none
    storageHalala := none
    bandwidthHalala := none
    actualCostHalala := none
    providerEarnedHalala := none
    dc1FeeHalala := none }

def sampleProvider : Provider :=
  { id := 1
    costPerGpuSecondHalala := some 1
    gpuCount := some 1
    totalEarnings := 0
    totalEarningsHalala := 0
    claimableEarningsHalala := 0
    totalJobs := 0
    currentJobId := some 5 }

def sampleRenter : Renter :=
  { id := 2, balanceHalala := 0, totalSpentHalala := 0, totalJobs := 0 }

def sampleSystem : System :=
  { db :=
    { jobs := Table.empty.insertIfNew sampleJob
      providers := Table.empty.insertIfNew sampleProvider
      renters := Table.empty.insertIfNew sampleRenter
      billingRecords := Table.empty
      tokenRates := Table.empty
      ledger := [] }
    calls := [] }

def sampleJobResult : JobResultReport :=
  { jobId := 5
    providerId := 1
    success := true
    metricsGpuCount := .missing
    gpuSecondsUsed := .number 100000 }

def sampleResult : ResultReport :=
  { jobId := 5
    reporter := .provider 1
    hasResult := true
    hasError := false
    transient := false
    durationSeconds := .number 600
    gpuSeconds := .number 100000
    storageGbSeconds := .missing
    bandwidthBytesOut := .missing
    bandwidthBytesIn := .missing }

def sampleRequest : CompleteRequest :=
  { jobId := 5
    providerId := 1
    tokenCount := .number 1000
    durationMs := .missing
    modelId := none }

def System.money (system : System) : List Int × List Int :=
  (system.db.providers.rows.map Provider.claimableEarningsHalala,
    system.db.renters.rows.map Renter.balanceHalala)

end DcpPlatform.Jobs
