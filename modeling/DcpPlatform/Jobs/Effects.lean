import DcpPlatform.Jobs.Reports

/-!
# What a report does

A report rewrites one job row, moves the money of at most one booking and may
insert the billing record of the job: `Writes` states this once for every
endpoint. `Accounted` ties the ledger to the earnings and the balances.
-/

namespace DcpPlatform.Jobs

open Foundation Table List

/-! ## Entries of the ledger -/

namespace Booking

def entries (booking : Booking) : List Booking :=
  if booking.IsNothing then [] else [booking]

variable {booking : Booking}

theorem entries_of_nothing (nothing : booking.IsNothing) : booking.entries = [] := if_pos nothing

theorem entries_of_something (something : ¬ booking.IsNothing) : booking.entries = [booking] :=
  if_neg something

def nothing (jobId : Nat) : Booking :=
  { jobId := jobId
    providerId := none
    renterId := none
    earned := fun _ => 0
    fee := 0
    returned := 0 }

theorem nothing_isNothing (jobId : Nat) : (nothing jobId).IsNothing :=
  ⟨⟨rfl, rfl, rfl⟩, rfl, rfl⟩

theorem sum_entries (measure : Booking → Int) (vanishes : booking.IsNothing → measure booking = 0) :
    (booking.entries.map measure).sum = measure booking := by
  by_cases nothing : booking.IsNothing
  · rw [entries_of_nothing nothing, vanishes nothing]
    rfl
  · rw [entries_of_something nothing]
    exact sum_singleton

theorem toProvider_of_nothing (nothing : booking.IsNothing) (providerId : Nat) (column : Column) :
    booking.toProvider providerId column = 0 := by
  simp [toProvider, nothing.earned]

theorem toRenter_of_nothing (nothing : booking.IsNothing) (renterId : Nat) :
    booking.toRenter renterId = 0 := by
  simp [toRenter, nothing.2.2]

end Booking

namespace Database

section Update

variable (db : Database) (account : Option Nat)

section Provider

variable (change : Provider → Provider) (keeps : ∀ provider, (change provider).id = provider.id)

@[simp]
theorem updateProvider_jobs :
    (db.updateProvider account change keeps).jobs = db.jobs := by
  cases account with
  | none | some _ => rfl

@[simp]
theorem updateProvider_renters :
    (db.updateProvider account change keeps).renters = db.renters := by
  cases account with
  | none | some _ => rfl

@[simp]
theorem updateProvider_billingRecords :
    (db.updateProvider account change keeps).billingRecords =
      db.billingRecords := by
  cases account with
  | none | some _ => rfl

@[simp]
theorem updateProvider_ledger :
    (db.updateProvider account change keeps).ledger = db.ledger := by
  cases account with
  | none | some _ => rfl

theorem updateProvider_lookup (providerId : Nat) :
    (db.updateProvider account change keeps).providers.lookup providerId =
      if account = some providerId then
        (db.providers.lookup providerId).map change
      else
        db.providers.lookup providerId := by
  cases account with
  | none => rfl
  | some updated =>
    simp [updateProvider, lookup_update, eq_comm]

end Provider

section Renter

variable (change : Renter → Renter) (keeps : ∀ renter, (change renter).id = renter.id)

@[simp]
theorem updateRenter_jobs :
    (db.updateRenter account change keeps).jobs = db.jobs := by
  cases account with
  | none | some _ => rfl

@[simp]
theorem updateRenter_providers :
    (db.updateRenter account change keeps).providers = db.providers := by
  cases account with
  | none | some _ => rfl

@[simp]
theorem updateRenter_billingRecords :
    (db.updateRenter account change keeps).billingRecords =
      db.billingRecords := by
  cases account with
  | none | some _ => rfl

@[simp]
theorem updateRenter_ledger :
    (db.updateRenter account change keeps).ledger = db.ledger := by
  cases account with
  | none | some _ => rfl

theorem updateRenter_lookup (renterId : Nat) :
    (db.updateRenter account change keeps).renters.lookup renterId =
      if account = some renterId then
        (db.renters.lookup renterId).map change
      else
        db.renters.lookup renterId := by
  cases account with
  | none => rfl
  | some updated =>
    simp [updateRenter, lookup_update, eq_comm]

end Renter

end Update

section Record

variable (db : Database) (booking : Booking)

theorem record_eq :
    db.record booking = { db with ledger := db.ledger ++ booking.entries } := by
  by_cases nothing : booking.IsNothing
  · rw [record, if_pos nothing, Booking.entries_of_nothing nothing, append_nil]
  · rw [record, if_neg nothing, Booking.entries_of_something nothing]

@[simp]
theorem book_jobs : (db.book booking).jobs = db.jobs := by
  simp [book, record_eq]

@[simp]
theorem book_billingRecords :
    (db.book booking).billingRecords = db.billingRecords := by
  simp [book, record_eq]

@[simp]
theorem book_ledger :
    (db.book booking).ledger = db.ledger ++ booking.entries := by
  simp [book, record_eq]

theorem book_renters (renterId : Nat) :
    (db.book booking).renters.lookup renterId =
      if booking.renterId = some renterId then
        (db.renters.lookup renterId).map (Renter.addBalance booking.returned)
      else
        db.renters.lookup renterId := by
  rw [book, record_eq, updateRenter_lookup, updateProvider_renters]

end Record

end Database

def Adds (jobId : Nat) (before after : Database) (booking : Booking) :
    Prop :=
  after.bookingsFor jobId = before.bookingsFor jobId ++ booking.entries

namespace Adds

variable {jobId : Nat} {before after : Database} {booking : Booking}

theorem of_ledger (owned : booking.jobId = jobId)
    (ledger : after.ledger = before.ledger ++ booking.entries) :
    Adds jobId before after booking := by
  have all : booking.entries.filter (·.jobId = jobId) =
      booking.entries := by
    apply filter_eq_self.mpr
    intro entry member
    unfold Booking.entries at member
    split at member
    · cases member
    · rw [mem_singleton.mp member, owned]
      exact decide_eq_true rfl
  rw [Adds, Database.bookingsFor, ledger, filter_append, all]
  rfl

variable (adds : Adds jobId before after booking)

include adds

theorem sum (measure : Booking → Int) (vanishes : booking.IsNothing → measure booking = 0) :
    ((after.bookingsFor jobId).map measure).sum =
      ((before.bookingsFor jobId).map measure).sum + measure booking := by
  rw [adds, map_append, sum_append, Booking.sum_entries measure vanishes]

theorem earnedFor (column : Column) :
    after.earnedFor jobId column = before.earnedFor jobId column + booking.earned column :=
  adds.sum (·.earned column) (·.earned column)

theorem feesFor :
    after.feesFor jobId = before.feesFor jobId + booking.fee :=
  adds.sum Booking.fee (·.2.1)

theorem returnedFor :
    after.returnedFor jobId = before.returnedFor jobId + booking.returned :=
  adds.sum Booking.returned (·.2.2)

end Adds

theorem bookingsFor_of_other {jobId : Nat} {before after : Database}
    {booking : Booking} (other : booking.jobId ≠ jobId)
    (ledger : after.ledger = before.ledger ++ booking.entries) :
    after.bookingsFor jobId = before.bookingsFor jobId := by
  have absent : booking.entries.filter (·.jobId = jobId) = [] := by
    apply filter_eq_nil_iff.mpr
    intro entry member
    unfold Booking.entries at member
    split at member
    · cases member
    · rw [mem_singleton.mp member]
      simpa using other
  rw [Database.bookingsFor, ledger, filter_append, absent, append_nil]
  rfl

def Provider.inColumn (provider : Provider) : Column → ℚ
  | .claimable => provider.claimableEarningsHalala
  | .totalEarnings => provider.totalEarnings * 100
  | .totalEarningsHalala => provider.totalEarningsHalala

theorem Provider.addEarnings_inColumn (earned : Column → Int)
    (provider : Provider) (column : Column) :
    (provider.addEarnings earned).inColumn column = provider.inColumn column + earned column := by
  cases column with
  | claimable | totalEarningsHalala => exact Int.cast_add _ _
  | totalEarnings =>
    simp only [inColumn, addEarnings]
    ring

namespace Database

def providerNet (db : Database) (providerId : Nat) (column : Column) :
    Int :=
  (db.ledger.map (Booking.toProvider providerId column)).sum

def renterNet (db : Database) (renterId : Nat) : Int :=
  (db.ledger.map (Booking.toRenter renterId)).sum

variable {before after : Database} {booking : Booking}

theorem providerNet_of_ledger (providerId : Nat) (column : Column)
    (ledger : after.ledger = before.ledger ++ booking.entries) :
    after.providerNet providerId column =
      before.providerNet providerId column + booking.toProvider providerId column := by
  rw [providerNet, ledger, map_append, sum_append, Booking.sum_entries _ (booking.toProvider_of_nothing · providerId column)]
  rfl

theorem renterNet_of_ledger (renterId : Nat)
    (ledger : after.ledger = before.ledger ++ booking.entries) :
    after.renterNet renterId = before.renterNet renterId + booking.toRenter renterId := by
  rw [renterNet, ledger, map_append, sum_append, Booking.sum_entries _ (booking.toRenter_of_nothing · renterId)]
  rfl

end Database

/-- The columns and the balances move by what the ledger records. -/
structure Accounted (before after : Database) : Prop where
  providers : ∀ providerId provider, before.providers.lookup providerId = some provider → ∃ later,
    after.providers.lookup providerId = some later ∧ ∀ column,
      later.inColumn column - after.providerNet providerId column =
        provider.inColumn column - before.providerNet providerId column
  renters : ∀ renterId renter, before.renters.lookup renterId = some renter →
    ∃ later, after.renters.lookup renterId = some later ∧
      later.balanceHalala - after.renterNet renterId =
        renter.balanceHalala - before.renterNet renterId

namespace Accounted

variable (db : Database)

theorem refl : Accounted db db where
  providers := fun _ provider found => ⟨provider, found, fun _ => rfl⟩
  renters := fun _ renter found => ⟨renter, found, rfl⟩

theorem trans {first second third : Database} (earlier : Accounted first second)
    (later : Accounted second third) :
    Accounted first third where
  providers := by
    intro providerId provider found
    obtain ⟨middle, middleFound, middleNet⟩ := earlier.providers providerId provider found
    obtain ⟨last, lastFound, lastNet⟩ := later.providers providerId middle middleFound
    exact ⟨last, lastFound, fun column => (lastNet column).trans (middleNet column)⟩
  renters := by
    intro renterId renter found
    obtain ⟨middle, middleFound, middleNet⟩ := earlier.renters renterId renter found
    obtain ⟨last, lastFound, lastNet⟩ := later.renters renterId middle middleFound
    exact ⟨last, lastFound, lastNet.trans middleNet⟩

theorem of_rows (jobs : Table Job Job.jobId)
    (billingRecords : Table BillingRecord BillingRecord.jobId) :
    Accounted db { db with jobs := jobs, billingRecords := billingRecords } where
  providers := fun _ provider found => ⟨provider, found, fun _ => rfl⟩
  renters := fun _ renter found => ⟨renter, found, rfl⟩

theorem of_jobs (jobs : Table Job Job.jobId) :
    Accounted db { db with jobs := jobs } :=
  of_rows db jobs db.billingRecords

theorem updateProvider (account : Option Nat) {change : Provider → Provider}
    (keeps : ∀ provider, (change provider).id = provider.id)
    (same : ∀ provider column, (change provider).inColumn column = provider.inColumn column) :
    Accounted db (db.updateProvider account change keeps) where
  providers := by
    intro providerId provider found
    rw [Database.updateProvider_lookup, found]
    simp only [Database.providerNet, Database.updateProvider_ledger]
    split
    · exact ⟨change provider, rfl, fun column => by rw [same]⟩
    · exact ⟨provider, rfl, fun _ => rfl⟩
  renters := by
    intro renterId renter found
    rw [Database.updateProvider_renters]
    simp only [Database.renterNet, Database.updateProvider_ledger]
    exact ⟨renter, found, rfl⟩

theorem updateRenter (account : Option Nat)
    {change : Renter → Renter} (keeps : ∀ renter, (change renter).id = renter.id)
    (same : ∀ renter, (change renter).balanceHalala = renter.balanceHalala) :
    Accounted db (db.updateRenter account change keeps) where
  providers := by
    intro providerId provider found
    rw [Database.updateRenter_providers]
    simp only [Database.providerNet, Database.updateRenter_ledger]
    exact ⟨provider, found, fun _ => rfl⟩
  renters := by
    intro renterId renter found
    rw [Database.updateRenter_lookup, found]
    simp only [Database.renterNet, Database.updateRenter_ledger]
    split
    · exact ⟨change renter, rfl, by rw [same]⟩
    · exact ⟨renter, rfl, rfl⟩

theorem book (booking : Booking) :
    Accounted db (db.book booking) where
  providers := by
    intro providerId provider found
    have stored : (db.book booking).providers.lookup providerId =
        if booking.providerId = some providerId then
          some (provider.addEarnings booking.earned)
        else
          some provider := by
      rw [Database.book, Database.record_eq,
        Database.updateRenter_providers, Database.updateProvider_lookup,
        found]
      rfl
    have net := fun column =>
        Database.providerNet_of_ledger providerId column (db.book_ledger booking)
    by_cases here : booking.providerId = some providerId
    · rw [if_pos here] at stored
      refine ⟨_, stored, ?_⟩
      intro column
      rw [net, Provider.addEarnings_inColumn, Booking.toProvider, if_pos here, Int.cast_add]
      ring
    · rw [if_neg here] at stored
      refine ⟨_, stored, ?_⟩
      intro column
      rw [net, Booking.toProvider, if_neg here, add_zero]
  renters := by
    intro renterId renter found
    have stored := db.book_renters booking renterId
    rw [found] at stored
    rw [Database.renterNet_of_ledger renterId (db.book_ledger booking)]
    by_cases here : booking.renterId = some renterId
    · rw [if_pos here] at stored
      refine ⟨_, stored, ?_⟩
      rw [Booking.toRenter, if_pos here]
      simp only [Renter.addBalance]
      ring
    · rw [if_neg here] at stored
      refine ⟨_, stored, ?_⟩
      rw [Booking.toRenter, if_neg here, add_zero]

end Accounted

structure Writes (before after : Database) (jobId : Nat)
    (change : Job → Job) (record : Option BillingRecord)
    (booking : Booking) : Prop where
  owned : booking.jobId = jobId
  jobs : ∀ other, after.jobs.lookup other =
    if other = jobId then (before.jobs.lookup other).map change
    else before.jobs.lookup other
  records : ∀ other, after.billingRecords.lookup other =
    if other = jobId then record else before.billingRecords.lookup other
  ledger : after.ledger = before.ledger ++ booking.entries
  accounted : Accounted before after

namespace Writes

variable {before after : Database} {jobId : Nat} {change : Job → Job}
    {record : Option BillingRecord} {booking : Booking}

theorem of_update (db : Database) (jobId : Nat) {change : Job → Job}
    (keeps : ∀ job, (change job).jobId = job.jobId) :
    Writes db { db with jobs := db.jobs.update jobId change keeps } jobId
      change (db.billingRecords.lookup jobId) (Booking.nothing jobId) where
  owned := rfl
  jobs := fun other => lookup_update db.jobs jobId other change keeps
  records := by
    intro other
    by_cases same : other = jobId
    · rw [if_pos same, same]
    · rw [if_neg same]
  ledger := by
    rw [Booking.entries_of_nothing (Booking.nothing_isNothing jobId)]
    exact (append_nil _).symm
  accounted := Accounted.of_jobs db _

theorem book (writes : Writes before after jobId change record (Booking.nothing jobId))
    (booking : Booking) (owned : booking.jobId = jobId) :
    Writes before (after.book booking) jobId change record booking where
  owned := owned
  jobs := by
    rw [Database.book_jobs]
    exact writes.jobs
  records := by
    rw [Database.book_billingRecords]
    exact writes.records
  ledger := by
    have unmoved := writes.ledger
    rw [Booking.entries_of_nothing (Booking.nothing_isNothing jobId), append_nil] at unmoved
    rw [Database.book_ledger, unmoved]
  accounted := writes.accounted.trans (Accounted.book after booking)

variable (writes : Writes before after jobId change record booking)

include writes

theorem update {later : Job → Job} (keeps : ∀ job, (later job).jobId = job.jobId) :
    Writes before { after with jobs := after.jobs.update jobId later keeps } jobId
      (fun job => later (change job)) record booking where
  owned := writes.owned
  jobs := by
    intro other
    rw [lookup_update, writes.jobs]
    by_cases same : other = jobId
    · simp only [if_pos same, Option.map_map]
      rfl
    · simp [if_neg same]
  records := writes.records
  ledger := writes.ledger
  accounted := writes.accounted.trans (Accounted.of_jobs after _)

theorem updateProvider (account : Option Nat) {rewrite : Provider → Provider}
    (keeps : ∀ provider, (rewrite provider).id = provider.id)
    (same : ∀ provider column, (rewrite provider).inColumn column = provider.inColumn column) :
    Writes before (after.updateProvider account rewrite keeps) jobId change record booking where
  owned := writes.owned
  jobs := by
    rw [Database.updateProvider_jobs]
    exact writes.jobs
  records := by
    rw [Database.updateProvider_billingRecords]
    exact writes.records
  ledger := (Database.updateProvider_ledger _ _ _ _).trans writes.ledger
  accounted := writes.accounted.trans (Accounted.updateProvider after account keeps same)

theorem updateRenter (account : Option Nat) {rewrite : Renter → Renter}
    (keeps : ∀ renter, (rewrite renter).id = renter.id)
    (same : ∀ renter, (rewrite renter).balanceHalala = renter.balanceHalala) :
    Writes before (after.updateRenter account rewrite keeps) jobId change record booking where
  owned := writes.owned
  jobs := by
    rw [Database.updateRenter_jobs]
    exact writes.jobs
  records := by
    rw [Database.updateRenter_billingRecords]
    exact writes.records
  ledger := (Database.updateRenter_ledger _ _ _ _).trans writes.ledger
  accounted := writes.accounted.trans (Accounted.updateRenter after account keeps same)

theorem addJob (account : Option Nat) :
    Writes before (after.updateProvider account Provider.addJob Provider.addJob_id)
      jobId change record booking := by
  refine writes.updateProvider account Provider.addJob_id ?_
  intro provider column
  cases column with
  | claimable | totalEarnings | totalEarningsHalala => rfl

theorem clearCurrentJob (account : Option Nat) :
    Writes before
      (after.updateProvider account Provider.clearCurrentJob Provider.clearCurrentJob_id)
      jobId change record booking := by
  refine writes.updateProvider account Provider.clearCurrentJob_id ?_
  intro provider column
  cases column with
  | claimable | totalEarnings | totalEarningsHalala => rfl

omit writes

variable {job : Job}

theorem refund (writes : Writes before after job.jobId change record (Booking.nothing job.jobId))
    (now : Int) (refundable : Refundable job) :
    Writes before (refundFailed now after job) job.jobId
      (fun row => (change row).setRefundedAt now) record
      (refundBooking job) := by
  rw [refundFailed, if_pos refundable]
  exact (writes.book (refundBooking job) rfl).update (Job.setRefundedAt_jobId now)

variable (writes : Writes before after jobId change record booking)

include writes

theorem others {other : Nat} (different : other ≠ jobId) :
    after.jobs.lookup other = before.jobs.lookup other ∧
      after.billingRecords.lookup other = before.billingRecords.lookup other ∧
      after.bookingsFor other = before.bookingsFor other := by
  refine ⟨?_, ?_, ?_⟩
  · rw [writes.jobs, if_neg different]
  · rw [writes.records, if_neg different]
  · apply bookingsFor_of_other _ writes.ledger
    rw [writes.owned]
    exact different.symm

theorem row (found : before.jobs.lookup jobId = some job) :
    after.jobs.lookup jobId = some (change job) := by
  rw [writes.jobs, if_pos rfl, found]
  rfl

theorem recorded :
    after.billingRecords.lookup jobId = record := by
  rw [writes.records, if_pos rfl]

theorem adds :
    Adds jobId before after booking :=
  Adds.of_ledger writes.owned writes.ledger

end Writes

section Endpoints

variable (db : Database) (job : Job) (now : Int)

theorem settleResult_writes (report : ResultReport) (gpuSeconds : ℚ) :
    let usage := resultUsage report gpuSeconds
    let cost := usageCost job usage
    let split := splitBilling (max 0 cost.totalHalala)
    let status := if report.hasResult then .completed else .failed
    ∃ priced, Writes db priced job.jobId (Job.setPriced status now usage cost split)
      (db.billingRecords.lookup job.jobId)
      (Booking.nothing job.jobId) ∧ settleResult db job report gpuSeconds now =
          if report.hasResult then
            (priced.book (resultBooking job split)).updateProvider
              job.providerId Provider.addJob Provider.addJob_id
          else
            refundFailed now priced job :=
  ⟨_, Writes.of_update db job.jobId (Job.setPriced_jobId _ _ _ _ _), rfl⟩

theorem settleComplete_writes :
    let usage := completeUsage job now
    let cost := usageCost job usage
    let split := splitBilling (max 0 cost.totalHalala)
    Writes db (settleComplete db job now) job.jobId (Job.setPriced .completed now usage cost split)
      (db.billingRecords.lookup job.jobId) (earnedBooking job split 0) := by
  refine Writes.addJob (Writes.book ?_ _ rfl) job.providerId
  exact Writes.of_update db job.jobId (Job.setPriced_jobId _ _ _ _ _)

theorem settleJobResult_writes (provider : Provider) (report : JobResultReport) :
    let actualCostHalala := jobResultPrice job provider report now
    let split := splitEarnings actualCostHalala
    let status := if report.success then .completed else .failed
    ∃ released, Writes db released job.jobId (Job.setReported status now (elapsedMinutes job now)
      (mathRound (elapsedSeconds job now)) actualCostHalala split)
        (db.billingRecords.lookup job.jobId)
        (Booking.nothing job.jobId) ∧
        settleJobResult db job provider report now =
          if BillingOwnedByV1 job then
            released
          else if report.success then
            ((released.book (earnedBooking job split
              (jobResultReturned job actualCostHalala))).updateProvider
                (some provider.id) Provider.addJob
                Provider.addJob_id).updateRenter job.renterId (Renter.addSpending actualCostHalala)
                  (Renter.addSpending_id actualCostHalala)
          else
            refundFailed now released job :=
  ⟨_, Writes.clearCurrentJob (Writes.of_update db job.jobId (Job.setReported_jobId _ _ _ _ _ _))
    (some provider.id), rfl⟩

end Endpoints

def CompleteCall.booked (db : Database) (call : CompleteCall) : Booking :=
  if call.recordedCost = none then
    call.booking (splitPlatformFee (call.grossCost db))
  else
    Booking.nothing call.job.jobId

theorem CompleteCall.settle_writes {db after : Database}
    {call : CompleteCall} {signed : Bool} {now : Int}
    (settled : call.settle db signed now = .ok after) :
    let gross := call.grossCost db
    let status := if signed then .signed else .pending
    db.billingRecords.lookup call.job.jobId = none ∧
      Writes db after call.job.jobId (Job.setBilled status)
        (some (call.record gross (splitPlatformFee gross) now))
        (call.booked db) := by
  unfold CompleteCall.settle at settled
  split at settled
  · rename_i fresh
    refine ⟨fresh, ?_⟩
    have billed : Writes db { db with
        billingRecords := db.billingRecords.insert
          (call.record (call.grossCost db) (splitPlatformFee (call.grossCost db)) now) fresh
        jobs := db.jobs.update call.job.jobId (Job.setBilled (if signed then .signed else .pending))
          (Job.setBilled_jobId _) }
          call.job.jobId
          (Job.setBilled (if signed then .signed else .pending))
          (some (call.record (call.grossCost db) (splitPlatformFee (call.grossCost db)) now))
          (Booking.nothing call.job.jobId) := by
      have unrecorded := Writes.of_update db call.job.jobId
          (Job.setBilled_jobId (if signed then .signed else .pending))
      refine
        { owned := rfl
          jobs := unrecorded.jobs
          records := ?_
          ledger := unrecorded.ledger
          accounted := Accounted.of_rows db _ _ }
      intro other
      exact @lookup_insert_under _ _ _ _ db.billingRecords
        (call.record (call.grossCost db) (splitPlatformFee (call.grossCost db)) now)
        fresh call.job.jobId rfl other
    by_cases unpaid : call.recordedCost = none
    · rw [if_pos unpaid] at settled
      injection settled with same
      rw [CompleteCall.booked, if_pos unpaid, ← same]
      exact billed.book _ rfl
    · rw [if_neg unpaid] at settled
      injection settled with same
      rw [CompleteCall.booked, if_neg unpaid, ← same]
      exact billed
  · cases settled

end DcpPlatform.Jobs
