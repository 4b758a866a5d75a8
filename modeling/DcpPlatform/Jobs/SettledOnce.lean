import DcpPlatform.Foundation.Transition
import DcpPlatform.Jobs.Effects

/-!
# A job is settled once and never beyond its debit

The money of a job moves at most once and within its debit, and a lower actual
cost has been made up for by a return. Only `/job-result` returns a difference
and bounds the reported GPU seconds.
-/

namespace DcpPlatform.Jobs

open Foundation

instance (holds : Column → Prop) [DecidablePred holds] :
    Decidable (∀ column, holds column) :=
  decidable_of_iff (holds .claimable ∧ holds .totalEarnings ∧ holds .totalEarningsHalala)
    ⟨fun ⟨claimable, total, totalHalala⟩ column =>
      match column with
      | .claimable => claimable
      | .totalEarnings => total
      | .totalEarningsHalala => totalHalala,
      fun all => ⟨all _, all _, all _⟩⟩

namespace Database

def debitedFor (db : Database) (row : Job) : Int :=
  row.costHalala - db.returnedFor row.jobId

def actualCostFor (db : Database) (row : Job) : Option Int :=
  row.actualCostHalala.or ((db.billingRecords.lookup row.jobId).map BillingRecord.grossCostHalala)

end Database

structure SettledOnce (db : Database) (row : Job) : Prop where
  once : (db.bookingsFor row.jobId).length ≤ 1
  columns : ∀ column, db.earnedFor row.jobId column + db.feesFor row.jobId ≤ db.debitedFor row
  onRow : row.status = .completed →
    row.providerEarnedHalala.getD 0 + row.dc1FeeHalala.getD 0 ≤ db.debitedFor row
  onRecord : ∀ record ∈ db.billingRecords.lookup row.jobId,
    record.providerEarningHalala + record.platformFeeHalala ≤ db.debitedFor row
  difference : ∀ actual ∈ db.actualCostFor row, actual < row.costHalala →
    row.costHalala - actual ≤ db.returnedFor row.jobId

instance (db : Database) (row : Job) : Decidable (SettledOnce db row) :=
  decidable_of_iff ((db.bookingsFor row.jobId).length ≤ 1 ∧
    (∀ column, db.earnedFor row.jobId column + db.feesFor row.jobId ≤ db.debitedFor row) ∧
    (row.status = .completed →
      row.providerEarnedHalala.getD 0 + row.dc1FeeHalala.getD 0 ≤ db.debitedFor row) ∧
    (∀ record ∈ db.billingRecords.lookup row.jobId,
      record.providerEarningHalala + record.platformFeeHalala ≤ db.debitedFor row) ∧
    ∀ actual ∈ db.actualCostFor row, actual < row.costHalala →
      row.costHalala - actual ≤ db.returnedFor row.jobId)
    ⟨fun ⟨once, columns, onRow, onRecord, difference⟩ =>
      ⟨once, columns, onRow, onRecord, difference⟩,
      fun ⟨once, columns, onRow, onRecord, difference⟩ =>
        ⟨once, columns, onRow, onRecord, difference⟩⟩

def JobSettledOnce (jobId : Nat) (system : System) : Prop :=
  ∀ row ∈ system.db.jobs.lookup jobId, SettledOnce system.db row
deriving Decidable

structure AcceptsResult (job : Job) (report : ResultReport) : Prop where
  reporter : CanReport job report.reporter
  active : job.status ∈ [JobStatus.running, .assigned, .pulling]
  duration : report.durationSeconds = .missing ∨ (reportedDuration job report).isSome
  final : ¬ IsRetried job report
  gpuSeconds : (reportedGpuSeconds job report).isSome

instance (job : Job) (report : ResultReport) :
    Decidable (AcceptsResult job report) :=
  decidable_of_iff (CanReport job report.reporter ∧
    job.status ∈ [JobStatus.running, .assigned, .pulling] ∧
    (report.durationSeconds = .missing ∨ (reportedDuration job report).isSome) ∧
    ¬ IsRetried job report ∧ (reportedGpuSeconds job report).isSome)
    ⟨fun ⟨reporter, active, duration, final, gpuSeconds⟩ =>
      ⟨reporter, active, duration, final, gpuSeconds⟩,
      fun ⟨reporter, active, duration, final, gpuSeconds⟩ =>
        ⟨reporter, active, duration, final, gpuSeconds⟩⟩

def Unbooked (db : Database) (job : Job) : Prop :=
  db.bookingsFor job.jobId = []

instance (db : Database) (job : Job) : Decidable (Unbooked db job) :=
  decidable_of_iff ((db.bookingsFor job.jobId).length = 0) List.length_eq_zero_iff

def ResultSettlesRight (db : Database) (job : Job) (report : ResultReport) : Prop :=
  if report.hasResult = true then
    Unbooked db job ∧ resultPrice job report = job.costHalala
  else
    Refundable job → Unbooked db job
deriving Decidable

def CompleteSettlesRight (db : Database) (job : Job) (now : Int) : Prop :=
  Unbooked db job ∧ completePrice job now = job.costHalala
deriving Decidable

/-- Nothing has been moved before; where no money is moved at all, there is
no difference to return. -/
def JobResultSettlesRight (db : Database) (job : Job)
    (provider : Provider) (report : JobResultReport) (now : Int) : Prop :=
  if BillingOwnedByV1 job then
    if report.success = true then
      jobResultPrice job provider report now = job.costHalala
    else
      job.costHalala ≤ jobResultPrice job provider report now
  else if report.success = true then
    Unbooked db job
  else
    Refundable job → Unbooked db job
deriving Decidable

/-- The cost fits in what is left of the debit, it is not credited after
another booking, and it uses up the debit of a job that has no actual
cost. -/
structure CallSettlesRight (db : Database) (job : Job) (call : CompleteCall) : Prop where
  fits : call.grossCost db ≤ db.debitedFor job
  first : call.recordedCost = none → Unbooked db job ∨ call.grossCost db = 0
  exhausts : job.actualCostHalala = none → job.costHalala ≤ call.grossCost db

instance (db : Database) (job : Job) (call : CompleteCall) :
    Decidable (CallSettlesRight db job call) :=
  decidable_of_iff (call.grossCost db ≤ db.debitedFor job ∧
    (call.recordedCost = none → Unbooked db job ∨ call.grossCost db = 0) ∧
    (job.actualCostHalala = none → job.costHalala ≤ call.grossCost db))
    ⟨fun ⟨fits, first, exhausts⟩ => ⟨fits, first, exhausts⟩,
      fun ⟨fits, first, exhausts⟩ => ⟨fits, first, exhausts⟩⟩

def SettlesRight (jobId : Nat) (system : System) : Report → Prop
  | .result report _ =>
    ∀ job ∈ system.db.jobs.lookup jobId, report.jobId = jobId →
      AcceptsResult job report → ResultSettlesRight system.db job report
  | .complete completed reporter now =>
    ∀ job ∈ system.db.jobs.lookup jobId, completed = jobId →
      job.status = .running → CanComplete job reporter → CompleteSettlesRight system.db job now
  | .jobResult report now =>
    ∀ job ∈ system.db.jobs.lookup jobId, report.jobId = jobId →
      ∀ provider ∈ system.db.providers.lookup report.providerId,
        job.providerId = some provider.id → job.status = .running →
          JobResultSettlesRight system.db job provider report now
  | .readComplete _ => True
  | .settleComplete index gate _ =>
    ∀ job ∈ system.db.jobs.lookup jobId, ∀ call ∈ system.calls[index]?,
      call.job.jobId = jobId → gate ≠ .refused →
        system.db.billingRecords.lookup jobId = none → CallSettlesRight system.db job call

instance (jobId : Nat) (system : System) :
    DecidablePred (SettlesRight jobId system)
  | .result report _ =>
    inferInstanceAs (Decidable (∀ job ∈ system.db.jobs.lookup jobId, report.jobId = jobId →
      AcceptsResult job report → ResultSettlesRight system.db job report))
  | .complete completed reporter now =>
    inferInstanceAs (Decidable (∀ job ∈ system.db.jobs.lookup jobId, completed = jobId →
      job.status = .running → CanComplete job reporter →
      CompleteSettlesRight system.db job now))
  | .jobResult report now =>
    inferInstanceAs (Decidable (∀ job ∈ system.db.jobs.lookup jobId, report.jobId = jobId →
      ∀ provider ∈ system.db.providers.lookup report.providerId,
        job.providerId = some provider.id → job.status = .running →
          JobResultSettlesRight system.db job provider report now))
  | .readComplete _ => inferInstanceAs (Decidable True)
  | .settleComplete index gate _ =>
    inferInstanceAs (Decidable (∀ job ∈ system.db.jobs.lookup jobId,
      ∀ call ∈ system.calls[index]?, call.job.jobId = jobId → gate ≠ .refused →
        system.db.billingRecords.lookup jobId = none → CallSettlesRight system.db job call))

/-- No report has ended the job. A call may have billed it. -/
structure Unsettled (db : Database) (row : Job) : Prop where
  live : row.status.isTerminal = false
  uncosted : row.actualCostHalala = none
  unrefunded : row.refundedAt = none
  unreturned : db.returnedFor row.jobId = 0
  booked : ¬ Unbooked db row → 0 < row.costHalala
  billed : ∀ record ∈ db.billingRecords.lookup row.jobId, Unbooked db row →
    record.providerEarningHalala + record.platformFeeHalala = 0

structure Followed (system : System) (row : Job) : Prop where
  renter : row.renterId.isSome
  prepaid : 0 ≤ row.costHalala
  calls : ∀ call ∈ system.calls, call.job.jobId = row.jobId →
    ∀ cost ∈ call.recordedCost, row.actualCostHalala = some cost
  phase : Unsettled system.db row ∨ row.status.isTerminal = true ∧ row.actualCostHalala.isSome

def Tracked (jobId : Nat) (system : System) : Prop :=
  ∃ row, system.db.jobs.lookup jobId = some row ∧ Followed system row

namespace Followed

variable {system : System} {row : Job}

theorem unsettled (followed : Followed system row)
    (live : row.status.isTerminal = false) : Unsettled system.db row := by
  rcases followed.phase with unsettled | ⟨ended, _⟩
  · exact unsettled
  · rw [live] at ended
    cases ended

theorem unsettled_of_uncosted (followed : Followed system row)
    (uncosted : row.actualCostHalala = none) :
    Unsettled system.db row := by
  rcases followed.phase with unsettled | ⟨_, costed⟩
  · exact unsettled
  · rw [uncosted] at costed
    cases costed

theorem calls_uncosted (followed : Followed system row)
    (live : row.status.isTerminal = false) {call : CompleteCall}
    (member : call ∈ system.calls)
    (same : call.job.jobId = row.jobId) : call.recordedCost = none := by
  cases recorded : call.recordedCost with
  | none => rfl
  | some cost =>
    have costed := followed.calls call member same cost recorded
    rw [(followed.unsettled live).uncosted] at costed
    cases costed

end Followed

structure SameMoney (jobId : Nat) (before after : Database) : Prop where
  record : after.billingRecords.lookup jobId = before.billingRecords.lookup jobId
  bookings : after.bookingsFor jobId = before.bookingsFor jobId

namespace SameMoney

variable {jobId : Nat} {before after : Database}

theorem refl (jobId : Nat) (db : Database) : SameMoney jobId db db :=
  ⟨rfl, rfl⟩

theorem of_unmoved {change : Job → Job} (writes : Writes before after jobId change
    (before.billingRecords.lookup jobId) (Booking.nothing jobId)) :
    SameMoney jobId before after where
  record := writes.recorded
  bookings := by
    rw [writes.adds, Booking.entries_of_nothing (Booking.nothing_isNothing jobId), List.append_nil]

theorem returnedFor (same : SameMoney jobId before after) :
    after.returnedFor jobId = before.returnedFor jobId := by
  rw [Database.returnedFor, same.bookings, Database.returnedFor]

variable {row : Job}

theorem settledOnce (same : SameMoney row.jobId before after)
    (sound : SettledOnce before row) : SettledOnce after row where
  once := by
    rw [same.bookings]
    exact sound.once
  columns := by
    intro column
    rw [Database.earnedFor, Database.feesFor, Database.debitedFor, same.returnedFor, same.bookings]
    exact sound.columns column
  onRow := by
    rw [Database.debitedFor, same.returnedFor]
    exact sound.onRow
  onRecord := by
    rw [Database.debitedFor, same.returnedFor, same.record]
    exact sound.onRecord
  difference := by
    rw [Database.actualCostFor, same.returnedFor, same.record]
    exact sound.difference

theorem unsettled (same : SameMoney row.jobId before after)
    (unsettled : Unsettled before row) : Unsettled after row where
  live := unsettled.live
  uncosted := unsettled.uncosted
  unrefunded := unsettled.unrefunded
  unreturned := same.returnedFor.trans unsettled.unreturned
  booked := by
    rw [Unbooked, same.bookings]
    exact unsettled.booked
  billed := by
    rw [Unbooked, same.bookings, same.record]
    exact unsettled.billed

end SameMoney

structure Decides (jobId : Nat) (source target : System) (condition : Prop) : Prop where
  tracked : JobSettledOnce jobId source → JobSettledOnce jobId target → Tracked jobId target
  decides : JobSettledOnce jobId source → (JobSettledOnce jobId target ↔ condition)

namespace Decides

variable {source target : System} {row : Job} {condition : Prop}

theorem of_same (found : source.db.jobs.lookup row.jobId = some row)
    (stored : target.db.jobs.lookup row.jobId = some row)
    (followed : Followed source row)
    (same : SameMoney row.jobId source.db target.db)
    (calls :
      ∀ call ∈ target.calls, call.job.jobId = row.jobId → call ∈ source.calls ∨ call.job = row)
    (met : condition) : Decides row.jobId source target condition where
  tracked := by
    intro _ _
    refine ⟨row, stored, followed.renter, followed.prepaid,
      ?_, followed.phase.imp_left same.unsettled⟩
    intro call member about cost recorded
    rcases calls call member about with earlier | read
    · exact followed.calls call earlier about cost recorded
    · rw [← read]
      exact (Option.mem_filter_iff.mp recorded).1
  decides := by
    intro sound
    refine iff_of_true ?_ met
    intro other otherStored
    rw [stored] at otherStored
    cases otherStored
    exact same.settledOnce (sound row found)

theorem of_row {settled : Job} {jobId : Nat} (stored : target.db.jobs.lookup jobId = some settled)
    (followed :
      JobSettledOnce jobId source → SettledOnce target.db settled → Followed target settled)
    (decides : JobSettledOnce jobId source → (SettledOnce target.db settled ↔ condition)) :
    Decides jobId source target condition where
  tracked := fun before sound =>
    ⟨settled, stored, followed before (sound settled stored)⟩
  decides := by
    intro sound
    rw [← decides sound, JobSettledOnce, stored]
    simp

end Decides

end DcpPlatform.Jobs
