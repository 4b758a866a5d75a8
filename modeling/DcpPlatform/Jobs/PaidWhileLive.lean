import DcpPlatform.Jobs.RefundedOnce
import DcpPlatform.Jobs.Requeues

/-!
# No job runs on the house

What the renter of a live job has paid for it, the debit less everything
returned, should be its cost. Requeueing a failed job, cancelling it by force
and a late report rewrite the row whatever has been returned; `ReopensUnpaid`
excludes this.
-/

namespace DcpPlatform.Jobs

open Foundation Table Option

def Database.netPayment (db : Database) (job : Job) : Int :=
  debitOf job - db.returnedFor job.jobId

structure PaidWhileLive (db : Database) (row : Job) : Prop where
  paid : IsLive row → row.renterId.isSome → db.netPayment row = row.costHalala
  refunded : RefundedOnce db row

instance (db : Database) (row : Job) : Decidable (PaidWhileLive db row) :=
  decidable_of_iff
    ((IsLive row → row.renterId.isSome → db.netPayment row = row.costHalala) ∧ RefundedOnce db row)
    ⟨fun ⟨paid, refunded⟩ => ⟨paid, refunded⟩, fun ⟨paid, refunded⟩ => ⟨paid, refunded⟩⟩

def JobPaidWhileLive (jobId : Nat) (db : Database) : Prop :=
  ∀ row ∈ db.jobs.lookup jobId, PaidWhileLive db row
deriving Decidable

/-- The row that the action rewrites without asking whether it has ended. -/
def reopened (db : Database) : RequeueAction → Option Job
  | .lifecycle action => addressed db action
  | .forceCancel jobId _ =>
    (db.jobs.lookup jobId).filter (fun job =>
      ¬ (job.status = .completed ∨ job.status = .cancelled))
  | .requeue jobId _ =>
    (db.jobs.lookup jobId).filter (fun job => job.status = .failed)
  | _ => none

def MayReopen (followed : Nat) (db : Database) (job : Job) : Prop :=
  job.jobId = followed → IsLive job ∨ Unbooked db job
deriving Decidable

def ReopensUnpaid (followed : Nat) (db : Database) (action : RequeueAction) : Prop :=
  ∀ job ∈ reopened db action, MayReopen followed db job
deriving Decidable

section Actions

variable {allowed : Database → Job → Prop} (live : ∀ db job, IsLive job → allowed db job)
    {db after : Database} {now : Int}

include live

theorem pickUpJob_turns (providerId jobId : Nat) :
    Turns allowed db (pickUpJob db providerId jobId now) := by
  unfold pickUpJob
  by_cases taken : db.jobs.changes jobId (Awaits providerId)
  · obtain ⟨job, found, awaits⟩ := taken
    have key := lookup_key found
    subst key
    rw [updateWhere_of_met _ found awaits]
    exact (Turn.moved found (live _ _ awaits.1.isLive) ⟨rfl, rfl⟩
      (Writes.of_update db job.jobId (Job.setPickedUp_jobId providerId now))).turns
  · rw [updateWhere_of_unmet _ taken]
    exact Relation.ReflTransGen.refl

theorem updateJobForRetry_turn {job : Job} (found : db.jobs.lookup job.jobId = some job)
    (candidate : RetryCandidate now job) :
    Turn allowed job db (updateJobForRetry now db job) := by
  have status : job.status = .running ∨ job.status = .queued := candidate.2.imp And.left And.left
  have running : IsLive job := by
    rcases status with known | known
    · rw [IsLive, known]
      rfl
    · rw [IsLive, known]
      rfl
  have retryable : IsRetryable job := by
    rcases status with known | known
    · rw [IsRetryable, known]
      decide
    · rw [IsRetryable, known]
      decide
  rw [updateJobForRetry, updateWhere_of_met _ found retryable, updateWhere_of_met _ found retryable]
  split
  · exact Turn.moved found (live _ _ running) ⟨rfl, rfl⟩
      (Writes.of_update db job.jobId (Job.setRetried_jobId (job.retryCount + 1)))
  · exact Turn.moved found (live _ _ running) ⟨rfl, rfl⟩
      (Writes.of_update db job.jobId (Job.setEnded_jobId .failed now))

theorem retrySweep_turns : Turns allowed db (retrySweep db now) :=
  turns_of_sweep (fun met found => updateJobForRetry_turn live found met)
    ((turnSweep _).reads_select db)

omit live

variable {jobId : Nat}

theorem forceCancel_turns (met : ∀ job ∈ reopened db (.forceCancel jobId now), allowed db job)
    (cancelled : forceCancel db jobId now = .ok after) :
    Turns allowed db after := by
  unfold forceCancel at cancelled
  split at cancelled
  · cases cancelled
  · rename_i job found
    split at cancelled
    · cases cancelled
    · rename_i status
      have permitted : allowed db job :=
        met job (filter_eq_some_iff.mpr ⟨found, decide_eq_true status⟩)
      have writes := Writes.of_update db job.jobId (Job.setEnded_jobId .cancelled now)
      rw [← lookup_key found] at found
      split at cancelled
      · rename_i owed
        cases cancelled
        have settles : Settles job (job.setEnded .cancelled now) (refundBooking job) := by
          refine ⟨rfl, le_debitOf owed.2, ?_⟩
          intro credited
          simp only [refundBooking] at credited
          omega
        exact (Turn.settled found permitted ⟨rfl, rfl⟩ settles
          (writes.book (refundBooking job) rfl)).turns
      · cases cancelled
        exact (Turn.moved found permitted ⟨rfl, rfl⟩ writes).turns

theorem requeue_turns (met : ∀ job ∈ reopened db (.requeue jobId now), allowed db job)
    (requeued : requeue db jobId now = .ok after) :
    Turns allowed db after := by
  unfold requeue at requeued
  split at requeued
  · cases requeued
  · rename_i job found
    split at requeued
    · cases requeued
    · rename_i status
      injection requeued with same
      have permitted : allowed db job :=
        met job (filter_eq_some_iff.mpr ⟨found, decide_eq_true (not_not.mp status)⟩)
      rw [← lookup_key found] at found
      rw [← same]
      exact (Turn.moved found permitted ⟨rfl, rfl⟩
        (Writes.of_update db job.jobId (Job.setRequeued_jobId now))).turns

include live

theorem requeueNext_turns {action : RequeueAction}
    (met : ∀ job ∈ reopened db action, allowed db job)
    (fires : Fires requeueNext db action after) :
    Turns allowed db after := by
  cases action with
  | lifecycle action =>
    exact lifecycle_turns live met fires
  | pickUpJob providerId jobId now =>
    cases fires
    exact pickUpJob_turns live providerId jobId
  | retrySweep now =>
    cases fires
    exact retrySweep_turns live
  | forceCancel jobId now =>
    injection fires with same
    exact answer_turns (forceCancel_turns met) same
  | requeue jobId now =>
    injection fires with same
    exact answer_turns (requeue_turns met) same

end Actions

def LiveUnbooked (jobId : Nat) (db : Database) : Prop :=
  ∀ row ∈ db.jobs.lookup jobId, IsLive row → Unbooked db row

variable {jobId : Nat} {before after : Database}

theorem Turn.liveUnbooked {job : Job} (turn : Turn (MayReopen jobId) job before after)
    (unbooked : LiveUnbooked jobId before) : LiveUnbooked jobId after := by
  intro row stored live
  by_cases here : jobId = job.jobId
  · subst here
    have nothing : (Booking.nothing job.jobId).entries = [] :=
      Booking.entries_of_nothing (Booking.nothing_isNothing job.jobId)
    have same {change : Job → Job} {record : Option BillingRecord} {booking : Booking}
        (found : before.jobs.lookup job.jobId = some job)
        (writes : Writes before after job.jobId change record booking) :
        row = change job := by
      have written := writes.row found
      rw [stored] at written
      exact some.inj written
    have still {change : Job → Job} {record : Option BillingRecord}
        (writes : Writes before after job.jobId change record (Booking.nothing job.jobId))
        (earlier : Unbooked before job) : Unbooked after row := by
      have adds : after.bookingsFor job.jobId = before.bookingsFor job.jobId ++ _ := writes.adds
      rw [nothing, List.append_nil] at adds
      rw [Unbooked, lookup_key stored, adds]
      exact earlier
    cases turn with
    | noted found status _ writes =>
      refine still writes (unbooked job found ?_)
      rw [same found writes, IsLive, status] at live
      exact live
    | moved found met _ writes =>
      refine still writes ?_
      exact (met rfl).elim (unbooked job found) id
    | settled found _ _ settles writes =>
      rw [same found writes, IsLive, settles.ended] at live
      cases live
  · obtain ⟨_, _, _, _, writes⟩ := turn.writes
    obtain ⟨rows, _, bookings⟩ := writes.others here
    rw [rows] at stored
    have earlier := unbooked row stored live
    rw [Unbooked, lookup_key stored] at earlier ⊢
    rw [bookings]
    exact earlier

theorem Turns.liveUnbooked (turns : Turns (MayReopen jobId) before after)
    (unbooked : LiveUnbooked jobId before) : LiveUnbooked jobId after := by
  induction turns with
  | refl =>
    exact unbooked
  | tail _ turn ih =>
    obtain ⟨job, turn⟩ := turn
    exact turn.liveUnbooked ih

structure Standing (row : Job) (db : Database) : Prop where
  remains : Remains row db
  liveUnbooked : LiveUnbooked row.jobId db

variable {row : Job}

theorem Standing.step {action : RequeueAction} (standing : Standing row before)
    (reopens : ReopensUnpaid row.jobId before action)
    (fires : Fires requeueNext before action after) :
    Standing row after where
  remains := by
    refine Turns.remains (requeueNext_turns (fun _ _ live _ => Or.inl live)
      (fun job named same => ?_) fires) standing.remains
    exact (reopens job named same).imp_right Or.inr
  liveUnbooked := (requeueNext_turns (fun _ _ live _ => Or.inl live) reopens
    fires).liveUnbooked standing.liveUnbooked

theorem Standing.jobPaidWhileLive {db : Database}
    (standing : Standing row db) (nonneg : 0 ≤ row.costHalala) :
    JobPaidWhileLive row.jobId db := by
  intro stored found
  refine ⟨?_, standing.remains.jobRefundedOnce stored found⟩
  intro live renter
  obtain ⟨later, known, same, _⟩ := standing.remains
  have equal : stored = later := by
    rw [mem_def, known] at found
    exact (some.inj found).symm
  subst equal
  have unbooked := standing.liveUnbooked stored known live
  have unreturned : db.returnedFor stored.jobId = 0 := by
    rw [Database.returnedFor, unbooked]
    rfl
  have cost := same.2
  rw [Database.netPayment, unreturned, debitOf_of_renter renter, prepaidHalala]
  omega

/-- Over every run that reopens the row only while no money has been moved for
it, the job is paid for whenever it is live. -/
theorem job_paid_while_live {start finish : Database} {row : Job}
    {actions : List RequeueAction} (found : start.jobs.lookup row.jobId = some row)
    (unbooked : Unbooked start row) (nonneg : 0 ≤ row.costHalala)
    (run : Run (guarded (Fires requeueNext) (ReopensUnpaid row.jobId)) start actions finish) :
    JobPaidWhileLive row.jobId finish := by
  have initially : Standing row start := by
    refine ⟨⟨row, found, SameDebit.refl row, Moved.unbooked unbooked⟩, ?_⟩
    intro stored known _
    rw [mem_def, found] at known
    cases known
    exact unbooked
  have standing : Standing row finish :=
    run.invariant (Standing row) (fun standing step => standing.step step.1 step.2) initially
  exact standing.jobPaidWhileLive nonneg

theorem job_paid_while_live_sample :
    ∃ finish, execute requeueNext sampleDatabase [.retrySweep 9000000, .pickUpJob 1 5 9001000,
            .retrySweep 18002000, .pickUpJob 1 5 18003000,
            .retrySweep 27004000, .requeue 5 27005000,
            .pickUpJob 1 5 27006000] = some finish ∧
        JobPaidWhileLive 5 finish ∧
        finish.statusOf 5 = some .running := by
  refine exists_executed_guarded (ReopensUnpaid 5) (·.statusOf 5 = some .running)
    (by decide +kernel) ?_
  intro finish reopens status
  exact ⟨@job_paid_while_live sampleDatabase finish sampleJob _ (by decide)
    (by decide) (by decide) reopens, status⟩

/-- A job that failed and was refunded is requeued and picked up, and its
provider is credited for it. -/
theorem job_runs_on_the_house :
    (∃ finish, execute requeueNext sampleDatabase
      [.lifecycle (.fail sampleFailure 1000), .requeue 5 2000, .pickUpJob 1 5 3000] = some finish ∧
        ¬ JobPaidWhileLive 5 finish) ∧
      ∃ finish, execute requeueNext sampleDatabase
        [.lifecycle (.fail sampleFailure 1000), .requeue 5 2000, .pickUpJob 1 5 3000,
          .lifecycle (.jobResult sampleJobResult 603000)] =
        some finish ∧ ¬ JobPaidWhileLive 5 finish ∧ finish.balances = [1370] ∧
          finish.earnedFor 5 .claimable = 472 :=
  ⟨exists_of_execute_any (by decide +kernel), exists_of_execute_any (by decide +kernel)⟩

end DcpPlatform.Jobs
