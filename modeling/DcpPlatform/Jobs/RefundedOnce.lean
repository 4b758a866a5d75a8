import DcpPlatform.Jobs.TerminalStatuses

/-!
# A job is refunded at most once

`/cancel` returns the whole cost whatever has been moved before, and a row
that a late report makes live again may fail or be settled a second time.
`RefundsInTime` is the condition on an action that excludes this.
-/

namespace DcpPlatform.Jobs

open Foundation List

namespace Database

def refundedFor (db : Database) (jobId : Nat) : Int :=
  ((db.bookingsFor jobId).map (fun booking => max 0 booking.returned)).sum

def surchargedFor (db : Database) (jobId : Nat) : Int :=
  ((db.bookingsFor jobId).map (fun booking => max 0 (-booking.returned))).sum

def creditedFor (db : Database) (jobId : Nat) : Int :=
  db.earnedFor jobId .claimable + db.feesFor jobId

end Database

structure RefundedOnce (db : Database) (row : Job) : Prop where
  debited : db.refundedFor row.jobId ≤ debitOf row + db.surchargedFor row.jobId
  uncredited : row.costHalala ≤ db.creditedFor row.jobId → db.refundedFor row.jobId = 0

instance (db : Database) (row : Job) : Decidable (RefundedOnce db row) :=
  decidable_of_iff (db.refundedFor row.jobId ≤ debitOf row + db.surchargedFor row.jobId ∧
    (row.costHalala ≤ db.creditedFor row.jobId → db.refundedFor row.jobId = 0))
    ⟨fun ⟨debited, uncredited⟩ => ⟨debited, uncredited⟩,
      fun ⟨debited, uncredited⟩ => ⟨debited, uncredited⟩⟩

def JobRefundedOnce (jobId : Nat) (db : Database) : Prop :=
  ∀ row ∈ db.jobs.lookup jobId, RefundedOnce db row
deriving Decidable

/-- The followed row is live, or there is nothing to return twice. -/
def MayTurn (followed : Nat) (db : Database) (job : Job) : Prop :=
  job.jobId = followed → IsLive job ∨ debitOf job = 0 ∨ Unbooked db job
deriving Decidable

def RefundsInTime (followed : Nat) (db : Database) (action : LifecycleAction) : Prop :=
  ∀ job ∈ addressed db action, MayTurn followed db job
deriving Decidable

/-- How far the money of a job that was submitted as `row` has moved: without a
debit nothing is ever returned, and else there is one booking at most, which
has ended the job. -/
inductive Moved (db : Database) (row later : Job) : Prop
  | free : debitOf row = 0 → (∀ booking ∈ db.bookingsFor row.jobId, booking.returned ≤ 0) →
    Moved db row later
  | unbooked : db.bookingsFor row.jobId = [] → Moved db row later
  | settled {booking : Booking} :
      db.bookingsFor row.jobId = booking.entries →
      Settles row later booking →
      Moved db row later

def Remains (row : Job) (db : Database) : Prop :=
  ∃ later, db.jobs.lookup row.jobId = some later ∧ SameDebit row later ∧ Moved db row later

theorem SameDebit.trans {first second third : Job}
    (earlier : SameDebit first second) (later : SameDebit second third) :
    SameDebit first third :=
  ⟨later.1.trans earlier.1, later.2.trans earlier.2⟩

theorem Settles.of_sameDebit {row job changed : Job} {booking : Booking}
    (settles : Settles job changed booking) (same : SameDebit row job) :
    Settles row changed booking where
  ended := settles.ended
  returned := by
    rw [← same.debitOf]
    exact settles.returned
  credited := by
    rw [← same.2]
    exact settles.credited

theorem mem_entries {booking entry : Booking}
    (member : entry ∈ booking.entries) : entry = booking := by
  unfold Booking.entries at member
  split at member
  · cases member
  · exact mem_singleton.mp member

namespace Moved

variable {db : Database} {row later : Job}

theorem reopened (moved : Moved db row later) (same : SameDebit row later)
    (found : db.jobs.lookup row.jobId = some later)
    (met : MayTurn row.jobId db later) :
    debitOf row = 0 ∧ (∀ booking ∈ db.bookingsFor row.jobId, booking.returned ≤ 0) ∨
      db.bookingsFor row.jobId = [] := by
  have key : later.jobId = row.jobId := Table.lookup_key found
  cases moved with
  | free free none => exact Or.inl ⟨free, none⟩
  | unbooked empty => exact Or.inr empty
  | settled booked settles =>
    rcases met key with live | free | empty
    · rw [IsLive, settles.ended] at live
      cases live
    · rw [same.debitOf] at free
      refine Or.inl ⟨free, ?_⟩
      intro booking member
      rw [booked] at member
      rw [mem_entries member, ← free]
      exact settles.returned
    · rw [Unbooked, key] at empty
      exact Or.inr empty

theorem refundedFor_of_unreturned
    (none : ∀ booking ∈ db.bookingsFor row.jobId, booking.returned ≤ 0) :
    db.refundedFor row.jobId = 0 := by
  apply sum_eq_zero
  intro amount member
  obtain ⟨booking, booked, same⟩ := mem_map.mp member
  have unreturned := none booking booked
  omega

theorem surchargedFor_nonneg (jobId : Nat) :
    0 ≤ db.surchargedFor jobId := by
  apply sum_nonneg
  intro amount member
  obtain ⟨booking, _, same⟩ := mem_map.mp member
  omega

theorem refundedOnce (moved : Moved db row later) (same : SameDebit row later)
    (found : db.jobs.lookup row.jobId = some later) :
    RefundedOnce db later := by
  have key : later.jobId = row.jobId := Table.lookup_key found
  have debit := debitOf_nonneg row
  have surcharged := @surchargedFor_nonneg db row.jobId
  cases moved with
  | free _ none =>
    have refunded := refundedFor_of_unreturned none
    refine ⟨?_, ?_⟩
    · rw [key, same.debitOf]
      omega
    · intro _
      rw [key, refunded]
  | unbooked empty =>
    have refunded : db.refundedFor row.jobId = 0 := by
      rw [Database.refundedFor, empty]
      rfl
    refine ⟨?_, ?_⟩
    · rw [key, same.debitOf]
      omega
    · intro _
      rw [key, refunded]
  | @settled booking booked settles =>
    have sum (measure : Booking → Int) (vanishes : booking.IsNothing → measure booking = 0) :
        ((db.bookingsFor row.jobId).map measure).sum = measure booking := by
      rw [booked]
      exact Booking.sum_entries measure vanishes
    have refunded : db.refundedFor row.jobId = max 0 booking.returned :=
      sum _ (fun nothing => by rw [nothing.2.2]; rfl)
    have credited : db.creditedFor row.jobId = booking.earned .claimable + booking.fee := by
      rw [Database.creditedFor, Database.earnedFor, Database.feesFor,
        sum _ (·.earned .claimable),
        sum _ (·.2.1)]
    have returned := settles.returned
    refine ⟨?_, ?_⟩
    · rw [key, same.debitOf, refunded]
      omega
    · rw [key, same.2, refunded, credited]
      intro full
      have nothing := settles.credited full
      omega

end Moved

theorem SameDebit.refl (job : Job) : SameDebit job job :=
  ⟨rfl, rfl⟩

variable {before after : Database}

theorem Turn.remains {row job : Job} (turn : Turn (MayTurn row.jobId) job before after)
    (remains : Remains row before) : Remains row after := by
  obtain ⟨later, found, same, moved⟩ := remains
  by_cases here : row.jobId = job.jobId
  · have equal : later = job := by
      have stored := turn.writes.1
      rw [← here, found] at stored
      injection stored
    subst equal
    have kept {change : Job → Job} {record : Option BillingRecord} {booking : Booking}
        (debit : SameDebit later (change later))
        (writes : Writes before after later.jobId change record booking)
        (moves : after.bookingsFor row.jobId = before.bookingsFor row.jobId ++ booking.entries →
          Moved after row (change later)) :
        Remains row after := by
      rw [← here] at writes
      exact ⟨change later, writes.row found, same.trans debit, moves writes.adds⟩
    have nothing (bookings : List Booking) :
        bookings ++ (Booking.nothing later.jobId).entries = bookings := by
      rw [Booking.entries_of_nothing (Booking.nothing_isNothing later.jobId), append_nil]
    cases turn with
    | noted _ status debit writes =>
      refine kept debit writes ?_
      intro adds
      rw [nothing] at adds
      cases moved with
      | free free none =>
        rw [← adds] at none
        exact Moved.free free none
      | unbooked empty =>
        exact Moved.unbooked (adds.trans empty)
      | settled booked settles =>
        refine Moved.settled (adds.trans booked) ⟨?_, settles.returned, settles.credited⟩
        rw [status]
        exact settles.ended
    | moved _ met debit writes =>
      refine kept debit writes ?_
      intro adds
      rw [nothing] at adds
      rcases moved.reopened same found met with ⟨free, none⟩ | empty
      · rw [← adds] at none
        exact Moved.free free none
      · exact Moved.unbooked (adds.trans empty)
    | @settled _ _ booking _ met debit settles writes =>
      refine kept debit writes ?_
      intro adds
      have submitted := settles.of_sameDebit same
      rcases moved.reopened same found met with ⟨free, none⟩ | empty
      · refine Moved.free free ?_
        intro entry member
        rw [adds] at member
        rcases mem_append.mp member with old | new
        · exact none entry old
        · rw [mem_entries new, ← free]
          exact submitted.returned
      · rw [empty, nil_append] at adds
        exact Moved.settled adds submitted
  · obtain ⟨_, change, record, booking, writes⟩ := turn.writes
    obtain ⟨row_same, _, bookings⟩ := writes.others here
    refine ⟨later, row_same.trans found, same, ?_⟩
    cases moved with
    | free free none =>
      rw [← bookings] at none
      exact Moved.free free none
    | unbooked empty =>
      exact Moved.unbooked (bookings.trans empty)
    | settled booked settles =>
      exact Moved.settled (bookings.trans booked) settles

variable {row : Job}

theorem Turns.remains (turns : Turns (MayTurn row.jobId) before after)
    (remains : Remains row before) : Remains row after := by
  induction turns with
  | refl =>
    exact remains
  | tail _ turn ih =>
    obtain ⟨job, turn⟩ := turn
    exact turn.remains ih

theorem Remains.step {action : LifecycleAction} (remains : Remains row before)
    (inTime : RefundsInTime row.jobId before action)
    (fires : Fires lifecycleNext before action after) :
    Remains row after :=
  (lifecycle_turns (fun _ _ live _ => Or.inl live) inTime fires).remains remains

theorem Remains.jobRefundedOnce {db : Database}
    (remains : Remains row db) : JobRefundedOnce row.jobId db := by
  obtain ⟨later, found, same, moved⟩ := remains
  intro stored member
  rw [Option.mem_def, found] at member
  cases member
  exact moved.refundedOnce same found

/-- A job for which no money has been moved is refunded once, over every run
that never rewrites its row after its money has been moved. -/
theorem job_refunded_once_of_inTime {start finish : Database} {row : Job}
    {actions : List LifecycleAction}
    (found : start.jobs.lookup row.jobId = some row) (unbooked : Unbooked start row)
    (run : Run (guarded (Fires lifecycleNext) (RefundsInTime row.jobId)) start actions finish) :
    JobRefundedOnce row.jobId finish := by
  have initially : Remains row start := ⟨row, found, SameDebit.refl row, Moved.unbooked unbooked⟩
  exact (run.invariant (Remains row) (fun remains step => remains.step step.1 step.2)
    initially).jobRefundedOnce

def Database.balances (db : Database) : List Int :=
  db.renters.rows.map Renter.balanceHalala

theorem job_refunded_once_of_inTime_sample :
    ∃ finish, execute lifecycleNext sampleDatabase
      [.progress 1 5 "pulling" 1000, .fail sampleFailure 2000,
        .fail sampleFailure 3000, .enforceJobTimeouts 9000000] =
        some finish ∧
      JobRefundedOnce 5 finish ∧ finish.balances = [1000] := by
  refine exists_executed_guarded (RefundsInTime 5)
    (·.balances = [1000]) (by decide +kernel) ?_
  intro finish inTime balances
  exact ⟨@job_refunded_once_of_inTime sampleDatabase finish sampleJob _ (by
    decide) (by decide) inTime, balances⟩

/-- A failed job is cancelled and returns its cost twice; a completed one,
whose provider has the full cost, is pulled again and fails. -/
theorem job_refunded_twice :
    (∃ finish, execute lifecycleNext sampleDatabase
      [.fail sampleFailure 1000, .cancel 5 (.renter 2) 2000] = some finish ∧
      ¬ JobRefundedOnce 5 finish ∧ finish.balances = [2000]) ∧
      ∃ finish, execute lifecycleNext sampleDatabase
        [.result sampleResult 600000, .progress 1 5 "pulling" 700000,
          .fail sampleFailure 800000] = some finish ∧
          ¬ JobRefundedOnce 5 finish ∧ finish.balances = [1000] :=
  ⟨exists_of_execute_any (by decide +kernel), exists_of_execute_any (by decide +kernel)⟩

end DcpPlatform.Jobs
