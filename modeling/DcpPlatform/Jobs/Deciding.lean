import DcpPlatform.Jobs.SettledOnce

/-!
# One report about a followed job

For every endpoint: does the job stay settled once and within its debit?
`Decides` collects the answers, and with them that the job can be followed
further.
-/

namespace DcpPlatform.Jobs

open Foundation List

/-! ## Ending a job -/

structure Ends (row settled : Job) (price : Int) : Prop where
  jobId : settled.jobId = row.jobId
  cost : settled.costHalala = row.costHalala
  renter : settled.renterId = row.renterId
  ended : settled.status.isTerminal = true
  actual : settled.actualCostHalala = some price
  shares : settled.providerEarnedHalala.getD 0 + settled.dc1FeeHalala.getD 0 = price
  nonneg : 0 ≤ price

theorem Ends.setRefundedAt {row settled : Job} {price : Int}
    (ends : Ends row settled price) (now : Int) :
    Ends row (settled.setRefundedAt now) price :=
  { ends with }

theorem ends_setPriced {status : JobStatus}
    (ended : status.isTerminal = true) (row : Job) (now : Int)
    (usage : Job.Usage) (cost : ThreeComponentCost) :
    Ends row (row.setPriced status now usage cost (splitBilling (max 0 cost.totalHalala)))
      (max 0 cost.totalHalala) where
  jobId := rfl
  cost := rfl
  renter := rfl
  ended := ended
  actual := rfl
  shares := splitBilling_gross _
  nonneg := le_max_left _ _

theorem ends_setReported {status : JobStatus} (ended : status.isTerminal = true) (row : Job)
    (now minutes elapsed : Int) {price : Int} (nonneg : 0 ≤ price) :
    Ends row (row.setReported status now minutes elapsed price (splitEarnings price)) price where
  jobId := rfl
  cost := rfl
  renter := rfl
  ended := ended
  actual := rfl
  shares := splitEarnings_gross _
  nonneg := nonneg

section Ending

variable {before after : Database} {row settled : Job} {price : Int}
    {change : Job → Job} {booking : Booking}

theorem settledOnce_iff_of_ends (ends : Ends row settled price) (unsettled : Unsettled before row)
    (writes :
      Writes before after row.jobId change (before.billingRecords.lookup row.jobId) booking) :
    SettledOnce after settled ↔
      (before.bookingsFor row.jobId ++ booking.entries).length ≤ 1 ∧ (∀ column,
        before.earnedFor row.jobId column + booking.earned column +
          (before.feesFor row.jobId + booking.fee) ≤
          row.costHalala - booking.returned) ∧
        (settled.status = .completed → price ≤ row.costHalala - booking.returned) ∧
        (∀ record ∈ before.billingRecords.lookup row.jobId,
          record.providerEarningHalala + record.platformFeeHalala ≤
            row.costHalala - booking.returned) ∧
        (price < row.costHalala → row.costHalala - price ≤ booking.returned) := by
  have returned : after.returnedFor row.jobId = booking.returned := by
    rw [writes.adds.returnedFor, unsettled.unreturned, zero_add]
  have debited : after.debitedFor settled = row.costHalala - booking.returned := by
    rw [Database.debitedFor, ends.jobId, ends.cost, returned]
  have costed : after.actualCostFor settled = some price := by
    rw [Database.actualCostFor, ends.actual]
    rfl
  constructor
  · intro sound
    refine ⟨?_, ?_, ?_, ?_, ?_⟩
    · have once := sound.once
      rw [ends.jobId, writes.adds] at once
      exact once
    · intro column
      have most := sound.columns column
      rw [ends.jobId, debited, writes.adds.earnedFor, writes.adds.feesFor] at most
      exact most
    · intro completed
      have most := sound.onRow completed
      rw [ends.shares, debited] at most
      exact most
    · have most := sound.onRecord
      rw [ends.jobId, debited, writes.recorded] at most
      exact most
    · have made := sound.difference price costed
      rw [ends.jobId, ends.cost, returned] at made
      exact made
  · rintro ⟨once, columns, onRow, onRecord, difference⟩
    refine ⟨?_, ?_, ?_, ?_, ?_⟩
    · rw [ends.jobId, writes.adds]
      exact once
    · intro column
      rw [ends.jobId, debited, writes.adds.earnedFor, writes.adds.feesFor]
      exact columns column
    · rw [ends.shares, debited]
      exact onRow
    · rw [ends.jobId, debited, writes.recorded]
      exact onRecord
    · intro actual isActual
      rw [costed] at isActual
      injection isActual with same
      rw [ends.jobId, ends.cost, returned, ← same]
      exact difference

theorem Unbooked.earnedFor (unbooked : Unbooked before row)
    (column : Column) : before.earnedFor row.jobId column = 0 := by
  have empty : before.bookingsFor row.jobId = [] := unbooked
  rw [Database.earnedFor, empty]
  rfl

theorem Unbooked.feesFor (unbooked : Unbooked before row) :
    before.feesFor row.jobId = 0 := by
  have empty : before.bookingsFor row.jobId = [] := unbooked
  rw [Database.feesFor, empty]
  rfl

theorem unbooked_of_length (once : (before.bookingsFor row.jobId ++ booking.entries).length ≤ 1)
    (something : ¬ booking.IsNothing) : Unbooked before row := by
  rw [Booking.entries_of_something something, length_append, length_singleton] at once
  apply length_eq_zero_iff.mp
  omega

theorem length_of_unbooked (unbooked : Unbooked before row) :
    (before.bookingsFor row.jobId ++ booking.entries).length ≤ 1 := by
  have empty : before.bookingsFor row.jobId = [] := unbooked
  rw [empty, nil_append, Booking.entries]
  split
  · exact Nat.zero_le 1
  · exact le_refl 1

theorem settledOnce_iff_of_unmoved (ends : Ends row settled price)
    (unsettled : Unsettled before row)
    (writes : Writes before after row.jobId change (before.billingRecords.lookup row.jobId)
      (Booking.nothing row.jobId))
    (sound : SettledOnce before row) :
    SettledOnce after settled ↔
      (settled.status = .completed → price ≤ row.costHalala) ∧ row.costHalala ≤ price := by
  have debited : before.debitedFor row = row.costHalala := by
    rw [Database.debitedFor, unsettled.unreturned, sub_zero]
  rw [settledOnce_iff_of_ends ends unsettled writes,
    Booking.entries_of_nothing (Booking.nothing_isNothing row.jobId),
    append_nil]
  simp only [Booking.nothing, add_zero, sub_zero]
  constructor
  · rintro ⟨_, _, onRow, _, difference⟩
    refine ⟨onRow, ?_⟩
    by_contra less
    omega
  · rintro ⟨onRow, exhausted⟩
    refine ⟨sound.once, ?_, onRow, ?_, ?_⟩
    · intro column
      have most := sound.columns column
      rw [debited] at most
      exact most
    · have most := sound.onRecord
      rw [debited] at most
      exact most
    · intro less
      omega

theorem settledOnce_iff_of_refund (ends : Ends row settled price) (unsettled : Unsettled before row)
    (writes : Writes before after row.jobId change
      (before.billingRecords.lookup row.jobId) (refundBooking row))
    (refundable : Refundable row) (failed : settled.status ≠ .completed) :
    SettledOnce after settled ↔ Unbooked before row := by
  have something : ¬ (refundBooking row).IsNothing := by
    intro nothing
    have paid := refundable.2.1
    have returned : row.costHalala = 0 := nothing.2.2
    omega
  rw [settledOnce_iff_of_ends ends unsettled writes]
  constructor
  · rintro ⟨once, _⟩
    exact unbooked_of_length once something
  · intro unbooked
    have nonneg := ends.nonneg
    refine ⟨length_of_unbooked unbooked, ?_, fun completed => absurd completed failed, ?_, ?_⟩
    · intro column
      rw [unbooked.earnedFor, unbooked.feesFor]
      simp only [refundBooking]
      omega
    · intro record recorded
      rw [unsettled.billed record recorded unbooked]
      simp only [refundBooking]
      omega
    · intro _
      simp only [refundBooking]
      omega

structure Credits (booking : Booking) (split : Split) : Prop where
  fair : split.Fair
  claimable : booking.earned .claimable = split.provider
  least : ∀ column, 0 ≤ booking.earned column
  most : ∀ column, booking.earned column ≤ split.provider
  fee : booking.fee = split.fee

variable {split : Split}

theorem Credits.most_gross (credits : Credits booking split) (column : Column) :
    booking.earned column + booking.fee ≤ split.gross := by
  have most := credits.most column
  rw [credits.fee, Split.gross]
  omega

theorem Credits.nothing_of_gross (credits : Credits booking split) (returned : booking.returned = 0)
    (free : split.gross = 0) : booking.IsNothing := by
  have provider := credits.fair.provider
  have fee := credits.fair.fee
  rw [Split.gross] at free
  have zero : ∀ column, booking.earned column = 0 := by
    intro column
    have most := credits.most column
    have least := credits.least column
    omega
  refine ⟨⟨zero _, zero _, zero _⟩, ?_, returned⟩
  rw [credits.fee]
  omega

theorem Credits.gross_of_nothing (credits : Credits booking split) (nothing : booking.IsNothing) :
    split.gross = 0 := by
  rw [Split.gross, ← credits.claimable, ← credits.fee, nothing.earned, nothing.2.1, add_zero]

theorem settledOnce_iff_of_credit (ends : Ends row settled price) (unsettled : Unsettled before row)
    (writes : Writes before after row.jobId change (before.billingRecords.lookup row.jobId) booking)
    (credits : Credits booking split) (gross : split.gross = price)
    (completed : settled.status = .completed) :
    SettledOnce after settled ↔ Unbooked before row ∧ price ≤ row.costHalala - booking.returned ∧
      (price < row.costHalala → row.costHalala - price ≤ booking.returned) := by
  rw [settledOnce_iff_of_ends ends unsettled writes]
  constructor
  · rintro ⟨once, _, onRow, _, difference⟩
    refine ⟨?_, onRow completed, difference⟩
    by_contra booked
    by_cases nothing : booking.IsNothing
    · have positive := unsettled.booked booked
      have free := credits.gross_of_nothing nothing
      rw [gross] at free
      have made := difference (by omega)
      rw [nothing.2.2] at made
      omega
    · exact booked (unbooked_of_length once nothing)
  · rintro ⟨unbooked, most, difference⟩
    have nonneg := ends.nonneg
    refine ⟨length_of_unbooked unbooked, ?_, fun _ => most, ?_, difference⟩
    · intro column
      have bounded := credits.most_gross column
      rw [gross] at bounded
      rw [unbooked.earnedFor, unbooked.feesFor]
      omega
    · intro record recorded
      rw [unsettled.billed record recorded unbooked]
      omega

end Ending

def Written (before after : Database) (jobId : Nat) : Prop :=
  ∃ change record booking, Writes before after jobId change record booking

theorem Writes.written {before after : Database} {jobId : Nat}
    {change : Job → Job} {record : Option BillingRecord} {booking : Booking}
    (writes : Writes before after jobId change record booking) :
    Written before after jobId :=
  ⟨change, record, booking, writes⟩

section Followed

variable {source target : System} {row settled : Job} {price : Int}

theorem Followed.of_ends (followed : Followed source row) (live : row.status.isTerminal = false)
    (ends : Ends row settled price) (calls : target.calls = source.calls) :
    Followed target settled where
  renter := by
    rw [ends.renter]
    exact followed.renter
  prepaid := by
    rw [ends.cost]
    exact followed.prepaid
  calls := by
    intro call member about cost recorded
    rw [calls] at member
    rw [ends.jobId] at about
    rw [followed.calls_uncosted live member about] at recorded
    cases recorded
  phase := by
    right
    rw [ends.actual]
    exact ⟨ends.ended, rfl⟩

theorem Decides.of_written {written : Nat} {condition : Prop}
    (found : source.db.jobs.lookup row.jobId = some row)
    (followed : Followed source row) (writes : Written source.db target.db written)
    (different : row.jobId ≠ written) (calls : target.calls ⊆ source.calls)
    (met : condition) : Decides row.jobId source target condition := by
  obtain ⟨change, record, booking, writes⟩ := writes
  obtain ⟨sameRow, sameRecord, sameBookings⟩ := writes.others different
  exact Decides.of_same found (sameRow.trans found) followed ⟨sameRecord, sameBookings⟩
    (fun call member _ => Or.inl (calls member)) met

end Followed

section Result

variable {db after : Database} {job : Job} {report : ResultReport} {now : Int}

theorem live_of_active (active : job.status ∈ [JobStatus.running, .assigned, .pulling]) :
    job.status.isTerminal = false := by
  cases status : job.status with
  | pending | queued | assigned | pulling | running | paused => rfl
  | completed | failed | stopped | cancelled =>
    rw [status] at active
    simp at active

theorem postResult_of_accepts (found : db.jobs.lookup report.jobId = some job)
    (accepts : AcceptsResult job report) :
    ∃ gpuSeconds, reportedGpuSeconds job report = some gpuSeconds ∧
      postResult db report now = .ok (settleResult db job report gpuSeconds now) := by
  obtain ⟨gpuSeconds, reported⟩ := Option.isSome_iff_exists.mp accepts.gpuSeconds
  refine ⟨gpuSeconds, reported, ?_⟩
  have valid : ¬ (report.durationSeconds ≠ .missing ∧ reportedDuration job report = none) := by
    rintro ⟨present, unreadable⟩
    rcases accepts.duration with missing | readable
    · exact present missing
    · rw [unreadable] at readable
      cases readable
  simp only [postResult, found]
  rw [if_neg (not_not.mpr accepts.reporter), if_neg (not_not.mpr accepts.active), if_neg valid,
    if_neg accepts.final, reported]

theorem postResult_of_not_accepts (found : db.jobs.lookup report.jobId = some job)
    (refused : ¬ AcceptsResult job report)
    (posted : postResult db report now = .ok after) :
    job.status.isTerminal = false ∧ after = { db with
      jobs := db.jobs.update job.jobId (Job.setTransient now) (Job.setTransient_jobId now) } := by
  simp only [postResult, found] at posted
  split at posted
  · cases posted
  · rename_i reporter
    split at posted
    · cases posted
    · rename_i active
      split at posted
      · cases posted
      · rename_i duration
        split at posted
        · injection posted with same
          exact ⟨live_of_active (not_not.mp active), same.symm⟩
        · rename_i final
          split at posted
          · cases posted
          · rename_i gpuSeconds reported
            refine absurd ?_ refused
            refine
              { reporter := not_not.mp reporter
                active := not_not.mp active
                duration := ?_
                final := final
                gpuSeconds := by rw [reported]; rfl }
            by_contra neither
            rw [not_or, Option.not_isSome_iff_eq_none] at neither
            exact duration neither

end Result

section Deciding

variable {source : System} {row : Job} {now : Int} {change : Job → Job} {price : Int}

theorem refundFailed_decides {ended : Database} (found : source.db.jobs.lookup row.jobId = some row)
    (followed : Followed source row) (live : row.status.isTerminal = false)
    (writes : Writes source.db ended row.jobId change (source.db.billingRecords.lookup row.jobId)
      (Booking.nothing row.jobId))
    (ends : Ends row (change row) price) (failed : (change row).status = .failed) :
    Decides row.jobId source { source with db := refundFailed now ended row }
      (Refundable row → Unbooked source.db row) := by
  have unsettled := followed.unsettled live
  have incomplete : (change row).status ≠ .completed := by
    rw [failed]
    decide
  by_cases refundable : Refundable row
  · have refunds := writes.refund now refundable
    apply Decides.of_row (refunds.row found)
    · intro _ _
      exact followed.of_ends live (ends.setRefundedAt now) rfl
    · intro _
      rw [settledOnce_iff_of_refund (ends.setRefundedAt now) unsettled
        refunds refundable incomplete]
      exact ⟨fun unbooked _ => unbooked, fun all => all refundable⟩
  · have free : row.costHalala ≤ 0 := by
      by_contra paid
      exact refundable ⟨followed.renter, not_le.mp paid, unsettled.unrefunded⟩
    have same : refundFailed now ended row = ended := if_neg refundable
    rw [same]
    apply Decides.of_row (writes.row found)
    · intro _ _
      exact followed.of_ends live ends rfl
    · intro sound
      rw [settledOnce_iff_of_unmoved ends unsettled writes (sound row found)]
      refine iff_of_true ⟨?_, free.trans ends.nonneg⟩ ?_
      · intro completed
        exact absurd completed incomplete
      · intro paid
        exact absurd paid refundable

theorem resultBooking_credits (job : Job) {split : Split}
    (fair : split.Fair) : Credits (resultBooking job split) split where
  fair := fair
  claimable := rfl
  least := fun _ => fair.provider
  most := fun _ => le_refl _
  fee := rfl

variable {split : Split}

theorem earnedBooking_credits (job : Job) (fair : split.Fair) (returned : Int) :
    Credits (earnedBooking job split returned) split where
  fair := fair
  claimable := rfl
  least := by
    intro column
    cases column with
    | claimable | totalEarnings => exact fair.provider
    | totalEarningsHalala => exact le_refl 0
  most := by
    intro column
    cases column with
    | claimable | totalEarnings => exact le_refl _
    | totalEarningsHalala => exact fair.provider
  fee := rfl

theorem credit_decides {credited : Database} {booking : Booking}
    (found : source.db.jobs.lookup row.jobId = some row)
    (followed : Followed source row) (live : row.status.isTerminal = false)
    (writes : Writes source.db credited row.jobId change
      (source.db.billingRecords.lookup row.jobId) booking)
    (ends : Ends row (change row) price)
    (completed : (change row).status = .completed)
    (credits : Credits booking split) (gross : split.gross = price) :
    Decides row.jobId source { source with db := credited }
      (Unbooked source.db row ∧ price ≤ row.costHalala - booking.returned ∧
        (price < row.costHalala → row.costHalala - price ≤ booking.returned)) := by
  apply Decides.of_row (writes.row found)
  · intro _ _
    exact followed.of_ends live ends rfl
  · intro _
    exact settledOnce_iff_of_credit ends (followed.unsettled live) writes credits gross completed

theorem Decides.congr {target : System} {first second : Prop}
    (decides : Decides row.jobId source target first)
    (same : first ↔ second) : Decides row.jobId source target second where
  tracked := decides.tracked
  decides := fun sound => (decides.decides sound).trans same

theorem exact_iff_of_unreturned {unbooked : Prop} {price cost : Int} :
    unbooked ∧ price ≤ cost - 0 ∧ (price < cost → cost - price ≤ 0) ↔ unbooked ∧ price = cost := by
  rw [sub_zero]
  constructor
  · rintro ⟨first, most, difference⟩
    refine ⟨first, ?_⟩
    by_contra different
    omega
  · rintro ⟨first, same⟩
    refine ⟨first, by omega, ?_⟩
    intro less
    omega

theorem settleResult_decides {report : ResultReport} {gpuSeconds : ℚ}
    (found : source.db.jobs.lookup row.jobId = some row)
    (followed : Followed source row) (live : row.status.isTerminal = false)
    (reported : reportedGpuSeconds row report = some gpuSeconds) :
    Decides row.jobId source { source with
      db := settleResult source.db row report gpuSeconds now }
      (ResultSettlesRight source.db row report) := by
  obtain ⟨priced, writes, settled⟩ := settleResult_writes source.db row now report gpuSeconds
  rw [settled, ResultSettlesRight]
  cases has : report.hasResult with
  | true =>
    simp only [has, if_true] at writes ⊢
    have decides := credit_decides found followed live
        ((writes.book (resultBooking row _) rfl).addJob row.providerId)
        (ends_setPriced rfl row now _ _) rfl
        (resultBooking_credits row (splitBilling_fair (le_max_left _ _)))
        (splitBilling_gross _)
    rw [resultPrice, reported]
    exact decides.congr exact_iff_of_unreturned
  | false =>
    simp only [has, Bool.false_eq_true, if_false] at writes ⊢
    exact refundFailed_decides found followed live writes (ends_setPriced rfl row now _ _) rfl

theorem settleComplete_decides (found : source.db.jobs.lookup row.jobId = some row)
    (followed : Followed source row) (live : row.status.isTerminal = false) :
    Decides row.jobId source { source with db := settleComplete source.db row now }
      (CompleteSettlesRight source.db row now) := by
  have decides := credit_decides found followed live (settleComplete_writes source.db row now)
      (ends_setPriced rfl row now _ _) rfl
      (earnedBooking_credits row (splitBilling_fair (le_max_left _ _)) 0)
      (splitBilling_gross _)
  exact decides.congr exact_iff_of_unreturned

theorem jobResultPrice_nonneg (job : Job) (provider : Provider)
    (report : JobResultReport) (now : Int) :
    0 ≤ jobResultPrice job provider report now := by
  unfold jobResultPrice
  split
  · rename_i pod
    exact le_min (le_max_left _ _) (le_of_lt pod.2)
  · exact le_max_left _ _

theorem settleJobResult_decides {provider : Provider} {report : JobResultReport}
    (found : source.db.jobs.lookup row.jobId = some row)
    (followed : Followed source row) (live : row.status.isTerminal = false) :
    Decides row.jobId source { source with
      db := settleJobResult source.db row provider report now }
      (JobResultSettlesRight source.db row provider report now) := by
  have nonneg := jobResultPrice_nonneg row provider report now
  obtain ⟨released, writes, settled⟩ := settleJobResult_writes source.db row now provider report
  rw [settled, JobResultSettlesRight]
  by_cases owned : BillingOwnedByV1 row
  · rw [if_pos owned, if_pos owned]
    have ends := @ends_setReported (if report.success then .completed else .failed)
        (by cases report.success <;> rfl) row now (elapsedMinutes row now)
        (mathRound (elapsedSeconds row now)) _ nonneg
    apply Decides.of_row (writes.row found)
    · intro _ _
      exact followed.of_ends live ends rfl
    · intro sound
      rw [settledOnce_iff_of_unmoved ends (followed.unsettled live) writes (sound row found)]
      cases has : report.success with
      | true =>
        simp only [Job.setReported, if_true, forall_true_left]
        exact (le_antisymm_iff).symm
      | false =>
        simp [Job.setReported]
  · rw [if_neg owned, if_neg owned]
    cases has : report.success with
    | true =>
      simp only [has, if_true] at writes ⊢
      have returned : jobResultReturned row (jobResultPrice row provider report now) =
          row.costHalala - jobResultPrice row provider report now :=
        if_pos followed.renter
      have paid := ((writes.book (earnedBooking row
          (splitEarnings (jobResultPrice row provider report now))
          (jobResultReturned row (jobResultPrice row provider report now))) rfl).addJob
          (some provider.id)).updateRenter row.renterId
            (Renter.addSpending_id (jobResultPrice row provider report now))
            (fun _ => rfl)
      have decides := credit_decides found followed live paid
          (ends_setReported rfl row now _ _ nonneg) rfl
          (earnedBooking_credits row (splitEarnings_fair nonneg) _)
          (splitEarnings_gross _)
      apply decides.congr
      simp only [earnedBooking, returned]
      constructor
      · exact And.left
      · intro unbooked
        exact ⟨unbooked, by omega, fun _ => le_refl _⟩
    | false =>
      simp only [has, Bool.false_eq_true, if_false] at writes ⊢
      exact refundFailed_decides found followed live writes
        (ends_setReported rfl row now _ _ nonneg) rfl

end Deciding

section Call

variable {before after : Database} {row : Job} {call : CompleteCall}

theorem CompleteCall.grossCost_nonneg (db : Database)
    (call : CompleteCall) : 0 ≤ call.grossCost db := by
  unfold CompleteCall.grossCost
  split
  · rename_i cost recorded
    have positive := (Option.mem_filter_iff.mp recorded).2
    exact le_of_lt (of_decide_eq_true positive)
  · split
    · positivity
    · split
      · exact le_max_left _ _
      · exact le_refl 0

theorem CompleteCall.booking_credits (call : CompleteCall) {split : Split}
    (fair : split.Fair) : Credits (call.booking split) split where
  fair := fair
  claimable := rfl
  least := by
    intro column
    cases column with
    | claimable => exact fair.provider
    | totalEarnings | totalEarningsHalala => exact le_refl 0
  most := by
    intro column
    cases column with
    | claimable => exact le_refl _
    | totalEarnings | totalEarningsHalala => exact fair.provider
  fee := rfl

theorem CompleteCall.booked_returned (db : Database)
    (call : CompleteCall) : (call.booked db).returned = 0 := by
  unfold CompleteCall.booked
  split <;> rfl

theorem CompleteCall.booked_credits (db : Database) (unpaid : call.recordedCost = none) :
    Credits (call.booked db) (splitPlatformFee (call.grossCost db)) := by
  rw [CompleteCall.booked, if_pos unpaid]
  exact call.booking_credits (splitPlatformFee_fair (call.grossCost_nonneg db))

theorem CompleteCall.booked_of_first
    (first : call.recordedCost = none → Unbooked before row ∨ call.grossCost before = 0) :
    (call.booked before).IsNothing ∨ Unbooked before row ∧
      Credits (call.booked before) (splitPlatformFee (call.grossCost before)) := by
  by_cases unpaid : call.recordedCost = none
  · have credits := call.booked_credits before unpaid
    rcases first unpaid with unbooked | free
    · exact Or.inr ⟨unbooked, credits⟩
    · left
      apply credits.nothing_of_gross (call.booked_returned before)
      rw [splitPlatformFee_gross, free]
  · left
    rw [CompleteCall.booked, if_neg unpaid]
    exact Booking.nothing_isNothing _

variable {status : AttestationStatus} {now : Int}

theorem settledOnce_iff_of_call (sound : SettledOnce before row)
    (unreturned : row.actualCostHalala = none → before.returnedFor row.jobId = 0)
    (writes : Writes before after row.jobId (Job.setBilled status)
      (some (call.record (call.grossCost before) (splitPlatformFee (call.grossCost before)) now))
      (call.booked before)) :
    SettledOnce after (row.setBilled status) ↔ CallSettlesRight before row call := by
  have returned : after.returnedFor row.jobId = before.returnedFor row.jobId := by
    rw [writes.adds.returnedFor, call.booked_returned, add_zero]
  have debited : after.debitedFor (row.setBilled status) = before.debitedFor row := by
    rw [Database.debitedFor, Job.setBilled_jobId, returned]
    rfl
  have actualCost : after.actualCostFor (row.setBilled status) =
      row.actualCostHalala.or (some (call.grossCost before)) := by
    rw [Database.actualCostFor, Job.setBilled_jobId, writes.recorded]
    rfl
  have cost : (row.setBilled status).costHalala = row.costHalala := rfl
  have gross : ∀ total : Int, (splitPlatformFee total).provider + (splitPlatformFee total).fee =
      total :=
    splitPlatformFee_gross
  constructor
  · intro billed
    refine ⟨?_, ?_, ?_⟩
    · have most := billed.onRecord _ writes.recorded
      rw [debited] at most
      exact (gross _).symm.le.trans most
    · intro unpaid
      have credits := call.booked_credits before unpaid
      have once := billed.once
      rw [Job.setBilled_jobId, writes.adds] at once
      by_cases nothing : (call.booked before).IsNothing
      · right
        rw [← splitPlatformFee_gross (call.grossCost before)]
        exact credits.gross_of_nothing nothing
      · exact Or.inl (unbooked_of_length once nothing)
    · intro uncosted
      rw [uncosted, Option.none_or] at actualCost
      have made := billed.difference _ actualCost
      rw [Job.setBilled_jobId, cost, returned, unreturned uncosted] at made
      by_contra less
      omega
  · rintro ⟨fits, first, exhausts⟩
    have moved := call.booked_of_first first
    refine ⟨?_, ?_, ?_, ?_, ?_⟩
    · rw [Job.setBilled_jobId, writes.adds]
      rcases moved with nothing | ⟨unbooked, _⟩
      · rw [Booking.entries_of_nothing nothing, append_nil]
        exact sound.once
      · exact length_of_unbooked unbooked
    · intro column
      rw [Job.setBilled_jobId, debited, writes.adds.earnedFor, writes.adds.feesFor]
      rcases moved with nothing | ⟨unbooked, credits⟩
      · rw [nothing.earned, nothing.2.1, add_zero, add_zero]
        exact sound.columns column
      · have most := credits.most_gross column
        rw [splitPlatformFee_gross] at most
        rw [unbooked.earnedFor, unbooked.feesFor]
        omega
    · rw [debited]
      exact sound.onRow
    · rw [Job.setBilled_jobId, debited, writes.recorded]
      intro record isRecord
      cases isRecord
      exact (gross _).le.trans fits
    · intro actual isActual less
      rw [Job.setBilled_jobId, cost, returned]
      rw [cost] at less
      rw [actualCost] at isActual
      cases costed : row.actualCostHalala with
      | none =>
        rw [costed] at isActual
        cases isActual
        have most := exhausts costed
        omega
      | some known =>
        rw [costed] at isActual
        have earlier : actual ∈ before.actualCostFor row := by
          rw [Database.actualCostFor, costed]
          exact isActual
        exact sound.difference actual earlier less

theorem Unsettled.of_call (unsettled : Unsettled before row)
    (right : CallSettlesRight before row call)
    (writes : Writes before after row.jobId (Job.setBilled status)
      (some (call.record (call.grossCost before) (splitPlatformFee (call.grossCost before)) now))
      (call.booked before))
    (unpaid : call.recordedCost = none) :
    Unsettled after (row.setBilled status) where
  live := unsettled.live
  uncosted := unsettled.uncosted
  unrefunded := unsettled.unrefunded
  unreturned := by
    rw [Job.setBilled_jobId, writes.adds.returnedFor,
      call.booked_returned, unsettled.unreturned, add_zero]
  booked := by
    intro booked
    have cost : (row.setBilled status).costHalala = row.costHalala := rfl
    rw [cost]
    by_cases unbooked : Unbooked before row
    · have nonneg := call.grossCost_nonneg before
      have fits := right.fits
      rw [Database.debitedFor, unsettled.unreturned] at fits
      by_contra free
      apply booked
      have credits := call.booked_credits before unpaid
      have nothing := credits.nothing_of_gross (call.booked_returned before)
          ((splitPlatformFee_gross _).trans (by omega))
      rw [Unbooked, Job.setBilled_jobId, writes.adds,
        Booking.entries_of_nothing nothing, append_nil]
      exact unbooked
    · exact unsettled.booked unbooked
  billed := by
    intro record isRecord unbooked
    rw [Job.setBilled_jobId, writes.recorded] at isRecord
    cases isRecord
    have credits := call.booked_credits before unpaid
    rw [Unbooked, Job.setBilled_jobId, writes.adds] at unbooked
    have nothing : (call.booked before).IsNothing := by
      by_contra something
      rw [Booking.entries_of_something something] at unbooked
      simp at unbooked
    exact credits.gross_of_nothing nothing

end Call

section Calls

variable {source : System} {row : Job} {call : CompleteCall}

theorem readComplete_decides {request : CompleteRequest}
    (found : source.db.jobs.lookup row.jobId = some row)
    (followed : Followed source row)
    (read : readComplete source.db request = .ok (some call)) :
    Decides row.jobId source { source with calls := source.calls ++ [call] } True := by
  refine Decides.of_same found found followed (SameMoney.refl row.jobId source.db) ?_ trivial
  intro other member about
  rcases mem_append.mp member with earlier | last
  · exact Or.inl earlier
  · right
    rw [mem_singleton.mp last] at about ⊢
    unfold readComplete at read
    split at read
    · cases read
    · split at read
      · cases read
      · rename_i job stored
        split at read
        · cases read
        · split at read
          · cases read
          · injection read with same
            cases same
            have key := Table.lookup_key stored
            have about : job.jobId = row.jobId := about
            rw [← key, about, found] at stored
            injection stored with equal
            exact equal.symm

theorem settleCall_decides {waiting : List CompleteCall}
    {signed : Bool} {now : Int} {after : Database}
    (found : source.db.jobs.lookup row.jobId = some row)
    (followed : Followed source row) (fewer : waiting ⊆ source.calls)
    (member : call ∈ source.calls) (about : call.job.jobId = row.jobId)
    (settled : call.settle source.db signed now = .ok after) :
    Decides row.jobId source ⟨after, waiting⟩ (CallSettlesRight source.db row call) := by
  obtain ⟨_, writes⟩ := CompleteCall.settle_writes settled
  rw [about] at writes
  have decides := fun sound =>
    settledOnce_iff_of_call sound
      (fun uncosted => (followed.unsettled_of_uncosted uncosted).unreturned)
      writes
  apply Decides.of_row (writes.row found)
  · intro before sound
    have right := (decides (before row found)).mp sound
    refine ⟨followed.renter, followed.prepaid, ?_, ?_⟩
    · intro other stillWaiting
      exact followed.calls other (fewer stillWaiting)
    · rcases followed.phase with unsettled | ended
      · left
        exact unsettled.of_call right writes (followed.calls_uncosted unsettled.live member about)
      · exact Or.inr ended
  · intro before
    exact decides (before row found)

end Calls

end DcpPlatform.Jobs
