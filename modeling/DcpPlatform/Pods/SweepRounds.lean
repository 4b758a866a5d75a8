import DcpPlatform.Pods.HoldsClosed

/-!
# Rounds of the background sweeps

A round is one run of each of the three sweeps, in any order and each at its
own time. A taken pod is cleared by every round after its timeout, a waiting
one by every round after 25 minutes, if the settlement sweep has no more than
20 rows to cancel.
-/

namespace DcpPlatform.Pods

open Foundation Table List

def SweepAction.now : SweepAction → Int
  | .settleExpiredPods now => now
  | .enforceJobTimeouts now => now
  | .retrySweep now => now

def IsRound (sweeps : List SweepAction) : Prop :=
  ∃ settled enforced retried,
    sweeps.Perm [.settleExpiredPods settled, .enforceJobTimeouts enforced, .retrySweep retried]

def NotBefore (time : Int) (_ : Database) (sweep : SweepAction) : Prop :=
  time ≤ sweep.now
deriving Decidable

def Cleared (start : Database) (row : Job) (db : Database) : Prop :=
  ∃ closed, db.jobs.lookup row.id = some closed ∧ closed.status.isTerminal = true ∧
    (db.paymentsFor row.id = start.paymentsFor row.id ++
      Database.entry row.id .refund row.renterId (prepaidHalala row) ∨
      ∃ settlement : PodSettlement, settlement.Splits (prepaidHalala row) ∧
        settlement.providerEarnedHalala = podProviderEarned settlement.actualCostHalala ∧
        closed.charge = settlement.charge ∧
        db.paymentsFor row.id = start.paymentsFor row.id ++ settlement.payments row)

/-- Every round after some time clears the row. -/
def ClearsInTime (db : Database) (row : Job) : Prop :=
  ∃ time, ∀ sweeps finish, IsRound sweeps →
    Run (guarded (Fires sweepNext) (NotBefore time)) db sweeps finish → Cleared db row finish

namespace IsRound

variable {sweeps : List SweepAction}

theorem settles (round : IsRound sweeps) :
    ∃ now, .settleExpiredPods now ∈ sweeps := by
  obtain ⟨settled, enforced, retried, order⟩ := round
  exact ⟨settled, order.mem_iff.mpr (by simp)⟩

theorem enforces (round : IsRound sweeps) :
    ∃ now, .enforceJobTimeouts now ∈ sweeps := by
  obtain ⟨settled, enforced, retried, order⟩ := round
  exact ⟨enforced, order.mem_iff.mpr (by simp)⟩

end IsRound

section Cleared

variable {start source target middle after : Database} {row : Job} {now : Int}

theorem Cleared.sweep {action : SweepAction} (cleared : Cleared start row source)
    (fires : Fires sweepNext source action target) :
    Cleared start row target := by
  obtain ⟨closed, found, ended, money⟩ := cleared
  have closedId := lookup_key found
  have leaves : Leaves row.id source target := by
    rw [← closedId] at found ⊢
    exact leaves_of_ended found ended fires
  have kept := leaves.row closed found (by
      intro queued
      rw [queued] at ended
      cases ended)
  refine ⟨closed, kept, ended, ?_⟩
  rw [leaves.payments]
  exact money

theorem cleared_of_completes {settlement : PodSettlement}
    (payments : middle.paymentsFor row.id = start.paymentsFor row.id)
    (completes : Completes middle after row settlement now)
    (splits : settlement.Splits (prepaidHalala row))
    (share : settlement.providerEarnedHalala = podProviderEarned settlement.actualCostHalala)
    (leaves : Leaves row.id after target) :
    Cleared start row target := by
  obtain ⟨closed, stored, completed, _, charge⟩ := completes.stored
  have kept := leaves.row closed stored (by rw [completed]; decide)
  refine ⟨closed, kept, by rw [completed]; rfl, Or.inr ⟨settlement, splits, share, charge, ?_⟩⟩
  rw [leaves.payments, completes.payments, payments]

theorem cleared_of_returned {closed : Job}
    (payments : middle.paymentsFor row.id = start.paymentsFor row.id)
    (closing : Closing middle after row.id row closed
      (Database.entry row.id .refund row.renterId (prepaidHalala row)))
    (stored : target.jobs.lookup row.id = after.jobs.lookup row.id)
    (kept : target.paymentsFor row.id = after.paymentsFor row.id) :
    Cleared start row target := by
  refine ⟨closed, stored.trans closing.stored, closing.ended, Or.inl ?_⟩
  rw [kept, paymentsFor_of_journal closing.journal
    (fun _ member => entry_jobId member), if_pos rfl, payments]

end Cleared

section TimedOut

variable {start source target : Database} {row : Job} {now : Int}

theorem enforce_clears (still : StillRunning start row source) (timedOut : HasTimedOut now row) :
    Cleared start row (enforceJobTimeouts source now) := by
  obtain ⟨middle, before, current, after⟩ := enforceJobTimeouts_turn still.stored timedOut
  have payments := before.payments.trans still.payments
  unfold settleTimedOutJob at after
  split at after
  · rename_i running
    exact cleared_of_completes payments (completeTimedOutPod_completes now current running.2)
      (settlementFor_splits _ _ _ _) rfl after
  · obtain ⟨closed, closing, failed, _⟩ := failTimedOutJob_closing now current timedOut.live
    have stored := after.row closed closing.stored (by rw [failed]; decide)
    exact cleared_of_returned payments closing (stored.trans closing.stored.symm) after.payments

theorem expired_clears (still : StillRunning start row source)
    (member : row ∈ (source.jobs.select (IsExpired now)).take 20) :
    Cleared start row (settleExpiredPods source now) := by
  have running := (taken_current row member).1.2.1
  obtain ⟨middle, before, current, after⟩ := settleExpiredPods_turn running member
  exact cleared_of_completes (before.payments.trans still.payments)
    (settleExpiredPod_completes now current running)
    (expiredSettlement_splits row) rfl after

theorem StillRunning.leaves (unqueued : row.status ≠ .queued)
    (still : StillRunning start row source) (leaves : Leaves row.id source target) :
    StillRunning start row target where
  stored := leaves.row row still.stored unqueued
  payments := leaves.payments.trans still.payments

theorem stillRunning_or_cleared {action : SweepAction}
    (interactive : row.jobType = .interactivePod) (active : ¬ IsWaiting row)
    (still : StillRunning start row source)
    (fires : Fires sweepNext source action target) :
    StillRunning start row target ∨ Cleared start row target := by
  have unqueued : row.status ≠ .queued := fun queued =>
    active (Or.inr queued)
  cases action with
  | settleExpiredPods now =>
    cases fires
    by_cases member : row ∈ (source.jobs.select (IsExpired now)).take 20
    · exact Or.inr (expired_clears still member)
    · exact Or.inl (still.leaves unqueued (settleExpiredPods_leaves still.stored active member))
  | enforceJobTimeouts now =>
    cases fires
    by_cases timedOut : HasTimedOut now row
    · exact Or.inr (enforce_clears still timedOut)
    · exact Or.inl (still.leaves unqueued (enforceJobTimeouts_leaves still.stored timedOut))
  | retrySweep now =>
    cases fires
    exact Or.inl (still.leaves unqueued
      (retrySweep_leaves still.stored (·.1 interactive)))

def IsActive (job : Job) : Prop :=
  job.status = .running ∨ job.status = .assigned ∨ job.status = .pulling
deriving Decidable

theorem IsActive.not_waiting {job : Job} (active : IsActive job) :
    ¬ IsWaiting job := by
  rintro (pending | queued)
  · rcases active with status | status | status
    all_goals
      rw [pending] at status
      cases status
  · rcases active with status | status | status
    all_goals
      rw [queued] at status
      cases status

theorem clearsInTime_of_timeout {db : Database} {timeoutAt : Int}
    (found : db.jobs.lookup row.id = some row)
    (interactive : row.jobType = .interactivePod)
    (active : IsActive row) (timeout : row.timeoutAt = some timeoutAt) :
    ClearsInTime db row := by
  refine ⟨timeoutAt + 1000, ?_⟩
  intro sweeps finish round run
  obtain ⟨now, member⟩ := round.enforces
  refine run.reaches (StillRunning db row) (Cleared db row) ?_ ?_ ?_ ⟨found, rfl⟩ member
  · intro source target action still taken
    exact stillRunning_or_cleared interactive active.not_waiting still taken.2
  · intro source target still taken
    obtain ⟨late, ⟨⟩⟩ := taken
    apply enforce_clears still
    refine ⟨active, timeoutAt, timeout, ?_⟩
    simp only [NotBefore, SweepAction.now] at late
    simp only [datetime]
    omega
  · intro source target action cleared taken
    exact cleared.sweep taken.2

end TimedOut

/-! ## Pods that wait -/

def Unreported (job : Job) : Prop :=
  job.jupyterHostPort = none ∧ job.accessUrl = none
deriving Decidable

def TurnsStale (job : Job) : Prop :=
  job.jobType = .interactivePod ∧ IsWaiting job ∧ Unreported job ∧
    (job.submittedAt.or job.createdAt).isSome
deriving Decidable

theorem IsStale.turnsStale {now : Int} {job : Job} (stale : IsStale now job) : TurnsStale job := by
  obtain ⟨interactive, waiting, port, url, submittedAt, submitted, _⟩ := stale
  exact ⟨interactive, waiting, ⟨port, url⟩, by rw [submitted]; rfl⟩

/-- The settlement sweep does not have to leave a row for its next run. -/
def FitsOneRun (db : Database) : Prop :=
  (db.jobs.select TurnsStale).length ≤ 20
deriving Decidable

/-- No row comes to be cancelled that was not before. -/
def NoneTurnsStale (before after : Database) : Prop :=
  ∀ jobId later, after.jobs.lookup jobId = some later → TurnsStale later →
    ∃ job, before.jobs.lookup jobId = some job ∧ TurnsStale job

namespace NoneTurnsStale

theorem refl (db : Database) : NoneTurnsStale db db :=
  fun _ later found stale => ⟨later, found, stale⟩

theorem trans {first second third : Database}
    (earlier : NoneTurnsStale first second) (later : NoneTurnsStale second third) :
    NoneTurnsStale first third := by
  intro jobId row found stale
  obtain ⟨job, jobFound, jobStale⟩ := later jobId row found stale
  exact earlier jobId job jobFound jobStale

theorem of_closing {before after : Database} {jobId : Nat}
    {row closed : Job} {payments : List Payment}
    (closing : Closing before after jobId row closed payments) :
    NoneTurnsStale before after := by
  intro other later found stale
  by_cases here : other = jobId
  · subst here
    rw [closing.stored] at found
    injection found with same
    have ended := closing.ended
    rw [same, stale.2.1.live] at ended
    cases ended
  · rw [closing.others other here] at found
    exact ⟨later, found, stale⟩

theorem sweepClosed : SweepClosed NoneTurnsStale where
  reflexive := refl
  transitive := trans
  settling := by
    intro db after job _ settling _
    cases settling with
    | untouched => exact refl db
    | charged closing _ _ | returned closing _ _ => exact of_closing closing
  promoted := by
    intro db job now found queued jobId later laterFound stale
    rcases lookup_of_lookup_update (Job.setPromoted_id now)
        laterFound with ⟨_, earlier, stored, promoted⟩ | ⟨_, stored⟩
    · subst promoted
      obtain rfl : jobId = job.id := by assumption
      rw [found] at stored
      cases stored
      exact ⟨job, found, stale.1, Or.inr queued, stale.2.2⟩
    · exact ⟨later, stored, stale⟩

theorem retrySweep (db : Database) (now : Int) :
    NoneTurnsStale db (retrySweep db now) := by
  intro jobId later found stale
  rw [retrySweep_lookup] at found
  obtain ⟨job, jobFound, changed⟩ := Option.map_eq_some_iff.mp found
  by_cases candidate : RetryCandidate now job
  · rw [if_pos candidate] at changed
    have jobType : later.jobType = job.jobType := by
      rw [← changed]
      unfold updateJobForRetry
      split <;> rfl
    exact absurd (jobType.symm.trans stale.1) candidate.1
  · rw [if_neg candidate] at changed
    rw [changed] at jobFound
    exact ⟨later, jobFound, stale⟩

theorem sweep {source target : Database} {action : SweepAction}
    (fires : Fires sweepNext source action target) :
    NoneTurnsStale source target := by
  cases action with
  | settleExpiredPods now =>
    cases fires
    exact sweepClosed.settleExpiredPods source now
  | enforceJobTimeouts now =>
    cases fires
    exact sweepClosed.enforceJobTimeouts source now
  | retrySweep now =>
    cases fires
    exact retrySweep source now

theorem fitsOneRun {before after : Database}
    (noneTurns : NoneTurnsStale before after) (fits : FitsOneRun before) :
    FitsOneRun after := by
  have ids :
      (after.jobs.select TurnsStale).map Job.id ⊆ (before.jobs.select TurnsStale).map Job.id := by
    intro jobId member
    obtain ⟨later, laterMember, rfl⟩ := mem_map.mp member
    obtain ⟨stale, found⟩ := mem_select laterMember
    obtain ⟨job, jobFound, jobStale⟩ := noneTurns later.id later found stale
    have rowId := lookup_key jobFound
    rw [← rowId] at jobFound ⊢
    exact mem_map_of_mem (mem_select_iff.mpr ⟨jobStale, jobFound⟩)
  have lengths := (List.Nodup.subperm (select_nodup _ _) ids).length_le
  rw [length_map, length_map] at lengths
  exact lengths.trans fits

end NoneTurnsStale

structure StaysQueued (jobId : Nat) (before after : Database) : Prop where
  row : ∀ row, before.jobs.lookup jobId = some row → IsWaiting row → ∃ later,
    after.jobs.lookup jobId = some later ∧
      (later = row ∨ ∃ promotedAt, later = row.setPromoted promotedAt)
  payments : after.paymentsFor jobId = before.paymentsFor jobId

theorem isWaiting_setPromoted (now : Int) (job : Job) :
    IsWaiting (job.setPromoted now) :=
  Or.inl rfl

namespace StaysQueued

variable {jobId : Nat}

theorem of_sameJob {before after : Database} (same : SameJob jobId before after) :
    StaysQueued jobId before after where
  row := by
    intro row found _
    exact ⟨row, same.row.trans found, Or.inl rfl⟩
  payments := same.payments

theorem refl (db : Database) : StaysQueued jobId db db :=
  of_sameJob (SameJob.refl jobId db)

theorem trans {first second third : Database} (earlier : StaysQueued jobId first second)
    (later : StaysQueued jobId second third) :
    StaysQueued jobId first third where
  row := by
    intro row found waiting
    obtain ⟨middle, middleFound, rfl | ⟨promotedAt, rfl⟩⟩ := earlier.row row found waiting
    · exact later.row middle middleFound waiting
    · obtain ⟨last, lastFound, rfl | ⟨againAt, rfl⟩⟩ :=
        later.row _ middleFound (isWaiting_setPromoted promotedAt row)
      · exact ⟨_, lastFound, Or.inr ⟨promotedAt, rfl⟩⟩
      · exact ⟨_, lastFound, Or.inr ⟨againAt, rfl⟩⟩
  payments := later.payments.trans earlier.payments

theorem promoteNextQueuedJob (db : Database) (providerId : Option Nat) (now : Int) :
    StaysQueued jobId db (promoteNextQueuedJob db providerId now) := by
  rcases promoteNextQueuedJob_cases db providerId now with same | ⟨job, found, _, promoted⟩
  · rw [same]
    exact refl db
  · rw [promoted]
    refine ⟨?_, rfl⟩
    intro row rowFound _
    by_cases here : jobId = job.id
    · subst here
      exact ⟨row.setPromoted now, lookup_update_of_some _ _ (Job.setPromoted_id now) rowFound,
        Or.inr ⟨now, rfl⟩⟩
    · exact ⟨row, (lookup_update_of_ne _ (Job.setPromoted_id now) here).trans rowFound, Or.inl rfl⟩

theorem enforceJobTimeouts {db : Database} {row : Job}
    (found : db.jobs.lookup row.id = some row) (waiting : IsWaiting row)
    (now : Int) :
    StaysQueued row.id db (enforceJobTimeouts db now) := by
  have reads := (timeoutSweep now).reads_select db
  refine (timeoutSweep now).others (StaysQueued row.id) refl trans ?_ reads
    (reads.absent found (fun member =>
      IsActive.not_waiting (reads.current row member).1.1 waiting))
  intro state other timedOut otherFound different
  have settled := SameJob.of_settling (settleTimedOutJob_settling timedOut otherFound) different
  exact (of_sameJob settled).trans (promoteNextQueuedJob _ other.providerId now)

theorem retrySweep {db : Database} {row : Job} (found : db.jobs.lookup row.id = some row)
    (interactive : row.jobType = .interactivePod) (now : Int) :
    StaysQueued row.id db (retrySweep db now) := by
  apply of_sameJob
  refine ⟨?_, rfl⟩
  rw [retrySweep_lookup, found, Option.map_some, if_neg (·.1 interactive)]

end StaysQueued

section Waiting

variable {start source target : Database} {row : Job} {now : Int}

theorem stale_clears {later : Job} (found : source.jobs.lookup later.id = some later)
    (stale : IsStale now later) (unrefunded : later.refundedAt = none)
    (fits : FitsOneRun source) :
    Cleared source later (settleExpiredPods source now) := by
  have room : (source.jobs.select (IsStale now)).length ≤ 20 := by
    have sublist : (source.jobs.select (IsStale now)).Sublist (source.jobs.select TurnsStale) := by
      apply monotone_filter_right
      intro job met
      exact decide_eq_true (of_decide_eq_true met).turnsStale
    exact sublist.length_le.trans fits
  have member : later ∈ (source.jobs.select (IsStale now)).take 20 := by
    rw [take_of_length_le room]
    exact mem_select_iff.mpr ⟨stale, found⟩
  have unexpired : later ∉ (source.jobs.select (IsExpired now)).take 20 := by
    intro expired
    have running := (taken_current later expired).1.2.1
    exact IsActive.not_waiting (Or.inl running) stale.2.1
  obtain ⟨middle, before, current, after⟩ := settleExpiredPods_cancels found unexpired member
  have closing := cancelStalePod_closing now current stale.2.1
  rw [if_pos unrefunded] at closing
  exact cleared_of_returned before.payments closing after.row after.payments

theorem Cleared.of_payments {middle : Database} (cleared : Cleared middle row target)
    (payments : middle.paymentsFor row.id = start.paymentsFor row.id) :
    Cleared start row target := by
  unfold Cleared at cleared ⊢
  rw [← payments]
  exact cleared

theorem queued_clears (found : start.jobs.lookup row.id = some row)
    (stale : IsStale now row) (unrefunded : row.refundedAt = none)
    (queued : StaysQueued row.id start source) (fits : FitsOneRun source) :
    Cleared start row (settleExpiredPods source now) := by
  obtain ⟨later, laterFound, same | ⟨promotedAt, same⟩⟩ := queued.row row found stale.2.1
  · subst same
    exact (stale_clears laterFound stale unrefunded fits).of_payments queued.payments
  · subst same
    have staleLater : IsStale now (row.setPromoted promotedAt) :=
      ⟨stale.1, isWaiting_setPromoted promotedAt row, stale.2.2⟩
    have cleared : Cleared source (row.setPromoted promotedAt) (settleExpiredPods source now) :=
      stale_clears laterFound staleLater unrefunded fits
    exact Cleared.of_payments cleared queued.payments

theorem staysQueued_enforce (found : start.jobs.lookup row.id = some row) (waiting : IsWaiting row)
    (queued : StaysQueued row.id start source) (now : Int) :
    StaysQueued row.id start (enforceJobTimeouts source now) := by
  apply queued.trans
  obtain ⟨later, laterFound, same | ⟨promotedAt, same⟩⟩ := queued.row row found waiting
  · subst same
    exact StaysQueued.enforceJobTimeouts laterFound waiting now
  · subst same
    have stays := @StaysQueued.enforceJobTimeouts source (row.setPromoted promotedAt)
        laterFound (isWaiting_setPromoted promotedAt row) now
    exact stays

theorem staysQueued_retry (found : start.jobs.lookup row.id = some row) (waiting : IsWaiting row)
    (interactive : row.jobType = .interactivePod)
    (queued : StaysQueued row.id start source) (now : Int) :
    StaysQueued row.id start (retrySweep source now) := by
  apply queued.trans
  obtain ⟨later, laterFound, same | ⟨promotedAt, same⟩⟩ := queued.row row found waiting
  · subst same
    exact StaysQueued.retrySweep laterFound interactive now
  · subst same
    have stays :=
      @StaysQueued.retrySweep source (row.setPromoted promotedAt) laterFound interactive now
    exact stays

theorem clearsInTime_of_turnsStale {db : Database}
    (found : db.jobs.lookup row.id = some row) (turns : TurnsStale row)
    (unrefunded : row.refundedAt = none) (fits : FitsOneRun db) :
    ClearsInTime db row := by
  obtain ⟨interactive, waiting, ⟨port, url⟩, submitted⟩ := turns
  obtain ⟨submittedAt, submitted⟩ := Option.isSome_iff_exists.mp submitted
  refine ⟨submittedAt + 25 * 60 * 1000, ?_⟩
  intro sweeps finish round run
  obtain ⟨now, member⟩ := round.settles
  have settles {source target : Database} {time : Int}
      (queued : StaysQueued row.id db source) (fits : FitsOneRun source)
      (late : submittedAt + 25 * 60 * 1000 ≤ time)
      (fires : Fires sweepNext source (.settleExpiredPods time) target) :
      Cleared db row target := by
    cases fires
    apply queued_clears found _ unrefunded queued fits
    refine ⟨interactive, waiting, port, url, submittedAt, submitted, ?_⟩
    simp only [datetime, podQueuedStaleMinutes]
    omega
  refine run.reaches (fun source => StaysQueued row.id db source ∧ FitsOneRun source)
    (Cleared db row) ?_ ?_ ?_ ⟨StaysQueued.refl db, fits⟩ member
  · rintro source target action ⟨queued, fits⟩ ⟨late, fires⟩
    have fitsAfter := (NoneTurnsStale.sweep fires).fitsOneRun fits
    cases action with
    | settleExpiredPods time =>
      exact Or.inr (settles queued fits late fires)
    | enforceJobTimeouts time =>
      cases fires
      exact Or.inl ⟨staysQueued_enforce found waiting queued time, fitsAfter⟩
    | retrySweep time =>
      cases fires
      exact Or.inl ⟨staysQueued_retry found waiting interactive queued time, fitsAfter⟩
  · rintro source target ⟨queued, fits⟩ ⟨late, fires⟩
    exact settles queued fits late fires
  · intro source target action cleared taken
    exact cleared.sweep taken.2

theorem staysQueued_of_reported {sweeps : List SweepAction}
    (found : start.jobs.lookup row.id = some row) (waiting : IsWaiting row)
    (interactive : row.jobType = .interactivePod) (reported : ¬ Unreported row)
    (run : Run (Fires sweepNext) start sweeps target) :
    StaysQueued row.id start target := by
  refine run.invariant (StaysQueued row.id start) ?_ (StaysQueued.refl start)
  intro source after action queued fires
  cases action with
  | settleExpiredPods time =>
    cases fires
    apply queued.trans
    apply StaysQueued.of_sameJob
    obtain ⟨later, laterFound, same | ⟨promotedAt, same⟩⟩ := queued.row row found waiting
    · subst same
      apply settleExpiredPods_others laterFound
      · intro member
        have running := (taken_current later member).1.2.1
        exact IsActive.not_waiting (Or.inl running) waiting
      · intro member
        have stale := (taken_current later member).1
        exact reported ⟨stale.2.2.1, stale.2.2.2.1⟩
    · subst same
      have others := @settleExpiredPods_others source (row.setPromoted promotedAt) time laterFound
      apply others
      · intro member
        have running := (taken_current _ member).1.2.1
        cases running
      · intro member
        have stale := (taken_current _ member).1
        exact reported ⟨stale.2.2.1, stale.2.2.2.1⟩
  | enforceJobTimeouts time =>
    cases fires
    exact staysQueued_enforce found waiting queued time
  | retrySweep time =>
    cases fires
    exact staysQueued_retry found waiting interactive queued time

theorem not_clearsInTime_of_reported
    (found : start.jobs.lookup row.id = some row) (waiting : IsWaiting row)
    (interactive : row.jobType = .interactivePod)
    (reported : ¬ Unreported row) : ¬ ClearsInTime start row := by
  rintro ⟨time, clears⟩
  have run : ∃ finish, Run (guarded (Fires sweepNext) (NotBefore time)) start
      [.settleExpiredPods time, .enforceJobTimeouts time, .retrySweep time] finish :=
    ⟨_, Run.cons ⟨le_refl time, rfl⟩
      (Run.cons ⟨le_refl time, rfl⟩ (Run.cons ⟨le_refl time, rfl⟩ (Run.nil _)))⟩
  obtain ⟨finish, run⟩ := run
  obtain ⟨closed, stored, ended, _⟩ := clears _ finish ⟨time, time, time, List.Perm.refl _⟩ run
  have queued := staysQueued_of_reported found waiting interactive reported run.of_guarded
  obtain ⟨later, laterFound, same⟩ := queued.row row found waiting
  rw [stored] at laterFound
  cases laterFound
  rcases same with same | ⟨promotedAt, same⟩
  · rw [same, waiting.live] at ended
    cases ended
  · rw [same] at ended
    cases ended

end Waiting

end DcpPlatform.Pods
