import DcpPlatform.Jobs.Deciding
import DcpPlatform.Jobs.Lifecycle

/-!
# What the life of a job does to the rows

Every action of the lifecycle is a sequence of turns, each about one row: the
row is noted, moved to another status, or settled against a booking. With
three exceptions only live rows are moved or settled.
-/

namespace DcpPlatform.Jobs

open Foundation Table Option

def debitOf (job : Job) : Int :=
  if job.renterId.isSome then prepaidHalala job else 0

def SameDebit (job changed : Job) : Prop :=
  changed.renterId = job.renterId ∧ changed.costHalala = job.costHalala

/-- A booking that ends a job: what it returns has been debited, and nothing is
returned when the provider is credited with the full cost. -/
structure Settles (job changed : Job) (booking : Booking) : Prop where
  ended : changed.status.isTerminal = true
  returned : booking.returned ≤ debitOf job
  credited : job.costHalala ≤ booking.earned .claimable + booking.fee → booking.returned ≤ 0

/-- A turn of one row; a row that changes its status meets `allowed`. -/
inductive Turn (allowed : Database → Job → Prop) (job : Job) (before after : Database) : Prop
  | noted {change : Job → Job} {record : Option BillingRecord} :
      before.jobs.lookup job.jobId = some job →
      (change job).status = job.status →
      SameDebit job (change job) →
      Writes before after job.jobId change record (Booking.nothing job.jobId) →
      Turn allowed job before after
  | moved {change : Job → Job} {record : Option BillingRecord} :
      before.jobs.lookup job.jobId = some job →
      allowed before job →
      SameDebit job (change job) →
      Writes before after job.jobId change record (Booking.nothing job.jobId) →
      Turn allowed job before after
  | settled {change : Job → Job} {record : Option BillingRecord} {booking : Booking} :
      before.jobs.lookup job.jobId = some job →
      allowed before job →
      SameDebit job (change job) →
      Settles job (change job) booking →
      Writes before after job.jobId change record booking →
      Turn allowed job before after

def Turns (allowed : Database → Job → Prop) : Database → Database → Prop :=
  Relation.ReflTransGen (fun before after => ∃ job, Turn allowed job before after)

def IsLive (job : Job) : Prop :=
  job.status.isTerminal = false
deriving Decidable

theorem prepaidHalala_nonneg (job : Job) : 0 ≤ prepaidHalala job :=
  le_max_left _ _

theorem le_prepaidHalala (job : Job) : job.costHalala ≤ prepaidHalala job :=
  le_max_right _ _

theorem debitOf_nonneg (job : Job) : 0 ≤ debitOf job := by
  rw [debitOf]
  split
  · exact prepaidHalala_nonneg job
  · exact le_refl 0

variable {job : Job}

theorem debitOf_of_renter (renter : job.renterId.isSome) :
    debitOf job = prepaidHalala job :=
  if_pos renter

theorem SameDebit.debitOf {job changed : Job}
    (same : SameDebit job changed) : debitOf changed = debitOf job := by
  rw [Jobs.debitOf, Jobs.debitOf, prepaidHalala, prepaidHalala, same.1, same.2]

theorem le_debitOf (renter : job.renterId.isSome) :
    job.costHalala ≤ debitOf job := by
  rw [debitOf_of_renter renter]
  exact le_prepaidHalala job

section Rows

variable {allowed : Database → Job → Prop} {job : Job} {before after : Database}

theorem Turn.turns (turn : Turn allowed job before after) :
    Turns allowed before after :=
  Relation.ReflTransGen.single ⟨job, turn⟩

theorem Turn.writes (turn : Turn allowed job before after) :
    before.jobs.lookup job.jobId = some job ∧
      ∃ change record booking, Writes before after job.jobId change record booking := by
  cases turn with
  | noted found _ _ writes | moved found _ _ writes | settled found _ _ _ writes =>
    exact ⟨found, _, _, _, writes⟩

theorem Turn.others (turn : Turn allowed job before after) {other : Nat}
    (different : other ≠ job.jobId) :
    after.jobs.lookup other = before.jobs.lookup other := by
  obtain ⟨_, _, _, _, writes⟩ := turn.writes
  exact (writes.others different).1

abbrev turnSweep {act : Database → Job → Database} {selected : Job → Prop}
    (turn : ∀ {state : Database} {row : Job}, selected row →
      state.jobs.lookup row.jobId = some row → Turn allowed row state (act state row)) :
    Sweep Database Job.jobId where
  table := Database.jobs
  act := act
  selected := selected
  untouched := fun met found _ otherFound different =>
    ((turn met found).others different).trans otherFound

theorem turns_of_sweep {act : Database → Job → Database} {selected : Job → Prop}
    (turn : ∀ {state : Database} {row : Job}, selected row →
      state.jobs.lookup row.jobId = some row → Turn allowed row state (act state row))
    {rows : List Job} (reads : (turnSweep turn).Reads before rows) :
    Turns allowed before (rows.foldl act before) :=
  (turnSweep turn).relates (Turns allowed) (fun _ => Relation.ReflTransGen.refl)
    (fun first second => first.trans second) (fun met found => (turn met found).turns) reads

end Rows

section Statements

variable {allowed : Database → Job → Prop} {db middle : Database} {job : Job}
    {change : Job → Job} {record : Option BillingRecord} {now : Int}

theorem refundFailed_turn (found : db.jobs.lookup job.jobId = some job) (met : allowed db job)
    (cost : SameDebit job (change job))
    (ended : (change job).status.isTerminal = true)
    (writes : Writes db middle job.jobId change record (Booking.nothing job.jobId)) :
    Turn allowed job db (refundFailed now middle job) := by
  by_cases refundable : Refundable job
  · have settles : Settles job ((change job).setRefundedAt now) (refundBooking job) := by
      refine ⟨ended, le_debitOf refundable.1, ?_⟩
      intro credited
      have positive := refundable.2.1
      simp only [refundBooking] at credited
      omega
    exact @Turn.settled allowed job _ _
      (fun row => (change row).setRefundedAt now) _ _ found met cost settles
      (writes.refund now refundable)
  · rw [refundFailed, if_neg refundable]
    exact Turn.moved found met cost writes

theorem endAndRefund_turn {status : JobStatus}
    (found : db.jobs.lookup job.jobId = some job) (met : allowed db job)
    (ended : status.isTerminal = true) :
    Turn allowed job db (endAndRefund status now db job) := by
  have writes := Writes.of_update db job.jobId (Job.setEnded_jobId status now)
  rw [endAndRefund, refundEnded]
  by_cases owed : job.renterId.isSome ∧ 0 < job.costHalala
  · rw [if_pos owed]
    have settles :
        Settles job ((job.setEnded status now).setRefundedAt now) (refundBooking job) := by
      refine ⟨ended, le_debitOf owed.1, ?_⟩
      intro credited
      simp only [refundBooking] at credited
      omega
    exact @Turn.settled allowed job _ _
      (fun row => (row.setEnded status now).setRefundedAt now) _ _ found met
      ⟨rfl, rfl⟩ settles
      ((writes.book (refundBooking job) rfl).update (Job.setRefundedAt_jobId now))
  · rw [if_neg owed]
    exact Turn.moved found met ⟨rfl, rfl⟩ writes

theorem payPod_turn {actualCostHalala returned : Int}
    (found : db.jobs.lookup job.jobId = some job) (met : allowed db job)
    (cost : SameDebit job (change job))
    (ended : (change job).status.isTerminal = true)
    (bounded : returned ≤ debitOf job)
    (spent : job.costHalala ≤ actualCostHalala → returned ≤ 0)
    (writes : Writes db middle job.jobId change record (Booking.nothing job.jobId)) :
    Turn allowed job db (payPod middle job actualCostHalala returned) := by
  have booked := writes.book (earnedBooking job (splitEarnings actualCostHalala) returned) rfl
  have settles :
      Settles job (change job) (earnedBooking job (splitEarnings actualCostHalala) returned) := by
    refine ⟨ended, bounded, ?_⟩
    intro credited
    apply spent
    have gross := splitEarnings_gross actualCostHalala
    rw [Split.gross] at gross
    simp only [earnedBooking] at credited
    omega
  rw [payPod]
  refine @Turn.settled allowed job _ _ change record _ found met cost
    settles (Writes.updateRenter ?_ job.renterId
      (Renter.addSpending_id actualCostHalala) (fun _ => rfl))
  split
  · exact (booked.addJob job.providerId).clearCurrentJob job.providerId
  · exact booked

theorem promoteNextQueuedJob_cases (db : Database) (providerId : Option Nat) (now : Int) :
    promoteNextQueuedJob db providerId now = db ∨ ∃ job,
      db.jobs.lookup job.jobId = some job ∧ job.status = .queued ∧
        promoteNextQueuedJob db providerId now = { db with
          jobs := db.jobs.update job.jobId (Job.setPromoted now) (Job.setPromoted_jobId now) } := by
  unfold promoteNextQueuedJob
  dsimp only
  split
  · exact Or.inl rfl
  · rename_i job first
    obtain ⟨queued, found⟩ := mem_select (firstBy_mem first)
    exact Or.inr ⟨job, found, queued.2.2, rfl⟩

variable (live : ∀ db job, IsLive job → allowed db job)

include live

theorem promoteNextQueuedJob_turns (db : Database) (providerId : Option Nat) (now : Int) :
    Turns allowed db (promoteNextQueuedJob db providerId now) := by
  rcases promoteNextQueuedJob_cases db providerId now with same | ⟨job, found, queued, same⟩
  · rw [same]
    exact Relation.ReflTransGen.refl
  · rw [same]
    have waiting : IsLive job := by
      rw [IsLive, queued]
      rfl
    exact (Turn.moved found (live _ job waiting) ⟨rfl, rfl⟩
      (Writes.of_update db job.jobId (Job.setPromoted_jobId now))).turns

end Statements

section Endpoints

variable {allowed : Database → Job → Prop} (live : ∀ db job, IsLive job → allowed db job)
    {db after : Database} {job : Job} {now : Int}

include live

variable {report : ResultReport}

theorem settleResult_turns {gpuSeconds : ℚ}
    (found : db.jobs.lookup job.jobId = some job) (running : IsLive job) :
    Turns allowed db (settleResult db job report gpuSeconds now) := by
  obtain ⟨priced, writes, same⟩ := settleResult_writes db job now report gpuSeconds
  have met := live db job running
  rw [same]
  cases result : report.hasResult with
  | true =>
    rw [result] at writes
    have booked := (writes.book (resultBooking job (splitBilling (max 0 (usageCost job
        (resultUsage report gpuSeconds)).totalHalala))) rfl).addJob job.providerId
    exact (Turn.settled found met ⟨rfl, rfl⟩
      ⟨rfl, debitOf_nonneg _, fun _ => le_refl 0⟩ booked).turns
  | false =>
    rw [result] at writes
    exact (refundFailed_turn found met ⟨rfl, rfl⟩ rfl writes).turns

theorem postResult_turns (posted : postResult db report now = .ok after) :
    Turns allowed db after := by
  cases found : db.jobs.lookup report.jobId with
  | none =>
    rw [postResult, found] at posted
    cases posted
  | some row =>
    have key := lookup_key found
    by_cases accepts : AcceptsResult row report
    · obtain ⟨gpuSeconds, _, settled⟩ := @postResult_of_accepts db row report now found accepts
      rw [settled] at posted
      injection posted with same
      rw [← key] at found
      rw [← same]
      exact settleResult_turns live found (live_of_active accepts.active)
    · obtain ⟨running, same⟩ := postResult_of_not_accepts found accepts posted
      rw [← key] at found
      rw [same]
      exact (Turn.moved found (live _ row running) ⟨rfl, rfl⟩
        (Writes.of_update db row.jobId (Job.setTransient_jobId now))).turns

theorem postComplete_turns {jobId : Nat} {reporter : Reporter}
    (posted : postComplete db jobId reporter now = .ok after) :
    Turns allowed db after := by
  unfold postComplete at posted
  split at posted
  · cases posted
  · rename_i row found
    have key := lookup_key found
    rw [← key] at found
    split at posted
    · cases posted
    · rename_i status
      split at posted
      · cases posted
      · injection posted with same
        have running : IsLive row := by
          rw [IsLive, not_not.mp status]
          rfl
        rw [← same]
        exact (Turn.settled found (live _ row running) ⟨rfl, rfl⟩
          ⟨rfl, debitOf_nonneg _, fun _ => le_refl 0⟩
          (settleComplete_writes db row now)).turns

theorem settleJobResult_turns {provider : Provider} {report : JobResultReport}
    (found : db.jobs.lookup job.jobId = some job) (running : IsLive job) :
    Turns allowed db (settleJobResult db job provider report now) := by
  obtain ⟨released, writes, same⟩ := settleJobResult_writes db job now provider report
  have met := live db job running
  have ended : (if report.success then JobStatus.completed
      else .failed).isTerminal = true := by
    cases report.success with
    | true | false => rfl
  rw [same]
  by_cases owned : BillingOwnedByV1 job
  · rw [if_pos owned]
    exact (Turn.moved found met ⟨rfl, rfl⟩ writes).turns
  · rw [if_neg owned]
    by_cases success : report.success
    · rw [if_pos success]
      have price := jobResultPrice_nonneg job provider report now
      have gross := splitEarnings_gross (jobResultPrice job provider report now)
      rw [Split.gross] at gross
      have booked := ((writes.book (earnedBooking job
          (splitEarnings (jobResultPrice job provider report now))
          (jobResultReturned job (jobResultPrice job provider report now))) rfl).addJob
            (some provider.id)).updateRenter job.renterId
              (Renter.addSpending_id (jobResultPrice job provider report now))
              (fun _ => rfl)
      refine (Turn.settled found met ⟨rfl, rfl⟩ ⟨ended, ?_, ?_⟩ booked).turns
      · simp only [earnedBooking, jobResultReturned]
        split
        · rename_i renter
          have covered := le_debitOf renter
          omega
        · exact debitOf_nonneg job
      · intro credited
        simp only [earnedBooking, jobResultReturned] at credited ⊢
        split
        · omega
        · exact le_refl 0
    · rw [if_neg success]
      exact (refundFailed_turn found met ⟨rfl, rfl⟩ ended writes).turns

theorem postJobResult_turns {report : JobResultReport}
    (posted : postJobResult db report now = .ok after) :
    Turns allowed db after := by
  unfold postJobResult at posted
  split at posted
  · cases posted
  · split at posted
    · cases posted
    · rename_i row found
      have key := lookup_key found
      rw [← key] at found
      split at posted
      · cases posted
      · split at posted
        · injection posted with same
          rw [same]
          exact Relation.ReflTransGen.refl
        · rename_i status
          injection posted with same
          have running : IsLive row := by
            rw [IsLive, not_not.mp status]
            rfl
          rw [← same]
          exact settleJobResult_turns live found running

theorem postFail_turns {report : FailReport} (posted : postFail db report now = .ok after) :
    Turns allowed db after := by
  unfold postFail at posted
  split at posted
  · cases posted
  · rename_i row found
    have key := lookup_key found
    rw [← key] at found
    split at posted
    · cases posted
    · split at posted
      · cases posted
      · rename_i status
        split at posted
        · cases posted
        · injection posted with same
          have running : IsLive row := by
            have active := not_not.mp status
            unfold IsLive
            cases known : row.status with
            | pending | queued | assigned | pulling | running | paused =>
              rfl
            | completed | failed | stopped | cancelled =>
              rw [known] at active
              simp at active
          have failed := @refundFailed_turn allowed db _ row
              (Job.setFailed now (failedMinutes row report)) _ now found
              (live _ row running) ⟨rfl, rfl⟩ rfl
              (Writes.of_update db row.jobId (Job.setFailed_jobId now (failedMinutes row report)))
          rw [← same]
          exact failed.turns.trans (promoteNextQueuedJob_turns live _ _ now)

end Endpoints

section Sweeps

variable {allowed : Database → Job → Prop} {db : Database} {job : Job} {now : Int}

theorem podPrice_bounds (db : Database) (job : Job) (now : Int) :
    0 ≤ podPrice db job now ∧ podPrice db job now ≤ prepaidHalala job :=
  ⟨le_min (prepaidHalala_nonneg job) (le_max_left _ _), min_le_left _ _⟩

theorem completeTimedOutPod_turn
    (found : db.jobs.lookup job.jobId = some job) (met : allowed db job)
    (running : IsRunning job) :
    Turn allowed job db (completeTimedOutPod now db job) := by
  obtain ⟨nonneg, covered⟩ := podPrice_bounds db job now
  rw [completeTimedOutPod, if_pos ⟨job, found, running⟩, updateWhere_of_met _ found running]
  refine payPod_turn found met ⟨rfl, rfl⟩ rfl ?_ ?_
    (Writes.of_update db job.jobId (Job.setPodCompleted_jobId now _ _ _))
  · rw [podReturned]
    split
    · rename_i renter
      rw [debitOf_of_renter renter]
      omega
    · exact debitOf_nonneg job
  · intro spent
    rw [podReturned]
    split
    · rw [prepaidHalala]
      omega
    · exact le_refl 0

theorem settleExpiredPod_turn (found : db.jobs.lookup job.jobId = some job) (met : allowed db job)
    (running : IsRunning job) :
    Turn allowed job db (settleExpiredPod now db job) := by
  rw [settleExpiredPod, if_pos ⟨job, found, running⟩, updateWhere_of_met _ found running]
  exact payPod_turn found met ⟨rfl, rfl⟩ rfl (debitOf_nonneg job) (fun _ => le_refl 0)
    (Writes.of_update db job.jobId (Job.setPodCompleted_jobId now _ _ _))

theorem cancelStalePod_turn (found : db.jobs.lookup job.jobId = some job) (met : allowed db job)
    (waiting : IsWaiting job) :
    Turn allowed job db (cancelStalePod now db job) := by
  have writes := Writes.of_update db job.jobId (Job.setStale_jobId now)
  rw [cancelStalePod, if_pos ⟨job, found, waiting⟩, updateWhere_of_met _ found waiting]
  by_cases refundable : Refundable job
  · rw [if_pos refundable]
    have settles : Settles job (job.setStale now) (refundBooking job) := by
      refine ⟨rfl, le_debitOf refundable.1, ?_⟩
      intro credited
      have positive := refundable.2.1
      simp only [refundBooking] at credited
      omega
    exact Turn.settled found met ⟨rfl, rfl⟩ settles (writes.book (refundBooking job) rfl)
  · rw [if_neg refundable]
    exact Turn.moved found met ⟨rfl, rfl⟩ writes

theorem promoteNextQueuedJob_others (providerId : Option Nat)
    {other : Nat} {row : Job} (found : db.jobs.lookup other = some row)
    (busy : row.status ≠ .queued) :
    (promoteNextQueuedJob db providerId now).jobs.lookup other = some row := by
  rcases promoteNextQueuedJob_cases db providerId now with same | ⟨promoted, stored, queued, same⟩
  · rw [same]
    exact found
  · rw [same]
    by_cases here : other = promoted.jobId
    · rw [here, stored] at found
      cases found
      exact absurd queued busy
    · exact (lookup_update_of_ne _ (Job.setPromoted_jobId now) here).trans found

theorem HasTimedOut.isLive (timedOut : HasTimedOut now job) :
    IsLive job := by
  unfold IsLive
  rcases timedOut.1 with status | status | status
  · rw [status]
    rfl
  · rw [status]
    rfl
  · rw [status]
    rfl

theorem IsWaiting.isLive (waiting : IsWaiting job) : IsLive job := by
  unfold IsLive
  rcases waiting with status | status
  · rw [status]
    rfl
  · rw [status]
    rfl

theorem IsRunning.isLive (running : IsRunning job) : IsLive job := by
  rw [IsLive, running]
  rfl

variable (live : ∀ db job, IsLive job → allowed db job)

include live

theorem timedOut_turn (found : db.jobs.lookup job.jobId = some job)
    (timedOut : HasTimedOut now job) :
    Turn allowed job db (if job.jobType = .interactivePod ∧ job.status = .running then
        completeTimedOutPod now db job
      else
        endAndRefund .failed now db job) := by
  have met := live db job timedOut.isLive
  by_cases pod : job.jobType = .interactivePod ∧ job.status = .running
  · rw [if_pos pod]
    exact completeTimedOutPod_turn found met pod.2
  · rw [if_neg pod]
    exact endAndRefund_turn found met rfl

theorem enforceJobTimeouts_turns :
    Turns allowed db (enforceJobTimeouts db now) := by
  let sweep : Sweep Database Job.jobId :=
    { table := Database.jobs
      act := enforceJobTimeout now
      selected := HasTimedOut now
      untouched := by
        intro state row other met found otherMet otherFound different
        have turn := timedOut_turn live found met
        refine promoteNextQueuedJob_others row.providerId
          ((turn.others different).trans otherFound) ?_
        intro queued
        rcases otherMet.1 with status | status | status
        all_goals
          rw [status] at queued
          cases queued }
  refine sweep.relates (Turns allowed) (fun _ => Relation.ReflTransGen.refl)
    (fun first second => first.trans second) ?_ (sweep.reads_select db)
  intro state row met found
  exact (timedOut_turn live found met).turns.trans
    (promoteNextQueuedJob_turns live _ row.providerId now)

theorem settleExpiredPods_turns :
    Turns allowed db (settleExpiredPods db now) := by
  have expired {state : Database} {row : Job} (met : IsExpired now row)
      (found : state.jobs.lookup row.jobId = some row) :
      Turn allowed row state (settleExpiredPod now state row) :=
    settleExpiredPod_turn found (live _ _ (IsRunning.isLive met.2.1)) met.2.1
  have stale {state : Database} {row : Job} (met : IsStale now row)
      (found : state.jobs.lookup row.jobId = some row) :
      Turn allowed row state (cancelStalePod now state row) :=
    cancelStalePod_turn found (live _ _ met.2.1.isLive) met.2.1
  exact (turns_of_sweep expired ((turnSweep expired).reads_take db 20)).trans
    (turns_of_sweep stale ((turnSweep stale).reads_take _ 20))

end Sweeps

def AcceptsReady (report : EndpointReport) (job : Job) : Prop :=
  report.url.isSome ∧
    if job.jobType = .interactivePod then
      (report.jupyterHostPort.toFiniteInt 1 (some 65535)).isSome ∧
        (report.sshHostPort.toFiniteInt 1 (some 65535)).isSome ∧
        isMeshIp report.meshIp
    else
      job.jobType = .vllmServe ∧ report.addressKnown ∧
        (report.port.toFiniteInt 1024 (some 65535)).isSome
deriving Decidable

def AcceptsCancel (reporter : Reporter) (job : Job) : Prop :=
  CanComplete job reporter ∧ ¬ (job.status = .completed ∨ job.status = .cancelled)
deriving Decidable

def addressed (db : Database) : LifecycleAction → Option Job
  | .cancel jobId reporter _ =>
    (db.jobs.lookup jobId).filter (AcceptsCancel reporter)
  | .progress providerId jobId phase _ =>
    if validPhase (trim phase) = some .pulling then
      (db.providers.lookup providerId).bind (fun _ =>
        providedJob db providerId jobId)
    else
      none
  | .endpointReady report _ =>
    (reportedJob db report).filter (AcceptsReady report)
  | _ => none

variable {db : Database}

theorem providedJob_eq_some {providerId jobId : Nat}
    (provided : providedJob db providerId jobId = some job) :
    db.jobs.lookup job.jobId = some job ∧ job.providerId = some providerId := by
  rw [providedJob, filter_eq_some_iff] at provided
  obtain ⟨found, owned⟩ := provided
  rw [lookup_key found]
  exact ⟨found, of_decide_eq_true owned⟩

theorem reportedJob_eq_some {report : EndpointReport}
    (reported : reportedJob db report = some job) :
    db.jobs.lookup job.jobId = some job := by
  rw [reportedJob, bind_eq_some_iff] at reported
  obtain ⟨_, _, provided⟩ := reported
  exact (providedJob_eq_some provided).1

theorem addressed_found {action : LifecycleAction} (named : addressed db action = some job) :
    db.jobs.lookup job.jobId = some job := by
  cases action with
  | cancel jobId reporter now =>
    obtain ⟨found, _⟩ := filter_eq_some_iff.mp named
    rw [lookup_key found]
    exact found
  | progress providerId jobId phase now =>
    simp only [addressed] at named
    split at named
    · obtain ⟨_, _, provided⟩ := bind_eq_some_iff.mp named
      exact (providedJob_eq_some provided).1
    · cases named
  | endpointReady report now =>
    exact reportedJob_eq_some (filter_eq_some_iff.mp named).1
  | result | complete | jobResult | fail | enforceJobTimeouts
  | settleExpiredPods | promote =>
    cases named

section Readiness

variable {allowed : Database → Job → Prop} {db after : Database} {now : Int}
    {job : Job} {report : EndpointReport}

theorem podReady_turns (pod : job.jobType = .interactivePod)
    (found : db.jobs.lookup job.jobId = some job)
    (met : AcceptsReady report job → allowed db job)
    (ready : podReady db job report now = .ok after) :
    Turns allowed db after := by
  unfold podReady at ready
  split at ready
  · rename_i jupyterHostPort sshHostPort jupyter ssh
    split at ready
    · cases ready
    · rename_i mesh
      split at ready
      · cases ready
      · rename_i accessUrl reached
        injection ready with same
        have accepted : AcceptsReady report job := by
          refine ⟨by rw [reached]; rfl, ?_⟩
          rw [if_pos pod, jupyter, ssh]
          exact ⟨rfl, rfl, (Bool.not_eq_false _).mp mesh⟩
        rw [← same]
        exact (Turn.moved found (met accepted) ⟨rfl, rfl⟩ (Writes.of_update db job.jobId
          (Job.setPodLive_jobId jupyterHostPort accessUrl now))).turns
  · cases ready

theorem serveReady_turns (serve : job.jobType = .vllmServe)
    (found : db.jobs.lookup job.jobId = some job)
    (met : AcceptsReady report job → allowed db job)
    (ready : serveReady db job report now = .ok after) :
    Turns allowed db after := by
  unfold serveReady at ready
  split at ready
  · cases ready
  · rename_i known
    split at ready
    · cases ready
    · rename_i port read
      split at ready
      · cases ready
      · rename_i endpointUrl reached
        injection ready with same
        have accepted : AcceptsReady report job := by
          have other : job.jobType ≠ .interactivePod := by
            rw [serve]
            decide
          refine ⟨by rw [reached]; rfl, ?_⟩
          rw [if_neg other, read]
          exact ⟨serve, (Bool.not_eq_false _).mp known, rfl⟩
        rw [← same]
        exact (Turn.moved found (met accepted) ⟨rfl, rfl⟩
          (Writes.of_update db job.jobId (Job.setServing_jobId endpointUrl now))).turns

theorem postEndpointReady_turns
    (met : ∀ job ∈ addressed db (.endpointReady report now), allowed db job)
    (posted : postEndpointReady db report now = .ok after) :
    Turns allowed db after := by
  have named {job : Job} (reported : reportedJob db report = some job)
      (accepts : AcceptsReady report job) : allowed db job :=
    met job (filter_eq_some_iff.mpr ⟨reported, decide_eq_true accepts⟩)
  unfold postEndpointReady at posted
  split at posted
  · rename_i row pods
    obtain ⟨reported, pod⟩ := filter_eq_some_iff.mp pods
    exact podReady_turns (of_decide_eq_true pod)
      (reportedJob_eq_some reported) (named reported) posted
  · split at posted
    · cases posted
    · split at posted
      · cases posted
      · split at posted
        · cases posted
        · rename_i row reported
          split at posted
          · cases posted
          · rename_i serve
            exact serveReady_turns (not_not.mp serve)
              (reportedJob_eq_some reported) (named reported) posted

theorem answer_turns {Failure : Type} {outcome : Except Failure Database}
    (turns : outcome = .ok after → Turns allowed db after)
    (same : db.answer outcome = after) :
    Turns allowed db after := by
  cases outcome with
  | ok _ => exact turns (congrArg Except.ok same)
  | error _ =>
    rw [← same]
    exact Relation.ReflTransGen.refl

end Readiness

section Rewrites

variable {allowed : Database → Job → Prop} (live : ∀ db job, IsLive job → allowed db job)
    {db after : Database} {now : Int}

include live

theorem postCancel_turns {jobId : Nat} {reporter : Reporter}
    (met : ∀ job ∈ addressed db (.cancel jobId reporter now), allowed db job)
    (posted : postCancel db jobId reporter now = .ok after) :
    Turns allowed db after := by
  unfold postCancel at posted
  split at posted
  · cases posted
  · rename_i row found
    split at posted
    · cases posted
    · rename_i permitted
      split at posted
      · cases posted
      · rename_i status
        injection posted with same
        have accepted : AcceptsCancel reporter row := ⟨not_not.mp permitted, status⟩
        have named : addressed db (.cancel jobId reporter now) = some row :=
          filter_eq_some_iff.mpr ⟨found, decide_eq_true accepted⟩
        have cancelled := @endAndRefund_turn allowed db row now .cancelled
            (addressed_found named) (met row named) rfl
        rw [← same]
        exact cancelled.turns.trans (promoteNextQueuedJob_turns live _ _ now)

theorem reportProgress_turns {job : Job} {phase : Phase}
    (found : db.jobs.lookup job.jobId = some job)
    (met : phase = .pulling → allowed db job) :
    Turns allowed db (reportProgress db job phase now) := by
  unfold reportProgress
  split
  · rename_i status leads
    have permitted : allowed db job := by
      by_cases pulls : phase = .pulling
      · exact met pulls
      · rw [progressStatus, if_neg pulls] at leads
        split at leads
        · rename_i starting
          apply live
          rcases starting with known | known
          · rw [IsLive, known]
            rfl
          · rw [IsLive, known]
            rfl
        · cases leads
    exact (Turn.moved found permitted ⟨rfl, rfl⟩
      (Writes.of_update db job.jobId (Job.setProgress_jobId phase status now))).turns
  · exact (Turn.noted found rfl ⟨rfl, rfl⟩
      (Writes.of_update db job.jobId (Job.setPhase_jobId phase now))).turns

theorem postProgress_turns {providerId jobId : Nat} {phase : String}
    (met : ∀ job ∈ addressed db (.progress providerId jobId phase now), allowed db job)
    (posted : postProgress db providerId jobId phase now = .ok after) :
    Turns allowed db after := by
  unfold postProgress at posted
  split at posted
  · cases posted
  · split at posted
    · cases posted
    · rename_i known
      split at posted
      · cases posted
      · rename_i row provided
        split at posted
        · cases posted
        · rename_i reported valid
          cases posted
          refine reportProgress_turns live (providedJob_eq_some provided).1
            (fun pulls => met row ?_)
          obtain ⟨provider, registered⟩ := ne_none_iff_exists'.mp
              (fun absent => known (isNone_iff_eq_none.mpr absent))
          rw [pulls] at valid
          simp [addressed, if_pos valid, registered, provided]

theorem lifecycle_turns {action : LifecycleAction}
    (met : ∀ job ∈ addressed db action, allowed db job)
    (fires : Fires lifecycleNext db action after) :
    Turns allowed db after := by
  cases action with
  | result report now =>
    injection fires with same
    exact answer_turns (postResult_turns live) same
  | complete jobId reporter now =>
    injection fires with same
    exact answer_turns (postComplete_turns live) same
  | jobResult report now =>
    injection fires with same
    exact answer_turns (postJobResult_turns live) same
  | fail report now =>
    injection fires with same
    exact answer_turns (postFail_turns live) same
  | cancel jobId reporter now =>
    injection fires with same
    exact answer_turns (postCancel_turns live met) same
  | progress providerId jobId phase now =>
    injection fires with same
    exact answer_turns (postProgress_turns live met) same
  | endpointReady report now =>
    injection fires with same
    exact answer_turns (postEndpointReady_turns met) same
  | enforceJobTimeouts now =>
    cases fires
    exact enforceJobTimeouts_turns live
  | settleExpiredPods now =>
    cases fires
    exact settleExpiredPods_turns live
  | promote providerId now =>
    cases fires
    exact promoteNextQueuedJob_turns live db providerId now

end Rewrites

end DcpPlatform.Jobs
